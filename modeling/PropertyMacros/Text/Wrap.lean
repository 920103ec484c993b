import PropertyMacros.Text.Alphanumeric
import PropertyMacros.Text.Columns
import PropertyMacros.Text.LineBreak
import PropertyMacros.Text.Split

/-!
Texts that are broken into lines of a given width.

A text is cut into words where a line may be broken, and words that are too long are cut wherever
the line is full. Each line takes as many words as it can. Blanks at the end of a line are left out.
-/

namespace PropertyMacros.Text

/-- A piece of a text that stays on one line, and the spaces behind it. -/
structure Word where
  text : List Char
  spaces : Nat
  deriving DecidableEq, Repr

def columnsOf (text : List Char) : Nat := (text.map columns).foldl (· + ·) 0

def consFirst (c : Char) : List (List Char) → List (List Char)
  | [] => [[c]]
  | piece :: pieces => (c :: piece) :: pieces

/-- The pieces of a text between the places where a line may be broken. The first piece continues
what `previous` ends. Hyphens are looked at later. -/
def piecesFrom (context : BreakContext) (previous : Char) : List Char → List (List Char)
  | [] => [[]]
  | c :: rest =>
    let k := BreakClass.ofChar c
    let pieces := consFirst c (piecesFrom (context.next k) c rest)
    if context.allows k && previous != '-' && previous != '\u00ad' then [] :: pieces else pieces

/-- The pieces of a word behind its hyphens, if they stand between letters or digits. The first
piece continues what `previous` ends. -/
def hyphenPieces (previous : Char) : List Char → List (List Char)
  | [] => [[]]
  | c :: rest =>
    let pieces := hyphenPieces c rest
    if c == '-' && isAlphanumeric previous && rest.head?.any isAlphanumeric then [c] :: pieces
    else consFirst c pieces

/-- The pieces of a word that is too long for a line, of which `used` columns are full. -/
def fullPieces (width used : Nat) : List Char → List (List Char)
  | [] => [[]]
  | c :: rest =>
    if 0 < used && width < used + columns c then
      [] :: consFirst c (fullPieces width (columns c) rest)
    else consFirst c (fullPieces width (used + columns c) rest)

/-- Words for the pieces of one word, the last of which keeps the spaces. -/
def wordsOf (spaces : Nat) : List (List Char) → List Word
  | [] => []
  | [piece] => [⟨piece, spaces⟩]
  | piece :: pieces => ⟨piece, 0⟩ :: wordsOf spaces pieces

/-- Takes the spaces at the end of a piece apart. -/
def wordOf (piece : List Char) : Word :=
  let spaces := (piece.reverse.takeWhile (· == ' ')).length
  ⟨piece.take (piece.length - spaces), spaces⟩

/-- Cuts a word behind its hyphens. -/
def cutAtHyphens (word : Word) : List Word := wordsOf word.spaces (hyphenPieces ' ' word.text)

/-- Cuts a word that is too long for a line. -/
def cutToWidth (width : Nat) (word : Word) : List Word :=
  if width < columnsOf word.text then wordsOf word.spaces (fullPieces width 0 word.text) else [word]

/-- The words of a text, none of them wider than a line. -/
def words (width : Nat) : List Char → List Word
  | [] => []
  | c :: rest =>
    let pieces := consFirst c (piecesFrom (BreakContext.start.next (BreakClass.ofChar c)) c rest)
    ((pieces.map wordOf).flatMap cutAtHyphens).flatMap (cutToWidth width)

/-- Distributes words to lines. Of the current line, which comes in reverse, `used` columns are
full. -/
def fillLines (width used : Nat) (line : List Word) : List Word → List (List Word)
  | [] => [line.reverse]
  | word :: rest =>
    if width < used + columnsOf word.text && !line.isEmpty then
      line.reverse :: fillLines width (columnsOf word.text + word.spaces) [word] rest
    else fillLines width (used + columnsOf word.text + word.spaces) (word :: line) rest

/-- The text of a line without the spaces at its end. -/
def lineText : List Word → List Char
  | [] => []
  | [word] => word.text
  | word :: rest => word.text ++ List.replicate word.spaces ' ' ++ lineText rest

/-- The lines of a text without line ends. -/
def wrapLine (width : Nat) (text : List Char) : List (List Char) :=
  (fillLines width 0 [⟨[], 0⟩] (words width text)).map lineText

/-- The lines of a text, whose own line ends are kept. -/
def wrap (width : Nat) (text : List Char) : List (List Char) :=
  (splitAll '\n' text).flatMap (wrapLine width)

theorem flatten_fillLines (width used : Nat) (line words : List Word) :
    (fillLines width used line words).flatten = line.reverse ++ words := by
  induction words generalizing used line with
  | nil => simp [fillLines]
  | cons word rest ih =>
    rw [fillLines]
    split <;> simp [ih]

end PropertyMacros.Text
