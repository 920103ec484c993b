import PropertyMacros.Log.Event
import PropertyMacros.Log.FieldValue
import PropertyMacros.Number.Numeral
import PropertyMacros.Text.Alphanumeric
import PropertyMacros.Text.Blank
import PropertyMacros.Text.Split

/-!
Directives: which events are to be reported, up to which level.

A directive is written as a level alone, or as the start of the names of parts, then a span with a
field in square brackets, then a level behind an equals sign. All but one of these can be left out,
and without a level everything is reported. No event belongs to a span, and its only field is its
message.

Blanks around a directive do not count for its form, but they do count for the positions at which
its pieces are then cut out. So a blank at the end belongs to the last piece, and blanks in front
move all pieces.
-/

namespace PropertyMacros.Log

/-- A condition on a field of an event: that it is there, or also that it has a given value. -/
structure FieldCondition where
  name : String
  hasValue : Bool
  deriving DecidableEq, Repr

/-- The greatest rank that is reported, under conditions. -/
structure Directive where
  /-- How the name of the part has to start. -/
  start? : Option String
  /-- The span that the event has to belong to. -/
  span? : Option String
  field? : Option FieldCondition
  rank : Nat
  deriving DecidableEq, Repr

namespace Directive

def ofRank (rank : Nat) : Directive := ⟨none, none, none, rank⟩

/-- The one field of an event. -/
def messageField : String := "message"

/-- Whether a directive concerns an event. Only fields of spans are asked for their values. -/
def concerns (d : Directive) (e : Event) : Bool :=
  d.start?.all (fun start => start.toList.isPrefixOf e.origin.toList) && d.span?.isNone &&
    d.field?.all fun field => !field.hasValue && field.name == messageField

/-- How specific a directive is: first by the length of the start that it asks for, and then by
whether it asks for a field. -/
def specificity (d : Directive) : Nat :=
  2 * (d.start?.map fun start => start.length + 1).getD 0 + (if d.field?.isSome then 1 else 0)

/-- The ranks of the levels by their names in lower case, and the rank below all of them. -/
def rankNames : List (List Char × Nat) :=
  [("off".toList, 0), ("error".toList, 1), ("warn".toList, 2), ("info".toList, 3),
    ("debug".toList, 4), ("trace".toList, 5)]

/-- The greatest rank. -/
def maxRank : Nat := 5

/-- Reads a rank: a number, or the name of a level in any case. -/
def readRank? (text : List Char) : Option Nat :=
  match readIndex? text with
  | some rank => if rank ≤ maxRank then some rank else none
  | none => rankNames.lookup (text.map Char.toLower)

/-- Reads the rank behind an equals sign. Nothing stands for the greatest one. -/
def readRankOrMax? (text : List Char) : Option Nat :=
  if text.isEmpty then some maxRank else readRank? text

/-- Reads the condition on a field: its name, or its name, an equals sign and a number or pattern. A
second equals sign and what is behind it are not looked at. -/
def readField? (text : List Char) : Option FieldCondition :=
  if text.isEmpty then none
  else match Text.splitAll '=' text with
    | name :: value :: _ =>
      if isNumberOrPattern value then some ⟨String.ofList name, true⟩ else none
    | _ => some ⟨String.ofList text, false⟩

/-- The first `size` bytes of a text, and the others. -/
def splitBytes : (size : Nat) → List Char → List Char × List Char
  | _, [] => ([], [])
  | size, c :: rest =>
    if size = 0 then ([], c :: rest)
    else
      let (first, others) := splitBytes (size - c.utf8Size) rest
      (c :: first, others)

/-- A text that is to be read: its form, from which the blanks around it are left out, and the
source from which the pieces are cut. -/
structure Cursor where
  form : List Char
  source : List Char

/-- Moves to the next character of which `isStop` holds, or to the end of the form. The piece that
is left behind comes first. -/
def Cursor.moveTo (isStop : Char → Bool) (c : Cursor) : List Char × Cursor :=
  let skipped := c.form.takeWhile (!isStop ·)
  let (piece, source) := splitBytes ((skipped.map Char.utf8Size).foldl (· + ·) 0) c.source
  (piece, ⟨c.form.dropWhile (!isStop ·), source⟩)

def Cursor.next (c : Cursor) : Cursor := ⟨c.form.tail, (splitBytes 1 c.source).2⟩

/-- Reads what follows the square brackets: a level or nothing. -/
def readLevel? (d : Directive) (c : Cursor) : Option Directive :=
  match c.form with
  | [] => some { d with rank := maxRank }
  | '=' :: _ => (readRankOrMax? c.next.source).map fun rank => { d with rank }
  | _ => none

/-- Reads a span with a field, behind the first square bracket. The name of a span can be empty
unless a field follows, and then there is no span at all. -/
def readSpan? (start? : Option String) (c : Cursor) : Option Directive :=
  let (span, c) := c.moveTo (· ∈ [']', '\x7b'])
  let span := String.ofList span
  match c.form with
  | ']' :: _ => readLevel? ⟨start?, span, none, maxRank⟩ c.next
  | '\x7b' :: _ => do
    let (field, c) := c.next.moveTo (· == '\x7d')
    let field ← readField? field
    match c.form with
    | '\x7d' :: ']' :: _ =>
      readLevel? ⟨start?, if span.isEmpty then none else some span, field, maxRank⟩ c.next.next
    | _ => none
  | _ => none

/-- What a level or the start of a name may begin with. -/
def isNameStart (c : Char) : Bool := c ∈ ['-', ':', '_'] || Text.isAlphanumeric c

/-- Reads a directive that has no square bracket or equals sign: a level, or the start of names. -/
def ofPlain (text : List Char) : Directive :=
  match readRank? text with
  | some rank => ofRank rank
  | none => ⟨String.ofList text, none, none, maxRank⟩

def read? (text : List Char) : Option Directive :=
  let c : Cursor := ⟨Text.trim text, text⟩
  match c.form with
  | [] => none
  | '[' :: _ => readSpan? none c.next
  | first :: _ =>
    if !isNameStart first then none
    else
      let (start, c) := c.moveTo (· ∈ ['=', '['])
      match c.form with
      | [] => some (ofPlain text)
      | '=' :: _ => readLevel? ⟨String.ofList start, none, none, maxRank⟩ c
      | _ => readSpan? (String.ofList start) c.next

end Directive

end PropertyMacros.Log
