import PropertyMacros.Text.Hexadecimal
import PropertyMacros.Text.Steps
import PropertyMacros.Toml.Lexical

/-!
The four kinds of TOML strings: basic ones, in which a backslash starts an escape, and literal ones,
in which it does not, each on one line or, in threefold quotes, on several.
-/

namespace PropertyMacros.Toml

open Text (Step readSteps scalarValue?)

/-- Reads an escape behind its backslash. -/
def escape? : List Char → Option (Char × List Char)
  | 'b' :: rest => some ('\x08', rest)
  | 't' :: rest => some ('\t', rest)
  | 'n' :: rest => some ('\n', rest)
  | 'f' :: rest => some ('\x0c', rest)
  | 'r' :: rest => some ('\r', rest)
  | 'e' :: rest => some ('\x1b', rest)
  | '"' :: rest => some ('"', rest)
  | '\\' :: rest => some ('\\', rest)
  | 'x' :: rest => scalarValue? 2 rest
  | 'u' :: rest => scalarValue? 4 rest
  | 'U' :: rest => scalarValue? 8 rest
  | _ => none

/-- Reads one character of a basic string on one line, or its end. The characters are collected in
reverse. -/
def basicStep (collected : List Char) : List Char → Option (Step (List Char))
  | '"' :: rest => some (.done collected rest)
  | '\\' :: rest => do
    let (c, rest) ← escape? rest
    some (.more (c :: collected) rest)
  | c :: rest => if isText c then some (.more (c :: collected) rest) else none
  | [] => none

/-- Reads one character of a literal string on one line, or its end. -/
def literalStep (collected : List Char) : List Char → Option (Step (List Char))
  | '\'' :: rest => some (.done collected rest)
  | c :: rest => if isText c then some (.more (c :: collected) rest) else none
  | [] => none

/-- Reads the quotes at the end of a string on several lines. Up to two more quotes belong to the
string, in front of the three that end it. -/
def closing? (quote : Char) (collected : List Char) (text : List Char) :
    Option (Step (List Char)) :=
  let count := (text.takeWhile (· == quote)).length
  if count < 3 then none
  else
    let extra := min (count - 3) 2
    some (.done (List.replicate extra quote ++ collected) (text.drop (extra + 3)))

/-- Reads a character that may stand in any string on several lines, where a line end keeps its
form. -/
def multilineStep (collected : List Char) : List Char → Option (Step (List Char))
  | '\r' :: '\n' :: rest => some (.more ('\n' :: '\r' :: collected) rest)
  | '\n' :: rest => some (.more ('\n' :: collected) rest)
  | c :: rest => if isText c then some (.more (c :: collected) rest) else none
  | [] => none

/-- Skips blanks and line ends, which follow a backslash at the end of a line. -/
def skipLineEnds? : List Char → Option (List Char)
  | '\r' :: '\n' :: rest => skipLineEnds? rest
  | '\r' :: _ => none
  | c :: rest => if isBlank c || c == '\n' then skipLineEnds? rest else some (c :: rest)
  | [] => some []

/-- Reads a character or an escape of a basic string on several lines, or its end. -/
def multilineBasicStep (collected : List Char) (text : List Char) : Option (Step (List Char)) :=
  match text with
  | '\\' :: rest =>
    match lineEnd? (skipBlanks rest) with
    | some rest => (skipLineEnds? rest).map (.more collected)
    | none => do
      let (c, rest) ← escape? rest
      some (.more (c :: collected) rest)
  | '"' :: rest =>
    (closing? '"' collected text).orElse fun _ => some (.more ('"' :: collected) rest)
  | _ => multilineStep collected text

/-- Reads a character of a literal string on several lines, or its end. -/
def multilineLiteralStep (collected : List Char) (text : List Char) : Option (Step (List Char)) :=
  match text with
  | '\'' :: rest =>
    (closing? '\'' collected text).orElse fun _ => some (.more ('\'' :: collected) rest)
  | _ => multilineStep collected text

/-- A line end directly behind the opening quotes does not belong to the string. -/
def skipFirstLineEnd (text : List Char) : List Char := (lineEnd? text).getD text

def stringBody? (step : List Char → List Char → Option (Step (List Char))) (text : List Char) :
    Option (List Char × List Char) := do
  let (collected, rest) ← readSteps step [] text
  some (collected.reverse, rest)

/-- Reads a string on one line, which can be a key too. -/
def singleLine? : List Char → Option (List Char × List Char)
  | '"' :: rest => stringBody? basicStep rest
  | '\'' :: rest => stringBody? literalStep rest
  | _ => none

/-- Reads a string of any kind. -/
def quoted? : List Char → Option (List Char × List Char)
  | '"' :: '"' :: '"' :: rest => stringBody? multilineBasicStep (skipFirstLineEnd rest)
  | '\'' :: '\'' :: '\'' :: rest => stringBody? multilineLiteralStep (skipFirstLineEnd rest)
  | text => singleLine? text

end PropertyMacros.Toml
