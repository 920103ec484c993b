import PropertyMacros.Pattern.Flags
import PropertyMacros.Text.Hexadecimal

/-!
Escapes in a pattern: what a backslash and the characters behind it stand for.
-/

namespace PropertyMacros.Pattern

/-- What an escape can stand for. -/
inductive Escape where
  | char (c : Char)
  | charClass
  | position
  deriving DecidableEq, Repr

namespace Escape

/-- The numbers of digits in escapes that give the number of a character. -/
def digitCounts : List (Char × Nat) := [('x', 2), ('u', 4), ('U', 8)]

/-- The letters of control characters. -/
def controls : List (Char × Char) :=
  [('a', '\x07'), ('f', '\x0c'), ('n', '\n'), ('r', '\r'), ('t', '\t'), ('v', '\x0b')]

/-- Reads the number of a character in hexadecimal digits, behind its letter. On bytes two digits
give a byte, which has to be a character of its own. -/
def readNumber? (flags : Flags) (letter : Char) (count : Nat) (text : List Char) :
    Option (Escape × List Char) := do
  let (digits, rest) ← flags.takeSpaced? count text
  let (c, _) ← Text.scalarValue? count digits
  guard (flags.isUnicode || letter != 'x' || c ≤ '\x7f')
  some (char c, rest)

/-- Reads an escape behind its backslash. -/
def read? (flags : Flags) : List Char → Option (Escape × List Char)
  | [] => none
  | c :: rest =>
    match digitCounts.lookup c, controls.lookup c with
    | some count, _ => readNumber? flags c count rest
    | none, some control => some (char control, rest)
    | none, none =>
      if c ∈ ['d', 's', 'w'] then if flags.isUnicode then none else some (charClass, rest)
      else if c ∈ ['b', 'B', '<', '>'] then if flags.isUnicode then none else some (position, rest)
      else if c ∈ ['A', 'z'] then some (position, rest)
      else if c.isAlphanum || '\x7f' < c then none
      else some (char c, rest)

end Escape

end PropertyMacros.Pattern
