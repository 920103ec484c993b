import PropertyMacros.Pattern.Escape

/-!
Classes of characters in a pattern: sets in square brackets.

A class consists of characters, ranges of characters and other classes. Sets can be joined by
intersection, difference and symmetric difference, each of which takes all that stands on its left
as one operand.
-/

namespace PropertyMacros.Pattern

open Text (Step readSteps)

/-- Reads a character or an escape inside a class. On bytes only ASCII characters may stand
there. -/
def readItem? (flags : Flags) (text : List Char) : Option (Escape × List Char) := do
  let (item, rest) ← match text with
    | '\\' :: rest => Escape.read? flags rest
    | c :: rest => some (.char c, rest)
    | [] => none
  match item with
  | .char c => guard (flags.allowsChars && (flags.isUnicode || c ≤ '\x7f'))
  | .charClass => pure ()
  | .position => none
  some (item, rest)

/-- Reads a character or an escape inside a class, or a range of characters. A hyphen in front of
the closing bracket or of another hyphen does not make a range. -/
def readRange? (flags : Flags) (text : List Char) : Option (List Char) := do
  let (first, rest) ← readItem? flags text
  match flags.skip rest with
  | '-' :: behind =>
    if flags.peek? behind ∈ [some ']', some '-'] then some ('-' :: behind)
    else match first, ← readItem? flags (flags.skip behind) with
      | .char first, (.char last, rest) => if first ≤ last then some rest else none
      | _, _ => none
  | rest => some rest

/-- The names of the classes of ASCII characters. -/
def asciiClasses : List String :=
  ["alnum", "alpha", "ascii", "blank", "cntrl", "digit", "graph", "lower", "print", "punct",
    "space", "upper", "word", "xdigit"]

/-- Reads the name of a class of ASCII characters, behind the bracket and the colon in front of it,
and whether all other characters are meant. -/
def readAsciiClass? (text : List Char) : Option (Bool × List Char) :=
  let (isNegated, text) := match text with
    | '^' :: rest => (true, rest)
    | rest => (false, rest)
  let name := text.takeWhile (· != ':')
  match text.drop name.length with
  | ':' :: ']' :: rest =>
    if asciiClasses.contains (String.ofList name) then some (isNegated, rest) else none
  | _ => none

structure OpenClass where
  /-- The depths of the items behind the last operator. -/
  items : List Nat
  /-- The depth of the operand on the left of the last operator. -/
  left? : Option Nat

namespace OpenClass

/-- The class that has items and no operator. -/
def ofItems (items : List Nat) : OpenClass := ⟨items, none⟩

/-- How deep the set in the brackets nests. -/
def depth (c : OpenClass) : Nat :=
  match c.left? with
  | none => rowDepth c.items
  | some left => max left (rowDepth c.items) + 1

def addItem (c : OpenClass) (depth : Nat) : OpenClass := { c with items := depth :: c.items }

/-- Makes all that has been read the left operand of an operator. -/
def addOperator (c : OpenClass) : OpenClass := ⟨[], some c.depth⟩

/-- Reads a hyphen at the start of a class. -/
def hyphenStep (flags : Flags) (c : OpenClass) (text : List Char) : Option (Step OpenClass) :=
  match flags.skip text with
  | '-' :: rest => if flags.allowsChars then some (.more (c.addItem 0) rest) else none
  | rest => some (.done c rest)

/-- Reads what can follow only upon the bracket that opens a class: a circumflex, then hyphens or a
closing bracket that belongs to the class. -/
def read? (flags : Flags) (text : List Char) : Option (OpenClass × List Char) := do
  let rest ← match flags.skip text with
    | '^' :: rest => if flags.isUnicode then some (flags.skip rest) else none
    | rest => some rest
  match rest with
  | ']' :: rest => if flags.allowsChars then some (ofItems [0], rest) else none
  | rest => readSteps (hyphenStep flags) (ofItems []) rest

end OpenClass

/-- The classes that are open: the innermost one, and those around it from the inside out. -/
structure ClassState where
  inner : OpenClass
  outer : List OpenClass

namespace ClassState

def addItem (s : ClassState) (depth : Nat) : ClassState := { s with inner := s.inner.addItem depth }

/-- Opens a class inside of the innermost one. -/
def openClass? (s : ClassState) (flags : Flags) (text : List Char) : Option (Step ClassState) :=
  (OpenClass.read? flags text).map fun p => .more ⟨p.1, s.inner :: s.outer⟩ p.2

/-- Closes the innermost class, which becomes an item of the one around it. -/
def closeClass (s : ClassState) (rest : List Char) : Step ClassState :=
  match s.outer with
  | [] => .done s rest
  | parent :: outer => .more ⟨parent.addItem (s.inner.depth + 1), outer⟩ rest

/-- Reads a piece of a class, or its end. -/
def step (flags : Flags) (s : ClassState) (text : List Char) : Option (Step ClassState) :=
  match flags.skip text with
  | '[' :: ':' :: rest =>
    match readAsciiClass? rest with
    | some (isNegated, rest) =>
      if flags.allowsChars && (flags.isUnicode || !isNegated) then some (.more (s.addItem 0) rest)
      else none
    | none => s.openClass? flags (':' :: rest)
  | '[' :: rest => s.openClass? flags rest
  | ']' :: rest => some (s.closeClass rest)
  | '&' :: '&' :: rest | '-' :: '-' :: rest | '~' :: '~' :: rest =>
    some (.more { s with inner := s.inner.addOperator } rest)
  | text => (readRange? flags text).map (.more (s.addItem 0))

end ClassState

/-- Reads a class behind its first bracket. The first result is how deep it nests. -/
def readClass? (flags : Flags) (text : List Char) : Option (Nat × List Char) := do
  let (inner, rest) ← OpenClass.read? flags text
  let (s, rest) ← readSteps (ClassState.step flags) ⟨inner, []⟩ rest
  some (s.inner.depth + 1, rest)

end PropertyMacros.Pattern
