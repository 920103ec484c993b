import PropertyMacros.Pattern.CharClass
import PropertyMacros.Text.Alphabetic
import PropertyMacros.Text.Split

/-!
The form of a pattern: which texts are regular expressions.

Nothing is matched against a pattern, so only its form is checked. Its groups, classes, repetitions,
rows and alternatives must not nest too deep. Counted repetitions are not read, because a pattern
stands where their closing brace would end it.
-/

namespace PropertyMacros.Pattern

open Text (Step readSteps)

/-- How deep a pattern can nest. -/
def maxDepth : Nat := 250

/-- A group that is open, or the pattern as a whole. -/
structure Group where
  /-- The flags for the next piece. -/
  flags : Flags
  /-- The depths of the pieces of the last branch, the last piece first. -/
  pieces : List Nat
  /-- The depths of the branches in front of it. -/
  branches : List Nat

namespace Group

def ofFlags (flags : Flags) : Group := ⟨flags, [], []⟩

/-- How deep the branches of a group nest. -/
def depth (g : Group) : Nat := rowDepth (rowDepth g.pieces :: g.branches)

def addPiece (g : Group) (depth : Nat) : Group := { g with pieces := depth :: g.pieces }

def addBranch (g : Group) : Group :=
  { g with pieces := [], branches := rowDepth g.pieces :: g.branches }

end Group

/-- The state between two pieces of a pattern. -/
structure State where
  /-- The innermost group that is open. -/
  group : Group
  /-- The groups around it, from the inside out. -/
  outer : List Group
  names : List (List Char)
  /-- Whether the last piece is there and can be repeated. -/
  isRepeatable : Bool

namespace State

def initial : State := ⟨Group.ofFlags Flags.initial, [], [], false⟩

def addPiece (s : State) (depth : Nat) : State :=
  { s with group := s.group.addPiece depth, isRepeatable := true }

/-- Repeats the last piece. -/
def repeatLast? (s : State) : Option State :=
  match s.isRepeatable, s.group.pieces with
  | true, depth :: pieces =>
    some { s with group := { s.group with pieces := (depth + 1) :: pieces } }
  | _, _ => none

def openGroup (s : State) (flags : Flags) : State :=
  { s with group := Group.ofFlags flags, outer := s.group :: s.outer, isRepeatable := false }

/-- Closes the innermost group, which becomes a piece of the one around it. -/
def closeGroup? (s : State) : Option State :=
  match s.outer with
  | [] => none
  | parent :: outer => some ({ s with group := parent, outer }.addPiece (s.group.depth + 1))

def addBranch (s : State) : State := { s with group := s.group.addBranch, isRepeatable := false }

/-- Switches flags for the rest of the innermost group. That makes a piece too, but none that can be
repeated. -/
def switchFlags (s : State) (letters : List Char) : State :=
  let flags := s.group.flags.switch letters
  { s with group := { s.group.addPiece 0 with flags }, isRepeatable := false }

/-- Whether a text can name a group. -/
def isGroupName : List Char → Bool
  | [] => false
  | c :: rest =>
    (c == '_' || Text.isAlphabetic c) &&
      rest.all fun c => c ∈ ['_', '.', '[', ']'] || Text.isAlphanumeric c

/-- Opens a group with a name, which no other group may have. -/
def openNamed? (s : State) (text : List Char) : Option (State × List Char) := do
  let (name, rest) ← Text.splitFirst? '>' text
  guard (isGroupName name && !s.names.contains name)
  some ({ s.openGroup s.group.flags with names := name :: s.names }, rest)

/-- Reads flags for the group that they open, or for the rest of the group that they stand in. -/
def readFlags? (s : State) (text : List Char) : Option (State × List Char) := do
  let letters := text.takeWhile (fun c => c != ':' && c != ')')
  guard (Flags.areLetters letters)
  match text.drop letters.length with
  | ':' :: rest => some (s.openGroup (s.group.flags.switch letters), rest)
  | ')' :: rest => if letters.isEmpty then none else some (s.switchFlags letters, rest)
  | _ => none

/-- Reads what opens a group, behind the bracket. -/
def openGroup? (s : State) (text : List Char) : Option (State × List Char) :=
  match s.group.flags.skip text with
  | '?' :: 'P' :: '<' :: rest => s.openNamed? rest
  | '?' :: '<' :: rest => s.openNamed? rest
  | '?' :: rest => s.readFlags? rest
  | rest => some (s.openGroup s.group.flags, rest)

/-- Reads an escape behind its backslash. -/
def readEscape? (s : State) (text : List Char) : Option (State × List Char) := do
  let flags := s.group.flags
  let (item, rest) ← Escape.read? flags text
  match item with
  | .char _ => guard flags.allowsChars
  | .charClass | .position => pure ()
  some (s.addPiece 0, rest)

/-- Reads a character that is neither a bracket nor a bar nor a backslash. -/
def readChar? (s : State) (c : Char) : Option State :=
  let flags := s.group.flags
  if c ∈ ['?', '*', '+'] then s.repeatLast?
  else if c == '\x7b' then none
  else if c ∈ ['^', '$'] || (if c == '.' then flags.isUnicode else flags.allowsChars) then
    some (s.addPiece 0)
  else none

/-- Reads a piece of a pattern, or its end. -/
def step (s : State) (text : List Char) : Option (Step State) :=
  match s.group.flags.skip text with
  | [] => if s.outer.isEmpty then some (.done s []) else none
  | '(' :: rest => (s.openGroup? rest).map fun p => .more p.1 p.2
  | ')' :: rest => s.closeGroup?.map (.more · rest)
  | '|' :: rest => some (.more s.addBranch rest)
  | '[' :: rest => (readClass? s.group.flags rest).map fun p => .more (s.addPiece p.1) p.2
  | '\\' :: rest => (s.readEscape? rest).map fun p => .more p.1 p.2
  | c :: rest => (s.readChar? c).map (.more · rest)

end State

/-- Whether a text is a pattern. -/
def isPattern (text : List Char) : Bool :=
  match readSteps State.step State.initial text with
  | some (s, _) => s.group.depth ≤ maxDepth
  | none => false

end PropertyMacros.Pattern
