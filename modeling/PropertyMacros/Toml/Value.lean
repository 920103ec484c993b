import PropertyMacros.Toml.DateTime
import PropertyMacros.Toml.Numeral

/-!
The values of a TOML document, and the tables that its statements fill.

A table may be extended later or not according to how it came about, so it remembers that. A path
leads from a table through its sub-tables, and through the last element of an array of tables, and
creates the tables that do not exist yet.
-/

namespace PropertyMacros.Toml

/-- How a table came about. -/
inductive Origin where
  /-- By the header of its own, or as the document. -/
  | header
  /-- By the header of a table inside it. -/
  | impliedByHeader
  /-- By a dotted key. -/
  | dottedKey
  /-- In braces. Such a table is complete. -/
  | braces
  deriving DecidableEq, Repr

/-- A value. An array of tables, which headers in double brackets fill, keeps its latest table
apart. -/
inductive Value where
  | string (text : String)
  | number (numeral : Numeral)
  | boolean (value : Bool)
  | dateTime (value : DateTime)
  | array (elements : List Value)
  | table (origin : Origin) (entries : List (String × Value))
  | tables (earlier : List Value) (latest : List (String × Value))

/-- Keys with values, in the order of the document. -/
abbrev Entries := List (String × Value)

/-- One step of a path, in a header or in a dotted key. -/
inductive PathStep where
  | header (key : String)
  | dotted (key : String)

namespace PathStep

def key : PathStep → String
  | header key => key
  | dotted key => key

/-- How a table comes about that the step creates. -/
def origin : PathStep → Origin
  | header _ => .impliedByHeader
  | dotted _ => .dottedKey

/-- Whether the step may enter a table that exists. No step enters braces, and a dotted key only
what no header of its own has opened. -/
def mayEnter : PathStep → Origin → Bool
  | _, .braces => false
  | dotted _, .header => false
  | _, _ => true

end PathStep

def find? (key : String) (entries : Entries) : Option Value := entries.lookup key

/-- Stores a value, in the place of an earlier one for the same key. -/
def store (key : String) (value : Value) : Entries → Entries
  | [] => [(key, value)]
  | e :: entries => if e.1 = key then (key, value) :: entries else e :: store key value entries

/-- Applies `change` to the table at the end of a path. -/
def alter (change : Origin → Entries → Option Value) :
    List PathStep → Origin → Entries → Option Value
  | [], origin, entries => change origin entries
  | step :: path, origin, entries => do
    let value ← match find? step.key entries with
      | none => alter change path step.origin []
      | some (.table inner innerEntries) =>
        if step.mayEnter inner then alter change path inner innerEntries else none
      | some (.tables earlier latest) =>
        match ← alter change path .header latest with
        | .table _ entries => some (.tables earlier entries)
        | _ => none
      | some _ => none
    some (.table origin (store step.key value entries))

/-- Adds a key that is not there yet. A dotted key adds to tables that dotted keys have opened, and
a plain key to all others. -/
def addKey (isDotted : Bool) (key : String) (value : Value) (origin : Origin)
    (entries : Entries) : Option Value :=
  if isDotted == (origin == .dottedKey) && (find? key entries).isNone then
    some (.table origin (entries ++ [(key, value)]))
  else none

/-- Opens the table `key`. It must not have been opened by a header or a dotted key before. -/
def openTable (key : String) (origin : Origin) (entries : Entries) : Option Value :=
  match find? key entries with
  | none => some (.table origin (entries ++ [(key, .table .header [])]))
  | some (.table .impliedByHeader inner) =>
    some (.table origin (store key (.table .header inner) entries))
  | some _ => none

/-- Opens another table of the array of tables `key`. -/
def openNextTable (key : String) (origin : Origin) (entries : Entries) : Option Value :=
  match find? key entries with
  | none => some (.table origin (entries ++ [(key, .tables [] [])]))
  | some (.tables earlier latest) =>
    some (.table origin (store key (.tables (earlier ++ [.table .header latest]) []) entries))
  | some _ => none

def Value.entries? : Value → Option Entries
  | .table _ entries => some entries
  | _ => none

mutual

/-- Whether every number in a value fits. A value that nothing asks for is acceptable exactly
then. -/
def Value.fits : Value → Bool
  | .number numeral => numeral.fits
  | .array elements => fitAll elements
  | .table _ entries => entriesFit entries
  | .tables earlier latest => fitAll earlier && entriesFit latest
  | _ => true

def fitAll : List Value → Bool
  | [] => true
  | value :: values => value.fits && fitAll values

/-- Whether every value of a table fits. -/
def entriesFit : List (String × Value) → Bool
  | [] => true
  | (_, value) :: entries => value.fits && entriesFit entries

end

end PropertyMacros.Toml
