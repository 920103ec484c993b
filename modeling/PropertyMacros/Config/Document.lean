import PropertyMacros.Config.Basic
import PropertyMacros.Toml.Document

/-!
Configurations as TOML documents.

The table `general` holds the settings, the table `defaults` the tables of defaults. Other keys have
no meaning but must have a value that fits.
-/

namespace PropertyMacros.Config

open Toml

/-- Whether the keys without a meaning have values that fit. -/
def othersFit (known : List String) (entries : Entries) : Bool :=
  entriesFit (entries.filter fun e => !known.contains e.1)

/-- The setting `color`, which is a truth value. -/
def color? : Value → Option Bool
  | .boolean value => some value
  | _ => none

/-- The general settings. They may also be listed in the order of their declaration, with more
elements behind them. A date takes the place of a table without settings. -/
def general? : Value → Option GeneralConfig
  | .table _ entries =>
    if othersFit ["color"] entries then
      match find? "color" entries with
      | none => some .default
      | some value => (color? value).map .mk
    else none
  | .array [] => some .default
  | .array (value :: _) => (color? value).map .mk
  | .dateTime _ => some .default
  | _ => none

def text? : Value → Option String
  | .string text => some text
  | _ => none

/-- The key of the one entry that a date has where a table is expected. -/
def dateKey : String := "$__toml_private_datetime"

def table? : Value → Option (OrderedMap String String)
  | .table _ entries => OrderedMap.ofList <$> entries.mapM fun e => (e.1, ·) <$> text? e.2
  | .dateTime value => some (.ofList [(dateKey, String.ofList value.print)])
  | _ => none

def defaults? : Value → Option (OrderedMap String (OrderedMap String String))
  | .table _ entries => OrderedMap.ofList <$> entries.mapM fun e => (e.1, ·) <$> table? e.2
  | _ => none

def ofEntries? (entries : Entries) : Option Config := do
  guard (othersFit ["general", "defaults"] entries)
  let general ← match find? "general" entries with
    | none => some .default
    | some value => general? value
  let defaults ← match find? "defaults" entries with
    | none => some .empty
    | some value => defaults? value
  some ⟨general, defaults⟩

def ofText? (text : String) : Option Config := Toml.read? text.toList >>= ofEntries?

/-- The configuration in the text of a document, or the fault that there is none. -/
def ofText (text : String) : Except Error Config :=
  match ofText? text with
  | some config => .ok config
  | none => .error (.config .invalidText)

end PropertyMacros.Config
