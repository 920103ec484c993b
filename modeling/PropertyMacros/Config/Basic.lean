import PropertyMacros.Namespace.Prototype
import PropertyMacros.Text.Split

/-!
Configurations: whether output is coloured, and defaults for the attributes of properties.

Defaults are grouped in tables whose keys name a category and a property, divided by the first point
of the key. All keys are looked at before any default is applied.
-/

namespace PropertyMacros

/-- The settings that concern no property. -/
structure GeneralConfig where
  color : Bool
  deriving DecidableEq, Repr

/-- Output is coloured unless the configuration says otherwise. -/
def GeneralConfig.default : GeneralConfig := ⟨true⟩

structure Config where
  general : GeneralConfig
  defaults : OrderedMap String (OrderedMap String String)

namespace Config

/-- The configuration that holds where nothing is configured. -/
def default : Config := ⟨.default, .empty⟩

/-- The category and the name in a key of the defaults, neither of them empty. -/
def splitKey? (key : String) : Option (String × String) := do
  let (category, name) ← Text.splitFirst? '.' key.toList
  if category.isEmpty || name.isEmpty then none
  else some (String.ofList category, String.ofList name)

def tableOverrides (key : String) (table : OrderedMap String String) :
    Except Error (List DefaultOverride) :=
  match splitKey? key with
  | some (category, name) => .ok (table.entries.map fun e => ⟨category, name, e.1, e.2⟩)
  | none => .error (.config (.malformedKey key))

/-- The overrides in all tables, in the order of the document. The first malformed key is a
fault. -/
def defaultOverrides (config : Config) : Except Error (List DefaultOverride) :=
  List.flatten <$> config.defaults.entries.mapM fun e => tableOverrides e.1 e.2

/-- The built-in namespace with the configured defaults. Without any table it is taken as it is. -/
def buildNamespace (config : Config) : Except Error Namespace :=
  if config.defaults.entries.isEmpty then .ok .builtin
  else do Namespace.withDefaults (← config.defaultOverrides)

end Config

end PropertyMacros
