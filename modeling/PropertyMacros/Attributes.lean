import PropertyMacros.EvalError
import PropertyMacros.OrderedMap

/-!
Named text attributes with defaults and overrides.

An attribute resolves to the override that was set last, or else to its default. Resetting drops
every override and leaves the defaults as they are. Names outside a schema can be set like any
other.
-/

namespace PropertyMacros

/-- An attribute that an operator declares. Without a default it is required. -/
structure AttributeSpec where
  name : String
  default? : Option String
  deriving DecidableEq, Repr

/-- The attributes that an operator declares, in order. -/
abbrev Schema := List AttributeSpec

namespace Schema

def names (schema : Schema) : List String := schema.map AttributeSpec.name

def defaults (schema : Schema) : List (String × String) :=
  schema.filterMap fun spec => spec.default?.map fun value => (spec.name, value)

end Schema

/-- The attribute state of one property. -/
structure Attributes where
  defaults : OrderedMap String String
  overrides : OrderedMap String String

namespace Attributes

def empty : Attributes := ⟨.empty, .empty⟩

/-- The declared defaults and no overrides. -/
def ofSchema (schema : Schema) : Attributes := ⟨.ofList schema.defaults, .empty⟩

def set (attrs : Attributes) (name value : String) : Attributes :=
  { attrs with overrides := attrs.overrides.insert name value }

def setAll (attrs : Attributes) (pairs : List (String × String)) : Attributes :=
  pairs.foldl (fun acc pair => acc.set pair.1 pair.2) attrs

def setDefault (attrs : Attributes) (name value : String) : Attributes :=
  { attrs with defaults := attrs.defaults.insert name value }

def reset (attrs : Attributes) : Attributes := { attrs with overrides := .empty }

def default? (attrs : Attributes) (name : String) : Option String := attrs.defaults.get? name

/-- The value of `name`: the override if there is one, or else the default. -/
def get? (attrs : Attributes) (name : String) : Option String :=
  (attrs.overrides.get? name).or (attrs.default? name)

/-- The value of an attribute that is needed. -/
def require (attrs : Attributes) (name : String) : Except EvalError String :=
  match attrs.get? name with
  | some value => .ok value
  | none => .error (.missingAttributes [name])

/-- The declared names that resolve to nothing, in order. -/
def missing (attrs : Attributes) (schema : Schema) : List String :=
  schema.names.filter fun name => (attrs.get? name).isNone

/-- Equal defaults and equal overrides, in whatever order they were set. -/
instance : BEq Attributes := ⟨fun a b => a.defaults == b.defaults && a.overrides == b.overrides⟩

@[simp] theorem default?_set (attrs : Attributes) (name value other : String) :
    (attrs.set name value).default? other = attrs.default? other := rfl

@[simp] theorem default?_reset (attrs : Attributes) (name : String) :
    attrs.reset.default? name = attrs.default? name := rfl

theorem get?_set (attrs : Attributes) (name value other : String) :
    (attrs.set name value).get? other = if other = name then some value else attrs.get? other := by
  simp only [get?, set, OrderedMap.get?_insert, default?]
  split <;> simp

@[simp] theorem get?_reset (attrs : Attributes) (name : String) :
    attrs.reset.get? name = attrs.default? name := by
  simp [get?, reset, default?]

theorem default?_setDefault (attrs : Attributes) (name value other : String) :
    (attrs.setDefault name value).default? other =
      if other = name then some value else attrs.default? other := by
  simp only [default?, setDefault, OrderedMap.get?_insert]

end Attributes

end PropertyMacros
