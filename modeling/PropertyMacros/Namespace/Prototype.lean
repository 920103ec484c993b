import PropertyMacros.Namespace.Basic

/-!
Namespaces whose defaults differ from the catalog's.

A default can be replaced only while a prototype is built. Every override has to name a registered
property and an attribute that it declares; the first one that does not decides the fault.
-/

namespace PropertyMacros

/-- A default that is to replace the one of the catalog. -/
structure DefaultOverride where
  category : String
  name : String
  attr : String
  value : String
  deriving DecidableEq, Repr

/-- The fault of an override on its own, which only the catalog decides. -/
def DefaultOverride.fault? (o : DefaultOverride) : Option Error :=
  match Operator.find? o.category o.name with
  | none => some (.propertyNotFound o.category o.name)
  | some op =>
    if o.attr ∈ op.schema.names then none
    else some (.config (.unknownAttribute o.category o.name o.attr))

namespace Namespace

def applyDefault (ns : Namespace) (o : DefaultOverride) : Except Error Namespace := do
  let p ← ns.property o.category o.name
  if o.attr ∈ p.schema.names then
    return ns.modify o.category o.name (·.setDefault o.attr o.value)
  else
    throw (.config (.unknownAttribute o.category o.name o.attr))

/-- Replaces the defaults one after the other. -/
def applyDefaults (ns : Namespace) (overrides : List DefaultOverride) : Except Error Namespace :=
  overrides.foldlM applyDefault ns

/-- The built-in namespace with replaced defaults. -/
def withDefaults (overrides : List DefaultOverride) : Except Error Namespace :=
  builtin.applyDefaults overrides

end Namespace

end PropertyMacros
