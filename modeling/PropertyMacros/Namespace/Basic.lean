import PropertyMacros.Error
import PropertyMacros.Property

/-!
Namespaces: the properties of one evaluation context, grouped by category.

A namespace is a value. Evaluating never changes it, and a change to one copy is not seen in
another.
-/

namespace PropertyMacros

/-- Properties by category, and by name inside a category, in the order of registration. -/
structure Namespace where
  groups : OrderedMap String (OrderedMap String Property)

namespace Namespace

def empty : Namespace := ⟨.empty⟩

/-- Registers a property under its own category and name. -/
def register (ns : Namespace) (p : Property) : Namespace :=
  ⟨ns.groups.insert p.category (((ns.groups.get? p.category).getD .empty).insert p.name p)⟩

/-- A fresh property for every operator of the catalog. -/
def builtin : Namespace :=
  Operator.all.foldl (fun ns op => ns.register (.ofOperator op)) empty

/-- The property registered under a category and a name. -/
def property? (ns : Namespace) (category name : String) : Option Property :=
  (ns.groups.get? category).bind (·.get? name)

/-- The property registered under a key, or the fault that there is none. -/
def property (ns : Namespace) (category name : String) : Except Error Property :=
  match ns.property? category name with
  | some p => .ok p
  | none => .error (.propertyNotFound category name)

/-- Applies `f` to the property under a key, if there is one. -/
def modify (ns : Namespace) (category name : String) (f : Property → Property) : Namespace :=
  ⟨ns.groups.modify category (·.modify name f)⟩

/-- Applies `f` to the property under a key, which has to exist. -/
def update (ns : Namespace) (category name : String) (f : Property → Property) :
    Except Error Namespace := do
  let _ ← ns.property category name
  return ns.modify category name f

def setAttribute (ns : Namespace) (category name attr value : String) : Except Error Namespace :=
  ns.update category name (·.setAttribute attr value)

def resetAttributes (ns : Namespace) (category name : String) : Except Error Namespace :=
  ns.update category name Property.resetAttributes

/-- The value of a property as text. Only an unknown key is a fault. -/
def current (ns : Namespace) (category name : String) : Except Error String :=
  Property.current <$> ns.property category name

/-- Stores the value of one property as an attribute of another, or of the same. The source is
looked up first. -/
def pipe (ns : Namespace) (fromCategory fromName category name attr : String) :
    Except Error Namespace := do
  ns.setAttribute category name attr (← ns.current fromCategory fromName)

/-- Drops the overrides of every property. -/
def resetAll (ns : Namespace) : Namespace :=
  ⟨ns.groups.mapValues (·.mapValues Property.resetAttributes)⟩

def categories (ns : Namespace) : List String := ns.groups.keys

/-- The properties of one category, none if it is unknown. -/
def propertiesIn (ns : Namespace) (category : String) : List Property :=
  ((ns.groups.get? category).getD .empty).values

/-- Every property, grouped by category. -/
def properties (ns : Namespace) : List Property := ns.groups.values.flatMap OrderedMap.values

def size (ns : Namespace) : Nat := (ns.groups.values.map OrderedMap.size).foldl (· + ·) 0

/-- Equal properties under equal keys, in whatever order they were registered. -/
instance : BEq Namespace := ⟨fun a b => a.groups == b.groups⟩

theorem property?_modify (ns : Namespace) (category name c n : String) (f : Property → Property) :
    (ns.modify category name f).property? c n =
      if c = category ∧ n = name then (ns.property? c n).map f else ns.property? c n := by
  simp only [property?, modify, OrderedMap.get?_modify]
  by_cases hc : c = category
  · simp only [hc, if_true, true_and, Option.bind_map, Function.comp_def, OrderedMap.get?_modify]
    by_cases hn : n = name
    · simp only [hn, if_true, Option.map_bind, Function.comp_def]
    · simp only [hn, if_false]
  · simp [hc]

@[simp] theorem property?_resetAll (ns : Namespace) (c n : String) :
    ns.resetAll.property? c n = (ns.property? c n).map Property.resetAttributes := by
  simp only [property?, resetAll, OrderedMap.get?_mapValues]
  cases ns.groups.get? c with
  | none => rfl
  | some group => exact OrderedMap.get?_mapValues Property.resetAttributes group n

end Namespace

end PropertyMacros
