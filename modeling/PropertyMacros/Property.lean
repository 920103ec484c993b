import PropertyMacros.Operator.Evaluation

/-!
A property is an operator with its attribute state.
-/

namespace PropertyMacros

/-- A computation that can be named and configured. -/
structure Property where
  operator : Operator
  attributes : Attributes

namespace Property

/-- A property with the declared defaults. -/
def ofOperator (op : Operator) : Property := ⟨op, .ofSchema op.schema⟩

def category (p : Property) : String := p.operator.category

def name (p : Property) : String := p.operator.name

def schema (p : Property) : Schema := p.operator.schema

/-- The value of an attribute, override or default. -/
def attribute? (p : Property) (name : String) : Option String := p.attributes.get? name

def updateAttributes (p : Property) (f : Attributes → Attributes) : Property :=
  { p with attributes := f p.attributes }

/-- Overrides an attribute. Names outside the schema are kept, and evaluation never reads them. -/
def setAttribute (p : Property) (name value : String) : Property :=
  p.updateAttributes (·.set name value)

def resetAttributes (p : Property) : Property := p.updateAttributes Attributes.reset

/-- Replaces a default, which only happens while a prototype is built. -/
def setDefault (p : Property) (name value : String) : Property :=
  p.updateAttributes (·.setDefault name value)

/-- The declared attributes without a default, whatever has been set. -/
def required (p : Property) : List String :=
  p.schema.names.filter fun name => (p.attributes.default? name).isNone

/-- The declared attributes that resolve to nothing. -/
def missing (p : Property) : List String := p.attributes.missing p.schema

def isComplete (p : Property) : Bool := p.missing.isEmpty

/-- The value, or the reason why there is none. -/
def evaluate (p : Property) : Except EvalError String :=
  match p.missing with
  | [] => p.operator.evaluate p.attributes
  | names => .error (.missingAttributes names)

/-- The value as text, an error being rendered. -/
def current (p : Property) : String :=
  match p.evaluate with
  | .ok value => value
  | .error reason => reason.render p.name

/-- The same operator with equal attributes. -/
instance : BEq Property :=
  ⟨fun p q => p.operator == q.operator && p.attributes == q.attributes⟩

end Property

end PropertyMacros
