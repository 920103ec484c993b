/-!
Why a property has no value.

An evaluation that fails yields one of these reasons. A caller that wants text in any case gets the
reason in the form `(<operator> Error: <reason>)`.
-/

namespace PropertyMacros

inductive EvalError where
  /-- The attributes that have neither an override nor a default. -/
  | missingAttributes (names : List String)
  /-- An attribute whose text is not what its operator accepts. -/
  | invalidOperand (name value expected : String)
  | divisionByZero
  deriving DecidableEq, Repr

namespace EvalError

/-- What numeric operands are. -/
def aNumber : String := "a number"

/-- What positions and lengths are. -/
def anIndex : String := "a non-negative integer"

/-- What separators and searched texts are. -/
def aNonEmptyText : String := "a non-empty string"

def message : EvalError → String
  | missingAttributes names => "missing required attribute(s): " ++ ", ".intercalate names
  | invalidOperand name value expected =>
    "invalid value '" ++ value ++ "' for attribute '" ++ name ++ "', expected " ++ expected
  | divisionByZero => "division by zero"

/-- The text that stands for the value of a failed evaluation. -/
def render (operator : String) (error : EvalError) : String :=
  "(" ++ operator ++ " Error: " ++ error.message ++ ")"

end EvalError

end PropertyMacros
