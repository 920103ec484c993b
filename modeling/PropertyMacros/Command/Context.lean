import PropertyMacros.Command.Theme
import PropertyMacros.Config.Basic

/-!
What commands run in, and how they fail.
-/

namespace PropertyMacros

/-- The prototype namespace and the styles that a configuration leads to. -/
structure Context where
  prototype : Namespace
  theme : Theme

/-- The context of a configuration whose defaults fit the built-in properties. -/
def Context.ofConfig (config : Config) : Except Error Context := do
  return ⟨← config.buildNamespace, .ofColor config.general.color⟩

inductive CommandError where
  /-- An argument that is not of the form `ATTR=VALUE`. -/
  | invalidAssignment (arg : String)
  | unknownCategory (category : String)
  /-- A failed evaluation where none is accepted. -/
  | evaluationFailed (category name reason : String)
  | fault (error : Error)
  deriving DecidableEq, Repr

def CommandError.message : CommandError → String
  | invalidAssignment arg => "Invalid attribute assignment '" ++ arg ++ "', expected ATTR=VALUE"
  | unknownCategory category => "Unknown category: " ++ category
  | evaluationFailed category name reason => category ++ "." ++ name ++ " failed: " ++ reason
  | fault error => error.message

end PropertyMacros
