import PropertyMacros.Command.Context
import PropertyMacros.Json

/-!
The command `eval`: one property evaluated with attributes from the command line.

A failed evaluation is a value like any other, unless the command is strict.
-/

namespace PropertyMacros

structure EvalCommand where
  category : String
  name : String
  attributes : List (String × String)
  json : Bool
  strict : Bool
  deriving DecidableEq, Repr

/-- The outcome of one evaluation, with the declared attributes as they were in effect. -/
structure Evaluation where
  category : String
  name : String
  attributes : List (String × Option String)
  value : String
  error? : Option String
  deriving DecidableEq, Repr

def Property.effectiveAttributes (p : Property) : List (String × Option String) :=
  p.schema.names.map fun attr => (attr, p.attribute? attr)

def Property.failure? (p : Property) : Option String :=
  match p.evaluate with
  | .ok _ => none
  | .error reason => some reason.message

/-- The value, or the text that stands for it together with the reason. -/
def Property.rendered (p : Property) : String × Option String :=
  match p.evaluate with
  | .ok value => (value, none)
  | .error reason => (reason.render p.name, some reason.message)

namespace Evaluation

def ofProperty (category name : String) (p : Property) : Evaluation where
  category := category
  name := name
  attributes := p.effectiveAttributes
  value := p.rendered.1
  error? := p.rendered.2

/-- The outcome as JSON. An attribute without a value is `null`, and there is no error unless the
evaluation failed. -/
def toJson (e : Evaluation) : Json :=
  .object <|
    [("category", .string e.category), ("name", .string e.name),
      ("attributes", .object (e.attributes.map fun a => (a.1, Json.ofOption a.2))),
      ("value", .string e.value)] ++
    (e.error?.map fun reason => ("error", Json.string reason)).toList

/-- The value on a line of its own, an error value in the style of errors. -/
def toText (theme : Theme) (e : Evaluation) : String :=
  if e.error?.isSome then String.ofList (Text.styled theme.error e.value.toList) else e.value

end Evaluation

namespace EvalCommand

/-- Evaluates on a copy of the namespace. Only an unknown property is a fault. -/
def evaluate (cmd : EvalCommand) (ns : Namespace) : Except Error Evaluation := do
  let p ← ns.property cmd.category cmd.name
  return .ofProperty cmd.category cmd.name (p.updateAttributes (·.setAll cmd.attributes))

def execute (cmd : EvalCommand) (context : Context) : Except CommandError String :=
  match cmd.evaluate context.prototype with
  | .error error => .error (.fault error)
  | .ok evaluation =>
    match cmd.strict, evaluation.error? with
    | true, some reason => .error (.evaluationFailed cmd.category cmd.name reason)
    | _, _ =>
      if cmd.json then .ok (evaluation.toJson.pretty ++ "\n")
      else .ok (evaluation.toText context.theme ++ "\n")

end EvalCommand

/-- Reads an argument `ATTR=VALUE`. The value may be empty and may hold further equals signs. -/
def readAssignment (arg : String) : Except CommandError (String × String) :=
  match Text.splitFirst? '=' arg.toList with
  | some (c :: attr, value) => .ok (String.ofList (c :: attr), String.ofList value)
  | _ => .error (.invalidAssignment arg)

end PropertyMacros
