/-!
Readers that repeat a step.
-/

namespace PropertyMacros.Text

/-- What one step of a repeated reader leads to: another step, or the end. -/
inductive Step (σ : Type) where
  | more (state : σ) (rest : List Char)
  | done (state : σ) (rest : List Char)

/-- Takes steps until the end, at most one for every character of `clock` and a last one. -/
def runSteps {σ : Type} (step : σ → List Char → Option (Step σ)) :
    (clock : List Char) → σ → List Char → Option (σ × List Char)
  | [], state, text =>
    match step state text with
    | some (.done state rest) => some (state, rest)
    | _ => none
  | _ :: clock, state, text =>
    match step state text with
    | none => none
    | some (.done state rest) => some (state, rest)
    | some (.more state rest) => runSteps step clock state rest

/-- Steps until the end. Each step is to read something, so the text itself counts them. -/
def readSteps {σ : Type} (step : σ → List Char → Option (Step σ)) (state : σ) (text : List Char) :
    Option (σ × List Char) :=
  runSteps step text state text

end PropertyMacros.Text
