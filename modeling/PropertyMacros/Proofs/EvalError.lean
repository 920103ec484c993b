import PropertyMacros.EvalError

/-!
The texts of failed evaluations, which tell the kinds of failures apart.
-/

namespace PropertyMacros.EvalError

theorem head?_toList_append {s : String} {c : Char} (h : s.toList.head? = some c) (t : String) :
    (s ++ t).toList.head? = some c := by
  rw [String.toList_append, List.head?_append, h, Option.some_or]

theorem head?_message (error : EvalError) :
    error.message.toList.head? =
      match error with
      | missingAttributes _ => some 'm'
      | invalidOperand .. => some 'i'
      | divisionByZero => some 'd' := by
  cases error with
  | missingAttributes names => exact head?_toList_append rfl _
  | invalidOperand name value expected =>
      unfold message
      iterate 5 apply head?_toList_append
      rfl
  | divisionByZero => rfl

theorem exists_eq_missingAttributes_of_message_eq {error : EvalError} {names : List String}
    (h : error.message = (missingAttributes names).message) :
    ∃ names', error = missingAttributes names' := by
  have hhead := congrArg (·.toList.head?) h
  simp only [head?_message] at hhead
  cases error with
  | missingAttributes names' => exact ⟨names', rfl⟩
  | invalidOperand name value expected => cases hhead
  | divisionByZero => cases hhead

end PropertyMacros.EvalError
