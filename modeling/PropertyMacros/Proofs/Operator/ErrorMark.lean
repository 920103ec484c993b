import PropertyMacros.Proofs.Number.Printing
import PropertyMacros.Proofs.Operator.Positions

/-!
Errors among values. The text of an error begins with a parenthesis and the name of the operator.
Nothing that is computed begins like this, whatever stands in the attributes, so only an operator
that hands texts on can come to such a value without failing.
-/

namespace PropertyMacros

/-! ## What is computed -/

/-- The value, if there is one, does not begin with a parenthesis. -/
def Unmarked (result : Except EvalError String) : Prop :=
  ∀ value, result = .ok value → value.toList.head? ≠ some '('

namespace Unmarked

theorem ok {value : String} (h : value.toList.head? ≠ some '(') : Unmarked (.ok value) := by
  rintro _ ⟨⟩
  exact h

theorem bind {α : Type} {x : Except EvalError α} {f : α → Except EvalError String}
    (h : ∀ a, Unmarked (f a)) : Unmarked (x >>= f) := by
  cases x with
  | ok a => exact h a
  | error reason => rintro _ ⟨⟩

theorem print (a : Number) : Unmarked (.ok (String.ofList a.print)) := by
  apply ok
  rw [String.toList_ofList]
  exact fun h => a.parenthesis_notMem_print (List.mem_of_head? h)

theorem boolText (value : Bool) : Unmarked (.ok (boolText value)) := by
  apply ok
  cases value <;> decide

theorem digitsOf (n : ℕ) : Unmarked (.ok (String.ofList (digitsOf n))) := by
  apply ok
  rw [String.toList_ofList]
  intro h
  exact absurd (isDigit_of_mem_digitsOf (List.mem_of_head? h)) (by decide)

end Unmarked

namespace Operator

/-- The operators that pass a text through, or put one together from parts of texts. -/
def textual : List Operator := [ifThenElse, replaceString, sublist, changeSeparator]

theorem unmarked_countElements (attrs : Attributes) : Unmarked (countElements attrs) := by
  refine .bind fun list => ?_
  split
  · exact .ok (by decide)
  · exact .bind fun sep => .digitsOf _

theorem unmarked_evaluate {op : Operator} (h : op ∉ textual) (attrs : Attributes) :
    Unmarked (op.evaluate attrs) := by
  cases op with
  | add | sub | mul | div => exact .bind fun a => .bind fun b => .bind fun c => .print c
  | gt | gte | lt | lte => exact .bind fun a => .bind fun b => .boolText _
  | eq | neq => exact .bind fun equal => .boolText _
  | not => exact .bind fun value => .boolText _
  | and | or => exact .bind fun a => .bind fun b => .boolText _
  | strLen => exact .bind fun text => .digitsOf _
  | count => exact unmarked_countElements attrs
  | ifThenElse | replaceString | sublist | changeSeparator => exact absurd (by decide) h
  | pathSeparator | fileSeparator | lineSeparator | osName | osArch => exact .ok (by decide)

/-! ## What is handed on -/

/-- The text that a textual operator passes through or puts together: the branch that a condition
selects, new separators between the pieces around the old ones, or the elements in a window. -/
inductive Assembles (attrs : Attributes) : Operator → List Char → Prop where
  | branch {cond text : String} (hcond : attrs.get? "cond" = some cond)
      (htext : attrs.get? (branch cond) = some text) : Assembles attrs ifThenElse text.toList
  | replaced {text old new : String} {row : List (List Char)}
      (h : attrs.Holds [("text", text), ("old", old), ("new", new)])
      (hrow : Elements.Separated old.toList row)
      (hjoin : old.toList.intercalate row = text.toList) :
      Assembles attrs replaceString (new.toList.intercalate row)
  | windowed {list index number sep : String} {i n : ℕ}
      (h : attrs.Holds [("list", list), ("index", index), ("count", number), ("sep", sep)])
      (hi : IsPosition i index) (hn : IsPosition n number) :
      Assembles attrs sublist
        (sep.toList.intercalate (Elements.elementsAt sep.toList i n list.toList))
  | reseparated {list old new : String} {row : List (List Char)}
      (h : attrs.Holds [("list", list), ("old", old), ("new", new)])
      (hrow : Elements.Separated old.toList row)
      (hjoin : old.toList.intercalate row = list.toList) :
      Assembles attrs changeSeparator (new.toList.intercalate row)

theorem window_eq_ok_iff {attrs : Attributes} {list index number sep value : String}
    (h : attrs.Holds [("list", list), ("index", index), ("count", number), ("sep", sep)]) :
    window attrs = .ok value ↔ sep ≠ "" ∧ ∃ i n, IsPosition i index ∧ IsPosition n number ∧
      value.toList = sep.toList.intercalate (Elements.elementsAt sep.toList i n list.toList) := by
  by_cases hsep : sep = ""
  · subst hsep
    have herror : window attrs = .error (.invalidOperand "sep" "" EvalError.aNonEmptyText) := by
      rw [window, Attributes.nonEmpty_eq (h ("sep", "") (by simp))]
      rfl
    simp [herror]
  have hposition (n : ℕ) (text : String) : IsPosition n text ↔ readIndex? text.toList = some n :=
    readIndex?_eq_some_iff.symm
  rw [window_eq h hsep]
  simp only [hposition, ← Elements.sublist_eq_intercalate_elementsAt]
  cases readIndex? index.toList with
  | none => simp
  | some i =>
      cases readIndex? number.toList with
      | none => simp
      | some n => simp [hsep, ← String.toList_inj, eq_comm]

/-- A value of a textual operator is the text that has been assembled. -/
theorem toList_eq_of_assembles {op : Operator} {attrs : Attributes} {text : List Char}
    (h : op.Assembles attrs text) {value : String} (hvalue : op.evaluate attrs = .ok value) :
    value.toList = text := by
  cases h with
  | branch hcond htext =>
      have heval := (choose_eq_require hcond).trans (Attributes.require_eq htext)
      exact congrArg String.toList (Except.ok.inj (hvalue.symm.trans heval))
  | replaced h hrow hjoin =>
      have heval := (replaceAll_eq h).symm.trans hvalue
      split at heval
      · cases heval
      · next hold =>
        rw [← Except.ok.inj heval, String.toList_ofList, ← hjoin,
          Elements.replace_intercalate hold hrow]
  | windowed h hi hn =>
      obtain ⟨-, i, n, hi', hn', htext⟩ := (window_eq_ok_iff h).mp hvalue
      rw [htext, hi'.1.unique hi.1, hn'.1.unique hn.1]
  | reseparated h hrow hjoin =>
      have heval := (reseparate_eq h).symm.trans hvalue
      split at heval
      · cases heval
      · next hold =>
        rw [← Except.ok.inj heval, String.toList_ofList,
          Elements.changeSeparator_eq_replace hold, ← hjoin,
          Elements.replace_intercalate hold hrow]

theorem exists_assembles {op : Operator} (hop : op ∈ textual) {attrs : Attributes}
    (hr : attrs.Resolves op.schema.names) {value : String}
    (hvalue : op.evaluate attrs = .ok value) : ∃ text, op.Assembles attrs text := by
  simp only [textual, List.mem_cons, List.not_mem_nil, or_false] at hop
  rcases hop with rfl | rfl | rfl | rfl
  · obtain ⟨cond, hcond⟩ := hr "cond" (by decide)
    obtain ⟨text, htext⟩ := hr (branch cond) (by unfold branch; split <;> decide)
    exact ⟨_, .branch hcond htext⟩
  · obtain ⟨text, htext⟩ := hr "text" (by decide)
    obtain ⟨old, hold⟩ := hr "old" (by decide)
    obtain ⟨new, hnew⟩ := hr "new" (by decide)
    have h : attrs.Holds [("text", text), ("old", old), ("new", new)] := by
      simp [Attributes.Holds, htext, hold, hnew]
    have heval := (replaceAll_eq h).symm.trans hvalue
    split at heval
    · cases heval
    · next hne =>
      obtain ⟨row, hrow, hjoin⟩ := Elements.exists_separated hne text.toList
      exact ⟨_, .replaced h hrow hjoin⟩
  · obtain ⟨list, hlist⟩ := hr "list" (by decide)
    obtain ⟨index, hindex⟩ := hr "index" (by decide)
    obtain ⟨number, hnumber⟩ := hr "count" (by decide)
    obtain ⟨sep, hsep⟩ := hr "sep" (by decide)
    have h : attrs.Holds
        [("list", list), ("index", index), ("count", number), ("sep", sep)] := by
      simp [Attributes.Holds, hlist, hindex, hnumber, hsep]
    obtain ⟨-, i, n, hi, hn, -⟩ := (window_eq_ok_iff h).mp hvalue
    exact ⟨_, .windowed h hi hn⟩
  · obtain ⟨list, hlist⟩ := hr "list" (by decide)
    obtain ⟨old, hold⟩ := hr "old" (by decide)
    obtain ⟨new, hnew⟩ := hr "new" (by decide)
    have h : attrs.Holds [("list", list), ("old", old), ("new", new)] := by
      simp [Attributes.Holds, hlist, hold, hnew]
    have heval := (reseparate_eq h).symm.trans hvalue
    split at heval
    · cases heval
    · next hne =>
      obtain ⟨row, hrow, hjoin⟩ := Elements.exists_separated hne list.toList
      exact ⟨_, .reseparated h hrow hjoin⟩

/-! ## The mark -/

/-- How the text of an error of the operator begins. -/
def errorMark (op : Operator) : List Char := ("(" ++ op.name ++ " Error").toList

theorem head?_of_errorMark_isPrefix {op : Operator} {text : List Char}
    (h : op.errorMark <+: text) : text.head? = some '(' := by
  obtain ⟨rest, rfl⟩ := h
  rw [errorMark, String.toList_append, String.toList_append]
  rfl

end Operator

namespace Property

theorem isComplete_of_evaluate_eq_ok {p : Property} {value : String}
    (h : p.evaluate = .ok value) : p.isComplete = true := by
  rw [isComplete, List.isEmpty_iff]
  unfold evaluate at h
  cases hmissing : p.missing with
  | nil => rfl
  | cons name names =>
      rw [hmissing] at h
      cases h

theorem errorMark_isPrefix_of_evaluate_eq_error {p : Property} {reason : EvalError}
    (h : p.evaluate = .error reason) : p.operator.errorMark <+: p.current.toList := by
  rw [current, h]
  have hcolon : " Error: " = " Error" ++ ": " := rfl
  refine ⟨(": " ++ reason.message ++ ")").toList, ?_⟩
  simp only [Operator.errorMark, EvalError.render, name, hcolon, ← String.toList_append,
    String.append_assoc]

/-- An error is told by its mark. A value bears the mark only if the operator hands texts on, and
then the text that it has passed through or put together bears it. -/
theorem errorMark_isPrefix_current_iff (p : Property) :
    (∀ reason, p.evaluate = .error reason →
      p.current = "(" ++ p.operator.name ++ " Error: " ++ reason.message ++ ")") ∧
    (p.operator ∉ Operator.textual →
      (p.operator.errorMark <+: p.current.toList ↔ ∃ reason, p.evaluate = .error reason)) ∧
    (p.operator ∈ Operator.textual → ∀ value, p.evaluate = .ok value →
      (∃ text, p.operator.Assembles p.attributes text) ∧
      ∀ text, p.operator.Assembles p.attributes text →
        (p.operator.errorMark <+: value.toList ↔ p.operator.errorMark <+: text)) := by
  refine ⟨?_, ?_, ?_⟩
  · intro reason h
    rw [current, h]
    rfl
  · intro hop
    constructor
    · intro hmark
      cases heval : p.evaluate with
      | error reason => exact ⟨reason, rfl⟩
      | ok value =>
          rw [current, heval] at hmark
          rw [evaluate_of_isComplete (isComplete_of_evaluate_eq_ok heval)] at heval
          exact absurd (Operator.head?_of_errorMark_isPrefix hmark)
            (Operator.unmarked_evaluate hop _ value heval)
    · rintro ⟨reason, h⟩
      exact errorMark_isPrefix_of_evaluate_eq_error h
  · intro hop value heval
    have hcomplete := isComplete_of_evaluate_eq_ok heval
    rw [evaluate_of_isComplete hcomplete] at heval
    refine ⟨Operator.exists_assembles hop (resolves_of_isComplete hcomplete) heval, ?_⟩
    intro text htext
    rw [Operator.toList_eq_of_assembles htext heval]

/-- Two operands that are the same text of an error, an addition to such a text, and a replacement
that puts one together. -/
theorem errorMark_isPrefix_current_iff_nested :
    let equal := Operator.eq.onOperands .empty "(eq Error: x)" "(eq Error: x)"
    let sum := Operator.add.onOperands .empty "1" "(add Error: x)"
    let forged : Property := ⟨.replaceString,
      Attributes.empty.setAll [("text", "ab"), ("old", "a"), ("new", "(replace.string Error")]⟩
    equal.evaluate = .ok "true" ∧ ¬Operator.eq.errorMark <+: equal.current.toList ∧
      sum.evaluate = .error (.invalidOperand "op2" "(add Error: x)" "a number") ∧
      sum.current = "(add Error: " ++
        (EvalError.invalidOperand "op2" "(add Error: x)" "a number").message ++ ")" ∧
      Operator.add.errorMark <+: sum.current.toList ∧
      forged.evaluate = .ok "(replace.string Errorb" ∧
      ∃ text, Operator.replaceString.Assembles forged.attributes text ∧
        Operator.replaceString.errorMark <+: text := by
  intro equal sum forged
  have hequal : equal.evaluate = .ok "true" := by decide
  have hsum : sum.evaluate = .error (.invalidOperand "op2" "(add Error: x)" "a number") := by
    decide
  have hforged : forged.evaluate = .ok "(replace.string Errorb" := by decide
  obtain ⟨-, hvalue, -⟩ := errorMark_isPrefix_current_iff equal
  obtain ⟨hreason, herror, -⟩ := errorMark_isPrefix_current_iff sum
  obtain ⟨-, -, htextual⟩ := errorMark_isPrefix_current_iff forged
  obtain ⟨⟨text, htext⟩, hmark⟩ := htextual (by decide) _ hforged
  refine ⟨hequal, ?_, hsum, hreason _ hsum, (herror (by decide)).mpr ⟨_, hsum⟩, hforged, text,
    htext, (hmark text htext).mp ⟨['b'], by decide⟩⟩
  intro hprefixed
  obtain ⟨reason, herror⟩ := (hvalue (by decide)).mp hprefixed
  rw [hequal] at herror
  cases herror

end Property

end PropertyMacros
