import PropertyMacros.Proofs.Number.Order
import PropertyMacros.Proofs.Operator.Arithmetic

/-!
Loose equality. A numeral stands for its value, and any other text for itself. The operator `eq`
holds of two texts exactly if they stand for the same, and then no operator with two operands tells
them apart.
-/

namespace PropertyMacros

open Number (Literal)

/-- What a text stands for as an operand. -/
def denotation (text : String) : ℚ ⊕ String :=
  match Number.read? text.toList with
  | some a => .inl a.value
  | none => .inr text

theorem looselyEqual_iff {a b : String} :
    looselyEqual a b = true ↔ denotation a = denotation b := by
  unfold looselyEqual denotation
  cases ha : Number.read? a.toList with
  | some m =>
      cases hb : Number.read? b.toList with
      | some n => simp only [beq_iff_eq, Number.cmp_eq_iff, Sum.inl.injEq]
      | none =>
          simp only [beq_iff_eq, reduceCtorEq, iff_false]
          rintro rfl
          rw [ha] at hb
          cases hb
  | none =>
      cases hb : Number.read? b.toList with
      | some n =>
          simp only [beq_iff_eq, reduceCtorEq, iff_false]
          rintro rfl
          rw [ha] at hb
          cases hb
      | none => simp only [beq_iff_eq, Sum.inr.injEq]

/-- Texts that stand for the same are one text that is no numeral, or numerals of one value. -/
theorem eq_or_literals_of_denotation_eq {a b : String} (h : denotation a = denotation b) :
    (a = b ∧ Number.read? a.toList = none) ∨
      ∃ l m : Literal, a = String.ofList l.text ∧ b = String.ofList m.text ∧
        l.value = m.value := by
  unfold denotation at h
  cases ha : Number.read? a.toList with
  | none =>
      cases hb : Number.read? b.toList with
      | none => exact .inl ⟨by simpa [ha, hb] using h, rfl⟩
      | some n => simp [ha, hb] at h
  | some m =>
      cases hb : Number.read? b.toList with
      | none => simp [ha, hb] at h
      | some n =>
          obtain ⟨l, hl, rfl⟩ := Number.exists_literal_of_read? ha
          obtain ⟨l', hl', rfl⟩ := Number.exists_literal_of_read? hb
          rw [ha, hb, Sum.inl.injEq, l.value_toNumber, l'.value_toNumber] at h
          refine .inr ⟨l, l', ?_, ?_, h⟩
          · rw [hl, String.ofList_toList]
          · rw [hl', String.ofList_toList]

/-- Operands of equal values lead to the same printed result, or to the same error. -/
theorem Arithmetic.map_print_compute_congr (op : Arithmetic) {l l' r r' : Literal}
    (hl : l.value = l'.value) (hr : r.value = r'.value)
    (hbound : op = div → l.text.length < operandBound ∧ r.text.length < operandBound)
    (hbound' : op = div → l'.text.length < operandBound ∧ r'.text.length < operandBound) :
    ((op.compute l.toNumber r.toNumber).map fun c => String.ofList c.print) =
      (op.compute l'.toNumber r'.toNumber).map fun c => String.ofList c.print := by
  by_cases hzero : op = div → r.value ≠ 0
  · have hzero' : op = div → r'.value ≠ 0 := hr ▸ hzero
    obtain ⟨c, hc, hvalue, hscale⟩ := op.exists_compute hbound hzero
    obtain ⟨c', hc', hvalue', hscale'⟩ := op.exists_compute hbound' hzero'
    have hprint : c.print = c'.print := by
      rw [(Number.isPlainText_print hscale).eq_iff (Number.isPlainText_print hscale'), hvalue,
        hvalue', hl, hr]
    rw [hc, hc']
    exact congrArg (Except.ok ∘ String.ofList) hprint
  · push Not at hzero
    obtain ⟨rfl, hr0⟩ := hzero
    have hr0' : r'.value = 0 := hr ▸ hr0
    rw [← r.value_toNumber] at hr0
    rw [← r'.value_toNumber] at hr0'
    rw [compute_div_eq_error hr0, compute_div_eq_error hr0']

theorem toLower_of_isDigit {c : Char} (h : c.isDigit = true) : c.toLower = c := by
  have hupper : ¬(c.val ≥ 'A'.val ∧ c.val ≤ 'Z'.val) := by
    rintro ⟨hle, -⟩
    rw [Char.isDigit, Bool.and_eq_true, decide_eq_true_eq, decide_eq_true_eq] at h
    exact absurd (UInt32.le_trans hle h.2) (by decide)
  exact dif_neg hupper

/-- No numeral is a spelling of `true`. -/
theorem truthOf_text (l : Literal) : truthOf (String.ofList l.text) = false := by
  rw [truthOf, String.toList_ofList, beq_eq_false_iff_ne]
  intro h
  cases htext : l.text with
  | nil => simp [htext] at h
  | cons c rest =>
      rw [htext, List.map_cons, List.cons.injEq] at h
      rcases l.mem_of_head?_text (by rw [htext, List.head?_cons]) with rfl | hc | rfl
      · exact absurd h.1 (by decide)
      · rw [toLower_of_isDigit hc] at h
        rw [h.1] at hc
        exact absurd hc (by decide)
      · exact absurd h.1 (by decide)

namespace Operator

theorem readOperands_text (l r : Literal) :
    readOperands (String.ofList l.text) (String.ofList r.text) =
      .ok (l.toNumber, r.toNumber) := by
  rw [readOperands, String.toList_ofList, String.toList_ofList, Number.read?_text,
    Number.read?_text]

/-- Operands that stand for the same are read with the same error, or as numerals of equal
values. -/
theorem readOperands_congr {a a' b b' : String} (ha : denotation a = denotation a')
    (hb : denotation b = denotation b') :
    (∃ error, readOperands a b = .error error ∧ readOperands a' b' = .error error) ∨
      ∃ l l' r r' : Literal,
        (a = String.ofList l.text ∧ a' = String.ofList l'.text ∧ l.value = l'.value) ∧
        b = String.ofList r.text ∧ b' = String.ofList r'.text ∧ r.value = r'.value := by
  rcases eq_or_literals_of_denotation_eq ha with ⟨rfl, hnone⟩ | ⟨l, l', hl⟩
  · left
    refine ⟨.invalidOperand "op1" a EvalError.aNumber, ?_, ?_⟩ <;> simp only [readOperands, hnone]
  · rcases eq_or_literals_of_denotation_eq hb with ⟨rfl, hnone⟩ | ⟨r, r', hr⟩
    · left
      obtain ⟨rfl, rfl, -⟩ := hl
      refine ⟨.invalidOperand "op2" b EvalError.aNumber, ?_, ?_⟩ <;>
        simp only [readOperands, String.toList_ofList, Number.read?_text, hnone]
    · right
      exact ⟨l, l', r, r', hl, hr⟩

theorem truthOf_congr {a a' : String} (h : denotation a = denotation a') :
    truthOf a = truthOf a' := by
  rcases eq_or_literals_of_denotation_eq h with ⟨rfl, -⟩ | ⟨l, l', rfl, rfl, -⟩
  · rfl
  · rw [truthOf_text, truthOf_text]

section

variable {a a' b b' : String} (ha : denotation a = denotation a')
  (hb : denotation b = denotation b')

include ha hb

theorem looselyEqual_congr : looselyEqual a b = looselyEqual a' b' := by
  rw [Bool.eq_iff_iff, looselyEqual_iff, looselyEqual_iff, ha, hb]

variable {attrs attrs' : Attributes}
  (hleft : attrs.get? "op1" = some a) (hright : attrs.get? "op2" = some b)
  (hleft' : attrs'.get? "op1" = some a') (hright' : attrs'.get? "op2" = some b')

include hleft hright hleft' hright'

theorem comparison_congr_of_denotation (holds : Ordering → Bool) :
    comparison attrs holds = comparison attrs' holds := by
  rw [comparison_eq hleft hright, comparison_eq hleft' hright']
  rcases readOperands_congr ha hb with
    ⟨error, h, h'⟩ | ⟨l, l', r, r', ⟨rfl, rfl, hl⟩, rfl, rfl, hr⟩
  · rw [h, h']
  · have hcmp : l.toNumber.cmp r.toNumber = l'.toNumber.cmp r'.toNumber := by
      simp only [Number.cmp_eq_compare_value, Literal.value_toNumber, hl, hr]
    rw [readOperands_text, readOperands_text]
    exact congrArg (fun order => Except.ok (boolText (holds order))) hcmp

theorem arithmetic_congr_of_denotation (op : Arithmetic)
    (hbound : op = .div → a.length < Arithmetic.operandBound ∧ b.length < Arithmetic.operandBound)
    (hbound' : op = .div →
      a'.length < Arithmetic.operandBound ∧ b'.length < Arithmetic.operandBound) :
    arithmetic attrs op.compute = arithmetic attrs' op.compute := by
  rw [arithmetic_eq hleft hright, arithmetic_eq hleft' hright']
  rcases readOperands_congr ha hb with
    ⟨error, h, h'⟩ | ⟨l, l', r, r', ⟨rfl, rfl, hl⟩, rfl, rfl, hr⟩
  · rw [h, h']
  · rw [readOperands_text, readOperands_text]
    rw [String.length_ofList, String.length_ofList] at hbound hbound'
    exact op.map_print_compute_congr hl hr hbound hbound'

/-- An operator with two operands depends on nothing but what these stand for. -/
theorem evaluate_congr_of_denotation {op : Operator} (hop : op.schema = binarySchema)
    (hbound : op = div → a.length < Arithmetic.operandBound ∧ b.length < Arithmetic.operandBound)
    (hbound' : op = div →
      a'.length < Arithmetic.operandBound ∧ b'.length < Arithmetic.operandBound) :
    op.evaluate attrs = op.evaluate attrs' := by
  have harithmetic (op : Arithmetic) :=
    arithmetic_congr_of_denotation ha hb hleft hright hleft' hright' op
  cases op with
  | add => exact harithmetic .add (by simp) (by simp)
  | sub => exact harithmetic .sub (by simp) (by simp)
  | mul => exact harithmetic .mul (by simp) (by simp)
  | div => exact harithmetic .div (fun _ => hbound rfl) (fun _ => hbound' rfl)
  | gt | gte | lt | lte =>
      exact comparison_congr_of_denotation ha hb hleft hright hleft' hright' _
  | eq | neq =>
      simp only [evaluate, equality_eq hleft hright, equality_eq hleft' hright',
        looselyEqual_congr ha hb]
  | and | or =>
      simp only [evaluate, connective_eq hleft hright, connective_eq hleft' hright',
        truthOf_congr ha, truthOf_congr hb]
  | not | strLen | count | ifThenElse | replaceString | sublist | changeSeparator
  | pathSeparator | fileSeparator | lineSeparator | osName | osArch =>
      exact absurd hop (by decide)

end

/-- The operator `eq` says of two texts that they are equal. -/
def IsEqual (state : Attributes) (a b : String) : Prop :=
  (eq.onOperands state a b).evaluate = .ok "true"

theorem evaluate_eq (state : Attributes) (a b : String) :
    (eq.onOperands state a b).evaluate = .ok (boolText (looselyEqual a b)) := by
  obtain ⟨hleft, hright⟩ := get?_onOperands eq state a b
  rw [evaluate_onOperands rfl, evaluate, equality_eq hleft hright]
  rfl

theorem evaluate_neq (state : Attributes) (a b : String) :
    (neq.onOperands state a b).evaluate = .ok (boolText (!looselyEqual a b)) := by
  obtain ⟨hleft, hright⟩ := get?_onOperands neq state a b
  rw [evaluate_onOperands rfl, evaluate, equality_eq hleft hright]
  rfl

theorem isEqual_iff {state : Attributes} {a b : String} :
    IsEqual state a b ↔ denotation a = denotation b := by
  rw [IsEqual, evaluate_eq, ← looselyEqual_iff]
  cases looselyEqual a b <;> simp [boolText]

/-- Equality is an equivalence of texts with `neq` for its complement, and a congruence of every
operator with two operands: its result, be it a value or an error, is the same for equal operands.
The operands of a division have to be short enough for it. -/
theorem isEqual_equivalence_congr (state : Attributes) :
    Equivalence (IsEqual state) ∧
    (∀ a b, (IsEqual state a b ∧ (neq.onOperands state a b).evaluate = .ok "false") ∨
      ((eq.onOperands state a b).evaluate = .ok "false" ∧
        (neq.onOperands state a b).evaluate = .ok "true")) ∧
    ∀ op : Operator, op.schema = binarySchema →
      ∀ a a' b b', IsEqual state a a' → IsEqual state b b' →
        (op = div → ∀ text ∈ [a, a', b, b'], text.length < Arithmetic.operandBound) →
          ∀ state₁ state₂,
            (op.onOperands state₁ a b).evaluate = (op.onOperands state₂ a' b').evaluate := by
  refine ⟨⟨?_, ?_, ?_⟩, ?_, ?_⟩
  · intro a
    exact isEqual_iff.mpr rfl
  · intro a b h
    exact isEqual_iff.mpr (isEqual_iff.mp h).symm
  · intro a b c hab hbc
    exact isEqual_iff.mpr ((isEqual_iff.mp hab).trans (isEqual_iff.mp hbc))
  · intro a b
    rw [IsEqual, evaluate_eq, evaluate_neq]
    cases looselyEqual a b
    · exact .inr ⟨rfl, rfl⟩
    · exact .inl ⟨rfl, rfl⟩
  · intro op hop a a' b b' ha hb hbound state₁ state₂
    obtain ⟨hleft, hright⟩ := get?_onOperands op state₁ a b
    obtain ⟨hleft', hright'⟩ := get?_onOperands op state₂ a' b'
    rw [evaluate_onOperands hop, evaluate_onOperands hop]
    apply evaluate_congr_of_denotation (isEqual_iff.mp ha) (isEqual_iff.mp hb) hleft hright
      hleft' hright' hop
    · intro hdiv
      exact ⟨hbound hdiv a (by simp), hbound hdiv b (by simp)⟩
    · intro hdiv
      exact ⟨hbound hdiv a' (by simp), hbound hdiv b' (by simp)⟩

/-- A division of `2` in four spellings, and one by a text that is no numeral. -/
theorem isEqual_equivalence_congr_two :
    IsEqual .empty "2" "02.00" ∧ IsEqual .empty "-0.5" "-.50" ∧ IsEqual .empty "x" "x" ∧
      (div.onOperands .empty "2" "-0.5").evaluate =
        (div.onOperands .empty "02.00" "-.50").evaluate ∧
      (div.onOperands .empty "2" "-0.5").evaluate = .ok "-4" ∧
      (lt.onOperands .empty "2" "x").evaluate = (lt.onOperands .empty "02.00" "x").evaluate ∧
      (lt.onOperands .empty "2" "x").evaluate =
        .error (.invalidOperand "op2" "x" EvalError.aNumber) := by
  have htwo : IsEqual .empty "2" "02.00" := by
    rw [IsEqual, evaluate_eq]
    decide
  have hhalf : IsEqual .empty "-0.5" "-.50" := by
    rw [IsEqual, evaluate_eq]
    decide
  have hx : IsEqual .empty "x" "x" := (isEqual_equivalence_congr .empty).1.refl "x"
  have hcongr := (isEqual_equivalence_congr .empty).2.2
  refine ⟨htwo, hhalf, hx, ?_, by decide, ?_, by decide⟩
  · exact hcongr div rfl _ _ _ _ htwo hhalf (fun _ => by decide) _ _
  · exact hcongr lt rfl _ _ _ _ htwo hx (by simp) _ _

end Operator

end PropertyMacros
