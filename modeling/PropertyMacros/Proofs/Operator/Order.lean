import PropertyMacros.Proofs.Number.Printing
import PropertyMacros.Proofs.Operator.Equality

/-!
The operators that compare two numbers. They follow the order of the values, and so does the sign of
the difference.
-/

namespace PropertyMacros

open Number (Literal)

theorem IsPlainText.head?_eq_minus_iff {text : List Char} {q : ℚ} (h : IsPlainText text q) :
    text.head? = some '-' ↔ q < 0 := by
  obtain ⟨l, hl, rfl, rfl⟩ := h
  rw [l.head?_text_eq_minus_iff, hl.negative_iff]

/-- The operators that compare two numbers. -/
inductive Relation where
  | gt
  | gte
  | lt
  | lte
  | eq
  deriving DecidableEq, Repr

namespace Relation

/-- The operator of the catalog. -/
def operator : Relation → Operator
  | gt => .gt
  | gte => .gte
  | lt => .lt
  | lte => .lte
  | eq => .eq

/-- The orders of two numbers in which they are related. -/
def holds : Relation → Ordering → Bool
  | gt => Ordering.isGT
  | gte => Ordering.isGE
  | lt => Ordering.isLT
  | lte => Ordering.isLE
  | eq => Ordering.isEq

/-- The relation of the operands in the other order. -/
def converse : Relation → Relation
  | gt => lt
  | gte => lte
  | lt => gt
  | lte => gte
  | eq => eq

theorem holds_converse (rel : Relation) (order : Ordering) :
    rel.converse.holds order = rel.holds order.swap := by
  cases rel <;> cases order <;> rfl

theorem schema_operator (rel : Relation) : rel.operator.schema = Operator.binarySchema := by
  cases rel <;> rfl

theorem evaluate_operator {rel : Relation} {attrs : Attributes} {left right : String}
    {a b : Number} (hleft : attrs.get? "op1" = some left) (hright : attrs.get? "op2" = some right)
    (ha : Number.read? left.toList = some a) (hb : Number.read? right.toList = some b) :
    rel.operator.evaluate attrs = .ok (boolText (rel.holds (a.cmp b))) := by
  have hcomparison (holds : Ordering → Bool) :
      Operator.comparison attrs holds = .ok (boolText (holds (a.cmp b))) := by
    rw [Operator.comparison_eq hleft hright, Operator.readOperands, ha, hb]
    rfl
  have hequality : Operator.equality attrs = .ok (a.cmp b).isEq := by
    rw [Operator.equality_eq hleft hright, looselyEqual, ha, hb]
    dsimp only
    cases a.cmp b <;> rfl
  cases rel with
  | gt | gte | lt | lte => exact hcomparison _
  | eq =>
      change (Operator.equality attrs).map boolText = _
      rw [hequality]
      rfl

/-- What the operator says of two texts, be it a truth value or an error. -/
def result (rel : Relation) (state : Attributes) (left right : String) : Except EvalError String :=
  (rel.operator.onOperands state left right).evaluate

def Holds (rel : Relation) (state : Attributes) (left right : String) : Prop :=
  rel.result state left right = .ok "true"

def Fails (rel : Relation) (state : Attributes) (left right : String) : Prop :=
  rel.result state left right = .ok "false"

section

variable {rel : Relation} {state : Attributes} {left right : String} {a b : Number}
  (ha : Number.parse left = .ok a) (hb : Number.parse right = .ok b)

include ha hb

/-- What is said of two numerals depends on the order of the numbers. -/
theorem result_eq : rel.result state left right = .ok (boolText (rel.holds (a.cmp b))) := by
  obtain ⟨hleft, hright⟩ := rel.operator.get?_onOperands state left right
  rw [result, Operator.evaluate_onOperands rel.schema_operator]
  exact evaluate_operator hleft hright (Number.parse_eq_ok_iff_read?.mp ha)
    (Number.parse_eq_ok_iff_read?.mp hb)

theorem holds_iff : rel.Holds state left right ↔ rel.holds (a.cmp b) = true := by
  rw [Holds, result_eq ha hb]
  cases rel.holds (a.cmp b) <;> simp [boolText]

theorem fails_iff : rel.Fails state left right ↔ rel.holds (a.cmp b) = false := by
  rw [Fails, result_eq ha hb]
  cases rel.holds (a.cmp b) <;> simp [boolText]

theorem eq_holds_iff : eq.Holds state left right ↔ a.value = b.value := by
  rw [holds_iff ha hb, holds, Ordering.isEq_iff_eq_eq, Number.cmp_eq_iff]

theorem lt_holds_iff : lt.Holds state left right ↔ a.value < b.value := by
  rw [holds_iff ha hb, holds, Ordering.isLT_iff_eq_lt, Number.cmp_eq_compare_value,
    compare_lt_iff_lt]

theorem gt_holds_iff : gt.Holds state left right ↔ b.value < a.value := by
  rw [holds_iff ha hb, holds, Ordering.isGT_iff_eq_gt, Number.cmp_eq_compare_value,
    compare_gt_iff_gt]

variable (state) in
/-- The difference is printed in plain notation, and is a number again. -/
theorem exists_difference :
    ∃ text c, (Operator.sub.onOperands state left right).evaluate = .ok text ∧
      Number.parse text = .ok c ∧ IsPlainText text.toList (a.value - b.value) ∧
      c.value = a.value - b.value := by
  obtain ⟨l, hl, rfl⟩ := Number.parse_eq_ok_iff.mp ha
  obtain ⟨r, hr, rfl⟩ := Number.parse_eq_ok_iff.mp hb
  obtain ⟨text, heval, hplain⟩ :=
    Arithmetic.sub.evaluate_property_literals state (l := l) (r := r) (by simp) (by simp)
  rw [hl, hr, String.ofList_toList, String.ofList_toList] at heval
  obtain ⟨c, hparse, hvalue, -⟩ := hplain.exists_parse
  rw [String.ofList_toList] at hparse
  rw [l.value_toNumber, r.value_toNumber]
  exact ⟨text, c, heval, hparse, hplain, hvalue⟩

end

/-- One of two operators says `true` and the other one `false`. -/
def AreComplementary (rel rel' : Relation) (state : Attributes) (left right : String) : Prop :=
  (rel.Holds state left right ∧ rel'.Fails state left right) ∨
    (rel.Fails state left right ∧ rel'.Holds state left right)

theorem areComplementary_of_holds {rel rel' : Relation} {state : Attributes}
    {left right : String} {a b : Number} (ha : Number.parse left = .ok a)
    (hb : Number.parse right = .ok b) (h : ∀ order, rel'.holds order = !rel.holds order) :
    AreComplementary rel rel' state left right := by
  unfold AreComplementary
  rw [holds_iff ha hb, fails_iff ha hb, holds_iff ha hb, fails_iff ha hb, h]
  cases rel.holds (a.cmp b)
  · exact .inr ⟨rfl, rfl⟩
  · exact .inl ⟨rfl, rfl⟩

/-- What the operators say of two texts fits together, and fits the sign of the difference. -/
structure IsOrdering (state : Attributes) (left right : String) : Prop where
  trichotomy :
    (gt.Holds state left right ∧ lt.Fails state left right ∧ eq.Fails state left right) ∨
    (gt.Fails state left right ∧ lt.Holds state left right ∧ eq.Fails state left right) ∨
    (gt.Fails state left right ∧ lt.Fails state left right ∧ eq.Holds state left right)
  gte_lt : AreComplementary gte lt state left right
  lte_gt : AreComplementary lte gt state left right
  swap : ∀ rel : Relation, rel.result state right left = rel.converse.result state left right
  difference : ∃ text c, (Operator.sub.onOperands state left right).evaluate = .ok text ∧
    Number.parse text = .ok c ∧
    (text = "0" ↔ eq.Holds state left right) ∧
    (text.toList.head? = some '-' ↔ lt.Holds state left right) ∧
    (0 < c.value ↔ gt.Holds state left right)

theorem isOrdering_of_parse (state : Attributes) {left right : String} {a b : Number}
    (ha : Number.parse left = .ok a) (hb : Number.parse right = .ok b) :
    IsOrdering state left right where
  trichotomy := by
    simp only [holds_iff ha hb, fails_iff ha hb]
    cases a.cmp b <;> simp [holds]
  gte_lt := areComplementary_of_holds ha hb fun order => by cases order <;> rfl
  lte_gt := areComplementary_of_holds ha hb fun order => by cases order <;> rfl
  swap := by
    intro rel
    rw [result_eq hb ha, result_eq ha hb, holds_converse, Number.cmp_swap]
  difference := by
    obtain ⟨text, c, heval, hparse, hplain, hvalue⟩ := exists_difference state ha hb
    refine ⟨text, c, heval, hparse, ?_, ?_, ?_⟩
    · rw [eq_holds_iff ha hb, ← sub_eq_zero (a := a.value), ← hplain.eq_iff isPlainText_zero]
      exact String.toList_inj.symm
    · rw [lt_holds_iff ha hb, ← sub_neg, hplain.head?_eq_minus_iff]
    · rw [gt_holds_iff ha hb, hvalue, sub_pos]

end Relation

namespace Number

/-- Numbers are ordered by their values, across the domains and the scales, and the operators follow
that order on all numerals. -/
theorem cmp_isOrdering :
    (∀ a b : Number, a.cmp b = compare a.value b.value) ∧
    (∀ a b : Number, b.cmp a = (a.cmp b).swap) ∧
    (∀ a b : Number, a.cmp b = .eq ↔ a.value = b.value) ∧
    (∀ a b c : Number, (a.cmp b).isLE = true → (b.cmp c).isLE = true → (a.cmp c).isLE = true) ∧
    ∀ (state : Attributes) (left right : String) (a b : Number),
      parse left = .ok a → parse right = .ok b →
        (∀ rel : Relation,
          rel.result state left right = .ok (boolText (rel.holds (a.cmp b)))) ∧
        Relation.IsOrdering state left right := by
  refine ⟨cmp_eq_compare_value, cmp_swap, ?_, ?_, ?_⟩
  · intro a b
    exact cmp_eq_iff
  · intro a b c hab hbc
    exact isLE_cmp_trans hab hbc
  · intro state left right a b ha hb
    exact ⟨fun rel => Relation.result_eq ha hb, Relation.isOrdering_of_parse state ha hb⟩

/-- Three numbers of both domains, two of them equal, and the operators on numerals of theirs. -/
theorem cmp_isOrdering_mixed :
    ((integer 2).cmp (decimal ⟨200, 2⟩)).isLE = true ∧
      ((decimal ⟨200, 2⟩).cmp (decimal ⟨3, -1⟩)).isLE = true ∧
      ((integer 2).cmp (decimal ⟨3, -1⟩)).isLE = true ∧
      parse "-.50" = .ok (decimal ⟨-50, 2⟩) ∧ parse "-1" = .ok (integer (-1)) ∧
      Relation.IsOrdering .empty "-.50" "-1" ∧
      (Operator.sub.onOperands .empty "-.50" "-1").evaluate = .ok "0.5" ∧
      Relation.lte.result .empty "-1" "-.50" = .ok "true" := by
  obtain ⟨-, -, -, htrans, hordering⟩ := cmp_isOrdering
  have hhalf : parse "-.50" = .ok (decimal ⟨-50, 2⟩) := by decide
  have hone : parse "-1" = .ok (integer (-1)) := by decide
  obtain ⟨-, hmixed⟩ := hordering .empty _ _ _ _ hhalf hone
  refine ⟨by decide, by decide, ?_, hhalf, hone, hmixed, by decide, ?_⟩
  · exact htrans _ (decimal ⟨200, 2⟩) _ (by decide) (by decide)
  · obtain ⟨hresult, -⟩ := hordering .empty _ _ _ _ hone hhalf
    exact hresult .lte

end Number

end PropertyMacros
