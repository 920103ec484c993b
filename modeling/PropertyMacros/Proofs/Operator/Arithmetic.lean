import PropertyMacros.Proofs.Number.Plain
import PropertyMacros.Proofs.Operator.Operands

/-!
The four arithmetic operators: what a property with such an operator makes of the texts of its
operands.
-/

namespace PropertyMacros

open Number (Literal)

/-- The operators that compute a number from two numbers. -/
inductive Arithmetic where
  | add
  | sub
  | mul
  | div
  deriving DecidableEq, Repr

namespace Arithmetic

/-- The operator of the catalog. -/
def operator : Arithmetic → Operator
  | add => .add
  | sub => .sub
  | mul => .mul
  | div => .div

/-- What the operator computes, or the reason why there is no result. -/
def compute : Arithmetic → Number → Number → Except EvalError Number
  | add, a, b => .ok (a.add b)
  | sub, a, b => .ok (a.sub b)
  | mul, a, b => .ok (a.mul b)
  | div, a, b => Operator.quotient a b

/-- The operator on rational numbers: exact, apart from the last place of a quotient. -/
def apply : Arithmetic → ℚ → ℚ → ℚ
  | add, p, q => p + q
  | sub, p, q => p - q
  | mul, p, q => p * q
  | div, p, q => roundHalfAway 32 (p / q)

/-- A property with the operator, in which only the operands are certain. -/
def property (op : Arithmetic) (state : Attributes) (left right : String) : Property :=
  ((⟨op.operator, state⟩ : Property).setAttribute "op1" left).setAttribute "op2" right

theorem evaluate_operator (op : Arithmetic) (attrs : Attributes) :
    op.operator.evaluate attrs = Operator.arithmetic attrs op.compute := by
  cases op <;> rfl

theorem schema_operator (op : Arithmetic) : op.operator.schema = Operator.binarySchema := by
  cases op <;> rfl

/-- The first operand that is not a number decides the error. -/
theorem evaluate_property (op : Arithmetic) (state : Attributes) (left right : String) :
    (op.property state left right).evaluate =
      match Number.read? left.toList, Number.read? right.toList with
      | some a, some b => (op.compute a b).map fun c => String.ofList c.print
      | some _, none => .error (.invalidOperand "op2" right EvalError.aNumber)
      | none, _ => .error (.invalidOperand "op1" left EvalError.aNumber) := by
  obtain ⟨hleft, hright⟩ := op.operator.get?_onOperands state left right
  change (op.operator.onOperands state left right).evaluate = _
  rw [Operator.evaluate_onOperands op.schema_operator, evaluate_operator,
    Operator.arithmetic_eq hleft hright, Operator.readOperands]
  cases Number.read? left.toList with
  | none => rfl
  | some a => cases Number.read? right.toList <;> rfl

/-- The number of characters below which operands of a division keep its powers of ten exact. -/
def operandBound : ℕ := 2 ^ 32 - 33

theorem exists_quotient {l r : Literal} (hl : l.text.length < operandBound)
    (hr : r.text.length < operandBound) (hzero : r.value ≠ 0) :
    ∃ c, Operator.quotient l.toNumber r.toNumber = .ok c ∧
      c.value = roundHalfAway 32 (l.value / r.value) ∧ 0 ≤ c.toDecimal.scale := by
  cases hc : l.toNumber.div? r.toNumber with
  | none =>
      rw [Number.div?_eq_none_iff, r.value_toNumber] at hc
      exact absurd hc hzero
  | some c =>
      have hlplaces := l.length_fraction_lt
      have hrplaces := r.length_fraction_lt
      have hscale : |r.toNumber.toDecimal.scale - l.toNumber.toDecimal.scale +
          Decimal.divisionScale| ≤ Decimal.maxExponent := by
        rw [l.scale_toNumber, r.scale_toNumber, abs_le]
        simp only [Decimal.divisionScale, Decimal.maxExponent, Nat.pow_eq, operandBound] at *
        omega
      refine ⟨c, by rw [Operator.quotient, hc], ?_, Number.scale_div?_nonneg hc⟩
      rw [← l.value_toNumber, ← r.value_toNumber]
      exact Number.value_of_div? hscale hc

/-- Operands that are literals lead to a number with the value that the operator has to have. -/
theorem exists_compute (op : Arithmetic) {l r : Literal}
    (hbound : op = div → l.text.length < operandBound ∧ r.text.length < operandBound)
    (hzero : op = div → r.value ≠ 0) :
    ∃ c, op.compute l.toNumber r.toNumber = .ok c ∧ c.value = op.apply l.value r.value ∧
      0 ≤ c.toDecimal.scale := by
  have hl : 0 ≤ l.toNumber.toDecimal.scale := l.scale_toNumber ▸ Int.natCast_nonneg _
  have hr : 0 ≤ r.toNumber.toDecimal.scale := r.scale_toNumber ▸ Int.natCast_nonneg _
  cases op with
  | add =>
      refine ⟨_, rfl, ?_, Number.scale_add_nonneg hl hr⟩
      rw [Number.value_add, l.value_toNumber, r.value_toNumber, apply]
  | sub =>
      refine ⟨_, rfl, ?_, Number.scale_sub_nonneg hl hr⟩
      rw [Number.value_sub, l.value_toNumber, r.value_toNumber, apply]
  | mul =>
      refine ⟨_, rfl, ?_, Number.scale_mul_nonneg hl hr⟩
      rw [Number.value_mul, l.value_toNumber, r.value_toNumber, apply]
  | div => exact exists_quotient (hbound rfl).1 (hbound rfl).2 (hzero rfl)

theorem compute_div_eq_error {a b : Number} (h : b.value = 0) :
    div.compute a b = .error .divisionByZero := by
  rw [compute, Operator.quotient, (Number.div?_eq_none_iff a b).mpr h]

theorem evaluate_property_literals (op : Arithmetic) (state : Attributes) {l r : Literal}
    (hbound : op = div → l.text.length < operandBound ∧ r.text.length < operandBound)
    (hzero : op = div → r.value ≠ 0) :
    ∃ text, (op.property state (String.ofList l.text) (String.ofList r.text)).evaluate = .ok text ∧
      IsPlainText text.toList (op.apply l.value r.value) := by
  obtain ⟨c, hcompute, hvalue, hscale⟩ := op.exists_compute hbound hzero
  refine ⟨String.ofList c.print, ?_, ?_⟩
  · rw [evaluate_property, String.toList_ofList, String.toList_ofList, Number.read?_text,
      Number.read?_text]
    dsimp only
    rw [hcompute]
    rfl
  · rw [String.toList_ofList, ← hvalue]
    exact Number.isPlainText_print hscale

end Arithmetic

/-- The text of a failed evaluation is no numeric literal. -/
theorem Property.read?_current_of_error {p : Property} {error : EvalError}
    (h : p.evaluate = .error error) : Number.read? p.current.toList = none := by
  apply Number.read?_eq_none_of_head?
  rw [Property.current, h]
  simp [EvalError.render]

end PropertyMacros
