import PropertyMacros.Proofs.Operator.Arithmetic

/-!
Expressions over numeric literals. Each operation is a property of its own, and the text of a
property is an operand of the one above it. The text at the root is the plain notation of the value
of the expression, unless some divisor is zero.
-/

namespace PropertyMacros

open Number (Literal)

/-- An arithmetic expression. `state` is what else the attributes of a property hold. -/
inductive Expression where
  | literal (l : Literal)
  | node (op : Arithmetic) (state : Attributes) (left right : Expression)

namespace Expression

/-- The text that an expression passes upwards. -/
def text : Expression → String
  | literal l => String.ofList l.text
  | node op state left right => (op.property state left.text right.text).current

/-- What the property at the root evaluates to. -/
def evaluate : Expression → Except EvalError String
  | literal l => .ok (String.ofList l.text)
  | node op state left right => (op.property state left.text right.text).evaluate

/-- The value of an expression, in which each quotient is rounded. -/
def value : Expression → ℚ
  | literal l => l.value
  | node op _ left right => op.apply left.value right.value

/-- No divisor has the value zero. -/
def NoZeroDivisor : Expression → Prop
  | literal _ => True
  | node op _ left right =>
    left.NoZeroDivisor ∧ right.NoZeroDivisor ∧ (op = .div → right.value ≠ 0)

/-- The texts that reach a division are short enough for it. -/
def ShortOperands : Expression → Prop
  | literal _ => True
  | node op _ left right =>
    left.ShortOperands ∧ right.ShortOperands ∧
      (op = .div → left.text.length < Arithmetic.operandBound ∧
        right.text.length < Arithmetic.operandBound)

/-- Operands that are the texts of literals lead to the plain notation of the value. -/
theorem evaluate_node_of_literals {op : Arithmetic} {state : Attributes} {left right : Expression}
    {l r : Literal} (hshort : (node op state left right).ShortOperands)
    (h : (node op state left right).NoZeroDivisor)
    (hl : left.text = String.ofList l.text ∧ left.value = l.value)
    (hr : right.text = String.ofList r.text ∧ right.value = r.value) :
    (node op state left right).evaluate = .ok (node op state left right).text ∧
      IsPlainText (node op state left right).text.toList (node op state left right).value := by
  obtain ⟨-, -, hbound⟩ := hshort
  obtain ⟨-, -, hzero⟩ := h
  rw [hl.1, hr.1, String.length_ofList, String.length_ofList] at hbound
  rw [hr.2] at hzero
  obtain ⟨text, heval, hplain⟩ := op.evaluate_property_literals state hbound hzero
  have htext : (node op state left right).text = text := by
    rw [Expression.text, hl.1, hr.1, Property.current, heval]
  constructor
  · rw [evaluate, hl.1, hr.1, heval, htext]
  · rw [htext, value, hl.2, hr.2]
    exact hplain

/-- Where no divisor is zero an expression passes the text of a literal upwards, so that the
operation above reads it again, whatever domain it falls into. -/
theorem exists_literal {e : Expression} (hshort : e.ShortOperands) (h : e.NoZeroDivisor) :
    ∃ l : Literal, e.text = String.ofList l.text ∧ e.value = l.value := by
  induction e with
  | literal l => exact ⟨l, rfl, rfl⟩
  | node op state left right ihleft ihright =>
      obtain ⟨l, hl⟩ := ihleft hshort.1 h.1
      obtain ⟨r, hr⟩ := ihright hshort.2.1 h.2.1
      obtain ⟨-, m, -, htext, hvalue⟩ := evaluate_node_of_literals hshort h hl hr
      exact ⟨m, by rw [htext, String.ofList_toList], hvalue.symm⟩

theorem evaluate_node_eq_ok {op : Arithmetic} {state : Attributes} {left right : Expression}
    (hshort : (node op state left right).ShortOperands)
    (h : (node op state left right).NoZeroDivisor) :
    (node op state left right).evaluate = .ok (node op state left right).text ∧
      IsPlainText (node op state left right).text.toList (node op state left right).value := by
  obtain ⟨l, hl⟩ := exists_literal hshort.1 h.1
  obtain ⟨r, hr⟩ := exists_literal hshort.2.1 h.2.1
  exact evaluate_node_of_literals hshort h hl hr

theorem read?_text_of_error {e : Expression} {error : EvalError} (h : e.evaluate = .error error) :
    Number.read? e.text.toList = none := by
  cases e with
  | literal l => cases h
  | node op state left right => exact Property.read?_current_of_error h

/-- A zero divisor is an error where it stands, and so is everything above it. -/
theorem evaluate_eq_error {e : Expression} (hshort : e.ShortOperands) (h : ¬e.NoZeroDivisor) :
    ∃ error, e.evaluate = .error error := by
  induction e with
  | literal l => exact absurd trivial h
  | node op state left right ihleft ihright =>
      rw [evaluate, Arithmetic.evaluate_property]
      by_cases hleft : left.NoZeroDivisor
      · obtain ⟨l, hltext, -⟩ := exists_literal hshort.1 hleft
        rw [hltext, String.toList_ofList, Number.read?_text]
        by_cases hright : right.NoZeroDivisor
        · obtain ⟨r, hrtext, hrvalue⟩ := exists_literal hshort.2.1 hright
          rw [hrtext, String.toList_ofList, Number.read?_text]
          have hdiv : op = .div ∧ r.value = 0 := by
            rw [← hrvalue]
            by_contra hne
            exact h ⟨hleft, hright, fun hop hzero => hne ⟨hop, hzero⟩⟩
          obtain ⟨rfl, hzero⟩ := hdiv
          rw [← r.value_toNumber] at hzero
          refine ⟨.divisionByZero, ?_⟩
          dsimp only
          rw [Arithmetic.compute_div_eq_error hzero]
          rfl
        · obtain ⟨error, herror⟩ := ihright hshort.2.1 hright
          rw [read?_text_of_error herror]
          exact ⟨_, rfl⟩
      · obtain ⟨error, herror⟩ := ihleft hshort.1 hleft
        rw [read?_text_of_error herror]
        exact ⟨_, rfl⟩

/-- The text at the root is the plain notation of the value if no divisor is zero, and otherwise an
error that no operation reads as a number. Adding and then subtracting a number has no effect on the
value, so it leaves the plain notation of the other one. -/
theorem isPlainText_value_iff_eq_text :
    (∀ (op : Arithmetic) (state : Attributes) (left right : Expression),
      (node op state left right).ShortOperands →
        ((node op state left right).NoZeroDivisor →
          (op.property state left.text right.text).evaluate =
              .ok (op.property state left.text right.text).current ∧
            ∀ text, IsPlainText text (node op state left right).value ↔
              text = (op.property state left.text right.text).current.toList) ∧
        (¬(node op state left right).NoZeroDivisor →
          (∃ error, (op.property state left.text right.text).evaluate = .error error) ∧
            ∀ l : Literal, l.text ≠ (op.property state left.text right.text).current.toList)) ∧
    ∀ (state state' : Attributes) (a b : Literal) (text : List Char),
      IsPlainText text a.value ↔
        text =
          (node .sub state (node .add state' (literal a) (literal b)) (literal b)).text.toList := by
  constructor
  · intro op state left right hshort
    constructor
    · intro h
      obtain ⟨heval, hplain⟩ := evaluate_node_eq_ok hshort h
      refine ⟨heval, fun text => ⟨fun htext => htext.unique hplain, ?_⟩⟩
      rintro rfl
      exact hplain
    · intro h
      obtain ⟨error, herror⟩ := evaluate_eq_error hshort h
      refine ⟨⟨error, herror⟩, fun l hl => ?_⟩
      have hread := Property.read?_current_of_error herror
      rw [← hl, Number.read?_text] at hread
      cases hread
  · intro state state' a b text
    let root := node .sub state (node .add state' (literal a) (literal b)) (literal b)
    have hshort : root.ShortOperands := by simp [root, ShortOperands]
    have hzero : root.NoZeroDivisor := by simp [root, NoZeroDivisor]
    have hplain := (evaluate_node_eq_ok hshort hzero).2
    have hvalue : root.value = a.value := add_sub_cancel_right a.value b.value
    rw [hvalue] at hplain
    constructor
    · intro htext
      exact htext.unique hplain
    · rintro rfl
      exact hplain

/-- `(10 - 3.50) / -3` has a plain notation of 32 places, and `10 / (3.50 - 3.5)` has none. -/
theorem isPlainText_value_of_quotients :
    let ten : Literal := ⟨false, ['1', '0'], none, by simp, by simp⟩
    let long : Literal := ⟨false, ['3'], some ['5', '0'], by simp, by simp⟩
    let short : Literal := ⟨false, ['3'], some ['5'], by simp, by simp⟩
    let minusThree : Literal := ⟨true, ['3'], none, by simp, by simp⟩
    let difference := node .sub .empty (literal ten) (literal long)
    let zero := node .sub .empty (literal long) (literal short)
    (node .div .empty difference (literal minusThree)).ShortOperands ∧
      (node .div .empty difference (literal minusThree)).NoZeroDivisor ∧
      IsPlainText "-2.16666666666666666666666666666667".toList
        (node .div .empty difference (literal minusThree)).value ∧
      (node .div .empty (literal ten) zero).ShortOperands ∧
      ¬(node .div .empty (literal ten) zero).NoZeroDivisor ∧
      ∃ error, (node .div .empty (literal ten) zero).evaluate = .error error := by
  intro ten long short minusThree difference zero
  have hshort : (node .div .empty difference (literal minusThree)).ShortOperands := by
    refine ⟨⟨trivial, trivial, by decide⟩, trivial, fun _ => ⟨?_, by decide⟩⟩
    have htext : difference.text = "6.5" := by decide
    rw [htext]
    decide
  have hzero : (node .div .empty difference (literal minusThree)).NoZeroDivisor := by
    refine ⟨⟨trivial, trivial, by decide⟩, trivial, fun _ => ?_⟩
    simp [value, Literal.value, minusThree, signed, valueOf, Literal.fraction, Nat.ofDigitChars]
  have hshort' : (node .div .empty (literal ten) zero).ShortOperands := by
    refine ⟨trivial, ⟨trivial, trivial, by decide⟩, fun _ => ⟨by decide, ?_⟩⟩
    have htext : zero.text = "0" := by decide
    rw [htext]
    decide
  have hzero' : ¬(node .div .empty (literal ten) zero).NoZeroDivisor := by
    rintro ⟨-, -, h⟩
    apply h rfl
    simp [zero, value, Arithmetic.apply, Literal.value, long, short, signed, valueOf,
      Literal.fraction, Nat.ofDigitChars]
    norm_num
  refine ⟨hshort, hzero, ?_, hshort', hzero', ?_⟩
  · apply (((isPlainText_value_iff_eq_text.1 _ _ _ _ hshort).1 hzero).2 _).mpr
    decide
  · exact ((isPlainText_value_iff_eq_text.1 _ _ _ _ hshort').2 hzero').1

end Expression

end PropertyMacros
