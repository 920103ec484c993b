import PropertyMacros.Proofs.Number.Value

/-!
The quotient of two numbers. Its value is the one number of 32 fractional digits that is nearest to
the rational quotient, and of two that are equally near the one further away from zero. Two integers
of which one divides the other lead to an integer of that same value.
-/

namespace PropertyMacros

/-- `r` is `q` rounded to a number of fractional digits, which is said without a way to compute
it. -/
structure IsRounded (places : ℕ) (q r : ℚ) : Prop where
  exists_int : ∃ m : ℤ, r = m / 10 ^ places
  nearest : ∀ m : ℤ, |r - q| ≤ |m / 10 ^ places - q|
  away : ∀ m : ℤ, |r - q| = |m / 10 ^ places - q| → |(m / 10 ^ places : ℚ)| ≤ |r|

/-- No integer is nearer to `x ≥ 0` than the floor of `x + 1 / 2`, and none that is as near is
larger in magnitude. -/
theorem floor_add_half_nearest {x : ℚ} (hx : 0 ≤ x) (m : ℤ) :
    |⌊x + 1 / 2⌋ - x| ≤ |m - x| ∧ (|⌊x + 1 / 2⌋ - x| = |m - x| → |m| ≤ |⌊x + 1 / 2⌋|) := by
  set k := ⌊x + 1 / 2⌋
  have hlow : (k : ℚ) ≤ x + 1 / 2 := Int.floor_le _
  have hhigh : x + 1 / 2 < k + 1 := Int.lt_floor_add_one _
  have hk : |(k : ℚ) - x| ≤ 1 / 2 := abs_le.mpr ⟨by linarith, by linarith⟩
  have hknonneg : 0 ≤ k := Int.floor_nonneg.mpr (by linarith)
  rcases lt_trichotomy m k with hm | rfl | hm
  · have hmq : (m : ℚ) + 1 ≤ k := by exact_mod_cast hm
    have habs : |(m : ℚ) - x| = x - m := by
      rw [abs_of_nonpos (by linarith), neg_sub]
    rw [habs]
    refine ⟨by linarith, fun htie => ?_⟩
    -- A negative integer is further away from `x` than a half.
    have hmnonneg : 0 ≤ m := by
      by_contra hneg
      have hle : (m : ℚ) ≤ -1 := by exact_mod_cast Int.le_sub_one_of_lt (not_le.mp hneg)
      linarith
    rw [abs_of_nonneg hmnonneg, abs_of_nonneg hknonneg]
    exact hm.le
  · exact ⟨le_rfl, fun _ => le_rfl⟩
  · have hmq : (k : ℚ) + 1 ≤ m := by exact_mod_cast hm
    have habs : |(m : ℚ) - x| = m - x := abs_of_nonneg (by linarith)
    rw [habs]
    exact ⟨by linarith, fun htie => by linarith⟩

/-- The distance from a number of fractional digits, measured in units of the last one. -/
theorem abs_div_sub_eq (places : ℕ) (m : ℤ) (q : ℚ) :
    |(m / 10 ^ places : ℚ) - q| = |m - q * 10 ^ places| / 10 ^ places := by
  have hpos : (0 : ℚ) < 10 ^ places := by positivity
  rw [← abs_of_pos hpos, ← abs_div, abs_of_pos hpos, sub_div, mul_div_cancel_right₀ _ hpos.ne']

namespace IsRounded

variable {places : ℕ} {q r : ℚ}

theorem neg (h : IsRounded places q r) : IsRounded places (-q) (-r) := by
  have hdistance (s : ℚ) : |s - -q| = |-s - q| := by
    rw [← abs_neg]
    congr 1
    ring
  have hopposite (m : ℤ) : -(m / 10 ^ places : ℚ) = (-m : ℤ) / 10 ^ places := by
    rw [Int.cast_neg, neg_div]
  refine ⟨?_, ?_, ?_⟩
  · obtain ⟨m, hm⟩ := h.exists_int
    exact ⟨-m, by rw [hm, hopposite]⟩
  · intro m
    rw [hdistance, hdistance, neg_neg, hopposite]
    exact h.nearest (-m)
  · intro m hm
    rw [hdistance, hdistance, neg_neg, hopposite] at hm
    rw [abs_neg, ← abs_neg (m / 10 ^ places : ℚ), hopposite]
    exact h.away (-m) hm

theorem unique {s : ℚ} (hr : IsRounded places q r) (hs : IsRounded places q s) : r = s := by
  obtain ⟨m, hm⟩ := hr.exists_int
  obtain ⟨n, hn⟩ := hs.exists_int
  have hdistance : |r - q| = |s - q| :=
    le_antisymm (hn ▸ hr.nearest n) (hm ▸ hs.nearest m)
  have habs : |r| = |s| :=
    le_antisymm (hm ▸ hs.away m (hm ▸ hdistance.symm)) (hn ▸ hr.away n (hn ▸ hdistance))
  rcases abs_eq_abs.mp habs with h | h
  · exact h
  · -- Opposite numbers are equally near to zero only, and zero is the nearest there.
    rcases abs_eq_abs.mp hdistance with h' | h'
    · linarith
    · have hq : q = 0 := by linarith
      have hzero := hr.nearest 0
      rw [hq, Int.cast_zero, zero_div, sub_zero, sub_zero, abs_zero, abs_nonpos_iff] at hzero
      linarith

/-- A rational that has few enough fractional digits is its own rounding. -/
theorem eq_of_integral (h : IsRounded places q r) {m : ℤ} (hm : q = m / 10 ^ places) : r = q := by
  have hle := h.nearest m
  rw [← hm, sub_self, abs_zero, abs_nonpos_iff] at hle
  exact sub_eq_zero.mp hle

/-- Rounding is off by half a unit in the last place at most. -/
theorem abs_sub_le (h : IsRounded places q r) : |r - q| ≤ 1 / 2 / 10 ^ places := by
  have hpos : (0 : ℚ) < 10 ^ places := by positivity
  calc
    |r - q| ≤ |round (q * 10 ^ places) / 10 ^ places - q| := h.nearest _
    _ = |round (q * 10 ^ places) - q * 10 ^ places| / 10 ^ places := abs_div_sub_eq _ _ _
    _ ≤ 1 / 2 / 10 ^ places := by
      rw [abs_sub_comm]
      exact div_le_div_of_nonneg_right (abs_sub_round _) hpos.le

end IsRounded

theorem isRounded_roundHalfAway_of_nonneg (places : ℕ) {q : ℚ} (hq : 0 ≤ q) :
    IsRounded places q (roundHalfAway places q) := by
  have hpos : (0 : ℚ) < 10 ^ places := by positivity
  have hround : roundHalfAway places q = (⌊q * 10 ^ places + 1 / 2⌋ : ℤ) / 10 ^ places :=
    if_pos hq
  have hfloor := floor_add_half_nearest (mul_nonneg hq hpos.le)
  rw [hround]
  refine ⟨⟨_, rfl⟩, ?_, ?_⟩
  · intro m
    rw [abs_div_sub_eq, abs_div_sub_eq]
    exact div_le_div_of_nonneg_right (hfloor m).1 hpos.le
  · intro m hm
    rw [abs_div_sub_eq, abs_div_sub_eq, div_left_inj' hpos.ne'] at hm
    rw [abs_div, abs_div]
    exact div_le_div_of_nonneg_right (by exact_mod_cast (hfloor m).2 hm) (abs_nonneg _)

theorem isRounded_roundHalfAway (places : ℕ) (q : ℚ) :
    IsRounded places q (roundHalfAway places q) := by
  rcases le_total 0 q with hq | hq
  · exact isRounded_roundHalfAway_of_nonneg places hq
  · have hneg := (isRounded_roundHalfAway_of_nonneg places (neg_nonneg.mpr hq)).neg
    rwa [roundHalfAway_neg, neg_neg, neg_neg] at hneg

namespace Decimal

theorem divide_neg_left (a b : Decimal) : a.neg.divide b = (a.divide b).neg := by
  simp only [divide, neg, Int.sign_neg, Int.natAbs_neg, neg_mul]

theorem divide_neg_right (a b : Decimal) : a.divide b.neg = (a.divide b).neg := by
  simp only [divide, neg, Int.sign_neg, Int.natAbs_neg, mul_neg, neg_mul]

end Decimal

namespace Number

/-- The number of the opposite value, in the same domain. -/
def neg : Number → Number
  | integer m => integer (-m)
  | decimal d => decimal d.neg

theorem toDecimal_neg (a : Number) : a.neg.toDecimal = a.toDecimal.neg := by
  cases a <;> rfl

theorem isZero_neg (a : Number) : a.neg.isZero = a.isZero := by
  rw [isZero, isZero, toDecimal_neg, Bool.eq_iff_iff, beq_iff_eq, beq_iff_eq]
  exact neg_eq_zero

theorem exactQuotient?_neg_left (a b : Number) :
    exactQuotient? a.neg b = (exactQuotient? a b).map (-·) := by
  cases a <;> cases b <;> try rfl
  case integer.integer x y =>
    simp only [exactQuotient?, neg, ← Int.dvd_iff_emod_eq_zero, Int.dvd_neg]
    split
    · next h => rw [Option.map_some, Int.neg_ediv_of_dvd h]
    · rfl

theorem exactQuotient?_neg_right (a b : Number) :
    exactQuotient? a b.neg = (exactQuotient? a b).map (-·) := by
  cases a <;> cases b <;> try rfl
  case integer.integer x y =>
    simp only [exactQuotient?, neg, ← Int.dvd_iff_emod_eq_zero, Int.neg_dvd, Int.ediv_neg]
    split <;> rfl

/-- A quotient keeps to the sign of either operand. -/
theorem div?_neg (a b : Number) :
    a.neg.div? b = (a.div? b).map neg ∧ a.div? b.neg = (a.div? b).map neg := by
  unfold div?
  rw [isZero_neg, exactQuotient?_neg_left, exactQuotient?_neg_right, toDecimal_neg, toDecimal_neg,
    Decimal.divide_neg_left, Decimal.divide_neg_right]
  cases b.isZero
  · cases exactQuotient? a b <;> exact ⟨rfl, rfl⟩
  · exact ⟨rfl, rfl⟩

theorem exists_integer_iff_of_div? {a b c : Number} (h : a.div? b = some c) :
    (∃ m, c = integer m) ↔ ∃ x y, a = integer x ∧ b = integer y ∧ y ∣ x := by
  obtain ⟨-, ⟨m, hm, rfl⟩ | ⟨hnone, rfl⟩⟩ := div?_eq_some_iff.mp h
  · obtain ⟨x, y, ha, hb, hdvd, -⟩ := exactQuotient?_eq_some_iff.mp hm
    exact ⟨fun _ => ⟨x, y, ha, hb, hdvd⟩, fun _ => ⟨m, rfl⟩⟩
  · constructor
    · rintro ⟨m, hm⟩
      cases hm
    · rintro ⟨x, y, ha, hb, hdvd⟩
      have hsome : exactQuotient? a b = some (x / y) :=
        exactQuotient?_eq_some_iff.mpr ⟨x, y, ha, hb, hdvd, rfl⟩
      rw [hnone] at hsome
      cases hsome

theorem value_of_div?_eq_integer {a b : Number} {m : ℤ} (h : a.div? b = some (integer m)) :
    (m : ℚ) = a.value / b.value := by
  obtain ⟨hb, ⟨m', hm, heq⟩ | ⟨-, heq⟩⟩ := div?_eq_some_iff.mp h
  · cases heq
    exact value_of_exactQuotient? hb hm
  · cases heq

theorem scale_of_div?_eq_decimal {a b : Number} {d : Decimal} (h : a.div? b = some (decimal d)) :
    d.scale = 32 := by
  obtain ⟨-, ⟨m, -, heq⟩ | ⟨-, heq⟩⟩ := div?_eq_some_iff.mp h
  · cases heq
  · cases heq
    rfl

/-- What the quotient `c` of `a` by a number `b` other than zero has to be. -/
structure IsQuotient (a b c : Number) : Prop where
  integer_iff : (∃ m, c = integer m) ↔ ∃ x y, a = integer x ∧ b = integer y ∧ y ∣ x
  integer_eq : ∀ m, c = integer m → (m : ℚ) = a.value / b.value
  scale_eq : ∀ d, c = decimal d → d.scale = 32
  isRounded_iff : ∀ r, IsRounded 32 (a.value / b.value) r ↔ r = c.value
  eq_of_integral : ∀ m : ℤ, a.value / b.value = m / 10 ^ 32 → c.value = a.value / b.value
  abs_sub_le : |c.value - a.value / b.value| ≤ 1 / 2 / 10 ^ 32
  /-- Dividing in the decimal domain leads to the same value. -/
  value_divide : (a.toDecimal.divide b.toDecimal).value = c.value

/-- There is a quotient unless the divisor is zero, and it goes over to its opposite with either
operand. Its value is right as long as the scales are not too far apart. -/
theorem isQuotient_of_div? {a b : Number}
    (hscale : |b.toDecimal.scale - a.toDecimal.scale + 32| ≤ 2 ^ 32 - 1) :
    (a.div? b = none ↔ b.value = 0) ∧ (∀ c, a.div? b = some c → IsQuotient a b c) ∧
      a.neg.div? b = (a.div? b).map neg ∧ a.div? b.neg = (a.div? b).map neg := by
  refine ⟨div?_eq_none_iff a b, ?_, div?_neg a b⟩
  intro c hc
  obtain ⟨hb, -⟩ := div?_eq_some_iff.mp hc
  have hdigits : b.toDecimal.digits ≠ 0 := (Decimal.value_eq_zero_iff _).not.mp hb
  have hvalue : c.value = roundHalfAway 32 (a.value / b.value) := value_of_div? hscale hc
  have hdivide : (a.toDecimal.divide b.toDecimal).value = roundHalfAway 32 (a.value / b.value) :=
    Decimal.value_divide a.toDecimal hdigits hscale
  have hrounded : IsRounded 32 (a.value / b.value) c.value :=
    hvalue ▸ isRounded_roundHalfAway 32 (a.value / b.value)
  refine ⟨exists_integer_iff_of_div? hc, ?_, ?_, ?_, fun m hm => hrounded.eq_of_integral hm,
    hrounded.abs_sub_le, hdivide.trans hvalue.symm⟩
  · rintro m rfl
    exact value_of_div?_eq_integer hc
  · rintro d rfl
    exact scale_of_div?_eq_decimal hc
  · intro r
    constructor
    · exact fun hr => hr.unique hrounded
    · rintro rfl
      exact hrounded

/-- A quotient that ends in a half behind its last place. -/
theorem isQuotient_of_div?_half :
    |(-1 : ℤ) - 31 + 32| ≤ 2 ^ 32 - 1 ∧
      div? (decimal ⟨-1, 31⟩) (decimal ⟨2, -1⟩) = some (decimal ⟨-1, 32⟩) ∧
      IsQuotient (decimal ⟨-1, 31⟩) (decimal ⟨2, -1⟩) (decimal ⟨-1, 32⟩) ∧
      div? (decimal ⟨1, 31⟩) (decimal ⟨2, -1⟩) = some (decimal ⟨1, 32⟩) := by
  have hscale : |(-1 : ℤ) - 31 + 32| ≤ 2 ^ 32 - 1 := by decide
  have hdiv : div? (decimal ⟨-1, 31⟩) (decimal ⟨2, -1⟩) = some (decimal ⟨-1, 32⟩) := by decide
  obtain ⟨-, hquotient, hneg, -⟩ := isQuotient_of_div? (a := decimal ⟨-1, 31⟩)
    (b := decimal ⟨2, -1⟩) hscale
  refine ⟨hscale, hdiv, hquotient _ hdiv, ?_⟩
  rw [hdiv] at hneg
  exact hneg

end Number

end PropertyMacros
