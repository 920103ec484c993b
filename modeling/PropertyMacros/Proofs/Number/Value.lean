import Mathlib.Data.Rat.Floor
import Mathlib.Tactic.FieldSimp
import Mathlib.Tactic.Linarith
import Mathlib.Tactic.Ring
import PropertyMacros.Number.Basic

/-!
The rational values of numbers. Sums, differences and products have the exact value, and a quotient
the exact one rounded to `divisionScale` places.
-/

namespace PropertyMacros

/-- `q` rounded to a number of fractional digits, a half away from zero. -/
def roundHalfAway (places : ℕ) (q : ℚ) : ℚ :=
  if 0 ≤ q then ⌊q * 10 ^ places + 1 / 2⌋ / 10 ^ places
  else -(⌊-q * 10 ^ places + 1 / 2⌋ / 10 ^ places)

theorem roundHalfAway_neg (places : ℕ) (q : ℚ) :
    roundHalfAway places (-q) = -roundHalfAway places q := by
  rcases lt_trichotomy q 0 with hq | rfl | hq
  · simp [roundHalfAway, hq.le, hq.not_ge]
  · have hfloor : ⌊(2⁻¹ : ℚ)⌋ = 0 := by norm_num
    simp [roundHalfAway, hfloor]
  · simp [roundHalfAway, hq.le, hq.not_ge]

/-- A rational that has few enough fractional digits is not changed. -/
theorem roundHalfAway_of_integral (places : ℕ) {q : ℚ} {m : ℤ} (h : q * 10 ^ places = m) :
    roundHalfAway places q = q := by
  have hfloor (k : ℤ) : ⌊(k : ℚ) + 1 / 2⌋ = k := by
    rw [Int.floor_intCast_add]
    norm_num
  have hq : q = m / 10 ^ places := by
    rw [← h]
    field_simp
  have hneg : -q * 10 ^ places = ((-m : ℤ) : ℚ) := by
    rw [neg_mul, h, Int.cast_neg]
  unfold roundHalfAway
  split
  · rw [h, hfloor, hq]
  · rw [hneg, hfloor, hq]
    push_cast
    ring

namespace Decimal

/-- The rational number `digits · 10^(-scale)`. -/
def value (d : Decimal) : ℚ := d.digits * 10 ^ (-d.scale)

theorem value_eq_zero_iff (d : Decimal) : d.value = 0 ↔ d.digits = 0 := by
  have hpow : (10 : ℚ) ^ (-d.scale) ≠ 0 := zpow_ne_zero _ (by norm_num)
  rw [value, mul_eq_zero_iff_right hpow, Int.cast_eq_zero]

theorem value_eq_digitsAt (d : Decimal) {scale : ℤ} (h : d.scale ≤ scale) :
    d.value = d.digitsAt scale * 10 ^ (-scale) := by
  unfold digitsAt value
  split
  · next hd => simp [hd]
  · have hnat : ((scale - d.scale).toNat : ℤ) = scale - d.scale :=
      Int.toNat_of_nonneg (Int.sub_nonneg_of_le h)
    change (d.digits * 10 ^ (-d.scale) : ℚ) =
      (d.digits * 10 ^ (scale - d.scale).toNat : ℤ) * 10 ^ (-scale)
    rw [Int.cast_mul, Int.cast_pow, Int.cast_ofNat, mul_assoc, ← zpow_natCast, hnat,
      ← zpow_add₀ (by norm_num)]
    congr 2
    ring

theorem value_add (a b : Decimal) : (a.add b).value = a.value + b.value := by
  unfold add
  split
  · next ha => rw [(value_eq_zero_iff a).mpr ha, zero_add]
  · split
    · next hb => rw [(value_eq_zero_iff b).mpr hb, add_zero]
    · rw [value_eq_digitsAt a (le_max_left a.scale b.scale),
        value_eq_digitsAt b (le_max_right a.scale b.scale), ← add_mul, ← Int.cast_add]
      rfl

theorem value_neg (a : Decimal) : a.neg.value = -a.value := by
  simp [value, neg]

theorem value_sub (a b : Decimal) : (a.sub b).value = a.value - b.value := by
  rw [sub, value_add, value_neg, sub_eq_add_neg]

theorem value_mul (a b : Decimal) : (a.mul b).value = a.value * b.value := by
  simp only [value, mul, Int.cast_mul, neg_add, zpow_add₀ (show (10 : ℚ) ≠ 0 by norm_num)]
  ring

theorem scale_add_nonneg {a b : Decimal} (ha : 0 ≤ a.scale) (hb : 0 ≤ b.scale) :
    0 ≤ (a.add b).scale := by
  unfold add
  split
  · exact hb
  · split
    · exact ha
    · exact le_max_of_le_left ha

theorem roundedQuotient_eq_floor (n : ℕ) {d : ℕ} (hd : 0 < d) :
    (roundedQuotient n d : ℤ) = ⌊(n / d : ℚ) + 1 / 2⌋ := by
  have hdq : (0 : ℚ) < d := by exact_mod_cast hd
  have hdiv : (n : ℚ) = d * (n / d : ℕ) + (n % d : ℕ) := by
    exact_mod_cast (Nat.div_add_mod n d).symm
  have hmod : ((n % d : ℕ) : ℚ) < d := by exact_mod_cast Nat.mod_lt n hd
  have hquot : (n / d : ℚ) = (n / d : ℕ) + (n % d : ℕ) / d := by
    rw [div_eq_iff hdq.ne', add_mul, div_mul_cancel₀ _ hdq.ne', mul_comm, ← hdiv]
  symm
  rw [Int.floor_eq_iff, Int.cast_natCast, hquot]
  unfold roundedQuotient
  split
  · next h =>
    have hhalf : (1 / 2 : ℚ) ≤ (n % d : ℕ) / d := by
      rw [le_div_iff₀ hdq]
      have : (d : ℚ) ≤ (n % d : ℕ) * 2 := by exact_mod_cast h
      linarith
    have hlt : ((n % d : ℕ) : ℚ) / d < 1 := (div_lt_one hdq).mpr hmod
    rw [Nat.cast_add, Nat.cast_one]
    constructor <;> linarith
  · next h =>
    have hhalf : ((n % d : ℕ) : ℚ) / d < 1 / 2 := by
      rw [div_lt_iff₀ hdq]
      have : ((n % d : ℕ) : ℚ) * 2 < d := by exact_mod_cast Nat.lt_of_not_le h
      linarith
    have hnonneg : (0 : ℚ) ≤ (n % d : ℕ) / d := by positivity
    constructor <;> linarith

theorem powerOfTen_eq {exponent : ℕ} (h : exponent ≤ maxExponent) :
    powerOfTen exponent = 10 ^ exponent := by
  rw [powerOfTen, min_eq_left h]
  rfl

/-- Ten to the power of the difference of two scales, in the two halves that a division uses. -/
theorem zpow_eq_div_powerOfTen {shift : ℤ} (h : |shift| ≤ maxExponent) :
    (10 : ℚ) ^ shift = powerOfTen shift.toNat / powerOfTen (-shift).toNat := by
  obtain ⟨hlow, hhigh⟩ := abs_le.mp h
  have hpos : shift.toNat ≤ maxExponent := by omega
  have hneg : (-shift).toNat ≤ maxExponent := by omega
  have hshift : shift = shift.toNat - ((-shift).toNat : ℤ) := by omega
  rw [powerOfTen_eq hpos, powerOfTen_eq hneg]
  conv_lhs => rw [hshift, zpow_sub₀ (by norm_num), zpow_natCast, zpow_natCast]
  push_cast
  rfl

theorem div_eq_sign_mul (a : ℤ) {b : ℤ} (hb : b ≠ 0) :
    (a / b : ℚ) = (a.sign * b.sign : ℤ) * (a.natAbs / b.natAbs) := by
  have hsign : ((b.sign * b.sign : ℤ) : ℚ) = 1 := by
    rw [← Int.sign_mul, Int.sign_eq_one_of_pos (mul_self_pos.mpr hb), Int.cast_one]
  have hnat : (b.natAbs : ℚ) ≠ 0 := by exact_mod_cast Int.natAbs_ne_zero.mpr hb
  have habs (k : ℤ) : (k : ℚ) = k.sign * k.natAbs := by
    rw [← Int.cast_natCast k.natAbs, ← Int.cast_mul, Int.sign_mul_natAbs]
  rw [Int.cast_mul] at hsign
  have hsign0 : (b.sign : ℚ) ≠ 0 := left_ne_zero_of_mul_eq_one hsign
  rw [habs a, habs b, Int.cast_mul, div_eq_iff (mul_ne_zero hsign0 hnat)]
  calc
    (a.sign * a.natAbs : ℚ) = a.sign * a.natAbs * (b.sign * b.sign) := by rw [hsign, mul_one]
    _ = a.sign * b.sign * (a.natAbs / b.natAbs) * (b.sign * b.natAbs) := by field_simp

theorem value_div_value (a : Decimal) {b : Decimal} (hb : b.digits ≠ 0) (places : ℕ)
    (hscale : |b.scale - a.scale + places| ≤ maxExponent) :
    a.value / b.value * 10 ^ places = (a.digits.sign * b.digits.sign : ℤ) *
      ((a.digits.natAbs * powerOfTen (b.scale - a.scale + places).toNat : ℕ) /
        (b.digits.natAbs * powerOfTen (-(b.scale - a.scale + places)).toNat : ℕ)) := by
  have hten : (10 : ℚ) ≠ 0 := by norm_num
  have hshift : a.value / b.value * 10 ^ places =
      a.digits / b.digits * 10 ^ (b.scale - a.scale + places) := by
    have hbq : (b.digits : ℚ) ≠ 0 := by exact_mod_cast hb
    rw [value, value, zpow_add₀ hten, zpow_sub₀ hten, zpow_neg, zpow_neg, zpow_natCast]
    field_simp
  rw [hshift, div_eq_sign_mul _ hb, zpow_eq_div_powerOfTen hscale, mul_assoc, div_mul_div_comm]
  push_cast
  rfl

/-- A quotient is exact up to the rounding of its last place. The bound on the difference of the
scales keeps the powers of ten exact. -/
theorem value_divide (a : Decimal) {b : Decimal} (hb : b.digits ≠ 0)
    (hscale : |b.scale - a.scale + divisionScale| ≤ maxExponent) :
    (a.divide b).value = roundHalfAway divisionScale (a.value / b.value) := by
  have hquot := value_div_value a hb divisionScale hscale
  set n := a.digits.natAbs * powerOfTen (b.scale - a.scale + divisionScale).toNat with hn
  set d := b.digits.natAbs * powerOfTen (-(b.scale - a.scale + divisionScale)).toNat with hd
  have hdpos : 0 < d := Nat.mul_pos (Int.natAbs_pos.mpr hb) (Nat.pow_pos (by decide))
  have hround : (a.divide b).value =
      (a.digits.sign * b.digits.sign : ℤ) * (⌊(n / d : ℚ) + 1 / 2⌋ / 10 ^ divisionScale) := by
    rw [value, divide, ← hn, ← hd, Int.cast_mul, ← roundedQuotient_eq_floor n hdpos, zpow_neg,
      zpow_natCast, mul_assoc, div_eq_mul_inv]
  have hnonneg : (0 : ℚ) ≤ n / d / 10 ^ divisionScale := by positivity
  have hval : a.value / b.value =
      (a.digits.sign * b.digits.sign : ℤ) * (n / d / 10 ^ divisionScale) := by
    rw [← mul_div_assoc, ← hquot]
    field_simp
  have hrounded : roundHalfAway divisionScale (n / d / 10 ^ divisionScale) =
      ⌊(n / d : ℚ) + 1 / 2⌋ / 10 ^ divisionScale := by
    rw [roundHalfAway, if_pos hnonneg, div_mul_cancel₀ _ (by positivity)]
  rw [hround, hval, ← hrounded, ← Int.sign_mul]
  -- Only the sign of the quotient is left, which rounding respects.
  rcases Int.sign_trichotomy (a.digits * b.digits) with hs | hs | hs <;> rw [hs]
  · simp
  · rw [Int.cast_zero, zero_mul, zero_mul, roundHalfAway_of_integral _ (m := 0) (by simp)]
  · rw [Int.cast_neg, Int.cast_one, neg_one_mul, neg_one_mul, roundHalfAway_neg]

end Decimal

namespace Number

/-- The rational number that an operand stands for, in either domain. -/
def value (a : Number) : ℚ := a.toDecimal.value

@[simp] theorem value_integer (m : ℤ) : (integer m).value = m := by
  simp [value, toDecimal, Decimal.value]

@[simp] theorem value_decimal (d : Decimal) : (decimal d).value = d.value := rfl

theorem value_add (a b : Number) : (a.add b).value = a.value + b.value := by
  cases a <;> cases b
  case integer.integer m n => simp [add]
  all_goals exact Decimal.value_add _ _

theorem value_sub (a b : Number) : (a.sub b).value = a.value - b.value := by
  cases a <;> cases b
  case integer.integer m n => simp [sub]
  all_goals exact Decimal.value_sub _ _

theorem value_mul (a b : Number) : (a.mul b).value = a.value * b.value := by
  cases a <;> cases b
  case integer.integer m n => simp [mul]
  all_goals exact Decimal.value_mul _ _

theorem isZero_iff (a : Number) : a.isZero = true ↔ a.value = 0 := by
  rw [isZero, beq_iff_eq, value, Decimal.value_eq_zero_iff]

theorem div?_eq_none_iff (a b : Number) : a.div? b = none ↔ b.value = 0 := by
  rw [← isZero_iff, div?]
  split
  · next h => simp [h]
  · next h => cases exactQuotient? a b <;> simp [h]

theorem exactQuotient?_eq_some_iff {a b : Number} {m : ℤ} :
    exactQuotient? a b = some m ↔
      ∃ x y, a = integer x ∧ b = integer y ∧ y ∣ x ∧ x / y = m := by
  constructor
  · intro h
    unfold exactQuotient? at h
    split at h
    · next x y =>
      split at h
      · next hmod =>
        exact ⟨x, y, rfl, rfl, Int.dvd_of_emod_eq_zero hmod, Option.some.inj h⟩
      · cases h
    · cases h
  · rintro ⟨x, y, rfl, rfl, hdvd, rfl⟩
    exact if_pos (Int.emod_eq_zero_of_dvd hdvd)

/-- The two ways to a quotient. -/
theorem div?_eq_some_iff {a b c : Number} :
    a.div? b = some c ↔ b.value ≠ 0 ∧
      ((∃ m, exactQuotient? a b = some m ∧ c = integer m) ∨
        (exactQuotient? a b = none ∧ c = decimal (a.toDecimal.divide b.toDecimal))) := by
  rw [ne_eq, ← isZero_iff, div?]
  cases b.isZero
  · cases exactQuotient? a b <;> simp [eq_comm]
  · simp

theorem value_of_exactQuotient? {a b : Number} {m : ℤ} (hb : b.value ≠ 0)
    (h : exactQuotient? a b = some m) : (m : ℚ) = a.value / b.value := by
  obtain ⟨x, y, rfl, rfl, hdvd, rfl⟩ := exactQuotient?_eq_some_iff.mp h
  rw [value_integer] at hb
  rw [value_integer, value_integer, Int.cast_div hdvd hb]

/-- The quotient of operands whose scales are near enough: exact where two integers divide exactly,
and rounded otherwise, which comes to the same. -/
theorem value_of_div? {a b c : Number}
    (hscale : |b.toDecimal.scale - a.toDecimal.scale + Decimal.divisionScale| ≤
      Decimal.maxExponent)
    (h : a.div? b = some c) :
    c.value = roundHalfAway Decimal.divisionScale (a.value / b.value) := by
  obtain ⟨hb, ⟨m, hm, rfl⟩ | ⟨-, rfl⟩⟩ := div?_eq_some_iff.mp h
  · have hval := value_of_exactQuotient? hb hm
    rw [value_integer, ← hval]
    symm
    exact roundHalfAway_of_integral _ (m := m * 10 ^ Decimal.divisionScale) (by push_cast; rfl)
  · exact Decimal.value_divide a.toDecimal ((Decimal.value_eq_zero_iff _).not.mp hb) hscale

theorem scale_add_nonneg {a b : Number} (ha : 0 ≤ a.toDecimal.scale) (hb : 0 ≤ b.toDecimal.scale) :
    0 ≤ (a.add b).toDecimal.scale := by
  cases a <;> cases b
  case integer.integer m n => exact le_rfl
  all_goals exact Decimal.scale_add_nonneg ha hb

theorem scale_sub_nonneg {a b : Number} (ha : 0 ≤ a.toDecimal.scale) (hb : 0 ≤ b.toDecimal.scale) :
    0 ≤ (a.sub b).toDecimal.scale := by
  cases a <;> cases b
  case integer.integer m n => exact le_rfl
  all_goals exact Decimal.scale_add_nonneg ha hb

theorem scale_mul_nonneg {a b : Number} (ha : 0 ≤ a.toDecimal.scale) (hb : 0 ≤ b.toDecimal.scale) :
    0 ≤ (a.mul b).toDecimal.scale := by
  cases a <;> cases b
  case integer.integer m n => exact le_rfl
  all_goals exact add_nonneg ha hb

theorem scale_div?_nonneg {a b c : Number} (h : a.div? b = some c) : 0 ≤ c.toDecimal.scale := by
  obtain ⟨-, ⟨m, -, rfl⟩ | ⟨-, rfl⟩⟩ := div?_eq_some_iff.mp h
  · exact le_rfl
  · exact Int.natCast_nonneg _

end Number

end PropertyMacros
