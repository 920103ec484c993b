import Mathlib.Order.Compare
import PropertyMacros.Proofs.Number.Value

/-!
The order of numbers is that of their rational values, in both domains and at all scales.
-/

namespace PropertyMacros

theorem compare_of_strictMono {α β : Type} [LinearOrder α] [LinearOrder β] {f : α → β}
    (hf : StrictMono f) (x y : α) : compare (f x) (f y) = compare x y := by
  rw [← cmp_eq_compare, ← cmp_eq_compare, hf.cmp_map_eq]

theorem lt_of_sign_lt_sign {x y : ℤ} (h : x.sign < y.sign) : x < y := by
  grind [Int.sign_eq_one_iff_pos, Int.sign_eq_zero_iff_zero, Int.sign_eq_neg_one_iff_neg,
    Int.sign_trichotomy]

/-- Signs that differ decide the order, and signs that agree leave it open. -/
theorem compare_sign_then (x y : ℤ) :
    (compare x.sign y.sign).then (compare x y) = compare x y := by
  cases h : compare x.sign y.sign with
  | eq => rfl
  | lt =>
      rw [compare_lt_iff_lt] at h
      exact (compare_lt_iff_lt.mpr (lt_of_sign_lt_sign h)).symm
  | gt =>
      rw [compare_gt_iff_gt] at h
      exact (compare_gt_iff_gt.mpr (lt_of_sign_lt_sign h)).symm

namespace Decimal

theorem sign_digitsAt (d : Decimal) (scale : ℤ) : (d.digitsAt scale).sign = d.digits.sign := by
  unfold digitsAt
  split
  · next h => rw [h]
  · have hpos : 0 < Int.pow 10 (scale - d.scale).toNat := Int.pow_pos (by decide)
    rw [Int.sign_mul, Int.sign_eq_one_of_pos hpos, mul_one]

theorem cmp_eq_compare_value (a b : Decimal) : a.cmp b = compare a.value b.value := by
  let scale := commonScale a b
  have ha : a.value = a.digitsAt scale * 10 ^ (-scale) :=
    value_eq_digitsAt a (le_max_left a.scale b.scale)
  have hb : b.value = b.digitsAt scale * 10 ^ (-scale) :=
    value_eq_digitsAt b (le_max_right a.scale b.scale)
  have hmono : StrictMono fun x : ℤ => (x * 10 ^ (-scale) : ℚ) := by
    intro x y hxy
    exact mul_lt_mul_of_pos_right (Int.cast_lt.mpr hxy) (zpow_pos (by norm_num) _)
  calc
    a.cmp b = (compare (a.digitsAt scale).sign (b.digitsAt scale).sign).then
        (compare (a.digitsAt scale) (b.digitsAt scale)) := by
      rw [sign_digitsAt, sign_digitsAt, cmp]
    _ = compare (a.digitsAt scale) (b.digitsAt scale) := compare_sign_then _ _
    _ = compare (a.digitsAt scale * 10 ^ (-scale) : ℚ) (b.digitsAt scale * 10 ^ (-scale)) :=
      (compare_of_strictMono hmono _ _).symm
    _ = compare a.value b.value := by rw [ha, hb]

end Decimal

namespace Number

theorem cmp_eq_compare_value (a b : Number) : a.cmp b = compare a.value b.value :=
  Decimal.cmp_eq_compare_value a.toDecimal b.toDecimal

theorem cmp_eq_iff {a b : Number} : a.cmp b = .eq ↔ a.value = b.value := by
  rw [cmp_eq_compare_value, compare_eq_iff_eq]

theorem cmp_swap (a b : Number) : b.cmp a = (a.cmp b).swap := by
  rw [cmp_eq_compare_value, cmp_eq_compare_value]
  exact Std.OrientedCmp.eq_swap

theorem isLE_cmp_trans {a b c : Number} (hab : (a.cmp b).isLE = true)
    (hbc : (b.cmp c).isLE = true) : (a.cmp c).isLE = true := by
  rw [cmp_eq_compare_value] at hab hbc ⊢
  exact Std.TransCmp.isLE_trans hab hbc

end Number

end PropertyMacros
