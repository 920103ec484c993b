import Mathlib.Algebra.Group.Nat.Defs
import Mathlib.Data.List.Induction
import Mathlib.Tactic.Common
import PropertyMacros.Number.Numeral

/-!
Rows of digits and the natural numbers that they denote.
-/

namespace PropertyMacros

theorem toNat_sub_lt_of_isDigit {c : Char} (h : c.isDigit = true) : c.toNat - 48 < 10 := by
  have hle : c.toNat ≤ 57 := by
    simp only [Char.isDigit, Bool.and_eq_true, decide_eq_true_eq] at h
    exact UInt32.le_iff_toNat_le.mp h.2
  omega

theorem digitChar_of_isDigit {c : Char} (h : c.isDigit = true) :
    Nat.digitChar (c.toNat - 48) = c := by
  have hge : 48 ≤ c.toNat := by
    simp only [Char.isDigit, Bool.and_eq_true, decide_eq_true_eq] at h
    exact UInt32.le_iff_toNat_le.mp h.1
  apply Char.toNat_inj.mp
  rw [Nat.toNat_digitChar_of_lt_ten (toNat_sub_lt_of_isDigit h)]
  omega

theorem valueOf_append (xs ys : List Char) :
    valueOf (xs ++ ys) = valueOf xs * 10 ^ ys.length + valueOf ys := by
  rw [valueOf, Nat.ofDigitChars_append, Nat.ofDigitChars_eq_ofDigitChars_zero, Nat.mul_comm]
  rfl

theorem valueOf_concat (xs : List Char) (c : Char) :
    valueOf (xs ++ [c]) = 10 * valueOf xs + (c.toNat - 48) := by
  rw [valueOf, Nat.ofDigitChars_append, Nat.ofDigitChars_cons, Nat.ofDigitChars_nil]
  rfl

theorem valueOf_singleton (c : Char) : valueOf [c] = c.toNat - 48 := by
  rw [← List.nil_append [c], valueOf_concat]
  exact Nat.zero_add _

theorem valueOf_append_zeros (xs : List Char) (k : ℕ) :
    valueOf (xs ++ List.replicate k '0') = valueOf xs * 10 ^ k := by
  rw [valueOf, Nat.ofDigitChars_append, Nat.ofDigitChars_replicate_zero, Nat.mul_comm]
  rfl

theorem valueOf_lt {xs : List Char} (h : ∀ c ∈ xs, c.isDigit = true) :
    valueOf xs < 10 ^ xs.length := by
  induction xs using List.reverseRecOn with
  | nil => decide
  | append_singleton xs c ih =>
      have hxs := ih fun d hd => h d (List.mem_append_left _ hd)
      have hc := toNat_sub_lt_of_isDigit (h c (by simp))
      rw [valueOf_concat, List.length_append, List.length_singleton, Nat.pow_succ]
      omega

/-- A row of digits falls into two parts in one way only, once the length of the second is known. -/
theorem valueOf_append_inj {xs xs' ys ys' : List Char} (hlen : ys.length = ys'.length)
    (hys : ∀ c ∈ ys, c.isDigit = true) (hys' : ∀ c ∈ ys', c.isDigit = true)
    (h : valueOf (xs ++ ys) = valueOf (xs' ++ ys')) :
    valueOf xs = valueOf xs' ∧ valueOf ys = valueOf ys' := by
  have hlt := valueOf_lt hys
  have hlt' := valueOf_lt hys'
  rw [valueOf_append, valueOf_append, ← hlen] at h
  rw [← hlen] at hlt'
  have hmod := congrArg (· % 10 ^ ys.length) h
  have hdiv := congrArg (· / 10 ^ ys.length) h
  simp only [Nat.mul_add_mod_self_right, Nat.mod_eq_of_lt hlt, Nat.mod_eq_of_lt hlt'] at hmod
  rw [hmod] at h
  have hpos : 0 < 10 ^ ys.length := Nat.pow_pos (by decide)
  exact ⟨Nat.eq_of_mul_eq_mul_right hpos (Nat.add_right_cancel h), hmod⟩

theorem eq_of_valueOf_eq {xs ys : List Char} (hlen : xs.length = ys.length)
    (hxs : ∀ c ∈ xs, c.isDigit = true) (hys : ∀ c ∈ ys, c.isDigit = true)
    (h : valueOf xs = valueOf ys) : xs = ys := by
  induction xs generalizing ys with
  | nil => exact (List.eq_nil_of_length_eq_zero hlen.symm).symm
  | cons c xs ih =>
      cases ys with
      | nil => cases hlen
      | cons d ys =>
          have hlen' : xs.length = ys.length := Nat.succ.inj hlen
          have hxs' : ∀ e ∈ xs, e.isDigit = true := fun e he => hxs e (.tail _ he)
          have hys' : ∀ e ∈ ys, e.isDigit = true := fun e he => hys e (.tail _ he)
          have happend : valueOf ([c] ++ xs) = valueOf ([d] ++ ys) := h
          obtain ⟨hhead, htail⟩ := valueOf_append_inj hlen' hxs' hys' happend
          rw [valueOf_singleton, valueOf_singleton] at hhead
          rw [ih hlen' hxs' hys' htail, ← digitChar_of_isDigit (hxs c (.head _)), hhead,
            digitChar_of_isDigit (hys d (.head _))]

/-- A row of digits without a superfluous zero in front is the printed form of its value. -/
theorem toDigits_valueOf {xs : List Char} (hne : xs ≠ []) (h : ∀ c ∈ xs, c.isDigit = true)
    (hzero : xs.head? = some '0' → xs = ['0']) : Nat.toDigits 10 (valueOf xs) = xs := by
  induction xs using List.reverseRecOn with
  | nil => exact absurd rfl hne
  | append_singleton xs c ih =>
      have hc : c.isDigit = true := h c (by simp)
      have hlt := toNat_sub_lt_of_isDigit hc
      by_cases hxs : xs = []
      · subst hxs
        rw [List.nil_append, valueOf_singleton, Nat.toDigits_of_lt_base hlt,
          digitChar_of_isDigit hc]
      · have hhead : xs.head? ≠ some '0' := by
          intro hx
          have hlen := congrArg List.length
            (hzero (by rw [List.head?_append, hx, Option.some_or]))
          rw [List.length_append] at hlen
          exact hxs (List.eq_nil_of_length_eq_zero (by simpa using hlen))
        have hinit := ih hxs (fun d hd => h d (List.mem_append_left _ hd))
          fun hx => absurd hx hhead
        have hpos : 0 < valueOf xs := by
          rw [Nat.pos_iff_ne_zero]
          intro hx
          rw [hx, Nat.toDigits_zero] at hinit
          exact hhead (by rw [← hinit]; rfl)
        rw [valueOf_concat, ← Nat.toDigits_append_toDigits (by decide) hpos hlt, hinit,
          Nat.toDigits_of_lt_base hlt, digitChar_of_isDigit hc]

/-! ## Printed digits -/

theorem isDigit_of_mem_digitsOf {n : ℕ} {c : Char} (h : c ∈ digitsOf n) : c.isDigit = true := by
  rw [digitsOf_eq] at h
  exact Nat.isDigit_of_mem_toDigits (by decide) (by decide) h

theorem digitsOf_ne_nil (n : ℕ) : digitsOf n ≠ [] := by
  rw [digitsOf_eq]
  exact Nat.toDigits_ne_nil

theorem valueOf_digitsOf (n : ℕ) : valueOf (digitsOf n) = n := by
  rw [digitsOf_eq, valueOf, Nat.ofDigitChars_ten_toDigits]

end PropertyMacros
