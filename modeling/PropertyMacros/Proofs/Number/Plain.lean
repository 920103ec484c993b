import Mathlib.Algebra.Order.Field.Rat
import Mathlib.Data.List.DropRight
import PropertyMacros.Proofs.Number.Digits
import PropertyMacros.Proofs.Number.Literal

/-!
Plain notation. A rational number has at most one plain literal, and printing a number yields the
plain literal of its value.
-/

namespace PropertyMacros

open Number (Literal)

/-- A literal without a superfluous zero at either end, without an empty side of its point, and
without a sign in front of zero. -/
structure Number.Literal.IsPlain (l : Literal) : Prop where
  whole_ne_nil : l.whole ≠ []
  leading : l.whole.head? = some '0' → l.whole = ['0']
  trailing : ∀ fraction, l.fraction? = some fraction →
    fraction ≠ [] ∧ fraction.getLast? ≠ some '0'
  sign : l.negative = true → l.value ≠ 0

/-- `text` is the plain notation of `q`. -/
def IsPlainText (text : List Char) (q : ℚ) : Prop :=
  ∃ l : Literal, l.IsPlain ∧ l.text = text ∧ l.value = q

namespace Number.Literal

theorem abs_value (l : Literal) :
    |l.value| = valueOf (l.whole ++ l.fraction) / 10 ^ l.fraction.length := by
  have hsigned (b : Bool) (n : ℕ) : |((signed b n : ℤ) : ℚ)| = n := by
    cases b <;> simp [signed]
  rw [value, abs_div, hsigned, abs_of_pos (by positivity)]

theorem fraction?_eq_some {l : Literal} (hpos : 0 < l.fraction.length) :
    l.fraction? = some l.fraction := by
  unfold fraction at hpos ⊢
  cases hf : l.fraction? with
  | none => simp [hf] at hpos
  | some fraction => rfl

theorem IsPlain.not_ten_dvd {l : Literal} (hl : l.IsPlain) (hpos : 0 < l.fraction.length) :
    ¬10 ∣ valueOf (l.whole ++ l.fraction) := by
  obtain ⟨hne, hlast⟩ := hl.trailing l.fraction (fraction?_eq_some hpos)
  obtain ⟨init, c, hc⟩ := List.eq_nil_or_concat' l.fraction |>.resolve_left hne
  have hdigit : c.isDigit = true := l.isDigit_of_mem_fraction (by simp [hc])
  have hzero : c ≠ '0' := by
    rintro rfl
    exact hlast (by simp [hc])
  have hlt := toNat_sub_lt_of_isDigit hdigit
  have hpos : c.toNat - 48 ≠ 0 := by
    intro h
    have hchar := digitChar_of_isDigit hdigit
    rw [h] at hchar
    exact hzero hchar.symm
  rw [hc, ← List.append_assoc, valueOf_concat]
  omega

theorem IsPlain.length_fraction_le {l m : Literal} (hm : m.IsPlain) (h : l.value = m.value) :
    m.fraction.length ≤ l.fraction.length := by
  by_contra hlt
  rw [not_le] at hlt
  apply hm.not_ten_dvd (Nat.zero_lt_of_lt hlt)
  have habs := congrArg abs h
  rw [abs_value, abs_value, div_eq_div_iff (by positivity) (by positivity)] at habs
  have hnat : valueOf (l.whole ++ l.fraction) * 10 ^ m.fraction.length =
      valueOf (m.whole ++ m.fraction) * 10 ^ l.fraction.length := by exact_mod_cast habs
  have hsplit : 10 ^ m.fraction.length =
      10 ^ (m.fraction.length - l.fraction.length) * 10 ^ l.fraction.length := by
    rw [← Nat.pow_add, Nat.sub_add_cancel hlt.le]
  rw [hsplit, ← Nat.mul_assoc] at hnat
  rw [← Nat.eq_of_mul_eq_mul_right (Nat.pow_pos (by decide)) hnat]
  exact (dvd_pow_self 10 (Nat.sub_ne_zero_of_lt hlt)).mul_left _

theorem IsPlain.fraction?_eq {l : Literal} (hl : l.IsPlain) :
    l.fraction? = if l.fraction = [] then none else some l.fraction := by
  unfold fraction
  cases hf : l.fraction? with
  | none => rfl
  | some f =>
      rw [Option.getD_some, if_neg (hl.trailing f hf).1]

theorem IsPlain.negative_iff {l : Literal} (hl : l.IsPlain) :
    l.negative = true ↔ l.value < 0 := by
  constructor
  · intro h
    refine lt_of_le_of_ne ?_ (hl.sign h)
    rw [value, h, signed, if_pos rfl, Int.cast_neg, neg_div, Left.neg_nonpos_iff]
    positivity
  · intro hlt
    by_contra h
    rw [value, signed, if_neg h] at hlt
    exact absurd hlt (not_lt.mpr (by positivity))

/-- No rational number has two plain literals. -/
theorem IsPlain.eq_of_value_eq {l m : Literal} (hl : l.IsPlain) (hm : m.IsPlain)
    (h : l.value = m.value) : l = m := by
  have hlen : l.fraction.length = m.fraction.length :=
    le_antisymm (hl.length_fraction_le h.symm) (hm.length_fraction_le h)
  have hdigits : valueOf (l.whole ++ l.fraction) = valueOf (m.whole ++ m.fraction) := by
    have habs := congrArg abs h
    rw [abs_value, abs_value, hlen, div_left_inj' (by positivity)] at habs
    exact_mod_cast habs
  obtain ⟨hwhole, hfraction⟩ := valueOf_append_inj hlen
    (fun c hc => l.isDigit_of_mem_fraction hc) (fun c hc => m.isDigit_of_mem_fraction hc) hdigits
  have hwholes : l.whole = m.whole := by
    rw [← toDigits_valueOf hl.whole_ne_nil (fun c hc => l.isDigit_of_mem_whole hc) hl.leading,
      hwhole,
      toDigits_valueOf hm.whole_ne_nil (fun c hc => m.isDigit_of_mem_whole hc) hm.leading]
  have hfractions : l.fraction = m.fraction := eq_of_valueOf_eq hlen
    (fun c hc => l.isDigit_of_mem_fraction hc) (fun c hc => m.isDigit_of_mem_fraction hc) hfraction
  have hpoint : l.fraction? = m.fraction? := by
    rw [hl.fraction?_eq, hm.fraction?_eq, hfractions]
  have hsign : l.negative = m.negative := by
    rw [Bool.eq_iff_iff, hl.negative_iff, hm.negative_iff, h]
  exact Literal.ext hsign hwholes hpoint

end Number.Literal

/-- The plain notation of a number is determined by its value. -/
theorem IsPlainText.unique {s t : List Char} {q : ℚ} (hs : IsPlainText s q)
    (ht : IsPlainText t q) : s = t := by
  obtain ⟨l, hl, rfl, hlq⟩ := hs
  obtain ⟨m, hm, rfl, hmq⟩ := ht
  rw [hl.eq_of_value_eq hm (hlq.trans hmq.symm)]

/-- A text is the plain notation of one number at most. -/
theorem IsPlainText.value_unique {text : List Char} {p q : ℚ} (hp : IsPlainText text p)
    (hq : IsPlainText text q) : p = q := by
  obtain ⟨l, -, rfl, rfl⟩ := hp
  obtain ⟨m, -, htext, rfl⟩ := hq
  exact Literal.value_eq_of_text_eq htext.symm

/-- Numbers are written alike exactly if they are equal. -/
theorem IsPlainText.eq_iff {s t : List Char} {p q : ℚ} (hs : IsPlainText s p)
    (ht : IsPlainText t q) : s = t ↔ p = q := by
  constructor
  · rintro rfl
    exact hs.value_unique ht
  · rintro rfl
    exact hs.unique ht

/-- How many zeros stand at the end of a row of digits. -/
def trailingZeros (digits : List Char) : ℕ := (digits.rtakeWhile (· == '0')).length

theorem dropTrailingZeros_append (digits : List Char) :
    dropTrailingZeros digits ++ List.replicate (trailingZeros digits) '0' = digits := by
  have hzeros : digits.rtakeWhile (· == '0') = List.replicate (trailingZeros digits) '0' := by
    refine List.eq_replicate_of_mem fun c hc => ?_
    simpa using List.mem_rtakeWhile_imp hc
  rw [← hzeros]
  exact List.rdropWhile_append_rtakeWhile

theorem getLast?_dropTrailingZeros (digits : List Char) :
    (dropTrailingZeros digits).getLast? ≠ some '0' := by
  intro h
  have hne : dropTrailingZeros digits ≠ [] := by
    intro hnil
    rw [hnil] at h
    cases h
  have hlast := List.rdropWhile_last_not (· == '0') digits hne
  rw [List.getLast?_eq_some_getLast hne, Option.some.injEq] at h
  exact hlast (beq_iff_eq.mpr h)

theorem isDigit_of_mem_padZeros {length n : ℕ} {c : Char}
    (h : c ∈ padZeros length (digitsOf n)) : c.isDigit = true := by
  rw [padZeros, List.mem_append] at h
  rcases h with h | h
  · rw [List.eq_of_mem_replicate h]
    decide
  · exact isDigit_of_mem_digitsOf h

theorem valueOf_padZeros (length n : ℕ) : valueOf (padZeros length (digitsOf n)) = n := by
  rw [padZeros, valueOf, Nat.ofDigitChars_append, Nat.ofDigitChars_replicate_zero, Nat.mul_zero]
  exact valueOf_digitsOf n

theorem length_padZeros (length : ℕ) (digits : List Char) :
    (padZeros length digits).length = max length digits.length := by
  rw [padZeros, List.length_append, List.length_replicate]
  omega

theorem head?_digitsOf {n : ℕ} (hn : n ≠ 0) : (digitsOf n).head? ≠ some '0' := by
  intro h
  obtain ⟨rest, hrest⟩ := List.head?_eq_some_iff.mp h
  have hdigits : ∀ c ∈ rest, c.isDigit = true := fun c hc =>
    isDigit_of_mem_digitsOf (n := n) (hrest ▸ .tail _ hc)
  have hval : n = valueOf rest := by
    conv_lhs => rw [← valueOf_digitsOf n, hrest]
    exact (valueOf_append ['0'] rest).trans (by simp [valueOf_singleton])
  have hlt : n < 10 ^ rest.length := hval.le.trans_lt (valueOf_lt hdigits)
  have hpos : 0 < rest.length := by
    rw [List.length_pos_iff]
    rintro rfl
    exact hn hval
  have hlen := (Nat.length_toDigits_le_iff (by decide) hpos).mpr hlt
  rw [← digitsOf_eq, hrest, List.length_cons] at hlen
  omega

/-- What stands in front of the point once the digits have been padded. -/
theorem head?_take_padZeros {n places : ℕ} (hn : n ≠ 0) :
    let digits := padZeros (places + 1) (digitsOf n)
    (digits.take (digits.length - places)).head? = some '0' →
      digits.take (digits.length - places) = ['0'] := by
  intro digits h
  by_cases hlen : places < (digitsOf n).length
  · have hdigits : digits = digitsOf n := by
      simp only [digits, padZeros, Nat.sub_eq_zero_of_le hlen, List.replicate_zero,
        List.nil_append]
    rw [List.head?_take, hdigits] at h
    split at h
    · cases h
    · exact absurd h (head?_digitsOf hn)
  · have hone : digits.length - places = 1 := by
      rw [length_padZeros]
      omega
    obtain ⟨rest, hrest⟩ := List.head?_eq_some_iff.mp h
    have hlength := congrArg List.length hrest
    rw [List.length_take, hone, List.length_cons] at hlength
    have hnil : rest = [] := List.eq_nil_of_length_eq_zero (by omega)
    rw [hrest, hnil]

/-- The three parts into which printing cuts the padded digits, the last of which is left out. -/
theorem exists_parts_printMagnitude {n : ℕ} (hn : n ≠ 0) (places : ℕ) :
    ∃ whole fraction zeros,
      padZeros (places + 1) (digitsOf n) = whole ++ fraction ++ List.replicate zeros '0' ∧
      fraction.length + zeros = places ∧
      whole ≠ [] ∧ (whole.head? = some '0' → whole = ['0']) ∧
      fraction.getLast? ≠ some '0' ∧
      printMagnitude n places = whole ++ printFraction fraction := by
  let digits := padZeros (places + 1) (digitsOf n)
  let row := digits.drop (digits.length - places)
  have hlen : places < digits.length := by
    rw [length_padZeros]
    omega
  have hrowlen : row.length = places := by
    rw [List.length_drop]
    omega
  have hzeros := dropTrailingZeros_append row
  refine ⟨digits.take (digits.length - places), dropTrailingZeros row, trailingZeros row, ?_, ?_,
    ?_, head?_take_padZeros hn, getLast?_dropTrailingZeros row, ?_⟩
  · rw [List.append_assoc, hzeros]
    exact (List.take_append_drop _ _).symm
  · rw [← hrowlen]
    conv_rhs => rw [← hzeros, List.length_append, List.length_replicate]
  · rw [ne_eq, List.take_eq_nil_iff]
    rintro (h | h)
    · omega
    · rw [h] at hlen
      exact absurd hlen (Nat.not_lt_zero _)
  · unfold printMagnitude
    rw [if_neg hn]

theorem cast_signed_mul (negative : Bool) (m n : ℕ) :
    (signed negative (m * n) : ℚ) = signed negative m * n := by
  cases negative <;> simp [signed]

theorem cast_signed_ne_zero {negative : Bool} {n : ℕ} (hn : n ≠ 0) :
    (signed negative n : ℚ) ≠ 0 := by
  cases negative <;> simpa [signed] using hn

/-- The literal that printing a magnitude other than zero builds. -/
theorem exists_plain_printMagnitude {n : ℕ} (hn : n ≠ 0) (places : ℕ) (negative : Bool) :
    ∃ l : Literal, l.IsPlain ∧ l.negative = negative ∧
      l.unsignedText = printMagnitude n places ∧ l.value = signed negative n / 10 ^ places := by
  obtain ⟨whole, fraction, zeros, hdigits, hplaces, hwhole, hleading, htrailing, hprint⟩ :=
    exists_parts_printMagnitude hn places
  have hall : ∀ c ∈ whole ++ fraction, c.isDigit = true := by
    intro c hc
    have hmem : c ∈ padZeros (places + 1) (digitsOf n) := by
      rw [hdigits]
      exact List.mem_append_left _ hc
    exact isDigit_of_mem_padZeros hmem
  have hn_eq : n = valueOf (whole ++ fraction) * 10 ^ zeros := by
    rw [← valueOf_append_zeros, ← hdigits, valueOf_padZeros]
  let fraction? := if fraction = [] then none else some fraction
  have hgetD : fraction?.getD [] = fraction := by
    by_cases h : fraction = [] <;> simp [fraction?, h]
  let l : Literal := ⟨negative, whole, fraction?, by rwa [hgetD],
    by rw [hgetD]; exact List.append_ne_nil_of_left_ne_nil hwhole _⟩
  have hvalue : l.value = signed negative n / 10 ^ places := by
    have hfraction : l.fraction = fraction := hgetD
    rw [Literal.value, hfraction, hn_eq, cast_signed_mul, ← hplaces, pow_add]
    push_cast
    rw [mul_div_mul_right _ _ (by positivity)]
  refine ⟨l, ⟨hwhole, hleading, ?_, ?_⟩, rfl, ?_, hvalue⟩
  · intro f hf
    by_cases h : fraction = []
    · simp [l, fraction?, h] at hf
    · simp only [l, fraction?, h, if_false, Option.some.injEq] at hf
      exact ⟨hf ▸ h, hf ▸ htrailing⟩
  · intro _
    rw [hvalue]
    exact div_ne_zero (cast_signed_ne_zero hn) (by positivity)
  · rw [hprint, Literal.unsignedText]
    cases fraction <;> rfl

theorem isPlainText_zero : IsPlainText ['0'] 0 :=
  ⟨⟨false, ['0'], none, by simp, by simp⟩,
    ⟨by decide, fun _ => rfl, by simp, by simp⟩, rfl,
    by simp [Literal.value, Literal.fraction, signed, valueOf_singleton]⟩

theorem signed_natAbs (z : ℤ) : signed (decide (z < 0)) z.natAbs = z := by
  unfold signed
  split
  · next hneg =>
    have hneg := of_decide_eq_true hneg
    omega
  · next hneg =>
    have hneg := of_decide_eq_false (Bool.not_eq_true _ ▸ hneg)
    omega

namespace Decimal

theorem isPlainText_print_of_digits_eq_zero {d : Decimal} (h : d.digits = 0) :
    IsPlainText d.print d.value := by
  have hprint : d.print = ['0'] := by
    simp [print, h, printMagnitude]
  rw [hprint, (value_eq_zero_iff d).mpr h]
  exact isPlainText_zero

/-- Printing puts the sign in front of what it writes for the magnitude. -/
theorem isPlainText_print_of_isPlain {d : Decimal} {l : Literal} (hl : l.IsPlain)
    (hsign : l.negative = decide (d.digits < 0))
    (htext : l.unsignedText = printMagnitude d.digits.natAbs d.scale) (hvalue : l.value = d.value) :
    IsPlainText d.print d.value := by
  refine ⟨l, hl, ?_, hvalue⟩
  rw [Literal.text, hsign, htext, print]
  simp only [decide_eq_true_eq]

/-- Printing is plain at every scale that does not ask for zeros behind the last digit. -/
theorem isPlainText_print {d : Decimal} (h : 0 ≤ d.scale) : IsPlainText d.print d.value := by
  by_cases hd : d.digits = 0
  · exact isPlainText_print_of_digits_eq_zero hd
  · obtain ⟨places, hplaces⟩ := Int.eq_ofNat_of_zero_le h
    obtain ⟨l, hl, hsign, htext, hvalue⟩ := exists_plain_printMagnitude
      (Int.natAbs_ne_zero.mpr hd) places (decide (d.digits < 0))
    refine isPlainText_print_of_isPlain hl hsign (hplaces ▸ htext) ?_
    rw [hvalue, signed_natAbs, value, hplaces, zpow_neg, zpow_natCast, div_eq_mul_inv]

end Decimal

theorem Number.isPlainText_print {a : Number} (h : 0 ≤ a.toDecimal.scale) :
    IsPlainText a.print a.value := by
  cases a with
  | integer m => exact Decimal.isPlainText_print h
  | decimal d => exact Decimal.isPlainText_print h

end PropertyMacros
