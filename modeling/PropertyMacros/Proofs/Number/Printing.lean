import PropertyMacros.Proofs.Number.Order
import PropertyMacros.Proofs.Number.Plain

/-!
Printing is canonical and loses nothing. At every scale that leaves the zeros behind the last digit
countable the printed text is the plain notation of the value, it is read back as a number of that
value, and numbers that are printed alike have the same value.
-/

namespace PropertyMacros

open Number (Literal)

theorem mem_of_mem_dropTrailingZeros {digits : List Char} {c : Char}
    (h : c ∈ dropTrailingZeros digits) : c ∈ digits := by
  rw [← dropTrailingZeros_append digits]
  exact List.mem_append_left _ h

theorem isDigit_or_point_of_mem_printMagnitude {n : ℕ} {scale : ℤ} {c : Char}
    (h : c ∈ printMagnitude n scale) : c.isDigit = true ∨ c = '.' := by
  unfold printMagnitude at h
  split at h
  · rw [List.mem_singleton.mp h]
    exact .inl rfl
  cases scale with
  | ofNat places =>
      rcases List.mem_append.mp h with hwhole | hfraction
      · exact .inl (isDigit_of_mem_padZeros (List.mem_of_mem_take hwhole))
      · cases hrow : dropTrailingZeros _ with
        | nil =>
            rw [hrow] at hfraction
            cases hfraction
        | cons d row =>
            rw [hrow] at hfraction
            rcases List.mem_cons.mp hfraction with rfl | hmem
            · exact .inr rfl
            · rw [← hrow] at hmem
              exact .inl (isDigit_of_mem_padZeros
                (List.mem_of_mem_drop (mem_of_mem_dropTrailingZeros hmem)))
  | negSucc k =>
      rcases List.mem_append.mp h with hrow | hzeros
      · exact .inl (isDigit_of_mem_digitsOf (mem_of_mem_dropTrailingZeros hrow))
      · rw [List.eq_of_mem_replicate hzeros]
        exact .inl rfl

theorem Decimal.parenthesis_notMem_print (d : Decimal) : '(' ∉ d.print := by
  have hmagnitude : '(' ∉ printMagnitude d.digits.natAbs d.scale := by
    intro h
    rcases isDigit_or_point_of_mem_printMagnitude h with h | h <;> cases h
  unfold print
  split
  · rw [List.mem_cons, not_or]
    exact ⟨by decide, hmagnitude⟩
  · exact hmagnitude

/-- The text of no number can be taken for that of an error. -/
theorem Number.parenthesis_notMem_print (a : Number) : '(' ∉ a.print := by
  cases a with
  | integer value => exact Decimal.parenthesis_notMem_print _
  | decimal value => exact value.parenthesis_notMem_print

theorem printMagnitude_negSucc {n k : ℕ} (hn : n ≠ 0)
    (h : trailingZeros (digitsOf n) + (k + 1) ≤ maxZeros) :
    printMagnitude n (.negSucc k) = digitsOf n ++ List.replicate (k + 1) '0' := by
  have hdigits := dropTrailingZeros_append (digitsOf n)
  have hlength : (digitsOf n).length - (dropTrailingZeros (digitsOf n)).length =
      trailingZeros (digitsOf n) := by
    have hlen := congrArg List.length hdigits
    rw [List.length_append, List.length_replicate] at hlen
    omega
  calc
    printMagnitude n (.negSucc k) = dropTrailingZeros (digitsOf n) ++
        List.replicate (trailingZeros (digitsOf n) + (k + 1)) '0' := by
      unfold printMagnitude
      simp only [if_neg hn, hlength, if_pos h]
    _ = digitsOf n ++ List.replicate (k + 1) '0' := by
      rw [List.replicate_add, ← List.append_assoc, hdigits]

/-- The literal that printing a magnitude builds at a scale below zero. -/
theorem exists_plain_printMagnitude_negSucc {n k : ℕ} (hn : n ≠ 0)
    (h : trailingZeros (digitsOf n) + (k + 1) ≤ maxZeros) (negative : Bool) :
    ∃ l : Literal, l.IsPlain ∧ l.negative = negative ∧
      l.unsignedText = printMagnitude n (.negSucc k) ∧
      l.value = signed negative n * 10 ^ (k + 1) := by
  let whole := digitsOf n ++ List.replicate (k + 1) '0'
  have hdigit : ∀ c ∈ whole, c.isDigit = true := by
    intro c hc
    rcases List.mem_append.mp hc with hc | hc
    · exact isDigit_of_mem_digitsOf hc
    · rw [List.eq_of_mem_replicate hc]
      decide
  have hne : whole ≠ [] := List.append_ne_nil_of_left_ne_nil (digitsOf_ne_nil n) _
  have hhead : whole.head? ≠ some '0' := by
    rw [List.head?_append_of_ne_nil _ (digitsOf_ne_nil n)]
    exact head?_digitsOf hn
  let l : Literal := ⟨negative, whole, none, by simpa using hdigit, by simpa using hne⟩
  have hvalue : l.value = signed negative n * 10 ^ (k + 1) := by
    have hwhole : valueOf (l.whole ++ l.fraction) = n * 10 ^ (k + 1) := by
      change valueOf (whole ++ []) = _
      rw [List.append_nil, valueOf_append_zeros, valueOf_digitsOf]
    have hfraction : l.fraction.length = 0 := rfl
    rw [Literal.value, hwhole, hfraction, cast_signed_mul, pow_zero, div_one, Nat.cast_pow,
      Nat.cast_ofNat]
  refine ⟨l, ⟨hne, fun hzero => absurd hzero hhead, by simp [l], fun _ => ?_⟩, rfl, ?_, hvalue⟩
  · rw [hvalue]
    exact mul_ne_zero (cast_signed_ne_zero hn) (by positivity)
  · rw [printMagnitude_negSucc hn h]
    exact List.append_nil whole

namespace Decimal

/-- The zeros at the end of the digits and those that the scale asks for are few enough to be
counted in 63 bits. -/
def IsPrintable (d : Decimal) : Prop :=
  d.digits ≠ 0 → -2 ^ 63 < d.scale - trailingZeros (digitsOf d.digits.natAbs)

theorem isPlainText_print_of_isPrintable {d : Decimal} (h : d.IsPrintable) :
    IsPlainText d.print d.value := by
  by_cases hd : d.digits = 0
  · exact isPlainText_print_of_digits_eq_zero hd
  · cases hscale : d.scale with
    | ofNat places =>
        apply isPlainText_print
        rw [hscale]
        exact Int.natCast_nonneg places
    | negSucc k =>
        have hbound := h hd
        rw [hscale, Int.negSucc_eq] at hbound
        have hzeros : trailingZeros (digitsOf d.digits.natAbs) + (k + 1) ≤ maxZeros := by
          simp only [maxZeros, Nat.pow_eq]
          omega
        obtain ⟨l, hl, hsign, htext, hvalue⟩ := exists_plain_printMagnitude_negSucc
          (Int.natAbs_ne_zero.mpr hd) hzeros (decide (d.digits < 0))
        refine isPlainText_print_of_isPlain hl hsign (hscale ▸ htext) ?_
        rw [hvalue, signed_natAbs, value, hscale, Int.neg_negSucc, zpow_natCast]

end Decimal

namespace Number

/-- An integer can be printed whatever its size. -/
def IsPrintable : Number → Prop
  | integer _ => True
  | decimal d => d.IsPrintable

theorem isPlainText_print_of_isPrintable {a : Number} (h : a.IsPrintable) :
    IsPlainText a.print a.value := by
  cases a with
  | integer m => exact Decimal.isPlainText_print le_rfl
  | decimal d => exact Decimal.isPlainText_print_of_isPrintable h

theorem Literal.exists_toNumber_eq_integer_iff {l : Literal} :
    (∃ m, l.toNumber = integer m) ↔ l.fraction? = none := by
  unfold toNumber
  cases l.fraction? <;> simp

/-- Plain notation has a point exactly if the value is no integer. -/
theorem Literal.IsPlain.fraction?_eq_none_iff {l : Literal} (hl : l.IsPlain) :
    l.fraction? = none ↔ ∃ m : ℤ, l.value = m := by
  constructor
  · intro h
    obtain ⟨m, hm⟩ := Literal.exists_toNumber_eq_integer_iff.mpr h
    exact ⟨m, by rw [← l.value_toNumber, hm, value_integer]⟩
  · rintro ⟨m, hm⟩
    by_contra h
    have hpos : 0 < l.fraction.length := by
      rw [List.length_pos_iff]
      intro hnil
      exact h (by rw [hl.fraction?_eq, if_pos hnil])
    have habs := l.abs_value
    rw [hm, eq_div_iff (by positivity), ← Int.cast_abs, Int.abs_eq_natAbs, Int.cast_natCast] at habs
    have hnat : m.natAbs * 10 ^ l.fraction.length = valueOf (l.whole ++ l.fraction) := by
      exact_mod_cast habs
    apply hl.not_ten_dvd hpos
    rw [← hnat]
    exact (dvd_pow_self 10 hpos.ne').mul_left _

end Number

/-- Plain notation is read as a number of the value, in the domain of the integers whenever it can
be. -/
theorem IsPlainText.exists_parse {text : List Char} {q : ℚ} (h : IsPlainText text q) :
    ∃ b, Number.parse (String.ofList text) = .ok b ∧ b.value = q ∧
      ((∃ m, b = .integer m) ↔ ∃ m : ℤ, q = m) := by
  obtain ⟨l, hl, rfl, rfl⟩ := h
  refine ⟨l.toNumber, Number.parse_eq_ok_iff.mpr ⟨l, ?_, rfl⟩, l.value_toNumber, ?_⟩
  · rw [String.toList_ofList]
  · rw [Literal.exists_toNumber_eq_integer_iff, hl.fraction?_eq_none_iff]

namespace Number

/-- What is printed is the plain notation of the value and nothing else, is read back as an equal
number, and tells numbers of different values apart. -/
theorem print_canonical {a : Number} (ha : a.IsPrintable) :
    (∀ text, IsPlainText text a.value ↔ text = a.print) ∧
    (∃ b, parse (String.ofList a.print) = .ok b ∧ b.cmp a = .eq ∧
      ((∃ m, b = integer m) ↔ ∃ m : ℤ, a.value = m)) ∧
    ∀ b : Number, b.IsPrintable → (a.print = b.print ↔ a.value = b.value) := by
  have hplain := isPlainText_print_of_isPrintable ha
  refine ⟨?_, ?_, ?_⟩
  · intro text
    constructor
    · exact fun htext => htext.unique hplain
    · rintro rfl
      exact hplain
  · obtain ⟨b, hparse, hvalue, hinteger⟩ := hplain.exists_parse
    exact ⟨b, hparse, cmp_eq_iff.mpr hvalue, hinteger⟩
  · intro b hb
    exact hplain.eq_iff (isPlainText_print_of_isPrintable hb)

/-- Three forms of one number. The zeros that the scale asks for are written, and those behind the
point are not. -/
theorem print_canonical_thousands :
    IsPrintable (decimal ⟨-1200, -1⟩) ∧ IsPrintable (decimal ⟨-1200000, 2⟩) ∧
      print (decimal ⟨-1200, -1⟩) = "-12000".toList ∧
      parse "-12000" = .ok (integer (-12000)) ∧
      print (decimal ⟨-1200, -1⟩) = print (decimal ⟨-1200000, 2⟩) ∧
      IsPlainText "-12000".toList (value (decimal ⟨-1200, -1⟩)) := by
  have ha : IsPrintable (decimal ⟨-1200, -1⟩) := fun _ => by decide
  have hb : IsPrintable (decimal ⟨-1200000, 2⟩) := fun _ => by decide
  obtain ⟨hplain, -, hprint⟩ := print_canonical ha
  refine ⟨ha, hb, by decide, by decide, (hprint _ hb).mpr ?_, (hplain _).mpr (by decide)⟩
  norm_num [value, toDecimal, Decimal.value]

end Number

end PropertyMacros
