import PropertyMacros.Proofs.Number.Digits
import PropertyMacros.Proofs.Number.Literal

/-!
The texts that are read as numbers, described by their characters. Any other text is a fault that
names it, and a text that is accepted has the number of its digits and its point. Positions are
written more narrowly, and have a bound.
-/

namespace PropertyMacros

namespace Number

/-- What may stand behind the sign of a numeral: digits, one at least, and among or around them one
point at most. -/
structure IsUnsignedNumeral (text : List Char) : Prop where
  digit_or_point : ∀ c ∈ text, c.isDigit = true ∨ c = '.'
  count_point_le : text.count '.' ≤ 1
  exists_digit : ∃ c ∈ text, c.isDigit = true

theorem isUnsignedNumeral_iff {text : List Char} :
    IsUnsignedNumeral text ↔ text.all (fun c => c.isDigit || c == '.') = true ∧
      text.count '.' ≤ 1 ∧ text.any Char.isDigit = true := by
  simp only [List.all_eq_true, List.any_eq_true, Bool.or_eq_true, beq_iff_eq]
  constructor
  · rintro ⟨hall, hcount, hany⟩
    exact ⟨hall, hcount, hany⟩
  · rintro ⟨hall, hcount, hany⟩
    exact ⟨hall, hcount, hany⟩

instance (text : List Char) : Decidable (IsUnsignedNumeral text) :=
  decidable_of_iff' _ isUnsignedNumeral_iff

/-- A text with or without a minus sign in front. -/
def withSign (negative : Bool) (text : List Char) : List Char :=
  if negative then '-' :: text else text

/-- At most one minus sign, and digits with at most one point. -/
def IsNumeral (text : List Char) : Prop :=
  ∃ negative unsigned, text = withSign negative unsigned ∧ IsUnsignedNumeral unsigned

theorem not_isDigit_point : ¬ '.'.isDigit = true := by decide

theorem point_not_mem_of_isDigit {digits : List Char} (h : ∀ c ∈ digits, c.isDigit = true) :
    '.' ∉ digits :=
  fun hmem => not_isDigit_point (h '.' hmem)

theorem point_mem_withSign {negative : Bool} {text : List Char} :
    '.' ∈ withSign negative text ↔ '.' ∈ text := by
  cases negative <;> simp [withSign]

theorem Literal.isUnsignedNumeral (l : Literal) : IsUnsignedNumeral l.unsignedText := by
  refine ⟨fun c hc => l.isDigit_or_point_of_mem hc, ?_, ?_⟩
  · have hwhole := point_not_mem_of_isDigit fun c hc => l.isDigit_of_mem_whole hc
    have hfraction := point_not_mem_of_isDigit fun c hc => l.isDigit_of_mem_fraction hc
    unfold fraction at hfraction
    unfold unsignedText
    cases hf : l.fraction? with
    | none => simp [List.count_eq_zero.mpr hwhole]
    | some fraction =>
        rw [hf, Option.getD_some] at hfraction
        simp [List.count_eq_zero.mpr hwhole, List.count_eq_zero.mpr hfraction]
  · obtain ⟨c, hc⟩ := List.exists_mem_of_ne_nil _ l.digits_ne_nil
    refine ⟨c, ?_, l.isDigit_of_mem c hc⟩
    unfold unsignedText
    cases hf : l.fraction? with
    | none => simpa [hf] using hc
    | some fraction =>
        simp only [hf, Option.getD_some, List.mem_append] at hc
        simp only [Option.map_some, Option.getD_some, List.mem_append, List.mem_cons]
        exact hc.imp_right .inr

namespace IsUnsignedNumeral

theorem isDigit_of_ne {text : List Char} (h : IsUnsignedNumeral text) {c : Char} (hc : c ∈ text)
    (hne : c ≠ '.') : c.isDigit = true :=
  (h.digit_or_point c hc).resolve_right hne

/-- Without a point the digits are those of an integer. -/
theorem exists_literal_of_not_mem {digits : List Char} (h : IsUnsignedNumeral digits)
    (hpoint : '.' ∉ digits) (negative : Bool) :
    ∃ l : Literal, l.text = withSign negative digits ∧
      l.toNumber = integer (signed negative (valueOf digits)) := by
  have hdigit : ∀ c ∈ digits, c.isDigit = true :=
    fun c hc => h.isDigit_of_ne hc fun hc' => hpoint (hc' ▸ hc)
  obtain ⟨c, hc, -⟩ := h.exists_digit
  let l : Literal := ⟨negative, digits, none, by simpa using hdigit,
    by simpa using List.ne_nil_of_mem hc⟩
  have hunsigned : l.unsignedText = digits := List.append_nil digits
  exact ⟨l, by rw [Literal.text, hunsigned]; rfl, rfl⟩

/-- Around the point stand the digits of a decimal. -/
theorem exists_literal_of_point {before after : List Char}
    (h : IsUnsignedNumeral (before ++ '.' :: after)) (negative : Bool) :
    ∃ l : Literal, l.text = withSign negative (before ++ '.' :: after) ∧
      l.toNumber = decimal ⟨signed negative (valueOf (before ++ after)), after.length⟩ := by
  have hmem (c : Char) : c ∈ before ++ '.' :: after ↔ c = '.' ∨ c ∈ before ++ after := by
    simp [or_left_comm]
  have hpoint : '.' ∉ before ++ after := by
    have hcount := h.count_point_le
    rw [List.count_append, List.count_cons_self] at hcount
    rw [← List.count_eq_zero, List.count_append]
    omega
  have hdigit : ∀ c ∈ before ++ after, c.isDigit = true :=
    fun c hc => h.isDigit_of_ne ((hmem c).mpr (.inr hc)) fun hc' => hpoint (hc' ▸ hc)
  obtain ⟨c, hc, hcdigit⟩ := h.exists_digit
  have hc : c ∈ before ++ after :=
    ((hmem c).mp hc).resolve_left fun hc' => not_isDigit_point (hc' ▸ hcdigit)
  exact ⟨⟨negative, before, some after, hdigit, List.ne_nil_of_mem hc⟩, rfl, rfl⟩

theorem parse_integer {text : String} {negative : Bool} {digits : List Char}
    (h : IsUnsignedNumeral digits) (htext : text.toList = withSign negative digits)
    (hpoint : '.' ∉ digits) :
    parse text = .ok (integer (signed negative (valueOf digits))) := by
  obtain ⟨l, hl, hnumber⟩ := h.exists_literal_of_not_mem hpoint negative
  exact parse_eq_ok_iff.mpr ⟨l, hl.trans htext.symm, hnumber⟩

theorem parse_decimal {text : String} {negative : Bool} {before after : List Char}
    (h : IsUnsignedNumeral (before ++ '.' :: after))
    (htext : text.toList = withSign negative (before ++ '.' :: after)) :
    parse text =
      .ok (decimal ⟨signed negative (valueOf (before ++ after)), after.length⟩) := by
  obtain ⟨l, hl, hnumber⟩ := h.exists_literal_of_point negative
  exact parse_eq_ok_iff.mpr ⟨l, hl.trans htext.symm, hnumber⟩

end IsUnsignedNumeral

theorem exists_parse_iff {text : String} :
    (∃ a, parse text = .ok a) ↔ IsNumeral text.toList := by
  constructor
  · rintro ⟨a, ha⟩
    obtain ⟨l, hl, -⟩ := parse_eq_ok_iff.mp ha
    exact ⟨l.negative, l.unsignedText, hl.symm, l.isUnsignedNumeral⟩
  · rintro ⟨negative, unsigned, htext, h⟩
    by_cases hpoint : '.' ∈ unsigned
    · obtain ⟨before, after, rfl⟩ := List.append_of_mem hpoint
      exact ⟨_, h.parse_decimal htext⟩
    · exact ⟨_, h.parse_integer htext hpoint⟩

theorem exists_parse_eq_integer_iff {text : String} :
    (∃ m, parse text = .ok (integer m)) ↔ IsNumeral text.toList ∧ '.' ∉ text.toList := by
  constructor
  · rintro ⟨m, hm⟩
    obtain ⟨negative, unsigned, htext, h⟩ := exists_parse_iff.mp ⟨_, hm⟩
    refine ⟨⟨negative, unsigned, htext, h⟩, ?_⟩
    rw [htext, point_mem_withSign]
    intro hpoint
    obtain ⟨before, after, rfl⟩ := List.append_of_mem hpoint
    rw [h.parse_decimal htext] at hm
    cases hm
  · rintro ⟨⟨negative, unsigned, htext, h⟩, hpoint⟩
    rw [htext, point_mem_withSign] at hpoint
    exact ⟨_, h.parse_integer htext hpoint⟩

/-- Numerals and nothing else are read. The fault of any other text names it. A numeral without a
point is an integer, and any other a decimal whose digits are those on both sides of the point and
whose scale is the number of those behind it. -/
theorem parse_iff_isNumeral (text : String) :
    ((∃ a, parse text = .ok a) ↔ IsNumeral text.toList) ∧
    (∀ fault, parse text = .error fault ↔ ¬IsNumeral text.toList ∧ fault.text = text) ∧
    ((∃ m, parse text = .ok (integer m)) ↔ IsNumeral text.toList ∧ '.' ∉ text.toList) ∧
    (∀ negative digits, IsUnsignedNumeral digits → text.toList = withSign negative digits →
      '.' ∉ digits → parse text = .ok (integer (signed negative (valueOf digits)))) ∧
    ∀ negative before after, IsUnsignedNumeral (before ++ '.' :: after) →
      text.toList = withSign negative (before ++ '.' :: after) →
        parse text =
          .ok (decimal ⟨signed negative (valueOf (before ++ after)), after.length⟩) := by
  refine ⟨exists_parse_iff, ?_, exists_parse_eq_integer_iff, ?_, ?_⟩
  · intro fault
    rw [parse_eq_error_iff, exists_parse_iff, and_comm]
  · intro negative digits h htext hpoint
    exact h.parse_integer htext hpoint
  · intro negative before after h htext
    exact h.parse_decimal htext

/-- An integer, a decimal without digits in front of its point, and a point without digits. -/
theorem parse_iff_isNumeral_point :
    IsUnsignedNumeral "007".toList ∧ parse "-007" = .ok (integer (-7)) ∧
      IsUnsignedNumeral ".50".toList ∧ parse "-.50" = .ok (decimal ⟨-50, 2⟩) ∧
      ¬IsNumeral "-.".toList ∧ parse "-." = .error ⟨"-."⟩ := by
  have hinteger : IsUnsignedNumeral "007".toList := by decide
  have hdecimal : IsUnsignedNumeral ".50".toList := by decide
  have hfault : parse "-." = .error ⟨"-."⟩ := by decide
  obtain ⟨-, -, -, hparse, -⟩ := parse_iff_isNumeral "-007"
  obtain ⟨-, -, -, -, hparse'⟩ := parse_iff_isNumeral "-.50"
  obtain ⟨-, herror, -⟩ := parse_iff_isNumeral "-."
  exact ⟨hinteger, hparse true _ hinteger rfl (by decide), hdecimal,
    hparse' true [] ['5', '0'] hdecimal rfl, ((herror _).mp hfault).1, hfault⟩

end Number

/-! ## Positions -/

/-- How a position is written: digits, with or without a plus sign in front. -/
def IsIndexOf (n : ℕ) (text : List Char) : Prop :=
  ∃ digits, (text = digits ∨ text = '+' :: digits) ∧ digits ≠ [] ∧
    (∀ c ∈ digits, c.isDigit = true) ∧ valueOf digits = n

theorem dropPlus_eq_or (text : List Char) :
    text = dropPlus text ∨ text = '+' :: dropPlus text := by
  unfold dropPlus
  split
  · exact .inr rfl
  · exact .inl rfl

theorem dropPlus_of_isDigit {digits : List Char} (h : ∀ c ∈ digits, c.isDigit = true) :
    dropPlus digits = digits := by
  unfold dropPlus
  split
  · exact absurd (h '+' List.mem_cons_self) (by decide)
  · rfl

theorem isIndexOf_iff {n : ℕ} {text : List Char} :
    IsIndexOf n text ↔ dropPlus text ≠ [] ∧ (∀ c ∈ dropPlus text, c.isDigit = true) ∧
      valueOf (dropPlus text) = n := by
  constructor
  · rintro ⟨digits, htext, hne, hdigits, hvalue⟩
    have hdrop : dropPlus text = digits := by
      rcases htext with rfl | rfl
      · exact dropPlus_of_isDigit hdigits
      · rfl
    rw [hdrop]
    exact ⟨hne, hdigits, hvalue⟩
  · rintro ⟨hne, hdigits, hvalue⟩
    exact ⟨dropPlus text, dropPlus_eq_or text, hne, hdigits, hvalue⟩

theorem IsIndexOf.unique {m n : ℕ} {text : List Char} (hm : IsIndexOf m text)
    (hn : IsIndexOf n text) : m = n := by
  obtain ⟨-, -, rfl⟩ := isIndexOf_iff.mp hm
  obtain ⟨-, -, rfl⟩ := isIndexOf_iff.mp hn
  rfl

/-- A position is read as the number it is written for, if that is small enough. -/
theorem readIndex?_eq_some_iff {text : List Char} {n : ℕ} :
    readIndex? text = some n ↔ IsIndexOf n text ∧ n < 2 ^ 64 := by
  have hbound : indexBound = 2 ^ 64 := Nat.pow_eq
  simp only [readIndex?, hbound, isIndexOf_iff, Option.ite_none_right_eq_some, Bool.and_eq_true,
    decide_eq_true_eq, Option.some.injEq, Number.isDigits_iff]
  constructor
  · rintro ⟨⟨⟨hne, hdigits⟩, hlt⟩, rfl⟩
    exact ⟨⟨hne, hdigits, rfl⟩, hlt⟩
  · rintro ⟨⟨hne, hdigits, rfl⟩, hlt⟩
    exact ⟨⟨⟨hne, hdigits⟩, hlt⟩, rfl⟩

end PropertyMacros
