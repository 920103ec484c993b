import PropertyMacros.Number.Numeral
import PropertyMacros.Proofs.Number.Value

/-!
Numeric literals as a grammar. Reading accepts exactly the texts of literals, and finds the number
that the grammar gives them.
-/

namespace PropertyMacros

namespace Number

/-- A numeric literal taken apart: a sign, the digits in front of the point and, if there is a
point, those behind it. One side of the point may be empty. -/
@[ext] structure Literal where
  negative : Bool
  whole : List Char
  fraction? : Option (List Char)
  isDigit_of_mem : ∀ c ∈ whole ++ fraction?.getD [], c.isDigit = true
  digits_ne_nil : whole ++ fraction?.getD [] ≠ []

namespace Literal

/-- The digits behind the point. -/
def fraction (l : Literal) : List Char := l.fraction?.getD []

/-- The literal behind its sign. -/
def unsignedText (l : Literal) : List Char :=
  l.whole ++ (l.fraction?.map ('.' :: ·)).getD []

/-- How the literal is written. -/
def text (l : Literal) : List Char :=
  if l.negative then '-' :: l.unsignedText else l.unsignedText

/-- The rational number that the literal denotes in positional notation. -/
def value (l : Literal) : ℚ :=
  signed l.negative (valueOf (l.whole ++ l.fraction)) / 10 ^ l.fraction.length

/-- The literal as an operand, in the domain that its point decides. -/
def toNumber (l : Literal) : Number :=
  match l.fraction? with
  | none => integer (signed l.negative (valueOf l.whole))
  | some fraction =>
    decimal ⟨signed l.negative (valueOf (l.whole ++ fraction)), fraction.length⟩

theorem value_toNumber (l : Literal) : l.toNumber.value = l.value := by
  unfold toNumber value fraction
  cases l.fraction? with
  | none => simp
  | some fraction => simp [Decimal.value, div_eq_mul_inv]

theorem scale_toNumber (l : Literal) : l.toNumber.toDecimal.scale = l.fraction.length := by
  unfold toNumber fraction
  cases l.fraction? with
  | none => rfl
  | some fraction => rfl

theorem length_fraction_lt (l : Literal) : l.fraction.length < l.text.length := by
  have hunsigned : l.fraction.length < l.unsignedText.length := by
    have hne := l.digits_ne_nil
    unfold fraction unsignedText
    cases hf : l.fraction? with
    | none =>
        simp only [hf, Option.getD_none, List.append_nil] at hne
        simpa [List.length_pos_iff] using hne
    | some fraction =>
        simp only [Option.map_some, Option.getD_some, List.length_append, List.length_cons]
        omega
  unfold text
  split
  · rw [List.length_cons]
    omega
  · exact hunsigned

theorem isDigit_of_mem_whole (l : Literal) {c : Char} (h : c ∈ l.whole) : c.isDigit = true :=
  l.isDigit_of_mem c (List.mem_append_left _ h)

theorem isDigit_of_mem_fraction (l : Literal) {c : Char} (h : c ∈ l.fraction) :
    c.isDigit = true :=
  l.isDigit_of_mem c (List.mem_append_right _ h)

theorem isDigit_or_point_of_mem (l : Literal) {c : Char} (h : c ∈ l.unsignedText) :
    c.isDigit = true ∨ c = '.' := by
  unfold unsignedText at h
  rcases List.mem_append.mp h with hc | hc
  · exact .inl (l.isDigit_of_mem_whole hc)
  · cases hf : l.fraction? with
    | none => simp [hf] at hc
    | some fraction =>
        simp only [hf, Option.map_some, Option.getD_some, List.mem_cons] at hc
        rcases hc with rfl | hc
        · exact .inr rfl
        · refine .inl (l.isDigit_of_mem_fraction ?_)
          rwa [Literal.fraction, hf]

theorem head?_unsignedText_ne (l : Literal) : l.unsignedText.head? ≠ some '-' := by
  intro h
  rcases l.isDigit_or_point_of_mem (List.mem_of_head? h) with hc | hc
  all_goals exact absurd hc (by decide)

theorem head?_text_eq_minus_iff (l : Literal) :
    l.text.head? = some '-' ↔ l.negative = true := by
  unfold text
  split
  · next h => simp [h]
  · next h => simp [h, l.head?_unsignedText_ne]

/-- A literal starts with a minus sign, a digit or a point. -/
theorem mem_of_head?_text (l : Literal) {c : Char} (h : l.text.head? = some c) :
    c = '-' ∨ c.isDigit = true ∨ c = '.' := by
  unfold text at h
  split at h
  · left
    simpa [eq_comm] using h
  · right
    exact l.isDigit_or_point_of_mem (List.mem_of_head? h)

end Literal

theorem isDigits_iff {text : List Char} :
    isDigits text = true ↔ text ≠ [] ∧ ∀ c ∈ text, c.isDigit = true := by
  simp [isDigits]

theorem readSign_eq_of_head?_ne {text : List Char} (h : text.head? ≠ some '-') :
    readSign text = (false, text) := by
  unfold readSign
  split
  · simp at h
  · rfl

theorem readSign_text (l : Literal) : readSign l.text = (l.negative, l.unsignedText) := by
  unfold Literal.text
  split
  · next h => rw [h, readSign]
  · next h =>
    rw [Bool.not_eq_true] at h
    rw [h]
    exact readSign_eq_of_head?_ne l.head?_unsignedText_ne

theorem ne_point_of_isDigit {c : Char} (h : c.isDigit = true) : (c != '.') = true := by
  rw [bne_iff_ne]
  rintro rfl
  exact absurd h (by decide)

theorem readUnsigned?_unsignedText (l : Literal) :
    readUnsigned? l.negative l.unsignedText = some l.toNumber := by
  have hwhole : ∀ c ∈ l.whole, (c != '.') = true :=
    fun c hc => ne_point_of_isDigit (l.isDigit_of_mem_whole hc)
  have hdigits := isDigits_iff.mpr ⟨l.digits_ne_nil, l.isDigit_of_mem⟩
  unfold readUnsigned? Literal.unsignedText Literal.toNumber
  cases hf : l.fraction? with
  | none =>
      rw [hf, Option.getD_none, List.append_nil] at hdigits
      simp only [Option.map_none, Option.getD_none, List.takeWhile_append_of_pos hwhole,
        List.dropWhile_append_of_pos hwhole]
      simp [hdigits]
  | some fraction =>
      rw [hf, Option.getD_some] at hdigits
      simp only [Option.map_some, Option.getD_some, List.takeWhile_append_of_pos hwhole,
        List.dropWhile_append_of_pos hwhole]
      simp [hdigits]

theorem read?_text (l : Literal) : read? l.text = some l.toNumber := by
  rw [read?, readSign_text]
  exact readUnsigned?_unsignedText l

/-- Two literals that are written alike denote the same number. -/
theorem Literal.value_eq_of_text_eq {l m : Literal} (h : l.text = m.text) : l.value = m.value := by
  have hread := read?_text l
  rw [h, read?_text, Option.some.injEq] at hread
  rw [← l.value_toNumber, ← hread, m.value_toNumber]

theorem eq_takeWhile_append_of_dropWhile {text fraction : List Char} {c : Char}
    (h : text.dropWhile (· != '.') = c :: fraction) :
    text = text.takeWhile (· != '.') ++ '.' :: fraction := by
  have hc : c = '.' := by
    have hhead := List.head?_dropWhile_not (· != '.') text
    rw [h] at hhead
    simpa using hhead
  conv_lhs => rw [← List.takeWhile_append_dropWhile (p := (· != '.')) (l := text), h, hc]

theorem exists_literal_of_readUnsigned? {negative : Bool} {text : List Char} {a : Number}
    (h : readUnsigned? negative text = some a) :
    ∃ l : Literal, l.negative = negative ∧ l.unsignedText = text ∧ l.toNumber = a := by
  simp only [readUnsigned?] at h
  split at h
  · next hdrop =>
    have htake : text.takeWhile (· != '.') = text := by
      conv_rhs => rw [← List.takeWhile_append_dropWhile (p := (· != '.')) (l := text), hdrop,
        List.append_nil]
    split at h
    · next hdigits =>
      obtain ⟨hne, hall⟩ := isDigits_iff.mp hdigits
      cases h
      refine ⟨⟨negative, text.takeWhile (· != '.'), none, by simpa using hall, by simpa using hne⟩,
        rfl, ?_, rfl⟩
      simpa [Literal.unsignedText] using htake
    · cases h
  · next c fraction hdrop =>
    split at h
    · next hdigits =>
      obtain ⟨hne, hall⟩ := isDigits_iff.mp hdigits
      cases h
      exact ⟨⟨negative, text.takeWhile (· != '.'), some fraction, hall, hne⟩, rfl,
        (eq_takeWhile_append_of_dropWhile hdrop).symm, rfl⟩
    · cases h

theorem exists_literal_of_read? {text : List Char} {a : Number} (h : read? text = some a) :
    ∃ l : Literal, l.text = text ∧ l.toNumber = a := by
  obtain ⟨l, hsign, htext, hnumber⟩ := exists_literal_of_readUnsigned? h
  refine ⟨l, ?_, hnumber⟩
  rw [Literal.text, hsign, htext]
  cases text with
  | nil => rfl
  | cons c rest =>
      by_cases hc : c = '-'
      · subst hc
        rfl
      · rw [readSign_eq_of_head?_ne (by simpa using hc)]
        rfl

/-- Reading accepts the texts of literals and nothing else. -/
theorem read?_eq_some_iff {text : List Char} {a : Number} :
    read? text = some a ↔ ∃ l : Literal, l.text = text ∧ l.toNumber = a := by
  constructor
  · exact exists_literal_of_read?
  · rintro ⟨l, rfl, rfl⟩
    exact read?_text l

theorem parse_eq_ok_iff_read? {text : String} {a : Number} :
    parse text = .ok a ↔ read? text.toList = some a := by
  unfold parse
  cases read? text.toList <;> simp

theorem parse_eq_ok_iff {text : String} {a : Number} :
    parse text = .ok a ↔ ∃ l : Literal, l.text = text.toList ∧ l.toNumber = a := by
  rw [parse_eq_ok_iff_read?, read?_eq_some_iff]

theorem parse_eq_error_iff {text : String} {fault : Unreadable} :
    parse text = .error fault ↔ fault.text = text ∧ ¬∃ a, parse text = .ok a := by
  cases fault
  unfold parse
  cases read? text.toList <;> simp [eq_comm]

theorem read?_eq_none_of_head? {text : List Char} (h : text.head? = some '(') :
    read? text = none := by
  rw [Option.eq_none_iff_forall_ne_some]
  intro a ha
  obtain ⟨l, rfl, -⟩ := exists_literal_of_read? ha
  rcases l.mem_of_head?_text h with hc | hc | hc
  all_goals exact absurd hc (by decide)

end Number

end PropertyMacros
