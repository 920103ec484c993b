import PropertyMacros.Proofs.Text.Terminal
import PropertyMacros.Text.Quoted

/-!
Texts in quotes can be read back. Each character is written as a word that ends where it ends,
whatever follows, and no word begins with a quote, so that the closing quote is found.
-/

namespace PropertyMacros.Text

/-- The words of a code are read off from the left: no word is the beginning of another one. -/
def IsPrefixCode {α : Type} (code : α → List Char) : Prop :=
  ∀ ⦃a b : α⦄ ⦃rest rest' : List Char⦄, code a ++ rest = code b ++ rest' → a = b ∧ rest = rest'

/-- The word of `a` is read off from the left, whatever follows it. -/
def IsRead {α : Type} (code : α → List Char) (a : α) : Prop :=
  ∀ ⦃b : α⦄ ⦃rest rest' : List Char⦄, code a ++ rest = code b ++ rest' → a = b ∧ rest = rest'

/-- A row of words that are read off ends at a character that no word begins with. -/
theorem flatMap_append_cons_inj {α : Type} {code : α → List Char} {stop : Char}
    (hne : ∀ a, code a ≠ []) (hstop : ∀ a, (code a).head? ≠ some stop) {items items' : List α}
    (h : ∀ a ∈ items, IsRead code a) {rest rest' : List Char}
    (heq : items.flatMap code ++ stop :: rest = items'.flatMap code ++ stop :: rest') :
    items = items' ∧ rest = rest' := by
  have hhead (a : α) (rest rest' : List Char) : code a ++ rest ≠ stop :: rest' := by
    intro heq
    obtain ⟨c, word, hword⟩ := List.exists_cons_of_ne_nil (hne a)
    rw [hword, List.cons_append, List.cons.injEq] at heq
    exact hstop a (by rw [hword, heq.1, List.head?_cons])
  induction items generalizing items' with
  | nil =>
      cases items' with
      | nil => exact ⟨rfl, (List.cons.inj heq).2⟩
      | cons b items' =>
          rw [List.flatMap_cons, List.append_assoc] at heq
          exact absurd heq.symm (hhead b _ _)
  | cons a items ih =>
      rw [List.forall_mem_cons] at h
      rw [List.flatMap_cons, List.append_assoc] at heq
      cases items' with
      | nil => exact absurd heq (hhead a _ _)
      | cons b items' =>
          rw [List.flatMap_cons, List.append_assoc] at heq
          obtain ⟨rfl, hitems⟩ := h.1 heq
          obtain ⟨rfl, hrest⟩ := ih h.2 hitems
          exact ⟨rfl, hrest⟩

theorem IsPrefixCode.flatMap_concat {α : Type} {code : α → List Char} (h : IsPrefixCode code)
    {stop : Char} (hne : ∀ a, code a ≠ []) (hstop : ∀ a, (code a).head? ≠ some stop) :
    IsPrefixCode fun items : List α => items.flatMap code ++ [stop] := by
  intro items items' rest rest' heq
  simp only [List.append_assoc, List.singleton_append] at heq
  exact flatMap_append_cons_inj hne hstop (fun _ _ => @h _) heq

/-! ## Hexadecimal digits -/

theorem toDigits_eq_concat (n : Nat) :
    Nat.toDigits 16 n =
      (if n < 16 then [] else Nat.toDigits 16 (n / 16)) ++ [Nat.digitChar (n % 16)] := by
  rw [Nat.toDigits_eq_if (by decide)]
  split
  · next h => rw [Nat.mod_eq_of_lt h, List.nil_append]
  · rfl

theorem toDigits_injective : Function.Injective (Nat.toDigits 16) := by
  have hdigit : ∀ d < 16, ∀ d' < 16, Nat.digitChar d = Nat.digitChar d' → d = d' := by decide
  intro m
  induction m using Nat.strongRecOn with
  | ind m ih =>
      intro n h
      rw [toDigits_eq_concat m, toDigits_eq_concat n] at h
      obtain ⟨hfront, hlast⟩ := List.append_inj' h rfl
      have hmod : m % 16 = n % 16 :=
        hdigit _ (Nat.mod_lt m (by decide)) _ (Nat.mod_lt n (by decide)) (List.cons.inj hlast).1
      have hdiv : m / 16 = n / 16 := by
        split at hfront <;> split at hfront
        · omega
        · exact absurd hfront.symm Nat.toDigits_ne_nil
        · exact absurd hfront Nat.toDigits_ne_nil
        · exact ih (m / 16) (by omega) hfront
      omega

theorem exists_digitChar_of_mem_toDigits {n : Nat} {c : Char} (h : c ∈ Nat.toDigits 16 n) :
    ∃ d < 16, c = Nat.digitChar d := by
  induction n using Nat.strongRecOn with
  | ind n ih =>
      rw [toDigits_eq_concat, List.mem_append, List.mem_singleton] at h
      rcases h with h | rfl
      · split at h
        · cases h
        · exact ih (n / 16) (by omega) h
      · exact ⟨n % 16, Nat.mod_lt n (by decide), rfl⟩

theorem hasNoControl_toDigits (n : Nat) : HasNoControl (Nat.toDigits 16 n) := by
  have hdigit : ∀ d < 16, ' ' ≤ Nat.digitChar d := by decide
  intro c hc
  obtain ⟨d, hd, rfl⟩ := exists_digitChar_of_mem_toDigits hc
  exact hdigit d hd

theorem brace_notMem_toDigits (n : Nat) : '\x7d' ∉ Nat.toDigits 16 n := by
  have hdigit : ∀ d < 16, '\x7d' ≠ Nat.digitChar d := by decide
  intro hc
  obtain ⟨d, hd, heq⟩ := exists_digitChar_of_mem_toDigits hc
  exact hdigit d hd heq

/-! ## Escapes -/

/-- The words that a character can be written as: a backslash with the letter that a table has for
it, a backslash and `u` with its number, or the character itself. -/
inductive IsEscape (letters : List (Char × Char)) (IsNumber : Char → List Char → Prop) (c : Char) :
    List Char → Prop
  | letter {l : Char} (h : (c, l) ∈ letters) : IsEscape letters IsNumber c ['\\', l]
  | number {digits : List Char} (h : IsNumber c digits) :
      IsEscape letters IsNumber c ('\\' :: 'u' :: digits)
  | itself (hcontrol : ' ' ≤ c) (hbackslash : c ≠ '\\') (hquote : c ≠ '"') :
      IsEscape letters IsNumber c [c]

/-- The letters of a table tell its characters apart, and none of them announces a number. -/
structure AreLetters (letters : List (Char × Char)) : Prop where
  eq_of_eq : ∀ e ∈ letters, ∀ e' ∈ letters, e.2 = e'.2 → e.1 = e'.1
  ne_u : ∀ e ∈ letters, e.2 ≠ 'u'
  hasNoControl : ∀ e ∈ letters, ' ' ≤ e.2

namespace IsEscape

variable {letters : List (Char × Char)} {IsNumber : Char → List Char → Prop}

theorem ne_nil {c : Char} {word : List Char} (h : IsEscape letters IsNumber c word) :
    word ≠ [] := by
  cases h <;> exact List.cons_ne_nil _ _

theorem head?_ne_quote {c : Char} {word : List Char} (h : IsEscape letters IsNumber c word) :
    word.head? ≠ some '"' := by
  cases h with
  | letter | number => exact fun heq => absurd (Option.some.inj heq) (by decide)
  | itself _ _ hquote => exact fun heq => hquote (Option.some.inj heq)

theorem hasNoControl {c : Char} {word : List Char} (h : IsEscape letters IsNumber c word)
    (hletters : AreLetters letters)
    (hnumber : ∀ digits, IsNumber c digits → HasNoControl digits) : HasNoControl word := by
  cases h with
  | letter hl =>
      have hstart : HasNoControl ['\\'] := by decide
      exact hstart.append fun d hd => List.mem_singleton.mp hd ▸ hletters.hasNoControl _ hl
  | number hdigits =>
      have hstart : HasNoControl ['\\', 'u'] := by decide
      exact hstart.append (hnumber _ hdigits)
  | itself hcontrol _ _ => exact fun d hd => List.mem_singleton.mp hd ▸ hcontrol

theorem append_inj {c c' : Char} {word word' rest rest' : List Char}
    (h : IsEscape letters IsNumber c word) (h' : IsEscape letters IsNumber c' word')
    (hletters : AreLetters letters)
    (hnumber : ∀ {digits digits' : List Char}, IsNumber c digits → IsNumber c' digits' →
      digits ++ rest = digits' ++ rest' → c = c' ∧ rest = rest')
    (heq : word ++ rest = word' ++ rest') : c = c' ∧ rest = rest' := by
  cases h with
  | letter hl =>
      cases h' with
      | letter hl' =>
          obtain ⟨hletter, hrest⟩ := List.cons.inj (List.cons.inj heq).2
          exact ⟨hletters.eq_of_eq _ hl _ hl' hletter, hrest⟩
      | number => exact absurd (List.cons.inj (List.cons.inj heq).2).1 (hletters.ne_u _ hl)
      | itself _ hbackslash => exact absurd (List.cons.inj heq).1.symm hbackslash
  | number hdigits =>
      cases h' with
      | letter hl' =>
          exact absurd (List.cons.inj (List.cons.inj heq).2).1.symm (hletters.ne_u _ hl')
      | number hdigits' =>
          exact hnumber hdigits hdigits' (List.cons.inj (List.cons.inj heq).2).2
      | itself _ hbackslash => exact absurd (List.cons.inj heq).1.symm hbackslash
  | itself _ hbackslash =>
      cases h' with
      | letter | number => exact absurd (List.cons.inj heq).1 hbackslash
      | itself => exact List.cons.inj heq

/-- A code that has a letter for each character of the table is judged by the other characters. -/
theorem of_letters {escape : Char → List Char}
    (h : ∀ e ∈ letters, escape e.1 = ['\\', e.2]) {c : Char}
    (hother : (∀ e ∈ letters, c ≠ e.1) → IsEscape letters IsNumber c (escape c)) :
    IsEscape letters IsNumber c (escape c) := by
  by_cases hletter : ∃ l, (c, l) ∈ letters
  · obtain ⟨l, hl⟩ := hletter
    rw [h _ hl]
    exact .letter hl
  · exact hother fun e he heq => hletter ⟨e.2, heq ▸ he⟩

/-- No word begins with a quote, so the closing one is found. -/
theorem isPrefixCode_quoted {escape : Char → List Char}
    (h : ∀ c, IsEscape letters IsNumber c (escape c)) (hcode : IsPrefixCode escape) :
    IsPrefixCode fun text : List Char => '"' :: text.flatMap escape ++ ['"'] := by
  intro text text' rest rest' heq
  exact hcode.flatMap_concat (fun c => (h c).ne_nil) (fun c => (h c).head?_ne_quote)
    (List.cons.inj heq).2

end IsEscape

/-! ## Quoted texts -/

/-- The characters that a quoted text has a letter for. -/
def quoteLetters : List (Char × Char) :=
  [('\x00', '0'), ('\t', 't'), ('\r', 'r'), ('\n', 'n'), ('\\', '\\'), ('"', '"')]

theorem areLetters_quoteLetters : AreLetters quoteLetters := by
  constructor <;> decide

/-- The number of a character in braces, as it stands in a quoted text. -/
def IsBracedNumber (c : Char) (digits : List Char) : Prop :=
  digits = '\x7b' :: Nat.toDigits 16 c.toNat ++ ['\x7d']

theorem isEscape_quoteChar (c : Char) :
    IsEscape quoteLetters IsBracedNumber c (quoteChar c) := by
  refine .of_letters (by decide) fun hne => ?_
  simp only [quoteLetters, List.forall_mem_cons, List.not_mem_nil, false_imp_iff, implies_true,
    and_true] at hne
  obtain ⟨hzero, htab, hreturn, hnewline, hbackslash, hquote⟩ := hne
  rw [quoteChar, if_neg hzero, if_neg htab, if_neg hreturn, if_neg hnewline, if_neg hbackslash,
    if_neg hquote]
  split
  · next hvisible =>
    rw [isVisible, Bool.and_eq_true, decide_eq_true_eq] at hvisible
    exact .itself hvisible.1 hbackslash hquote
  · exact .number rfl

/-- The fillers of the Hangul script are written by their numbers, the halfwidth voicing marks as
they are. -/
example :
    ['\u115f', '\u1160', '\u3164', '\uffa0'].map quoteChar =
        ["\\u\x7b115f\x7d".toList, "\\u\x7b1160\x7d".toList, "\\u\x7b3164\x7d".toList,
          "\\u\x7bffa0\x7d".toList] ∧
      ['\uff9e', '\uff9f'].map quoteChar = [['\uff9e'], ['\uff9f']] := by
  decide +kernel

theorem isPrefixCode_quoteChar : IsPrefixCode quoteChar := by
  intro c c' rest rest' heq
  refine (isEscape_quoteChar c).append_inj (isEscape_quoteChar c') areLetters_quoteLetters ?_ heq
  rintro _ _ rfl rfl hdigits
  have hclosed := (List.cons.inj hdigits).2
  simp only [List.append_eq, List.append_assoc, List.singleton_append] at hclosed
  obtain ⟨hnumber, hrest⟩ :=
    append_cons_inj (brace_notMem_toDigits _) (brace_notMem_toDigits _) hclosed
  exact ⟨Char.toNat_inj.mp (toDigits_injective hnumber), hrest⟩

theorem isPrefixCode_quote : IsPrefixCode quote :=
  IsEscape.isPrefixCode_quoted isEscape_quoteChar isPrefixCode_quoteChar

theorem hasNoControl_quote (text : List Char) : HasNoControl (quote text) := by
  have hquote : HasNoControl ['"'] := by decide
  refine (hquote.append fun c hc => ?_).append hquote
  obtain ⟨d, -, hc⟩ := List.mem_flatMap.mp hc
  refine (isEscape_quoteChar d).hasNoControl areLetters_quoteLetters ?_ c hc
  rintro _ rfl
  have hopen : HasNoControl ['\x7b'] := by decide
  exact (hopen.append (hasNoControl_toDigits _)).append (by decide)

end PropertyMacros.Text
