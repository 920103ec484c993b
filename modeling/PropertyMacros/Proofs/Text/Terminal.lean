import Mathlib.Data.List.Forall2
import PropertyMacros.Text.Split
import PropertyMacros.Text.Styled

/-!
What a text looks like on a terminal: the lines that it comes to, and what remains of it where
styles are not shown.
-/

namespace PropertyMacros.Text

theorem mem_or_exists_of_mem_intercalate {c : Char} {sep : List Char} {row : List (List Char)}
    (h : c ∈ sep.intercalate row) : c ∈ sep ∨ ∃ part ∈ row, c ∈ part := by
  induction row with
  | nil => cases h
  | cons part row ih =>
      cases row with
      | nil => exact .inr ⟨part, List.mem_cons_self, by rwa [List.intercalate_singleton] at h⟩
      | cons part' row =>
          rw [List.intercalate_cons_cons, List.mem_append, List.mem_append] at h
          rcases h with (h | h) | h
          · exact .inr ⟨part, List.mem_cons_self, h⟩
          · exact .inl h
          · rcases ih h with hsep | ⟨x, hx, hc⟩
            · exact .inl hsep
            · exact .inr ⟨x, .tail _ hx, hc⟩

/-- There are no control characters. Such a text stays on its line and sets no style. -/
def HasNoControl (text : List Char) : Prop := ∀ c ∈ text, ' ' ≤ c

instance (text : List Char) : Decidable (HasNoControl text) :=
  decidable_of_iff (text.all (' ' ≤ ·) = true) (by simp [HasNoControl])

namespace HasNoControl

theorem notMem {text : List Char} (h : HasNoControl text) {c : Char} (hc : c < ' ') : c ∉ text :=
  fun hmem => Char.not_le.mpr hc (h c hmem)

theorem append {xs ys : List Char} (hxs : HasNoControl xs) (hys : HasNoControl ys) :
    HasNoControl (xs ++ ys) := by
  intro c hc
  rcases List.mem_append.mp hc with hc | hc
  · exact hxs c hc
  · exact hys c hc

theorem intercalate {sep : List Char} (hsep : HasNoControl sep) {row : List (List Char)}
    (h : ∀ part ∈ row, HasNoControl part) : HasNoControl (sep.intercalate row) := by
  intro c hc
  rcases mem_or_exists_of_mem_intercalate hc with hc | ⟨part, hpart, hc⟩
  · exact hsep c hc
  · exact h part hpart c hc

theorem replicate {c : Char} (hc : ' ' ≤ c) (k : Nat) : HasNoControl (List.replicate k c) :=
  fun _ hd => List.eq_of_mem_replicate hd ▸ hc

end HasNoControl

/-! ## Lines -/

/-- The text is made up of the lines, each of which ends at a line feed of its own. -/
structure HasLines (text : List Char) (lines : List (List Char)) : Prop where
  eq_flatMap : text = lines.flatMap (· ++ ['\n'])
  notMem : ∀ line ∈ lines, '\n' ∉ line

namespace HasLines

variable {text : List Char} {lines : List (List Char)}

theorem count_eq (h : HasLines text lines) : text.count '\n' = lines.length := by
  obtain ⟨rfl, hlines⟩ := h
  induction lines with
  | nil => rfl
  | cons line lines ih =>
      rw [List.forall_mem_cons] at hlines
      rw [List.flatMap_cons, List.count_append, List.count_append, List.count_singleton_self,
        List.count_eq_zero.mpr hlines.1, ih hlines.2, List.length_cons, Nat.zero_add,
        Nat.add_comm]

theorem unique (h : HasLines text lines) {lines' : List (List Char)} (h' : HasLines text lines') :
    lines = lines' := by
  obtain ⟨htext, hlines⟩ := h
  obtain ⟨rfl, hlines'⟩ := h'
  induction lines generalizing lines' with
  | nil =>
      cases lines' with
      | nil => rfl
      | cons line' lines' => simp at htext
  | cons line lines ih =>
      cases lines' with
      | nil => simp at htext
      | cons line' lines' =>
          rw [List.forall_mem_cons] at hlines hlines'
          simp only [List.flatMap_cons, List.append_assoc, List.singleton_append] at htext
          -- The first line ends at the first line feed.
          obtain ⟨hline, hrest⟩ := append_cons_inj hlines'.1 hlines.1 htext
          rw [hline, ih hlines.2 hlines'.2 hrest]

end HasLines

/-! ## Escape sequences -/

/-- What is seen of a text that may begin inside of an escape sequence. A sequence goes from an
escape character and a bracket on to the first `m`. -/
def dropSequences : (inside : Bool) → List Char → List Char
  | _, [] => []
  | true, c :: rest => dropSequences (c != 'm') rest
  | false, c :: rest =>
    if c = '\x1b' ∧ rest.head? = some '[' then dropSequences true rest
    else c :: dropSequences false rest

/-- The text without its escape sequences. -/
def withoutSequences (text : List Char) : List Char := dropSequences false text

/-- Wherever `styled` stands, `plain` is what remains of it without escape sequences. -/
def Shows (styled plain : List Char) : Prop :=
  ∀ rest, withoutSequences (styled ++ rest) = plain ++ withoutSequences rest

namespace Shows

theorem eq {styled plain : List Char} (h : Shows styled plain) :
    withoutSequences styled = plain := by
  have hnil := h []
  rwa [List.append_nil, withoutSequences, withoutSequences, dropSequences, List.append_nil] at hnil

theorem append {xs xs' ys ys' : List Char} (hx : Shows xs xs') (hy : Shows ys ys') :
    Shows (xs ++ ys) (xs' ++ ys') := by
  intro rest
  rw [List.append_assoc, hx, hy, List.append_assoc]

theorem of_notMem {text : List Char} (h : '\x1b' ∉ text) : Shows text text := by
  intro rest
  induction text with
  | nil => rfl
  | cons c text ih =>
      rw [List.mem_cons, not_or] at h
      have hc : ¬(c = '\x1b' ∧ (text ++ rest).head? = some '[') := fun hsequence =>
        h.1 hsequence.1.symm
      have htext := ih h.2
      rw [withoutSequences] at htext
      rw [withoutSequences, List.cons_append, dropSequences, if_neg hc, htext, List.cons_append]

theorem of_hasNoControl {text : List Char} (h : HasNoControl text) : Shows text text :=
  of_notMem (h.notMem (by decide))

theorem unlines {lines lines' : List (List Char)} (h : List.Forall₂ Shows lines lines') :
    Shows (lines.flatMap (· ++ ['\n'])) (lines'.flatMap (· ++ ['\n'])) := by
  induction h with
  | nil => exact of_notMem List.not_mem_nil
  | cons hline _ ih =>
      rw [List.flatMap_cons, List.flatMap_cons]
      exact (hline.append (of_notMem (by decide))).append ih

theorem intercalate_map {α : Type} {f g : α → List Char} {items : List α} {sep : List Char}
    (hsep : HasNoControl sep) (h : ∀ item ∈ items, Shows (f item) (g item)) :
    Shows (sep.intercalate (items.map f)) (sep.intercalate (items.map g)) := by
  induction items with
  | nil => exact of_notMem List.not_mem_nil
  | cons item items ih =>
      rw [List.forall_mem_cons] at h
      cases items with
      | nil => simpa only [List.map_cons, List.map_nil, List.intercalate_singleton] using h.1
      | cons item' items =>
          simp only [List.map_cons, List.intercalate_cons_cons] at ih ⊢
          exact (h.1.append (of_hasNoControl hsep)).append (ih h.2)

end Shows

theorem dropSequences_true_append {codes : List Char} (h : 'm' ∉ codes) (rest : List Char) :
    dropSequences true (codes ++ 'm' :: rest) = withoutSequences rest := by
  induction codes with
  | nil => rfl
  | cons c codes ih =>
      rw [List.mem_cons, not_or] at h
      have hc : (c != 'm') = true := bne_iff_ne.mpr (Ne.symm h.1)
      rw [List.cons_append, dropSequences, hc, ih h.2]

theorem m_notMem_codes (codes : Style) :
    'm' ∉ List.intercalate [';'] (codes.map (Nat.toDigits 10)) := by
  intro hm
  rcases mem_or_exists_of_mem_intercalate hm with hm | ⟨part, hpart, hm⟩
  · exact absurd hm (by decide)
  · obtain ⟨code, -, rfl⟩ := List.mem_map.mp hpart
    have hdigit := Nat.isDigit_of_mem_toDigits (by decide) (by decide) hm
    exact absurd hdigit (by decide)

theorem shows_escapeSequence (codes : Style) : Shows (escapeSequence codes) [] := by
  intro rest
  have hsequence : escapeSequence codes ++ rest =
      '\x1b' :: ('[' :: List.intercalate [';'] (codes.map (Nat.toDigits 10)) ++ 'm' :: rest) := by
    simp [escapeSequence]
  have hm : 'm' ∉ '[' :: List.intercalate [';'] (codes.map (Nat.toDigits 10)) := by
    rw [List.mem_cons, not_or]
    exact ⟨by decide, m_notMem_codes codes⟩
  rw [hsequence, withoutSequences, dropSequences, if_pos ⟨rfl, rfl⟩, dropSequences_true_append hm]
  rfl

@[simp] theorem styled_nil (text : List Char) : styled [] text = text := if_pos rfl

/-- A style is not seen in the text that it applies to. -/
theorem shows_styled (style : Style) {text : List Char} (h : HasNoControl text) :
    Shows (styled style text) text := by
  by_cases hstyle : style = []
  · rw [hstyle, styled_nil]
    exact .of_hasNoControl h
  · rw [styled, if_neg hstyle]
    have hshows := ((shows_escapeSequence style).append (.of_hasNoControl h)).append
      (shows_escapeSequence [0])
    rwa [List.nil_append, List.append_nil] at hshows

end PropertyMacros.Text
