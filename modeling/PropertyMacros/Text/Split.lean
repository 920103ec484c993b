/-!
Cutting a text at a character.
-/

namespace PropertyMacros.Text

/-- Cuts a text at the first `c`, which belongs to neither part. -/
def splitFirst? (c : Char) : List Char → Option (List Char × List Char)
  | [] => none
  | d :: rest =>
    if d = c then some ([], rest) else (splitFirst? c rest).map fun p => (d :: p.1, p.2)

/-- The parts of a text between all occurrences of `c`. -/
def splitAll (c : Char) : List Char → List (List Char)
  | [] => [[]]
  | d :: rest =>
    if d = c then [] :: splitAll c rest
    else match splitAll c rest with
      | [] => [[d]]
      | part :: parts => (d :: part) :: parts

theorem splitFirst?_eq_none_iff {c : Char} {text : List Char} :
    splitFirst? c text = none ↔ c ∉ text := by
  induction text with
  | nil => simp [splitFirst?]
  | cons d rest ih =>
    by_cases h : d = c
    · simp [splitFirst?, h]
    · simp [splitFirst?, h, ih, Ne.symm h]

theorem splitFirst?_append {c : Char} {before : List Char} (h : c ∉ before)
    (after : List Char) : splitFirst? c (before ++ c :: after) = some (before, after) := by
  induction before with
  | nil => simp [splitFirst?]
  | cons d before ih =>
    rw [List.mem_cons, not_or] at h
    simp [splitFirst?, Ne.symm h.1, ih h.2]

/-- What stands in front of the first `c` and what stands behind it are determined by the text. -/
theorem append_cons_inj {c : Char} {before before' after after' : List Char} (h : c ∉ before)
    (h' : c ∉ before') (heq : before ++ c :: after = before' ++ c :: after') :
    before = before' ∧ after = after' := by
  have hparts := congrArg (splitFirst? c) heq
  rw [splitFirst?_append h, splitFirst?_append h', Option.some.injEq, Prod.mk.injEq] at hparts
  exact hparts

theorem eq_append_of_splitFirst? {c : Char} {text before after : List Char}
    (h : splitFirst? c text = some (before, after)) :
    text = before ++ c :: after ∧ c ∉ before := by
  induction text generalizing before with
  | nil => cases h
  | cons d rest ih =>
    by_cases hd : d = c
    · simp only [splitFirst?, hd, if_true, Option.some.injEq, Prod.mk.injEq] at h
      obtain ⟨rfl, rfl⟩ := h
      simp [hd]
    · simp only [splitFirst?, hd, if_false] at h
      obtain ⟨⟨x, y⟩, hxy, heq⟩ := Option.map_eq_some_iff.1 h
      simp only [Prod.mk.injEq] at heq
      obtain ⟨rfl, rfl⟩ := heq
      obtain ⟨rfl, hx⟩ := ih hxy
      exact ⟨rfl, by simp [Ne.symm hd, hx]⟩

theorem splitFirst?_eq_some_iff {c : Char} {text before after : List Char} :
    splitFirst? c text = some (before, after) ↔ text = before ++ c :: after ∧ c ∉ before :=
  ⟨eq_append_of_splitFirst?, fun h => h.1 ▸ splitFirst?_append h.2 after⟩

end PropertyMacros.Text
