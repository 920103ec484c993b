import PropertyMacros.Proofs.Elements.Splitting

/-!
Windows of a list. What is cut out of a list has the elements that stood in the window, because a
part of a separated row is separated. Only a window that holds one empty element is lost: its text
is that of the empty list, which stays empty under every further window.
-/

namespace PropertyMacros.Elements

variable {sep : List Char}

theorem Separated.drop {row : List (List Char)} (h : Separated sep row) {i : ℕ}
    (hi : i < row.length) : Separated sep (row.drop i) := by
  induction h generalizing i with
  | last hpiece =>
      rw [List.length_singleton, Nat.lt_one_iff] at hi
      exact hi ▸ .last hpiece
  | cons hpiece hrest ih =>
      cases i with
      | zero => exact .cons hpiece hrest
      | succ i => exact ih (Nat.lt_of_succ_lt_succ hi)

theorem Separated.take {row : List (List Char)} (h : Separated sep row) {n : ℕ} (hn : 0 < n) :
    Separated sep (row.take n) := by
  induction h generalizing n with
  | last hpiece =>
      rw [List.take_of_length_le (by rwa [List.length_singleton])]
      exact .last hpiece
  | cons hpiece hrest ih =>
      obtain ⟨n, rfl⟩ := Nat.exists_eq_add_of_lt hn
      rw [Nat.zero_add, List.take_succ_cons]
      cases n with
      | zero => exact .last fun hinside => hpiece (List.infix_append_of_infix_left hinside)
      | succ n => exact .cons hpiece (ih n.succ_pos)

/-- The elements at positions `i`, …, `i + n - 1` that exist. -/
def window (sep : List Char) (i n : ℕ) (list : List Char) : List (List Char) :=
  ((split sep list).drop i).take n

theorem sublist_eq (i n : ℕ) (list : List Char) :
    sublist sep i n list = sep.intercalate (window sep i n list) := rfl

theorem getElem?_window (i n : ℕ) (list : List Char) (p : ℕ) :
    (window sep i n list)[p]? = if p < n then (split sep list)[i + p]? else none := by
  rw [window, List.getElem?_take, List.getElem?_drop]

theorem separated_window (hsep : sep ≠ []) {i n : ℕ} {list : List Char}
    (h : window sep i n list ≠ []) : Separated sep (window sep i n list) := by
  have hlist : list ≠ [] := by
    rintro rfl
    exact h (by simp [window])
  have hn : 0 < n := by
    rw [Nat.pos_iff_ne_zero]
    rintro rfl
    exact h (by simp [window])
  have hi : i < (split sep list).length := by
    by_contra hge
    exact h (by rw [window, List.drop_eq_nil_of_le (not_lt.mp hge), List.take_nil])
  exact ((separated_split hsep hlist).drop hi).take hn

/-- A window is read back as it was cut out, unless it holds one empty element. -/
theorem split_sublist (hsep : sep ≠ []) (i n : ℕ) (list : List Char) :
    split sep (sublist sep i n list) =
      if window sep i n list = [[]] then [] else window sep i n list := by
  rw [sublist_eq]
  by_cases hempty : window sep i n list = []
  · rw [hempty]
    rfl
  split
  · next hone => rw [hone, List.intercalate_singleton, split_nil]
  · next hone => exact (split_intercalate_iff hsep hempty).mpr ⟨separated_window hsep hempty, hone⟩

theorem take_drop_window (i n j m : ℕ) (list : List Char) :
    ((window sep i n list).drop j).take m = window sep (i + j) (min m (n - j)) list := by
  rw [window, window, List.drop_take, List.take_take, List.drop_drop]

/-- Whatever is cut out of one empty element joins to the empty text. -/
theorem intercalate_take_drop_singleton_nil (j m : ℕ) :
    sep.intercalate ((([[]] : List (List Char)).drop j).take m) = [] := by
  cases j with
  | zero => cases m <;> simp
  | succ j => simp

theorem sublist_sublist (hsep : sep ≠ []) (i n j m : ℕ) (list : List Char) :
    sublist sep j m (sublist sep i n list) = sublist sep (i + j) (min m (n - j)) list := by
  rw [sublist_eq (i + j), ← take_drop_window, sublist, split_sublist hsep]
  split
  · -- The element that is lost was empty, so nothing is missing from the inner window's text.
    next hone =>
    rw [hone, intercalate_take_drop_singleton_nil, List.drop_nil, List.take_nil,
      List.intercalate_nil]
  · rfl

theorem intercalate_append {front back : List (List Char)} (hfront : front ≠ [])
    (hback : back ≠ []) :
    sep.intercalate (front ++ back) = sep.intercalate front ++ sep ++ sep.intercalate back := by
  induction front with
  | nil => exact absurd rfl hfront
  | cons piece front ih =>
      by_cases hrest : front = []
      · rw [hrest, List.singleton_append, List.intercalate_cons_of_ne_nil hback,
          List.intercalate_singleton]
      · have happend : front ++ back ≠ [] := List.append_ne_nil_of_left_ne_nil hrest back
        rw [List.cons_append, List.intercalate_cons_of_ne_nil happend, ih hrest,
          List.intercalate_cons_of_ne_nil hrest]
        simp only [List.append_assoc]

theorem sublist_append_sublist {list : List Char} {k : ℕ} (hk : 0 < k)
    (hcount : k < count sep list) :
    sublist sep 0 k list ++ sep ++ sublist sep k (count sep list - k) list = list := by
  rw [count_eq_length_split] at hcount ⊢
  have hfront : window sep 0 k list = (split sep list).take k := by rw [window, List.drop_zero]
  have hback : window sep k ((split sep list).length - k) list = (split sep list).drop k := by
    rw [window, List.take_of_length_le (List.length_drop.le)]
  have hne : (split sep list).take k ≠ [] := by
    rw [← List.length_pos_iff, List.length_take]
    omega
  have hne' : (split sep list).drop k ≠ [] := by
    rw [← List.length_pos_iff, List.length_drop]
    omega
  rw [sublist_eq, sublist_eq, hfront, hback, ← intercalate_append hne hne',
    List.take_append_drop, intercalate_split]

/-- A window of a window is a window, two windows that meet make up the list, and a window has the
elements at its positions. -/
theorem sublist_composes (hsep : sep ≠ []) (list : List Char) :
    (∀ i n j m, sublist sep j m (sublist sep i n list) =
      sublist sep (i + j) (min m (n - j)) list) ∧
    (∀ k, 0 < k → k < count sep list →
      sublist sep 0 k list ++ sep ++ sublist sep k (count sep list - k) list = list) ∧
    ∀ i n, (∀ p, (window sep i n list)[p]? = if p < n then (split sep list)[i + p]? else none) ∧
      split sep (sublist sep i n list) =
        if window sep i n list = [[]] then [] else window sep i n list := by
  refine ⟨?_, ?_, ?_⟩
  · intro i n j m
    exact sublist_sublist hsep i n j m list
  · intro k hk hcount
    exact sublist_append_sublist hk hcount
  · intro i n
    exact ⟨getElem?_window i n list, split_sublist hsep i n list⟩

/-- A separator that overlaps itself, and an empty element on its own. -/
theorem sublist_composes_overlap :
    let sep := "aa".toList
    let list := "baaaacaad".toList
    split sep list = ["b".toList, [], "c".toList, "d".toList] ∧
      sublist sep 1 2 list = "aac".toList ∧
      split sep (sublist sep 1 2 list) = [[], "c".toList] ∧
      sublist sep 1 2 (sublist sep 1 2 list) = sublist sep 2 1 list ∧
      0 < 2 ∧ 2 < count sep list ∧
      sublist sep 0 2 list ++ sep ++ sublist sep 2 2 list = list ∧
      window sep 1 1 list = [[]] ∧ split sep (sublist sep 1 1 list) = [] := by
  intro sep list
  have hsep : sep ≠ [] := by decide
  have hcount : 2 < count sep list := by decide
  obtain ⟨hcompose, hmeet, hwindow⟩ := sublist_composes hsep list
  exact ⟨rfl, rfl, (hwindow 1 2).2, hcompose 1 2 1 2, by decide, hcount,
    hmeet 2 (by decide) hcount, rfl, (hwindow 1 1).2⟩

end PropertyMacros.Elements
