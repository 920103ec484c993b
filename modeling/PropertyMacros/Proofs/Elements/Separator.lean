import Mathlib.Tactic.LinearCombination
import Mathlib.Tactic.Zify
import PropertyMacros.Proofs.Elements.Splitting

/-!
Lists under another separator. Splitting and joining with a new separator writes the new one over
every occurrence of the old one that a single scan finds. A separator of one character that the list
does not hold brings the elements back that the old one delimited.
-/

namespace PropertyMacros.Elements

variable {sep old : List Char} {b : Char} {list : List Char}

theorem pieces_ne_nil (sep : List Char) (skip : ℕ) (text : List Char) :
    pieces sep skip text ≠ [] := by
  rw [← List.length_pos_iff, length_pieces]
  omega

theorem split_ne_of_intercalate_eq_nil (hlist : list ≠ []) {row : List (List Char)}
    (hrow : sep.intercalate row = []) : split sep list ≠ row := by
  rintro rfl
  exact hlist ((intercalate_split sep list).symm.trans hrow)

theorem split_ne_nil (sep : List Char) (hlist : list ≠ []) : split sep list ≠ [] :=
  split_ne_of_intercalate_eq_nil hlist List.intercalate_nil

/-! ## Replacement in one scan -/

theorem intercalate_consFirst (c : Char) (new : List Char) {row : List (List Char)}
    (hrow : row ≠ []) : new.intercalate (consFirst c row) = c :: new.intercalate row := by
  obtain ⟨piece, rest, rfl⟩ := List.exists_cons_of_ne_nil hrow
  rw [consFirst]
  rcases rest with _ | ⟨next, rest⟩
  · rw [List.intercalate_singleton, List.intercalate_singleton]
  · rw [List.intercalate_cons_cons, List.intercalate_cons_cons]
    rfl

theorem intercalate_pieces (old new : List Char) (skip : ℕ) (text : List Char) :
    new.intercalate (pieces old skip text) = replaceFrom old new skip text := by
  induction text generalizing skip with
  | nil => exact List.intercalate_singleton
  | cons c text ih =>
      cases skip with
      | succ skip => exact ih skip
      | zero =>
          rw [pieces, replaceFrom]
          split
          · rw [List.intercalate_cons_of_ne_nil (pieces_ne_nil _ _ _), ih]
            rfl
          · rw [intercalate_consFirst c new (pieces_ne_nil _ _ _), ih]

theorem changeSeparator_eq_replace (hold : old ≠ []) (new list : List Char) :
    changeSeparator old new list = replace old new list := by
  by_cases hlist : list = []
  · rw [hlist]
    rfl
  · rw [changeSeparator, split_eq_pieces hold hlist, intercalate_pieces, replace]

theorem replace_intercalate (hold : old ≠ []) {row : List (List Char)} (hrow : Separated old row)
    (new : List Char) : replace old new (old.intercalate row) = new.intercalate row := by
  rw [replace, ← intercalate_pieces, pieces_intercalate hold hrow]

/-! ## Length -/

theorem length_intercalate_add (sep : List Char) {row : List (List Char)} (hrow : row ≠ []) :
    (sep.intercalate row).length + sep.length =
      row.flatten.length + row.length * sep.length := by
  induction row with
  | nil => exact absurd rfl hrow
  | cons piece rest ih =>
      rcases rest with _ | ⟨next, rest⟩
      · simp
      · have hrest := ih (List.cons_ne_nil next rest)
        rw [List.intercalate_cons_cons, List.flatten_cons, List.length_append, List.length_append,
          List.length_append, List.length_cons, Nat.succ_mul]
        omega

/-- Each separator but none of the elements changes its length. -/
theorem length_changeSeparator (old new : List Char) (hlist : list ≠ []) :
    ((changeSeparator old new list).length : ℤ) =
      list.length + (count old list - 1) * (new.length - old.length) := by
  have hrow := split_ne_nil old hlist
  have hbefore := length_intercalate_add old hrow
  have hafter := length_intercalate_add new hrow
  rw [intercalate_split] at hbefore
  rw [count_eq_length_split, changeSeparator]
  zify at hbefore hafter
  linear_combination hafter - hbefore

/-! ## The elements under the new separator -/

theorem isInfix_intercalate (sep : List Char) {row : List (List Char)} {piece : List Char}
    (h : piece ∈ row) : piece <:+: sep.intercalate row := by
  induction row with
  | nil => cases h
  | cons first rest ih =>
      rcases rest with _ | ⟨next, rest⟩
      · rw [List.mem_singleton.mp h, List.intercalate_singleton]
      · rw [List.intercalate_cons_cons, List.append_assoc]
        rcases List.mem_cons.mp h with rfl | h
        · exact (List.prefix_append _ _).isInfix
        · exact List.infix_append_of_infix_right (List.infix_append_of_infix_right (ih h))

theorem notMem_of_mem_split (hb : b ∉ list) {element : List Char} (h : element ∈ split sep list) :
    b ∉ element := by
  have hinside := isInfix_intercalate sep h
  rw [intercalate_split] at hinside
  exact fun hmem => hb (hinside.subset hmem)

theorem split_changeSeparator (hb : b ∉ list) (old : List Char) :
    split [b] (changeSeparator old [b] list) = split old list := by
  by_cases hlist : list = []
  · rw [hlist]
    rfl
  · have hrow := split_ne_nil old hlist
    have hempty : split old list ≠ [[]] :=
      split_ne_of_intercalate_eq_nil hlist List.intercalate_singleton
    refine (split_intercalate_iff (List.cons_ne_nil b []) hrow).mpr ⟨?_, hempty⟩
    refine separated_of_length_eq_one rfl hrow fun element hmem => ?_
    rw [List.singleton_infix_iff]
    exact notMem_of_mem_split hb hmem

/-! ## The old separator is gone -/

theorem isInfix_append_cons {text front back : List Char} (hb : b ∉ text)
    (h : text <:+: front ++ b :: back) : text <:+: front ∨ text <:+: back := by
  rcases List.infix_append_iff.mp h with h | h | ⟨left, right, rfl, hleft, hright⟩
  · exact .inl h
  · rw [List.infix_cons_iff, List.prefix_cons_iff] at h
    rcases h with (rfl | ⟨rest, rfl, -⟩) | h
    · exact .inl (List.nil_infix)
    · exact absurd List.mem_cons_self hb
    · exact .inr h
  · rcases List.prefix_cons_iff.mp hright with rfl | ⟨rest, rfl, -⟩
    · rw [List.append_nil]
      exact .inl hleft.isInfix
    · exact absurd (List.mem_append_right left List.mem_cons_self) hb

theorem exists_mem_isInfix {text : List Char} {row : List (List Char)} (hrow : row ≠ [])
    (hb : b ∉ text) (h : text <:+: [b].intercalate row) : ∃ element ∈ row, text <:+: element := by
  induction row with
  | nil => exact absurd rfl hrow
  | cons piece rest ih =>
      rcases rest with _ | ⟨next, rest⟩
      · rw [List.intercalate_singleton] at h
        exact ⟨piece, List.mem_cons_self, h⟩
      · rw [List.intercalate_cons_cons, List.append_assoc, List.singleton_append] at h
        rcases isInfix_append_cons hb h with h | h
        · exact ⟨piece, List.mem_cons_self, h⟩
        · obtain ⟨element, hmem, h⟩ := ih (List.cons_ne_nil next rest) h
          exact ⟨element, List.mem_cons_of_mem piece hmem, h⟩

theorem not_isInfix_changeSeparator (hold : old ≠ []) (hb : b ∉ list) :
    ¬old <:+: changeSeparator old [b] list := by
  intro h
  by_cases hlist : list = []
  · rw [hlist] at h
    exact hold (List.infix_nil.mp h)
  have hseparated := separated_split hold hlist
  by_cases hmem : b ∈ old
  · -- A separator with the new character in it did not occur, so nothing was changed.
    have hnone : ¬old <:+: list := fun hinside => hb (hinside.subset hmem)
    rw [changeSeparator, split_eq_pieces hold hlist, pieces_of_not_isInfix hnone,
      List.intercalate_singleton] at h
    exact hnone h
  · obtain ⟨element, helement, hinside⟩ := exists_mem_isInfix hseparated.ne_nil hmem h
    exact hseparated.not_isInfix helement hinside

/-- Under a character that the list does not hold the elements stay what they are, so that every
further change of the separator acts as on the list itself. -/
theorem changeSeparator_keeps_elements (hb : b ∉ list) (old : List Char) :
    split [b] (changeSeparator old [b] list) = split old list ∧
      count [b] (changeSeparator old [b] list) = count old list ∧
      (∀ new, changeSeparator [b] new (changeSeparator old [b] list) =
        changeSeparator old new list) ∧
      changeSeparator [b] old (changeSeparator old [b] list) = list ∧
      (old ≠ [] → ¬old <:+: changeSeparator old [b] list) := by
  have hsplit := split_changeSeparator hb old
  have hchange (new : List Char) :
      changeSeparator [b] new (changeSeparator old [b] list) = changeSeparator old new list := by
    rw [changeSeparator, hsplit, changeSeparator]
  refine ⟨hsplit, ?_, hchange, ?_, fun hold => not_isInfix_changeSeparator hold hb⟩
  · rw [count_eq_length_split, hsplit, count_eq_length_split]
  · rw [hchange, changeSeparator, intercalate_split]

/-- A separator that overlaps itself, at both ends of the list and twice in a row. -/
theorem changeSeparator_keeps_elements_overlap :
    let old := "aa".toList
    let list := "aaabaaaa".toList
    ':' ∉ list ∧ split old list = [[], "ab".toList, [], []] ∧
      changeSeparator old [':'] list = ":ab::".toList ∧
      split [':'] (changeSeparator old [':'] list) = split old list ∧
      count [':'] (changeSeparator old [':'] list) = 4 ∧
      changeSeparator [':'] "a".toList (changeSeparator old [':'] list) = "aabaa".toList ∧
      changeSeparator [':'] old (changeSeparator old [':'] list) = list := by
  intro old list
  have hb : ':' ∉ list := by decide
  obtain ⟨hsplit, hcount, hchange, hrestore, -⟩ := changeSeparator_keeps_elements hb old
  exact ⟨hb, rfl, rfl, hsplit, hcount, hchange "a".toList, hrestore⟩

end PropertyMacros.Elements
