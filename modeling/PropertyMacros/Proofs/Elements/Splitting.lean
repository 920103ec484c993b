import Mathlib.Data.List.Infix
import PropertyMacros.Elements

/-!
Splitting and joining. The rows of pieces that a splitting can come to are told from all others
without a scan: nowhere in a piece, and nowhere across its end, does the separator begin before the
place where it was put. Such a row is found again in its join, and every text has one.
-/

namespace PropertyMacros.Elements

variable {sep : List Char}

/-- A row of pieces in whose join the separators are found where they were put. -/
inductive Separated (sep : List Char) : List (List Char) → Prop where
  | last {piece : List Char} : ¬sep <:+: piece → Separated sep [piece]
  | cons {piece : List Char} {rest : List (List Char)} :
      ¬sep <:+: piece ++ sep.dropLast → Separated sep rest → Separated sep (piece :: rest)

theorem Separated.ne_nil {row : List (List Char)} (h : Separated sep row) : row ≠ [] := by
  cases h <;> exact List.cons_ne_nil _ _

theorem Separated.not_isInfix {row : List (List Char)} (h : Separated sep row) {piece : List Char}
    (hmem : piece ∈ row) : ¬sep <:+: piece := by
  induction h with
  | last hpiece => rwa [List.mem_singleton.mp hmem]
  | cons hpiece hrest ih =>
      rcases List.mem_cons.mp hmem with rfl | hmem
      · exact fun hinside => hpiece (List.infix_append_of_infix_left hinside)
      · exact ih hmem

/-- A separator is found where it was put if its last character occurs nowhere else. -/
theorem separated_of_notMem {c : Char} {front : List Char} (hfront : c ∉ front)
    {row : List (List Char)} (hrow : row ≠ []) (h : ∀ piece ∈ row, c ∉ piece) :
    Separated (front ++ [c]) row := by
  have hlast {piece : List Char} (hpiece : c ∉ piece) : ¬front ++ [c] <:+: piece :=
    fun hinside => hpiece (hinside.subset (by simp))
  induction row with
  | nil => exact absurd rfl hrow
  | cons piece rest ih =>
      have hpiece := h piece List.mem_cons_self
      by_cases hrest : rest = []
      · subst hrest
        exact .last (hlast hpiece)
      · refine .cons (hlast ?_) (ih hrest fun piece hmem => h piece (.tail _ hmem))
        rw [List.dropLast_concat, List.mem_append, not_or]
        exact ⟨hpiece, hfront⟩

/-! ## The scan -/

theorem pieces_skip (skipped rest : List Char) :
    pieces sep skipped.length (skipped ++ rest) = pieces sep 0 rest := by
  induction skipped with
  | nil => rfl
  | cons c skipped ih => exact ih

theorem pieces_of_not_isInfix {piece : List Char} (h : ¬sep <:+: piece) :
    pieces sep 0 piece = [piece] := by
  induction piece with
  | nil => rfl
  | cons c piece ih =>
      rw [List.infix_cons_iff, not_or] at h
      rw [pieces, if_neg (mt List.isPrefixOf_iff_prefix.mp h.1), ih h.2, consFirst]

theorem append_dropLast_isPrefix (sep text rest : List Char) :
    text ++ sep.dropLast <+: text ++ sep ++ rest := by
  rw [List.append_assoc, List.prefix_append_right_inj]
  exact List.prefix_append_of_prefix (List.dropLast_prefix sep)

/-- A separator that begins inside of the piece would lie in front of the last character of the
separator behind it. -/
theorem not_isPrefix_of_not_isInfix {text : List Char} (htext : text ≠ [])
    (h : ¬sep <:+: text ++ sep.dropLast) (rest : List Char) : ¬sep <+: text ++ sep ++ rest := by
  intro hfront
  have hshort := append_dropLast_isPrefix sep text rest
  refine h (List.prefix_of_prefix_length_le hfront hshort ?_).isInfix
  have hpos := List.length_pos_iff.mpr htext
  rw [List.length_append, List.length_dropLast]
  omega

theorem pieces_append (hsep : sep ≠ []) {piece : List Char} (h : ¬sep <:+: piece ++ sep.dropLast)
    (rest : List Char) : pieces sep 0 (piece ++ sep ++ rest) = piece :: pieces sep 0 rest := by
  induction piece with
  | nil =>
      obtain ⟨c, tail, rfl⟩ := List.exists_cons_of_ne_nil hsep
      have hfront : (c :: tail).isPrefixOf (c :: (tail ++ rest)) = true :=
        List.isPrefixOf_iff_prefix.mpr (List.prefix_append (c :: tail) rest)
      change pieces (c :: tail) 0 (c :: (tail ++ rest)) = _
      rw [pieces, if_pos hfront]
      exact congrArg ([] :: ·) (pieces_skip tail rest)
  | cons c piece ih =>
      -- No separator begins here, so the scan takes the character into the piece.
      have hfront := not_isPrefix_of_not_isInfix (List.cons_ne_nil c piece) h rest
      rw [List.cons_append, List.infix_cons_iff, not_or] at h
      rw [List.cons_append, List.cons_append] at hfront ⊢
      rw [pieces, if_neg (mt List.isPrefixOf_iff_prefix.mp hfront), ih h.2, consFirst]

theorem pieces_intercalate (hsep : sep ≠ []) {row : List (List Char)} (h : Separated sep row) :
    pieces sep 0 (sep.intercalate row) = row := by
  induction h with
  | last hpiece => rw [List.intercalate_singleton, pieces_of_not_isInfix hpiece]
  | cons hpiece hrest ih =>
      rw [List.intercalate_cons_of_ne_nil hrest.ne_nil, pieces_append hsep hpiece, ih]

/-- Where the separator occurs at all, it occurs for a first time. -/
theorem exists_first (hsep : sep ≠ []) {text : List Char} (h : sep <:+: text) :
    ∃ piece rest, text = piece ++ sep ++ rest ∧ ¬sep <:+: piece ++ sep.dropLast := by
  induction text with
  | nil => exact absurd (List.infix_nil.mp h) hsep
  | cons c text ih =>
      by_cases hfront : sep <+: c :: text
      · obtain ⟨rest, hrest⟩ := hfront
        refine ⟨[], rest, hrest.symm, fun hinside => ?_⟩
        have hle := hinside.length_le
        have hpos := List.length_pos_iff.mpr hsep
        rw [List.nil_append, List.length_dropLast] at hle
        omega
      · obtain ⟨piece, rest, rfl, hfirst⟩ := ih ((List.infix_cons_iff.mp h).resolve_left hfront)
        refine ⟨c :: piece, rest, rfl, ?_⟩
        rw [List.cons_append, List.infix_cons_iff, not_or]
        have hshort := append_dropLast_isPrefix sep (c :: piece) rest
        exact ⟨fun hinside => hfront (hinside.trans hshort), hfirst⟩

theorem exists_separated (hsep : sep ≠ []) (text : List Char) :
    ∃ row, Separated sep row ∧ sep.intercalate row = text := by
  -- Induction on the length: behind the first occurrence there is less text.
  induction hlength : text.length using Nat.strong_induction_on generalizing text with
  | _ length ih =>
      by_cases hinside : sep <:+: text
      · obtain ⟨piece, rest, rfl, hfirst⟩ := exists_first hsep hinside
        have hpos := List.length_pos_iff.mpr hsep
        rw [List.length_append, List.length_append] at hlength
        obtain ⟨row, hrow, rfl⟩ := ih rest.length (by omega) rest rfl
        exact ⟨piece :: row, .cons hfirst hrow, List.intercalate_cons_of_ne_nil hrow.ne_nil⟩
      · exact ⟨[text], .last hinside, List.intercalate_singleton⟩

/-- The scan comes to the one separated row whose join is the text. -/
theorem pieces_eq_iff (hsep : sep ≠ []) {text : List Char} {row : List (List Char)} :
    pieces sep 0 text = row ↔ Separated sep row ∧ sep.intercalate row = text := by
  constructor
  · rintro rfl
    obtain ⟨row, hrow, rfl⟩ := exists_separated hsep text
    rw [pieces_intercalate hsep hrow]
    exact ⟨hrow, rfl⟩
  · rintro ⟨hrow, rfl⟩
    exact pieces_intercalate hsep hrow

theorem length_consFirst (c : Char) {row : List (List Char)} (h : row ≠ []) :
    (consFirst c row).length = row.length := by
  cases row with
  | nil => exact absurd rfl h
  | cons piece rest => rfl

theorem length_pieces (sep : List Char) (skip : ℕ) (text : List Char) :
    (pieces sep skip text).length = occurrences sep skip text + 1 := by
  induction text generalizing skip with
  | nil => rfl
  | cons c text ih =>
      cases skip with
      | succ skip => exact ih skip
      | zero =>
          rw [pieces, occurrences]
          split
          · exact congrArg (· + 1) (ih _)
          · rw [length_consFirst, ih]
            rw [← List.length_pos_iff, ih]
            omega

/-! ## Elements -/

theorem split_eq_pieces (hsep : sep ≠ []) {list : List Char} (hlist : list ≠ []) :
    split sep list = pieces sep 0 list := by
  rw [split, if_neg hlist, if_neg hsep]

theorem separated_split (hsep : sep ≠ []) {list : List Char} (hlist : list ≠ []) :
    Separated sep (split sep list) :=
  ((pieces_eq_iff hsep).mp (split_eq_pieces hsep hlist).symm).1

theorem intercalate_empty (row : List (List Char)) : List.intercalate [] row = row.flatten := by
  induction row with
  | nil => rfl
  | cons piece rest ih =>
      by_cases hrest : rest = []
      · rw [hrest, List.intercalate_singleton, List.flatten_singleton]
      · rw [List.intercalate_cons_of_ne_nil hrest, List.append_nil, ih, List.flatten_cons]

/-- Joining the elements undoes the splitting, for the empty separator as well. -/
theorem intercalate_split (sep list : List Char) : sep.intercalate (split sep list) = list := by
  by_cases hlist : list = []
  · rw [hlist, split_nil, List.intercalate_nil]
  by_cases hsep : sep = []
  · rw [split, if_neg hlist, if_pos hsep, hsep, intercalate_empty]
    simp [← List.flatMap_def]
  · exact ((pieces_eq_iff hsep).mp (split_eq_pieces hsep hlist).symm).2

theorem count_eq_length_split (sep list : List Char) :
    count sep list = (split sep list).length := by
  by_cases hlist : list = []
  · rw [hlist, count_nil, split_nil, List.length_nil]
  by_cases hsep : sep = []
  · rw [count, if_neg hlist, if_pos hsep, split, if_neg hlist, if_pos hsep]
    simp
  · rw [count, if_neg hlist, if_neg hsep, split_eq_pieces hsep hlist, length_pieces]

theorem intercalate_eq_nil_iff (hsep : sep ≠ []) {row : List (List Char)} (hrow : row ≠ []) :
    sep.intercalate row = [] ↔ row = [[]] := by
  obtain ⟨piece, rest, rfl⟩ := List.exists_cons_of_ne_nil hrow
  by_cases hrest : rest = []
  · simp [hrest]
  · simp [List.intercalate_cons_of_ne_nil hrest, hsep, hrest]

/-- The join of a row is split into that row if the row is separated, and is not the empty list
taken for a list with one element. -/
theorem split_intercalate_iff (hsep : sep ≠ []) {row : List (List Char)} (hrow : row ≠ []) :
    split sep (sep.intercalate row) = row ↔ Separated sep row ∧ row ≠ [[]] := by
  by_cases hlist : sep.intercalate row = []
  · rw [hlist, split_nil]
    exact ⟨fun h => absurd h.symm hrow,
      fun h => absurd ((intercalate_eq_nil_iff hsep hrow).mp hlist) h.2⟩
  · rw [split_eq_pieces hsep hlist, pieces_eq_iff hsep, and_iff_left rfl]
    exact (and_iff_left (mt (intercalate_eq_nil_iff hsep hrow).mpr hlist)).symm

/-- No piece can run into a separator of one character. -/
theorem separated_of_length_eq_one (hsep : sep.length = 1) {row : List (List Char)}
    (hrow : row ≠ []) (h : ∀ piece ∈ row, ¬sep <:+: piece) : Separated sep row := by
  obtain ⟨c, rfl⟩ := List.length_eq_one_iff.mp hsep
  induction row with
  | nil => exact absurd rfl hrow
  | cons piece rest ih =>
      have hpiece := h piece List.mem_cons_self
      by_cases hrest : rest = []
      · exact hrest ▸ .last hpiece
      · refine .cons ?_ (ih hrest fun piece hmem => h piece (List.mem_cons_of_mem _ hmem))
        rwa [List.dropLast_singleton, List.append_nil]

/-- Splitting finds as many elements as are counted, of which none holds the separator, and joining
puts them together again. A separator of one character is found where it was put. -/
theorem split_inverts_intercalate (sep : List Char) :
    (∀ list, count sep list = (split sep list).length ∧
      sep.intercalate (split sep list) = list) ∧
    (sep ≠ [] → ∀ list, ∀ element ∈ split sep list, ¬sep <:+: element) ∧
    (sep.length = 1 → ∀ row, row ≠ [] → row ≠ [[]] → (∀ element ∈ row, ¬sep <:+: element) →
      split sep (sep.intercalate row) = row) := by
  refine ⟨fun list => ⟨count_eq_length_split sep list, intercalate_split sep list⟩, ?_, ?_⟩
  · intro hsep list element hmem
    have hlist : list ≠ [] := by
      rintro rfl
      cases hmem
    exact (separated_split hsep hlist).not_isInfix hmem
  · intro hlength row hrow hne h
    have hsep : sep ≠ [] := List.ne_nil_of_length_eq_add_one hlength
    exact (split_intercalate_iff hsep hrow).mpr ⟨separated_of_length_eq_one hlength hrow h, hne⟩

/-- A separator that overlaps itself, and elements that are empty. -/
theorem split_inverts_intercalate_overlap :
    let sep := "aa".toList
    let row := [[], "b".toList, []]
    split sep "aaab".toList = [[], "ab".toList] ∧
      (∀ element ∈ split sep "aaab".toList, ¬sep <:+: element) ∧
      (∀ element ∈ row, ¬[':'] <:+: element) ∧
      split [':'] ([':'].intercalate row) = row ∧
      split [] "ab".toList = [[], "a".toList, "b".toList, []] := by
  intro sep row
  have hfree : ∀ element ∈ row, ¬[':'] <:+: element := by decide
  obtain ⟨-, hnot, -⟩ := split_inverts_intercalate sep
  obtain ⟨-, -, hrow⟩ := split_inverts_intercalate [':']
  exact ⟨rfl, hnot (by decide) "aaab".toList, hfree,
    hrow rfl row (by decide) (by decide) hfree, rfl⟩

end PropertyMacros.Elements
