import Mathlib.Data.Finset.Card
import Mathlib.Data.Finset.Image
import Mathlib.Order.Bounds.Basic
import PropertyMacros.Elements

/-!
Occurrences that do not overlap. Among all sets of such occurrences the scan from left to right
finds a largest one: of any other set at most one member overlaps the first occurrence that is
taken, and the others all lie behind it.
-/

namespace PropertyMacros.Elements

variable {sep : List Char}

/-- Places at which the separator occurs, where each occurrence ends before the next one begins. -/
structure IsPacking (sep text : List Char) (starts : Finset ℕ) : Prop where
  occurs : ∀ i ∈ starts, sep <+: text.drop i
  apart : ∀ i ∈ starts, ∀ j ∈ starts, i < j → i + sep.length ≤ j

/-- The places, seen from one character earlier in the text. -/
def shifted (starts : Finset ℕ) : Finset ℕ := starts.map ⟨Nat.succ, Nat.succ_injective⟩

@[simp] theorem succ_mem_shifted {starts : Finset ℕ} {i : ℕ} :
    i + 1 ∈ shifted starts ↔ i ∈ starts := by
  simp [shifted]

@[simp] theorem zero_notMem_shifted (starts : Finset ℕ) : 0 ∉ shifted starts := by
  simp [shifted]

@[simp] theorem card_shifted (starts : Finset ℕ) : (shifted starts).card = starts.card :=
  Finset.card_map _

theorem exists_eq_shifted {starts : Finset ℕ} (h : 0 ∉ starts) :
    ∃ starts', starts = shifted starts' := by
  refine ⟨starts.image Nat.pred, Finset.ext fun i => ?_⟩
  cases i with
  | zero => simp [h]
  | succ i =>
      rw [succ_mem_shifted, Finset.mem_image]
      constructor
      · exact fun hi => ⟨i + 1, hi, rfl⟩
      · rintro ⟨j, hj, rfl⟩
        cases j with
        | zero => exact absurd hj h
        | succ j => exact hj

theorem forall_mem_shifted {starts : Finset ℕ} {p : ℕ → Prop} :
    (∀ i ∈ shifted starts, p i) ↔ ∀ i ∈ starts, p (i + 1) := by
  simp [shifted]

theorem isPacking_shifted_iff {c : Char} {rest : List Char} {starts : Finset ℕ} :
    IsPacking sep (c :: rest) (shifted starts) ↔ IsPacking sep rest starts := by
  constructor
  · intro h
    refine ⟨forall_mem_shifted.mp h.occurs, fun i hi j hj hij => ?_⟩
    have happart := h.apart (i + 1) (succ_mem_shifted.mpr hi) (j + 1) (succ_mem_shifted.mpr hj)
    omega
  · intro h
    refine ⟨forall_mem_shifted.mpr h.occurs, ?_⟩
    simp only [forall_mem_shifted]
    intro i hi j hj hij
    have happart := h.apart i hi j hj
    omega

theorem IsPacking.mono {text : List Char} {starts starts' : Finset ℕ}
    (h : IsPacking sep text starts) (hsub : starts' ⊆ starts) : IsPacking sep text starts' :=
  ⟨fun i hi => h.occurs i (hsub hi), fun i hi j hj => h.apart i (hsub hi) j (hsub hj)⟩

/-! ## The scan is a packing -/

/-- The places at which the scan from left to right finds an occurrence, where the first `skip`
characters belong to one that has been found already. -/
def scan (sep : List Char) : ℕ → List Char → Finset ℕ
  | _, [] => ∅
  | skip + 1, _ :: rest => shifted (scan sep skip rest)
  | 0, c :: rest =>
    if sep.isPrefixOf (c :: rest) then insert 0 (shifted (scan sep (sep.length - 1) rest))
    else shifted (scan sep 0 rest)

theorem card_scan (sep : List Char) (skip : ℕ) (text : List Char) :
    (scan sep skip text).card = occurrences sep skip text := by
  induction text generalizing skip with
  | nil => rfl
  | cons c rest ih =>
      cases skip with
      | succ skip => rw [scan, occurrences, card_shifted, ih]
      | zero =>
          rw [scan, occurrences]
          split
          · rw [Finset.card_insert_of_notMem (zero_notMem_shifted _), card_shifted, ih]
          · rw [card_shifted, ih]

theorem le_of_mem_scan {skip : ℕ} {text : List Char} : ∀ i ∈ scan sep skip text, skip ≤ i := by
  induction text generalizing skip with
  | nil => simp [scan]
  | cons c rest ih =>
      cases skip with
      | succ skip =>
          rw [scan, forall_mem_shifted]
          exact fun i hi => Nat.succ_le_succ (ih i hi)
      | zero => exact fun i _ => Nat.zero_le i

/-- An occurrence at the beginning can be added to places behind its end. -/
theorem IsPacking.insert_zero {text : List Char} {starts : Finset ℕ}
    (h : IsPacking sep text starts) (hfront : sep <+: text)
    (hbehind : ∀ i ∈ starts, sep.length ≤ i) : IsPacking sep text (insert 0 starts) where
  occurs := by
    rw [Finset.forall_mem_insert]
    exact ⟨hfront, h.occurs⟩
  apart := by
    simp only [Finset.forall_mem_insert]
    refine ⟨⟨fun hlt => absurd hlt (Nat.lt_irrefl 0), fun j hj _ => ?_⟩, fun i hi => ⟨?_, ?_⟩⟩
    · rw [Nat.zero_add]
      exact hbehind j hj
    · exact fun hlt => absurd hlt (Nat.not_lt_zero i)
    · exact h.apart i hi

theorem isPacking_scan (sep : List Char) (skip : ℕ) (text : List Char) :
    IsPacking sep text (scan sep skip text) := by
  induction text generalizing skip with
  | nil => exact ⟨by simp [scan], by simp [scan]⟩
  | cons c rest ih =>
      cases skip with
      | succ skip => exact isPacking_shifted_iff.mpr (ih skip)
      | zero =>
          rw [scan]
          split
          · next hfront =>
            refine (isPacking_shifted_iff.mpr (ih _)).insert_zero
              (List.isPrefixOf_iff_prefix.mp hfront) ?_
            rw [forall_mem_shifted]
            intro i hi
            have hle := le_of_mem_scan i hi
            omega
          · exact isPacking_shifted_iff.mpr (ih 0)

/-! ## No packing is larger -/

/-- At most one place of a packing lies in front of the end of an occurrence at the beginning. -/
theorem IsPacking.card_filter_lt_le_one {text : List Char} {starts : Finset ℕ}
    (h : IsPacking sep text starts) : (starts.filter (· < sep.length)).card ≤ 1 := by
  rw [Finset.card_le_one]
  intro i hi j hj
  rw [Finset.mem_filter] at hi hj
  rcases lt_trichotomy i j with hij | rfl | hij
  · have happart := h.apart i hi.1 j hj.1 hij
    omega
  · rfl
  · have happart := h.apart j hj.1 i hi.1 hij
    omega

/-- The exchange: a packing loses at most one place when only those are kept that lie behind an
occurrence at the beginning. -/
theorem IsPacking.exists_behind (hsep : sep ≠ []) {c : Char} {rest : List Char}
    {starts : Finset ℕ} (h : IsPacking sep (c :: rest) starts) :
    ∃ starts', IsPacking sep rest starts' ∧ (∀ i ∈ starts', sep.length - 1 ≤ i) ∧
      starts.card ≤ starts'.card + 1 := by
  have hbehind := h.mono (starts.filter_subset (¬· < sep.length))
  have hzero : 0 ∉ starts.filter (¬· < sep.length) := by simp [hsep]
  obtain ⟨starts', hstarts'⟩ := exists_eq_shifted hzero
  rw [hstarts', isPacking_shifted_iff] at hbehind
  refine ⟨starts', hbehind, fun i hi => ?_, ?_⟩
  · have hmem : i + 1 ∈ starts.filter (¬· < sep.length) := hstarts' ▸ succ_mem_shifted.mpr hi
    rw [Finset.mem_filter] at hmem
    omega
  · calc
      starts.card = (starts.filter (¬· < sep.length)).card +
          (starts.filter (· < sep.length)).card := by
        rw [Nat.add_comm, Finset.card_filter_add_card_filter_not]
      _ ≤ starts'.card + 1 := by
        rw [hstarts', card_shifted]
        exact Nat.add_le_add_left h.card_filter_lt_le_one _

theorem IsPacking.card_le_occurrences (hsep : sep ≠ []) {skip : ℕ} {text : List Char}
    {starts : Finset ℕ} (h : IsPacking sep text starts) (hskip : ∀ i ∈ starts, skip ≤ i) :
    starts.card ≤ occurrences sep skip text := by
  -- Induction along the scan, over all packings of what it has still to read.
  induction text generalizing skip starts with
  | nil =>
      have hempty : starts = ∅ := by
        refine Finset.eq_empty_of_forall_notMem fun i hi => hsep ?_
        have hfront := h.occurs i hi
        rwa [List.drop_nil, List.prefix_nil] at hfront
      rw [hempty, Finset.card_empty]
      exact Nat.zero_le _
  | cons c rest ih =>
      cases skip with
      | succ skip =>
          have hzero : 0 ∉ starts := fun hmem => Nat.not_succ_le_zero skip (hskip 0 hmem)
          obtain ⟨starts, rfl⟩ := exists_eq_shifted hzero
          rw [forall_mem_shifted] at hskip
          rw [card_shifted, occurrences]
          exact ih (isPacking_shifted_iff.mp h) fun i hi => Nat.le_of_succ_le_succ (hskip i hi)
      | zero =>
          rw [occurrences]
          split
          · obtain ⟨starts', hpacking, hbehind, hcard⟩ := h.exists_behind hsep
            exact hcard.trans (Nat.add_le_add_right (ih hpacking hbehind) 1)
          · next hfront =>
            have hzero : 0 ∉ starts :=
              fun hmem => hfront (List.isPrefixOf_iff_prefix.mpr (h.occurs 0 hmem))
            obtain ⟨starts, rfl⟩ := exists_eq_shifted hzero
            rw [card_shifted]
            exact ih (isPacking_shifted_iff.mp h) fun i _ => Nat.zero_le i

/-- One less than the elements of a list are the most occurrences of the separator that do not
overlap, and the scan finds so many. -/
theorem isGreatest_count_sub_one {list : List Char} (hsep : sep ≠ []) (hlist : list ≠ []) :
    IsPacking sep list (scan sep 0 list) ∧ (scan sep 0 list).card + 1 = count sep list ∧
      IsGreatest {n | ∃ starts, IsPacking sep list starts ∧ starts.card = n}
        (count sep list - 1) := by
  have hcount : count sep list = (scan sep 0 list).card + 1 := by
    rw [count, if_neg hlist, if_neg hsep, card_scan]
  refine ⟨isPacking_scan sep 0 list, hcount.symm, ?_, ?_⟩
  · refine ⟨scan sep 0 list, isPacking_scan sep 0 list, ?_⟩
    rw [hcount, Nat.add_sub_cancel]
  · rintro n ⟨starts, hstarts, rfl⟩
    rw [hcount, Nat.add_sub_cancel, card_scan]
    exact hstarts.card_le_occurrences hsep fun i _ => Nat.zero_le i

/-- In a row of five equal characters the pairs overlap, and at most two of the four are apart. -/
theorem isGreatest_count_sub_one_pairs :
    let sep := "aa".toList
    let list := "aaaaa".toList
    scan sep 0 list = {0, 2} ∧ count sep list = 3 ∧ IsPacking sep list {0, 2} ∧
      IsPacking sep list {1, 3} ∧
      IsGreatest {n | ∃ starts, IsPacking sep list starts ∧ starts.card = n} 2 := by
  intro sep list
  have hsep : sep ≠ [] := by decide
  have hlist : list ≠ [] := by decide
  obtain ⟨hscan, -, hgreatest⟩ := isGreatest_count_sub_one hsep hlist
  have hother : IsPacking sep list {1, 3} := ⟨by decide, by decide⟩
  exact ⟨by decide, by decide, hscan, hother, hgreatest⟩

end PropertyMacros.Elements
