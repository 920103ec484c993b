import PropertyMacros.Proofs.Elements.Window
import PropertyMacros.Proofs.Operator.Faults
import PropertyMacros.Proofs.Operator.Texts

/-!
Windows of a list by the texts of their bounds. The bounds are read as they are written, however
many zeros stand in front, and a window may end beyond every position that can be written; what
cannot be read is refused.
-/

namespace PropertyMacros

/-! ## Bounds -/

theorem IsIndexOf.head?_ne_minus {n : ℕ} {text : List Char} (h : IsIndexOf n text) :
    text.head? ≠ some '-' := by
  obtain ⟨digits, rfl | rfl, hne, hdigits, -⟩ := h
  · obtain ⟨c, rest, rfl⟩ := List.exists_cons_of_ne_nil hne
    rintro ⟨⟩
    exact absurd (hdigits '-' List.mem_cons_self) (by decide)
  · rintro ⟨⟩

/-- The text is written for a position. -/
def IsPosition (n : ℕ) (text : String) : Prop :=
  IsIndexOf n text.toList ∧ n < 2 ^ 64

/-- The text is written for a number beyond every position, or begins with a minus sign. -/
def IsOutOfRange (text : String) : Prop :=
  (∃ n, IsIndexOf n text.toList ∧ 2 ^ 64 ≤ n) ∨ text.toList.head? = some '-'

theorem readIndex?_eq_none_iff {text : String} :
    readIndex? text.toList = none ↔ ∀ n, ¬IsPosition n text := by
  simp only [Option.eq_none_iff_forall_ne_some, ne_eq, readIndex?_eq_some_iff, IsPosition]

theorem IsOutOfRange.not_isPosition {text : String} (h : IsOutOfRange text) (n : ℕ) :
    ¬IsPosition n text := by
  rintro ⟨hn, hlt⟩
  rcases h with ⟨m, hm, hle⟩ | hminus
  · rw [hn.unique hm] at hlt
    omega
  · exact hn.head?_ne_minus hminus

/-! ## Elements by their positions -/

namespace Elements

/-- The elements of a list at the positions `p` with `i ≤ p < i + n`, in order. -/
def elementsAt (sep : List Char) (i n : ℕ) (list : List Char) : List (List Char) :=
  ((split sep list).zipIdx.filter fun e => i ≤ e.2 ∧ e.2 < i + n).map Prod.fst

theorem take_eq_filter_zipIdx {α : Type} (row : List α) (n k : ℕ) :
    row.take n = ((row.zipIdx k).filter fun e => e.2 < k + n).map Prod.fst := by
  induction row generalizing n k with
  | nil => simp
  | cons piece rest ih =>
      cases n with
      | zero =>
          rw [List.take_zero, eq_comm, List.map_eq_nil_iff, List.filter_eq_nil_iff]
          intro e he
          have hle := List.le_snd_of_mem_zipIdx he
          rw [decide_eq_true_iff]
          omega
      | succ n =>
          have hrest := ih n (k + 1)
          rw [Nat.add_right_comm, Nat.add_assoc] at hrest
          rw [List.take_succ_cons, hrest, List.zipIdx_cons, List.filter_cons_of_pos, List.map_cons]
          rw [decide_eq_true_iff]
          omega

theorem take_drop_eq_filter_zipIdx {α : Type} (row : List α) (i n k : ℕ) :
    (row.drop i).take n =
      ((row.zipIdx k).filter fun e => k + i ≤ e.2 ∧ e.2 < k + i + n).map Prod.fst := by
  induction row generalizing i k with
  | nil => simp
  | cons piece rest ih =>
      cases i with
      | zero =>
          -- Positions are counted from `k`, so the lower bound holds of all of them.
          rw [List.drop_zero, take_eq_filter_zipIdx _ n k]
          congr 1
          apply List.filter_congr
          intro e he
          have hle := List.le_snd_of_mem_zipIdx he
          rw [decide_eq_decide]
          omega
      | succ i =>
          have hrest := ih i (k + 1)
          rw [Nat.add_right_comm, Nat.add_assoc k i 1] at hrest
          rw [List.drop_succ_cons, hrest, List.zipIdx_cons, List.filter_cons_of_neg]
          rw [decide_eq_true_iff]
          omega

theorem sublist_eq_intercalate_elementsAt (sep : List Char) (i n : ℕ) (list : List Char) :
    sublist sep i n list = sep.intercalate (elementsAt sep i n list) := by
  have hrow := take_drop_eq_filter_zipIdx (split sep list) i n 0
  simp only [Nat.zero_add] at hrow
  rw [sublist, hrow, elementsAt]

end Elements

/-! ## Windows -/

namespace Operator

variable {attrs : Attributes} {list index number sep : String}

theorem window_eq
    (h : attrs.Holds [("list", list), ("index", index), ("count", number), ("sep", sep)])
    (hsep : sep ≠ "") :
    window attrs =
      match readIndex? index.toList, readIndex? number.toList with
      | some i, some n =>
        .ok (String.ofList (Elements.sublist sep.toList i n list.toList))
      | some _, none => .error (.invalidOperand "count" number EvalError.anIndex)
      | none, _ => .error (.invalidOperand "index" index EvalError.anIndex) := by
  have hsep' : sep.toList ≠ [] := mt String.toList_eq_nil_iff.mp hsep
  rw [window, Attributes.nonEmpty_eq (h ("sep", sep) (by simp)),
    Attributes.index_eq (h ("index", index) (by simp)),
    Attributes.index_eq (h ("count", number) (by simp)),
    Attributes.require_eq (h ("list", list) (by simp)), if_neg hsep']
  cases readIndex? index.toList with
  | none => rfl
  | some i => cases readIndex? number.toList <;> rfl

end Operator

namespace Property

theorem isComplete_sublist_iff {attrs : Attributes} :
    (⟨.sublist, attrs⟩ : Property).isComplete = true ↔ ∃ list index number sep,
      attrs.Holds [("list", list), ("index", index), ("count", number), ("sep", sep)] := by
  constructor
  · intro h
    have hr : attrs.Resolves Operator.sublist.schema.names := resolves_of_isComplete h
    obtain ⟨list, hlist⟩ := hr "list" (by decide)
    obtain ⟨index, hindex⟩ := hr "index" (by decide)
    obtain ⟨number, hnumber⟩ := hr "count" (by decide)
    obtain ⟨sep, hsep⟩ := hr "sep" (by decide)
    refine ⟨list, index, number, sep, ?_⟩
    simp only [Attributes.Holds, List.forall_mem_cons]
    exact ⟨hlist, hindex, hnumber, hsep, List.forall_mem_nil _⟩
  · rintro ⟨list, index, number, sep, h⟩
    exact isComplete_of_holds h rfl

/-- What has to come of a window with these texts: the elements between its bounds, which are
compared as numbers without a limit, or the first bound that is no position. -/
structure IsWindow (list index number sep : String) (result : Except EvalError String) :
    Prop where
  elements : ∀ i n, IsPosition i index → IsPosition n number → result =
    .ok (String.ofList (sep.toList.intercalate (Elements.elementsAt sep.toList i n list.toList)))
  index_out : IsOutOfRange index →
    result = .error (.invalidOperand "index" index "a non-negative integer")
  count_out : IsOutOfRange number → (∃ i, IsPosition i index) →
    result = .error (.invalidOperand "count" number "a non-negative integer")
  index_unread : (∀ i, ¬IsPosition i index) →
    result = .error (.invalidOperand "index" index "a non-negative integer")

/-- A property with this operator is complete if it holds four texts, and comes to the window that
they describe unless its separator is empty. -/
theorem evaluate_sublist (attrs : Attributes) :
    ((⟨.sublist, attrs⟩ : Property).isComplete = true ↔ ∃ list index number sep,
      attrs.Holds [("list", list), ("index", index), ("count", number), ("sep", sep)]) ∧
    ∀ list index number sep,
      attrs.Holds [("list", list), ("index", index), ("count", number), ("sep", sep)] →
      sep ≠ "" → IsWindow list index number sep (⟨.sublist, attrs⟩ : Property).evaluate := by
  refine ⟨isComplete_sublist_iff, ?_⟩
  intro list index number sep h hsep
  have hevaluate : (⟨.sublist, attrs⟩ : Property).evaluate = Operator.window attrs :=
    evaluate_of_holds h rfl
  rw [hevaluate, Operator.window_eq h hsep]
  constructor
  · intro i n hi hn
    rw [readIndex?_eq_some_iff.mpr hi, readIndex?_eq_some_iff.mpr hn,
      ← Elements.sublist_eq_intercalate_elementsAt]
  · intro hout
    rw [readIndex?_eq_none_iff.mpr hout.not_isPosition]
    rfl
  · rintro hout ⟨i, hi⟩
    rw [readIndex?_eq_some_iff.mpr hi, readIndex?_eq_none_iff.mpr hout.not_isPosition]
    rfl
  · intro hnone
    rw [readIndex?_eq_none_iff.mpr hnone]
    rfl

/-- A window from the second element on, whose end is the first number beyond every position. -/
theorem evaluate_sublist_end :
    let window := Attributes.empty.setAll
      [("list", "a:b:c"), ("index", "+0001"), ("count", "018446744073709551615"), ("sep", ":")]
    (⟨.sublist, window⟩ : Property).isComplete = true ∧
      IsPosition 1 "+0001" ∧ IsPosition (2 ^ 64 - 1) "018446744073709551615" ∧
      (⟨.sublist, window⟩ : Property).evaluate = .ok (String.ofList
        (":".toList.intercalate (Elements.elementsAt ":".toList 1 (2 ^ 64 - 1) "a:b:c".toList))) ∧
      Elements.elementsAt ":".toList 1 (2 ^ 64 - 1) "a:b:c".toList = ["b".toList, "c".toList] ∧
      IsOutOfRange "18446744073709551616" ∧
      (⟨.sublist, window.set "index" "18446744073709551616"⟩ : Property).evaluate =
        .error (.invalidOperand "index" "18446744073709551616" "a non-negative integer") ∧
      IsOutOfRange "-0" ∧
      (⟨.sublist, window.set "count" "-0"⟩ : Property).evaluate =
        .error (.invalidOperand "count" "-0" "a non-negative integer") := by
  intro window
  have hone : IsPosition 1 "+0001" := readIndex?_eq_some_iff.mp (by decide)
  have hmost : IsPosition (2 ^ 64 - 1) "018446744073709551615" :=
    readIndex?_eq_some_iff.mp (by decide)
  have hbeyond : IsOutOfRange "18446744073709551616" := by
    obtain ⟨hne, hdigits⟩ := Number.isDigits_iff.mp
      (show Number.isDigits "18446744073709551616".toList = true by decide)
    exact .inl ⟨2 ^ 64, ⟨_, .inl rfl, hne, hdigits, by decide⟩, Nat.le_refl _⟩
  have hminus : IsOutOfRange "-0" := .inr rfl
  have hholds : window.Holds [("list", "a:b:c"), ("index", "+0001"),
      ("count", "018446744073709551615"), ("sep", ":")] := by
    decide
  obtain ⟨hcomplete, hwindow⟩ := evaluate_sublist window
  obtain ⟨-, hindex⟩ := evaluate_sublist (window.set "index" "18446744073709551616")
  obtain ⟨-, hcount⟩ := evaluate_sublist (window.set "count" "-0")
  have hvalue := (hwindow _ _ _ _ hholds (by decide)).elements 1 (2 ^ 64 - 1) hone hmost
  have hindex := (hindex "a:b:c" "18446744073709551616" "018446744073709551615" ":"
    (by decide) (by decide)).index_out hbeyond
  have hcount := (hcount "a:b:c" "+0001" "-0" ":"
    (by decide) (by decide)).count_out hminus ⟨1, hone⟩
  exact ⟨hcomplete.mpr ⟨_, _, _, _, hholds⟩, hone, hmost, hvalue, by decide, hbeyond, hindex,
    hminus, hcount⟩

end Property

end PropertyMacros
