import Mathlib.Data.List.Induction
import Mathlib.Data.List.Perm.Subperm
import PropertyMacros.OrderedMap

/-!
Ordered maps as lists of bindings: what a series of insertions leaves, in which order, which
bindings a look-up finds, and that a comparison sees what look-ups find and nothing else.
-/

namespace PropertyMacros.OrderedMap

variable {α β γ : Type} [DecidableEq α]

/-- The value that stands last among the pairs with key `k`. -/
def lastValue? (k : α) (pairs : List (α × β)) : Option β :=
  (pairs.filter fun e => e.1 = k).getLast?.map Prod.snd

theorem lastValue?_append (k : α) (xs ys : List (α × β)) :
    lastValue? k (xs ++ ys) = (lastValue? k ys).or (lastValue? k xs) := by
  rw [lastValue?, List.filter_append, List.getLast?_append]
  cases h : (ys.filter fun e => e.1 = k).getLast? <;> simp [lastValue?, h]

theorem lastValue?_singleton (k : α) (e : α × β) :
    lastValue? k [e] = if e.1 = k then some e.2 else none := by
  by_cases h : e.1 = k <;> simp [lastValue?, h]

theorem lastValue?_eq_none_iff {k : α} {pairs : List (α × β)} :
    lastValue? k pairs = none ↔ k ∉ pairs.map Prod.fst := by
  rw [lastValue?, Option.map_eq_none_iff, List.getLast?_eq_none_iff, List.filter_eq_nil_iff,
    List.mem_map]
  constructor
  · rintro h ⟨e, he, rfl⟩
    exact h e he (decide_eq_true rfl)
  · intro h e he hk
    exact h ⟨e, he, of_decide_eq_true hk⟩

theorem insertAll_concat (m : OrderedMap α β) (pairs : List (α × β)) (e : α × β) :
    m.insertAll (pairs ++ [e]) = (m.insertAll pairs).insert e.1 e.2 :=
  List.foldl_append

theorem get?_insertAll (m : OrderedMap α β) (pairs : List (α × β)) (k : α) :
    (m.insertAll pairs).get? k = (lastValue? k pairs).or (m.get? k) := by
  induction pairs using List.reverseRecOn with
  | nil => rfl
  | append_singleton pairs e ih =>
      rw [insertAll_concat, get?_insert, ih, lastValue?_append, lastValue?_singleton]
      by_cases h : k = e.1
      · simp [h]
      · simp [h, Ne.symm h]

theorem get?_ofList (pairs : List (α × β)) (k : α) :
    (ofList pairs).get? k = lastValue? k pairs :=
  (get?_insertAll empty pairs k).trans Option.or_none

/-- A list without repetitions keeps growing only by what is new. -/
theorem eraseDups_concat (xs : List α) (x : α) :
    (xs ++ [x]).eraseDups = if x ∈ xs then xs.eraseDups else xs.eraseDups ++ [x] := by
  rw [List.eraseDups_append]
  by_cases h : x ∈ xs
  · simp [List.removeAll, h]
  · simp [List.removeAll, h, List.eraseDups_cons]

/-- Keys stand in the order of their first insertion. -/
theorem keys_ofList (pairs : List (α × β)) :
    (ofList pairs).keys = (pairs.map Prod.fst).eraseDups := by
  induction pairs using List.reverseRecOn with
  | nil => rfl
  | append_singleton pairs e ih =>
      have hinsert : ofList (pairs ++ [e]) = (ofList pairs).insert e.1 e.2 :=
        insertAll_concat empty pairs e
      rw [hinsert, keys_insert, ih, List.map_append, List.map_singleton, eraseDups_concat]
      simp only [List.mem_eraseDups]

theorem findEntry_eq_some_iff {k : α} {v : β} {es : List (α × β)}
    (hnodup : (es.map Prod.fst).Nodup) : findEntry k es = some v ↔ (k, v) ∈ es := by
  induction es with
  | nil => simp [findEntry]
  | cons e es ih =>
      rw [List.map_cons, List.nodup_cons] at hnodup
      rw [findEntry, List.mem_cons]
      split
      · next h =>
        subst h
        have hnot : (e.1, v) ∉ es := fun hmem =>
          hnodup.1 (List.mem_map.mpr ⟨_, hmem, rfl⟩)
        rw [Option.some.injEq, or_iff_left hnot, Prod.ext_iff]
        exact ⟨fun hv => ⟨rfl, hv.symm⟩, fun hv => hv.2.symm⟩
      · next h =>
        rw [ih hnodup.2]
        refine ⟨.inr, fun hmem => hmem.resolve_left ?_⟩
        rintro rfl
        exact h rfl

theorem get?_eq_some_iff {m : OrderedMap α β} {k : α} {v : β} :
    m.get? k = some v ↔ (k, v) ∈ m.entries :=
  findEntry_eq_some_iff m.nodup_keys

theorem mem_keys_iff {m : OrderedMap α β} {k : α} : k ∈ m.keys ↔ ∃ v, m.get? k = some v := by
  simp only [get?_eq_some_iff, keys, List.mem_map, Prod.exists, exists_and_right, exists_eq_right]

theorem get?_eq_none_iff {m : OrderedMap α β} {k : α} : m.get? k = none ↔ k ∉ m.keys := by
  rw [mem_keys_iff, Option.eq_none_iff_forall_ne_some, not_exists]

theorem mem_values_iff {m : OrderedMap α β} {v : β} : v ∈ m.values ↔ ∃ k, m.get? k = some v := by
  simp only [get?_eq_some_iff, values, List.mem_map, Prod.exists, exists_eq_right]

theorem eq_of_entries_eq {α β : Type} {m n : OrderedMap α β} (h : m.entries = n.entries) :
    m = n := by
  cases m
  cases n
  cases h
  rfl

theorem modify_eq_self {m : OrderedMap α β} {k : α} {f : β → β}
    (h : ∀ v, m.get? k = some v → f v = v) : m.modify k f = m := by
  apply eq_of_entries_eq
  refine (List.map_congr_left ?_).trans (List.map_id m.entries)
  rintro ⟨k', v⟩ hmem
  by_cases hk : k' = k
  · subst hk
    have hv : f v = v := h v (get?_eq_some_iff.mpr hmem)
    simp [hv]
  · simp [hk]

theorem mapValues_eq_self {m : OrderedMap α β} {f : β → β}
    (h : ∀ k v, m.get? k = some v → f v = v) : m.mapValues f = m := by
  apply eq_of_entries_eq
  refine (List.map_congr_left ?_).trans (List.map_id m.entries)
  rintro ⟨k, v⟩ hmem
  exact congrArg (Prod.mk k) (h k v (get?_eq_some_iff.mpr hmem))

/-- A view of the values that a change does not alter is the same before and after it. -/
theorem mapValues_modify {g : β → γ} {f : β → β} (h : ∀ v, g (f v) = g v) (m : OrderedMap α β)
    (k : α) : (m.modify k f).mapValues g = m.mapValues g := by
  apply eq_of_entries_eq
  simp only [mapValues, modify, List.map_map]
  apply List.map_congr_left
  rintro ⟨k', v⟩ -
  by_cases hk : k' = k <;> simp [hk, h]

/-! ## Comparison -/

theorem perm_keys_of_subset {α β : Type} {m n : OrderedMap α β} (hkeys : m.keys ⊆ n.keys)
    (hsize : m.size = n.size) : m.keys.Perm n.keys := by
  refine (List.subperm_of_subset m.nodup_keys hkeys).perm_of_length_le ?_
  simp only [keys, List.length_map]
  exact Nat.le_of_eq hsize.symm

/-- Two maps compare equal exactly if no look-up tells them apart, `view` being what the comparison
sees of a value. The order of the keys is never seen. -/
theorem beqBy_eq_true_iff {same : β → β → Bool} {view : β → γ}
    (hsame : ∀ v w, same v w = true ↔ view v = view w) {m n : OrderedMap α β} :
    beqBy same m n = true ↔ ∀ k, (m.get? k).map view = (n.get? k).map view := by
  have hentries : (m.entries.all fun e => (n.get? e.1).any (same e.2)) = true ↔
      ∀ k v, m.get? k = some v → ∃ w, n.get? k = some w ∧ view v = view w := by
    simp only [List.all_eq_true, Option.any_eq_true, hsame, get?_eq_some_iff, Prod.forall]
  rw [beqBy, Bool.and_eq_true, beq_iff_eq, hentries]
  constructor
  · rintro ⟨hsize, hvalues⟩ k
    have hsubset : m.keys ⊆ n.keys := by
      intro k hk
      obtain ⟨v, hv⟩ := mem_keys_iff.mp hk
      obtain ⟨w, hw, -⟩ := hvalues k v hv
      exact mem_keys_iff.mpr ⟨w, hw⟩
    cases hv : m.get? k with
    | some v =>
        obtain ⟨w, hw, hview⟩ := hvalues k v hv
        rw [hw, Option.map_some, Option.map_some, hview]
    | none =>
        -- As many keys on both sides, so the other map has none that is missing here.
        rw [get?_eq_none_iff, (perm_keys_of_subset hsubset hsize).mem_iff] at hv
        rw [get?_eq_none_iff.mpr hv]
  · intro hviews
    have hkeys (k : α) : k ∈ m.keys ↔ k ∈ n.keys := by
      have hisSome := congrArg Option.isSome (hviews k)
      rw [Option.isSome_map, Option.isSome_map] at hisSome
      rw [mem_keys_iff, mem_keys_iff, ← Option.isSome_iff_exists, ← Option.isSome_iff_exists,
        hisSome]
    constructor
    · have hperm := (List.perm_ext_iff_of_nodup m.nodup_keys n.nodup_keys).mpr hkeys
      simpa [keys, size] using hperm.length_eq
    · intro k v hv
      have hview := hviews k
      rw [hv, Option.map_some] at hview
      obtain ⟨w, hw, hvw⟩ := Option.map_eq_some_iff.mp hview.symm
      exact ⟨w, hw, hvw.symm⟩

theorem beq_iff_get?_eq [BEq β] [LawfulBEq β] {m n : OrderedMap α β} :
    (m == n) = true ↔ m.get? = n.get? := by
  have hsame (v w : β) : (v == w) = true ↔ id v = id w := beq_iff_eq
  refine (beqBy_eq_true_iff hsame).trans ?_
  simp only [Option.map_id, id, funext_iff]

end PropertyMacros.OrderedMap
