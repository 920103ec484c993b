/-!
Finite maps that remember the order in which their keys first came in.

`OrderedMap.insert` replaces the value of a key in place and puts a new key last. Comparison with
`==` looks at the bindings only, so two maps filled in different orders can be equal. Main
statements: `get?_insert` and `get?_modify` say what a look-up finds after a change, `keys_insert`
and `keys_modify` what happens to the order.
-/

namespace PropertyMacros

/-- Bindings in the order of first insertion, each key once. -/
structure OrderedMap (α β : Type) where
  entries : List (α × β)
  nodup_keys : (entries.map Prod.fst).Nodup

namespace OrderedMap

def empty {α β : Type} : OrderedMap α β := ⟨[], List.nodup_nil⟩

instance {α β : Type} : Inhabited (OrderedMap α β) := ⟨empty⟩

def keys {α β : Type} (m : OrderedMap α β) : List α := m.entries.map Prod.fst

def values {α β : Type} (m : OrderedMap α β) : List β := m.entries.map Prod.snd

def size {α β : Type} (m : OrderedMap α β) : Nat := m.entries.length

def mapValues {α β γ : Type} (f : β → γ) (m : OrderedMap α β) : OrderedMap α γ where
  entries := m.entries.map fun e => (e.1, f e.2)
  nodup_keys := by simpa [Function.comp_def] using m.nodup_keys

@[simp] theorem keys_empty {α β : Type} : (empty : OrderedMap α β).keys = [] := rfl

@[simp] theorem keys_mapValues {α β γ : Type} (f : β → γ) (m : OrderedMap α β) :
    (m.mapValues f).keys = m.keys := by
  simp [keys, mapValues, Function.comp_def]

variable {α β γ : Type} [DecidableEq α]

/-- The value of the first entry for `k`. -/
def findEntry (k : α) : List (α × β) → Option β
  | [] => none
  | e :: es => if e.1 = k then some e.2 else findEntry k es

/-- Binds `k` to `v` where `k` stands already, or else at the end. -/
def insertEntry (k : α) (v : β) : List (α × β) → List (α × β)
  | [] => [(k, v)]
  | e :: es => if e.1 = k then (k, v) :: es else e :: insertEntry k v es

theorem findEntry_insertEntry (k k' : α) (v : β) (es : List (α × β)) :
    findEntry k' (insertEntry k v es) = if k' = k then some v else findEntry k' es := by
  induction es with
  | nil => simp [insertEntry, findEntry, eq_comm]
  | cons e es ih =>
    by_cases h : e.1 = k
    · simp only [insertEntry, h, if_true, findEntry, eq_comm (a := k)]
      split <;> rfl
    · simp only [insertEntry, h, if_false, findEntry, ih]
      by_cases h' : e.1 = k'
      · simp [h', show ¬k' = k from h' ▸ h]
      · simp [h']

theorem map_fst_insertEntry (k : α) (v : β) (es : List (α × β)) :
    (insertEntry k v es).map Prod.fst =
      if k ∈ es.map Prod.fst then es.map Prod.fst else es.map Prod.fst ++ [k] := by
  induction es with
  | nil => simp [insertEntry]
  | cons e es ih =>
    by_cases h : e.1 = k
    · simp [insertEntry, h]
    · have h' : ¬k = e.1 := fun hk => h hk.symm
      simp only [insertEntry, h, if_false, List.map_cons, ih, List.mem_cons, h', false_or]
      split <;> simp

def get? (m : OrderedMap α β) (k : α) : Option β := findEntry k m.entries

/-- Binds `k` to `v`. A key that is present keeps its place, a new one comes last. -/
def insert (m : OrderedMap α β) (k : α) (v : β) : OrderedMap α β where
  entries := insertEntry k v m.entries
  nodup_keys := by
    rw [map_fst_insertEntry]
    split
    · exact m.nodup_keys
    · next h =>
      rw [List.nodup_append]
      refine ⟨m.nodup_keys, by simp, ?_⟩
      intro a ha b hb hab
      rw [List.mem_singleton] at hb
      exact h (hb ▸ hab ▸ ha)

/-- Inserts the pairs one after the other, so the last value of a repeated key counts. -/
def insertAll (m : OrderedMap α β) (pairs : List (α × β)) : OrderedMap α β :=
  pairs.foldl (fun acc e => acc.insert e.1 e.2) m

/-- The map that results from inserting the pairs in order. -/
def ofList (pairs : List (α × β)) : OrderedMap α β := empty.insertAll pairs

/-- Applies `f` to the value of `k`, if there is one. -/
def modify (m : OrderedMap α β) (k : α) (f : β → β) : OrderedMap α β where
  entries := m.entries.map fun e => (e.1, if e.1 = k then f e.2 else e.2)
  nodup_keys := by simpa [Function.comp_def] using m.nodup_keys

/-- Equal bindings up to `same` on the values, in whatever order. -/
def beqBy (same : β → β → Bool) (m n : OrderedMap α β) : Bool :=
  m.size == n.size && m.entries.all fun e => (n.get? e.1).any (same e.2)

instance [BEq β] : BEq (OrderedMap α β) := ⟨beqBy (· == ·)⟩

@[simp] theorem get?_empty (k : α) : (empty : OrderedMap α β).get? k = none := rfl

theorem get?_insert (m : OrderedMap α β) (k k' : α) (v : β) :
    (m.insert k v).get? k' = if k' = k then some v else m.get? k' :=
  findEntry_insertEntry k k' v m.entries

theorem keys_insert (m : OrderedMap α β) (k : α) (v : β) :
    (m.insert k v).keys = if k ∈ m.keys then m.keys else m.keys ++ [k] :=
  map_fst_insertEntry k v m.entries

theorem get?_modify (m : OrderedMap α β) (k k' : α) (f : β → β) :
    (m.modify k f).get? k' = if k' = k then (m.get? k').map f else m.get? k' := by
  simp only [get?, modify]
  induction m.entries with
  | nil => simp [findEntry]
  | cons e es ih =>
    by_cases h : e.1 = k'
    · subst h
      by_cases hk : e.1 = k <;> simp [findEntry, hk]
    · simpa [findEntry, h] using ih

@[simp] theorem keys_modify (m : OrderedMap α β) (k : α) (f : β → β) :
    (m.modify k f).keys = m.keys := by
  simp [keys, modify, Function.comp_def]

@[simp] theorem get?_mapValues (f : β → γ) (m : OrderedMap α β) (k : α) :
    (m.mapValues f).get? k = (m.get? k).map f := by
  simp only [get?, mapValues]
  induction m.entries with
  | nil => rfl
  | cons e es ih => by_cases h : e.1 = k <;> simp_all [findEntry]

end OrderedMap

end PropertyMacros
