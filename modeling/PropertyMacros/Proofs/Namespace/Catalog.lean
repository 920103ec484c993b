import PropertyMacros.Namespace.Basic
import PropertyMacros.Proofs.OrderedMap

/-!
The built-in namespace holds one property for each operator of the catalog, and no later change of a
property takes its operator away.
-/

namespace PropertyMacros.Namespace

theorem property?_register (ns : Namespace) (p : Property) (c n : String) :
    (ns.register p).property? c n =
      if c = p.category ∧ n = p.name then some p else ns.property? c n := by
  simp only [property?, register, OrderedMap.get?_insert]
  by_cases hc : c = p.category
  · subst hc
    rw [if_pos rfl, Option.bind_some, OrderedMap.get?_insert]
    cases ns.groups.get? p.category <;> simp
  · simp [hc]

theorem property?_foldl_register {ops : List Operator}
    (h : (ops.map fun op => (op.category, op.name)).Nodup) (ns : Namespace) (c n : String) :
    (ops.foldl (fun ns op => ns.register (.ofOperator op)) ns).property? c n =
      ((ops.find? fun op => op.category == c && op.name == n).map Property.ofOperator).or
        (ns.property? c n) := by
  induction ops generalizing ns with
  | nil => rfl
  | cons op ops ih =>
      rw [List.map_cons, List.nodup_cons] at h
      rw [List.foldl_cons, ih h.2, property?_register, List.find?_cons]
      change Option.or _ (if c = op.category ∧ n = op.name then _ else _) = _
      by_cases hkey : c = op.category ∧ n = op.name
      · obtain ⟨rfl, rfl⟩ := hkey
        -- No later operator has the key, so the one that has just been registered is found.
        have hnone : ops.find? (fun op' => op'.category == op.category && op'.name == op.name) =
            none := by
          rw [List.find?_eq_none]
          intro op' hmem heq
          rw [Bool.and_eq_true, beq_iff_eq, beq_iff_eq] at heq
          exact h.1 (List.mem_map.mpr ⟨op', hmem, by rw [heq.1, heq.2]⟩)
        rw [hnone]
        simp
      · have hop : (op.category == c && op.name == n) = false := by
          rw [Bool.eq_false_iff]
          intro heq
          rw [Bool.and_eq_true, beq_iff_eq, beq_iff_eq] at heq
          exact hkey ⟨heq.1.symm, heq.2.symm⟩
        rw [hop, if_neg hkey]

theorem property?_builtin (c n : String) :
    builtin.property? c n = (Operator.find? c n).map Property.ofOperator := by
  rw [builtin, property?_foldl_register Operator.nodup_keys_all, Operator.find?]
  exact Option.or_none

/-- The registered properties are those of the catalog, whatever their attributes. -/
def HasCatalog (ns : Namespace) : Prop :=
  ∀ c n, (ns.property? c n).map Property.operator = Operator.find? c n

theorem hasCatalog_builtin : builtin.HasCatalog := by
  intro c n
  rw [property?_builtin, Option.map_map]
  exact Option.map_id_apply

theorem HasCatalog.modify {ns : Namespace} (h : ns.HasCatalog) (category name : String)
    {f : Property → Property} (hf : ∀ p, (f p).operator = p.operator) :
    (ns.modify category name f).HasCatalog := by
  intro c n
  rw [property?_modify, ← h c n]
  split
  · rw [Option.map_map]
    congr 1
    funext p
    exact hf p
  · rfl

theorem HasCatalog.property?_eq_none {ns : Namespace} (h : ns.HasCatalog) {c n : String} :
    ns.property? c n = none ↔ Operator.find? c n = none := by
  rw [← h c n, Option.map_eq_none_iff]

theorem HasCatalog.exists_property {ns : Namespace} (h : ns.HasCatalog) {c n : String}
    {op : Operator} (hop : Operator.find? c n = some op) :
    ∃ p, ns.property? c n = some p ∧ p.operator = op := by
  rw [← h c n, Option.map_eq_some_iff] at hop
  exact hop

/-- A property stands under the key of its operator. -/
theorem HasCatalog.key_eq {ns : Namespace} (h : ns.HasCatalog) {c n : String} {p : Property}
    (hp : ns.property? c n = some p) : p.category = c ∧ p.name = n := by
  have hfind := h c n
  rw [hp, Option.map_some] at hfind
  have hkey := List.find?_some hfind.symm
  rw [Bool.and_eq_true, beq_iff_eq, beq_iff_eq] at hkey
  exact hkey

theorem mem_propertiesIn_iff {ns : Namespace} {c : String} {p : Property} :
    p ∈ ns.propertiesIn c ↔ ∃ n, ns.property? c n = some p := by
  simp only [propertiesIn, property?, OrderedMap.mem_values_iff]
  cases ns.groups.get? c with
  | none => simp
  | some group => rfl

theorem HasCatalog.category_of_mem_propertiesIn {ns : Namespace} (h : ns.HasCatalog) {c : String}
    {p : Property} (hp : p ∈ ns.propertiesIn c) : p.category = c := by
  obtain ⟨n, hp⟩ := mem_propertiesIn_iff.mp hp
  exact (h.key_eq hp).1

theorem mem_properties_iff {ns : Namespace} {p : Property} :
    p ∈ ns.properties ↔ ∃ c n, ns.property? c n = some p := by
  simp only [properties, property?, List.mem_flatMap, OrderedMap.mem_values_iff,
    Option.bind_eq_some_iff]
  constructor
  · rintro ⟨group, ⟨c, hgroup⟩, n, hp⟩
    exact ⟨c, n, group, hgroup, hp⟩
  · rintro ⟨c, n, group, hgroup, hp⟩
    exact ⟨group, ⟨c, hgroup⟩, n, hp⟩

end PropertyMacros.Namespace
