import PropertyMacros.Namespace.Prototype
import PropertyMacros.Proofs.Attributes
import PropertyMacros.Proofs.Namespace.Catalog

/-!
Building a prototype. Each override is judged by the catalog alone, and the first one at fault
decides; without a fault the defaults are replaced one after the other.
-/

namespace PropertyMacros

theorem DefaultOverride.fault?_eq_none_iff {o : DefaultOverride} :
    o.fault? = none ↔
      ∃ p, Namespace.builtin.property? o.category o.name = some p ∧ o.attr ∈ p.schema.names := by
  unfold fault?
  rw [Namespace.property?_builtin]
  cases Operator.find? o.category o.name with
  | none => simp
  | some op =>
      simp only [ite_eq_left_iff, reduceCtorEq, imp_false, not_not, Option.map_some,
        Option.some.injEq, exists_eq_left']
      rfl

/-- The attributes and values of the overrides of one property, in order. -/
def DefaultOverride.pairsFor (c n : String) (overrides : List DefaultOverride) :
    List (String × String) :=
  (overrides.filter fun o => o.category = c ∧ o.name = n).map fun o => (o.attr, o.value)

theorem DefaultOverride.pairsFor_cons (c n : String) (o : DefaultOverride)
    (overrides : List DefaultOverride) :
    pairsFor c n (o :: overrides) =
      if c = o.category ∧ n = o.name then (o.attr, o.value) :: pairsFor c n overrides
      else pairsFor c n overrides := by
  rw [pairsFor, List.filter_cons]
  by_cases h : c = o.category ∧ n = o.name
  · rw [if_pos h, if_pos (decide_eq_true ⟨h.1.symm, h.2.symm⟩)]
    rfl
  · have h' : ¬(o.category = c ∧ o.name = n) := fun hkey => h ⟨hkey.1.symm, hkey.2.symm⟩
    rw [if_neg h, if_neg (by simpa using h')]
    rfl

theorem DefaultOverride.pairsFor_append (c n : String) (xs ys : List DefaultOverride) :
    pairsFor c n (xs ++ ys) = pairsFor c n xs ++ pairsFor c n ys := by
  simp only [pairsFor, List.filter_append, List.map_append]

namespace Namespace

/-- The namespace after an override that is not at fault. -/
def replaceDefault (ns : Namespace) (o : DefaultOverride) : Namespace :=
  ns.modify o.category o.name (·.setDefault o.attr o.value)

theorem HasCatalog.replaceDefault {ns : Namespace} (h : ns.HasCatalog) (o : DefaultOverride) :
    (ns.replaceDefault o).HasCatalog :=
  h.modify o.category o.name fun _ => rfl

theorem HasCatalog.foldl_replaceDefault {ns : Namespace} (h : ns.HasCatalog)
    (overrides : List DefaultOverride) :
    (overrides.foldl Namespace.replaceDefault ns).HasCatalog := by
  induction overrides generalizing ns with
  | nil => exact h
  | cons o overrides ih => exact ih (h.replaceDefault o)

theorem applyDefault_eq {ns : Namespace} (h : ns.HasCatalog) (o : DefaultOverride) :
    ns.applyDefault o =
      match o.fault? with
      | none => .ok (ns.replaceDefault o)
      | some error => .error error := by
  unfold applyDefault DefaultOverride.fault?
  cases hop : Operator.find? o.category o.name with
  | none =>
      rw [property, h.property?_eq_none.mpr hop]
      rfl
  | some op =>
      obtain ⟨p, hp, rfl⟩ := h.exists_property hop
      rw [property, hp]
      change (if o.attr ∈ p.operator.schema.names then _ else _) = _
      by_cases hattr : o.attr ∈ p.operator.schema.names
      · simp only [if_pos hattr]
        rfl
      · simp only [if_neg hattr]
        rfl

theorem applyDefaults_eq {ns : Namespace} (h : ns.HasCatalog) (overrides : List DefaultOverride) :
    ns.applyDefaults overrides =
      match overrides.findSome? DefaultOverride.fault? with
      | none => .ok (overrides.foldl replaceDefault ns)
      | some error => .error error := by
  induction overrides generalizing ns with
  | nil => rfl
  | cons o overrides ih =>
      have hstep : ns.applyDefaults (o :: overrides) =
          (ns.applyDefault o).bind (·.applyDefaults overrides) := rfl
      rw [hstep, applyDefault_eq h, List.findSome?_cons]
      cases o.fault? with
      | none => exact ih (h.replaceDefault o)
      | some error => rfl

theorem withDefaults_eq (overrides : List DefaultOverride) :
    withDefaults overrides =
      match overrides.findSome? DefaultOverride.fault? with
      | none => .ok (overrides.foldl replaceDefault builtin)
      | some error => .error error :=
  applyDefaults_eq hasCatalog_builtin overrides

/-- Of the overrides only those of a property have an effect on it. -/
theorem property?_foldl_replaceDefault (overrides : List DefaultOverride) (ns : Namespace)
    (c n : String) :
    (overrides.foldl replaceDefault ns).property? c n =
      (ns.property? c n).map fun p =>
        p.updateAttributes (·.setDefaults (DefaultOverride.pairsFor c n overrides)) := by
  induction overrides generalizing ns with
  | nil => exact Option.map_id_apply.symm
  | cons o overrides ih =>
      rw [List.foldl_cons, ih, replaceDefault, property?_modify, DefaultOverride.pairsFor_cons]
      by_cases hkey : c = o.category ∧ n = o.name
      · rw [if_pos hkey, if_pos hkey, Option.map_map]
        rfl
      · rw [if_neg hkey, if_neg hkey]

end Namespace

end PropertyMacros
