import Mathlib.Data.List.Nodup
import PropertyMacros.Proofs.Namespace.Run

/-!
Three ways to a property: the catalog, the look-up by category and name, and the enumeration. They
agree in every namespace that a run of steps leads to, since a key is registered once and no step
moves a property or replaces its operator.
-/

namespace PropertyMacros

namespace Operator

/-- What an operator is registered under. -/
def key (op : Operator) : String × String := (op.category, op.name)

theorem key_injective : Function.Injective key :=
  fun a b h => List.inj_on_of_nodup_map nodup_keys_all (mem_all a) (mem_all b) h

/-- The categories, in the order in which the catalog comes to them. -/
def categories : List String := (all.map category).eraseDups

/-- The operators of a category, in the order of the catalog. -/
def inCategory (c : String) : List Operator := all.filter fun op => op.category = c

theorem nodup_all : all.Nodup := nodup_keys_all.of_map

theorem flatMap_inCategory_perm {cs : List String} (hnodup : cs.Nodup)
    (hcs : ∀ op : Operator, op.category ∈ cs) : (cs.flatMap inCategory).Perm all := by
  have hflat : (cs.flatMap inCategory).Nodup := by
    rw [List.nodup_flatMap]
    refine ⟨fun c _ => nodup_all.filter _, hnodup.imp ?_⟩
    intro c d hne op hc hd
    simp only [inCategory, List.mem_filter, decide_eq_true_eq] at hc hd
    exact hne (hc.2.symm.trans hd.2)
  rw [List.perm_ext_iff_of_nodup hflat nodup_all]
  intro op
  simp [inCategory, mem_all, hcs]

end Operator

namespace Namespace

/-- The names registered in a category, in order. -/
def namesIn (ns : Namespace) (c : String) : List String :=
  ((ns.groups.get? c).getD .empty).keys

theorem layout_eq (ns : Namespace) : ns.layout = ns.categories.map fun c => (c, ns.namesIn c) := by
  rw [layout, categories, OrderedMap.keys, List.map_map]
  apply List.map_congr_left
  intro group hgroup
  have hget : ns.groups.get? group.1 = some group.2 := OrderedMap.get?_eq_some_iff.mpr hgroup
  simp [namesIn, hget]

/-! ## The catalog as it is registered -/

theorem categories_register (ns : Namespace) (p : Property) :
    (ns.register p).categories =
      if p.category ∈ ns.categories then ns.categories else ns.categories ++ [p.category] :=
  OrderedMap.keys_insert ns.groups p.category _

theorem namesIn_register (ns : Namespace) (p : Property) (c : String) :
    (ns.register p).namesIn c =
      if c = p.category ∧ p.name ∉ ns.namesIn c then ns.namesIn c ++ [p.name]
      else ns.namesIn c := by
  simp only [namesIn, register, OrderedMap.get?_insert]
  by_cases hc : c = p.category
  · subst hc
    rw [if_pos rfl, Option.getD_some, OrderedMap.keys_insert]
    by_cases hname : p.name ∈ ((ns.groups.get? p.category).getD .empty).keys <;> simp [hname]
  · simp [hc]

/-- A fresh property for each of the operators. -/
def ofOperators (ops : List Operator) : Namespace :=
  ops.foldl (fun ns op => ns.register (.ofOperator op)) empty

theorem ofOperators_concat (ops : List Operator) (op : Operator) :
    ofOperators (ops ++ [op]) = (ofOperators ops).register (.ofOperator op) :=
  List.foldl_append

theorem categories_ofOperators (ops : List Operator) :
    (ofOperators ops).categories = (ops.map Operator.category).eraseDups := by
  induction ops using List.reverseRecOn with
  | nil => rfl
  | append_singleton ops op ih =>
      rw [ofOperators_concat, categories_register, ih, List.map_append, List.map_singleton,
        OrderedMap.eraseDups_concat]
      simp only [List.mem_eraseDups]
      rfl

theorem namesIn_ofOperators {ops : List Operator} (h : (ops.map Operator.key).Nodup) (c : String) :
    (ofOperators ops).namesIn c = (ops.filter fun op => op.category = c).map Operator.name := by
  induction ops using List.reverseRecOn with
  | nil => rfl
  | append_singleton ops op ih =>
      rw [List.map_append, List.nodup_append] at h
      obtain ⟨hops, -, hnew⟩ := h
      rw [ofOperators_concat, namesIn_register, ih hops, List.filter_append, List.map_append]
      by_cases hc : c = op.category
      · subst hc
        have hname :
            op.name ∉ (ops.filter fun o => o.category = op.category).map Operator.name := by
          intro hmem
          obtain ⟨o, ho, hname⟩ := List.mem_map.mp hmem
          obtain ⟨ho, hcategory⟩ := List.mem_filter.mp ho
          refine hnew o.key (List.mem_map_of_mem ho) op.key (by simp) ?_
          exact Prod.ext (of_decide_eq_true hcategory) hname
        have hlast : [op].filter (fun o => o.category = op.category) = [op] := by simp
        rw [if_pos ⟨rfl, hname⟩, hlast]
        rfl
      · rw [if_neg fun h => hc h.1]
        simp [Ne.symm hc]

theorem layout_builtin :
    builtin.layout = Operator.categories.map fun c =>
      (c, (Operator.inCategory c).map Operator.name) := by
  have hcategories : builtin.categories = Operator.categories :=
    categories_ofOperators Operator.all
  rw [layout_eq, hcategories]
  apply List.map_congr_left
  intro c _
  exact congrArg (Prod.mk c) (namesIn_ofOperators Operator.nodup_keys_all c)

/-! ## Later on -/

theorem layout_modify (ns : Namespace) (c n : String) (f : Property → Property) :
    (ns.modify c n f).layout = ns.layout := by
  simp only [layout, modify, OrderedMap.modify, List.map_map]
  apply List.map_congr_left
  intro group _
  by_cases hc : group.1 = c
  · simp only [Function.comp_apply, hc, if_true]
    exact congrArg (Prod.mk c) (OrderedMap.keys_modify group.2 n f)
  · simp [hc]

theorem layout_foldl_replaceDefault (overrides : List DefaultOverride) (ns : Namespace) :
    (overrides.foldl replaceDefault ns).layout = ns.layout := by
  induction overrides generalizing ns with
  | nil => rfl
  | cons o overrides ih => exact (ih (ns.replaceDefault o)).trans (layout_modify ns _ _ _)

theorem IsPrototype.layout_eq {ns : Namespace} (h : ns.IsPrototype) :
    ns.layout = Namespace.builtin.layout := by
  obtain ⟨overrides, rfl⟩ := h.exists_overrides
  exact layout_foldl_replaceDefault overrides Namespace.builtin

theorem propertiesIn_ne_nil_of_layout_eq {ns : Namespace} (h : ns.layout = builtin.layout)
    {c : String} (hc : c ∈ ns.categories) : ns.propertiesIn c ≠ [] := by
  have hgroup : (c, ns.namesIn c) ∈ ns.layout := by
    rw [ns.layout_eq]
    exact List.mem_map_of_mem hc
  rw [h, layout_builtin] at hgroup
  obtain ⟨d, hd, heq⟩ := List.mem_map.mp hgroup
  obtain ⟨rfl, hnames⟩ := Prod.mk.inj heq
  rw [Operator.categories, List.mem_eraseDups] at hd
  obtain ⟨op, hop, hcategory⟩ := List.mem_map.mp hd
  have hmem : op ∈ Operator.inCategory d := List.mem_filter.mpr ⟨hop, decide_eq_true hcategory⟩
  -- The names and the properties of a category are two sides of the same entries.
  intro hnil
  have hentries := List.map_eq_nil_iff.mp hnil
  rw [namesIn, OrderedMap.keys, hentries, List.map_nil] at hnames
  exact List.ne_nil_of_mem hmem (List.map_eq_nil_iff.mp hnames)

theorem IsPrototype.propertiesIn_ne_nil {ns : Namespace} (h : ns.IsPrototype) {c : String}
    (hc : c ∈ ns.categories) : ns.propertiesIn c ≠ [] :=
  propertiesIn_ne_nil_of_layout_eq h.layout_eq hc

theorem properties_eq_flatMap (ns : Namespace) :
    ns.properties = ns.categories.flatMap ns.propertiesIn := by
  rw [properties, categories, OrderedMap.values, OrderedMap.keys, List.flatMap_map,
    List.flatMap_map]
  apply List.flatMap_congr
  intro group hgroup
  have hget : ns.groups.get? group.1 = some group.2 := OrderedMap.get?_eq_some_iff.mpr hgroup
  rw [propertiesIn, hget, Option.getD_some]

/-- Properties are enumerated in the order of their keys. -/
theorem HasCatalog.map_key_properties {ns : Namespace} (h : ns.HasCatalog) :
    (ns.properties.map fun p => p.operator.key) =
      ns.layout.flatMap fun group => group.2.map (Prod.mk group.1) := by
  rw [properties, layout, List.map_flatMap, OrderedMap.values, List.flatMap_map, List.flatMap_map]
  apply List.flatMap_congr
  intro group hgroup
  rw [OrderedMap.values, OrderedMap.keys, List.map_map, List.map_map]
  apply List.map_congr_left
  intro e he
  have hp : ns.property? group.1 e.1 = some e.2 := by
    rw [property?, OrderedMap.get?_eq_some_iff.mpr hgroup]
    exact OrderedMap.get?_eq_some_iff.mpr he
  exact Prod.ext (h.key_eq hp).1 (h.key_eq hp).2

theorem HasCatalog.map_operator_properties {ns : Namespace} (h : ns.HasCatalog)
    (hlayout : ns.layout = builtin.layout) :
    ns.properties.map Property.operator = Operator.categories.flatMap Operator.inCategory := by
  apply List.map_injective_iff.mpr Operator.key_injective
  calc (ns.properties.map Property.operator).map Operator.key
    _ = Operator.categories.flatMap fun c =>
          ((Operator.inCategory c).map Operator.name).map (Prod.mk c) := by
        rw [List.map_map]
        refine h.map_key_properties.trans ?_
        rw [hlayout, layout_builtin, List.flatMap_map]
    _ = Operator.categories.flatMap fun c => (Operator.inCategory c).map Operator.key := by
        apply List.flatMap_congr
        intro c _
        rw [List.map_map]
        apply List.map_congr_left
        intro op hop
        have hcategory : op.category = c := of_decide_eq_true (List.mem_filter.mp hop).2
        exact congrArg (·, op.name) hcategory.symm
    _ = (Operator.categories.flatMap Operator.inCategory).map Operator.key :=
        List.map_flatMap.symm

theorem size_eq_length_properties (ns : Namespace) : ns.size = ns.properties.length := by
  rw [size, properties, List.length_flatMap, List.sum_eq_foldl_nat]
  congr 2
  funext group
  exact (List.length_map Prod.snd).symm

/-- The namespace holds one property for each operator of the catalog, under the key of the operator
and in the order of the catalog. -/
structure IsRegistry (ns : Namespace) : Prop where
  key_eq : ∀ c n p, ns.property? c n = some p → p.category = c ∧ p.name = n
  property_eq_ok : ∀ c n op, Operator.find? c n = some op →
    ∃ p, ns.property c n = .ok p ∧ p.operator = op ∧
      ∀ f, ns.update c n f = .ok (ns.modify c n f) ∧
        (ns.modify c n f).property? c n = some (f p)
  property_eq_error : ∀ c n, Operator.find? c n = none →
    ns.property c n = .error (.propertyNotFound c n) ∧
      ∀ f, ns.update c n f = .error (.propertyNotFound c n)
  categories_eq : ns.categories = Operator.categories
  operators_eq : ns.properties.map Property.operator =
    Operator.categories.flatMap Operator.inCategory
  operators_perm : (ns.properties.map Property.operator).Perm Operator.all
  size_eq : ns.size = Operator.all.length

theorem isRegistry_run {proto : Namespace} (h : proto.IsPrototype) (steps : List Step) :
    (proto.run steps).IsRegistry := by
  have hcatalog : (proto.run steps).HasCatalog := h.hasCatalog.run steps
  have hlayout : (proto.run steps).layout = builtin.layout :=
    (layout_run proto steps).trans h.layout_eq
  have hcategories : (proto.run steps).categories = Operator.categories := by
    have hkeys := congrArg (List.map Prod.fst) hlayout
    rw [layout_builtin, layout, List.map_map, List.map_map] at hkeys
    exact hkeys.trans (List.map_id _)
  have hoperators := hcatalog.map_operator_properties hlayout
  have hperm : ((proto.run steps).properties.map Property.operator).Perm Operator.all := by
    rw [hoperators, ← hcategories]
    refine Operator.flatMap_inCategory_perm (proto.run steps).groups.nodup_keys ?_
    intro op
    rw [hcategories, Operator.categories, List.mem_eraseDups]
    exact List.mem_map_of_mem op.mem_all
  refine ⟨fun c n p => hcatalog.key_eq, ?_, ?_, hcategories, hoperators, hperm, ?_⟩
  · intro c n op hop
    obtain ⟨p, hp, hoperator⟩ := hcatalog.exists_property hop
    refine ⟨p, by rw [property, hp], hoperator, fun f => ⟨by rw [update_eq, hp], ?_⟩⟩
    rw [property?_modify, if_pos ⟨rfl, rfl⟩, hp]
    rfl
  · intro c n hop
    have hp := hcatalog.property?_eq_none.mpr hop
    exact ⟨by rw [property, hp], fun f => by rw [update_eq, hp]⟩
  · rw [size_eq_length_properties, ← hperm.length_eq, List.length_map]

theorem isRegistry_run_mixedSteps :
    ∃ proto, withDefaults [⟨"Misc", "count", "sep", ";"⟩] = .ok proto ∧
      (proto.run mixedSteps).IsRegistry := by
  have hbuilt : withDefaults [⟨"Misc", "count", "sep", ";"⟩] =
      .ok (builtin.modify "Misc" "count" (·.setDefault "sep" ";")) := rfl
  exact ⟨_, hbuilt, isRegistry_run (.withDefaults hbuilt) mixedSteps⟩

end Namespace

end PropertyMacros
