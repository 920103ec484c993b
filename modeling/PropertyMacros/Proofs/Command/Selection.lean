import PropertyMacros.Proofs.Command.ListingText

/-!
Listings of one category. They are found by the key of the category and not by looking through all
entries, which comes to the same, since a property stands in the group of its own category.
-/

namespace PropertyMacros

/-- Of groups with distinct keys the one with a given key is left. -/
theorem flatMap_ite_eq {α β : Type} [DecidableEq α] {keys : List α} (h : keys.Nodup)
    (group : α → List β) (k : α) :
    (keys.flatMap fun key => if key = k then group key else []) =
      if k ∈ keys then group k else [] := by
  induction keys with
  | nil => rfl
  | cons key keys ih =>
      rw [List.nodup_cons] at h
      rw [List.flatMap_cons, ih h.2]
      by_cases hkey : key = k
      · subst hkey
        simp [h.1]
      · simp [hkey, Ne.symm hkey]

namespace Namespace

theorem propertiesIn_of_notMem {ns : Namespace} {c : String} (h : c ∉ ns.categories) :
    ns.propertiesIn c = [] := by
  rw [propertiesIn, OrderedMap.get?_eq_none_iff.mpr h]
  rfl

/-- A category is the same as what has this category. -/
theorem HasCatalog.filter_properties {ns : Namespace} (h : ns.HasCatalog) (c : String) :
    (ns.properties.filter fun p => p.category = c) = ns.propertiesIn c := by
  have hgroup (d : String) : ((ns.propertiesIn d).filter fun p => p.category = c) =
      if d = c then ns.propertiesIn d else [] := by
    have hcategory : ∀ p ∈ ns.propertiesIn d, p.category = d :=
      fun p hp => h.category_of_mem_propertiesIn hp
    split
    · next hd =>
      exact List.filter_eq_self.mpr fun p hp => decide_eq_true ((hcategory p hp).trans hd)
    · next hd =>
      refine List.filter_eq_nil_iff.mpr fun p hp hc => hd ?_
      exact (hcategory p hp).symm.trans (of_decide_eq_true hc)
  have hnodup : ns.categories.Nodup := ns.groups.nodup_keys
  rw [properties_eq_flatMap, List.filter_flatMap]
  simp only [hgroup]
  rw [flatMap_ite_eq hnodup]
  split
  · rfl
  · next hc => exact (propertiesIn_of_notMem hc).symm

end Namespace

/-- The listings of single categories are the parts of the listing `infos` of everything. -/
structure ListCommand.Divides (ns : Namespace) (json : Bool) (infos : List PropertyInfo) :
    Prop where
  unfiltered : (⟨none, json⟩ : ListCommand).collect ns = .ok infos
  filtered : ∀ c selected, (⟨some c, json⟩ : ListCommand).collect ns = .ok selected ↔
    (∃ info ∈ infos, info.category = c) ∧ selected = infos.filter fun info => info.category = c
  unknown : ∀ c error, (⟨some c, json⟩ : ListCommand).collect ns = .error error ↔
    (∀ info ∈ infos, info.category ≠ c) ∧ error = .unknownCategory c
  execute_eq_error_iff : ∀ category? theme error,
    (⟨category?, json⟩ : ListCommand).execute ⟨ns, theme⟩ = .error error ↔
      (⟨category?, json⟩ : ListCommand).collect ns = .error error
  concatenated : ∃ listings,
    List.Forall₂ (fun c listing => (⟨some c, json⟩ : ListCommand).collect ns = .ok listing)
      ns.categories listings ∧
    listings.flatten = infos

namespace ListCommand

theorem collect_some_eq_error_iff {c : String} {json : Bool} {ns : Namespace}
    {error : CommandError} :
    (⟨some c, json⟩ : ListCommand).collect ns = .error error ↔
      ns.propertiesIn c = [] ∧ error = .unknownCategory c := by
  unfold collect
  split
  · next heq => cases heq
  · next category heq =>
    cases heq
    split
    · next hnil => simp [hnil, eq_comm]
    · next hne => exact ⟨nofun, fun h => absurd h.1 hne⟩

theorem collect_some_eq_ok_iff {c : String} {json : Bool} {ns : Namespace}
    {infos : List PropertyInfo} :
    (⟨some c, json⟩ : ListCommand).collect ns = .ok infos ↔
      ns.propertiesIn c ≠ [] ∧ infos = (ns.propertiesIn c).map .ofProperty := by
  rw [collect_eq_ok_iff]
  simp only [Option.some.injEq, forall_eq', listed, groups, List.flatMap_singleton]

theorem divides_of_hasCatalog {ns : Namespace} (h : ns.HasCatalog)
    (hne : ∀ c ∈ ns.categories, ns.propertiesIn c ≠ []) (json : Bool) :
    Divides ns json (ns.properties.map .ofProperty) := by
  have hfilter (c : String) : ((ns.properties.map PropertyInfo.ofProperty).filter fun info =>
      info.category = c) = (ns.propertiesIn c).map .ofProperty := by
    rw [← h.filter_properties, List.filter_map]
    rfl
  have hnone (c : String) :
      (∀ info ∈ ns.properties.map PropertyInfo.ofProperty, info.category ≠ c) ↔
        ns.propertiesIn c = [] := by
    rw [← List.map_eq_nil_iff (f := PropertyInfo.ofProperty), ← hfilter, List.filter_eq_nil_iff]
    simp only [decide_eq_true_eq, ne_eq]
  have hsome (c : String) :
      (∃ info ∈ ns.properties.map PropertyInfo.ofProperty, info.category = c) ↔
        ns.propertiesIn c ≠ [] := by
    rw [ne_eq, ← hnone]
    simp only [ne_eq, Classical.not_forall, Classical.not_not, exists_prop]
  constructor
  case unfiltered => rfl
  case filtered =>
    intro c selected
    rw [collect_some_eq_ok_iff, hsome, hfilter]
  case unknown =>
    intro c error
    rw [collect_some_eq_error_iff, hnone]
  case execute_eq_error_iff => exact fun _ _ _ => execute_eq_error_iff
  case concatenated =>
    refine ⟨ns.categories.map fun c => (ns.propertiesIn c).map .ofProperty, ?_, ?_⟩
    · rw [List.forall₂_map_right_iff, List.forall₂_same]
      exact fun c hc => collect_some_eq_ok_iff.mpr ⟨hne c hc, rfl⟩
    · rw [Namespace.properties_eq_flatMap, List.map_flatMap, List.flatMap_def]

/-- Whatever has become of a prototype, the listing of a category holds the entries of this category
in their order, it fails exactly if there is none, and the listings of all categories make up the
listing of everything. -/
theorem exists_divides_run {proto : Namespace} (h : proto.IsPrototype)
    (steps : List Namespace.Step) (json : Bool) :
    ∃ infos, Divides (proto.run steps) json infos := by
  have hcatalog : (proto.run steps).HasCatalog := h.hasCatalog.run steps
  have hlayout : (proto.run steps).layout = Namespace.builtin.layout :=
    (Namespace.layout_run proto steps).trans h.layout_eq
  exact ⟨_, divides_of_hasCatalog hcatalog
    (fun _ => Namespace.propertiesIn_ne_nil_of_layout_eq hlayout) json⟩

/-- Of a configured namespace in which properties were set and reset, one category, and one in
another case. -/
theorem exists_divides_run_mixedSteps :
    let config : Config := ⟨.default, .ofList [("Misc.count", .ofList [("sep", ";")])]⟩
    let proto := Namespace.builtin.modify "Misc" "count" (·.setDefault "sep" ";")
    let ns := proto.run Namespace.mixedSteps
    config.buildNamespace = .ok proto ∧
      ∃ infos, Divides ns true infos ∧
        (∃ selected, (⟨some "System", true⟩ : ListCommand).collect ns = .ok selected ∧
          selected.map PropertyInfo.name =
            ["path.separator", "file.separator", "line.separator", "os.name", "os.arch"]) ∧
        (⟨some "system", true⟩ : ListCommand).collect ns = .error (.unknownCategory "system") := by
  intro config proto ns
  have hbuilt : config.buildNamespace = .ok proto := rfl
  obtain ⟨infos, h⟩ := exists_divides_run (.configured hbuilt) Namespace.mixedSteps true
  obtain rfl : ns.properties.map PropertyInfo.ofProperty = infos := Except.ok.inj h.unfiltered
  refine ⟨hbuilt, _, h, ⟨_, (h.filtered "System" _).mpr ⟨?_, rfl⟩, ?_⟩,
    (h.unknown "system" _).mpr ⟨?_, rfl⟩⟩
  · decide
  · decide
  · decide

end ListCommand

end PropertyMacros
