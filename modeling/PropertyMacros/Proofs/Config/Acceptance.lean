import PropertyMacros.Proofs.Config.Overrides

/-!
Which configurations a prototype can be built from. Attributes are looked for one by one, so a table
without any is never held against the property that its key names.
-/

namespace PropertyMacros.Config

/-- The key names a property of the built-in namespace. -/
def NamesProperty (key : String) (p : Property) : Prop :=
  ∃ category name, KeyNames key category name ∧
    Namespace.builtin.property? category name = some p

/-- The key names no property of the built-in namespace, though it is well-formed. -/
def NamesNothing (key : String) : Prop :=
  ∃ category name, KeyNames key category name ∧
    Namespace.builtin.property? category name = none

/-- The key names a property, and the table holds nothing but attributes of it. -/
def TableFits (e : String × OrderedMap String String) : Prop :=
  ∃ p, NamesProperty e.1 p ∧ ∀ attr ∈ e.2.keys, attr ∈ p.schema.names

/-- A table that escapes the look-up of its property, because it holds no attribute. -/
def TableEscapes (e : String × OrderedMap String String) : Prop :=
  NamesNothing e.1 ∧ e.2.keys = []

theorem KeyNames.unique {key c n category name : String} (h : KeyNames key c n)
    (h' : KeyNames key category name) : c = category ∧ n = name := by
  have heq := (splitKey?_eq_some_iff.mpr h).symm.trans (splitKey?_eq_some_iff.mpr h')
  exact Prod.ext_iff.mp (Option.some.inj heq)

theorem not_tableFits_of_tableEscapes {e : String × OrderedMap String String}
    (h : TableEscapes e) : ¬TableFits e := by
  rintro ⟨p, ⟨category, name, hkey, hp⟩, -⟩
  obtain ⟨⟨c, n, hkey', hnone⟩, -⟩ := h
  obtain ⟨rfl, rfl⟩ := hkey.unique hkey'
  rw [hnone] at hp
  cases hp

theorem forall_mem_overridesOf_iff {e : String × OrderedMap String String} {category name : String}
    (hkey : KeyNames e.1 category name) {P : DefaultOverride → Prop} :
    (∀ o ∈ overridesOf e, P o) ↔ ∀ a ∈ e.2.entries, P ⟨category, name, a.1, a.2⟩ := by
  rw [overridesOf_of_keyNames hkey, List.forall_mem_map]

/-- A table passes both looks, the one at its key and the one at its attributes. -/
theorem table_passes_iff {e : String × OrderedMap String String} :
    keyFault? e.1 = none ∧ (∀ o ∈ overridesOf e, o.fault? = none) ↔
      TableFits e ∨ TableEscapes e := by
  rw [keyFault?_eq_none_iff]
  constructor
  · rintro ⟨⟨category, name, hkey⟩, hfaults⟩
    simp only [forall_mem_overridesOf_iff hkey, DefaultOverride.fault?_eq_none_iff] at hfaults
    cases hp : Namespace.builtin.property? category name with
    | none =>
        refine .inr ⟨⟨category, name, hkey, hp⟩, ?_⟩
        rw [OrderedMap.keys, List.map_eq_nil_iff, List.eq_nil_iff_forall_not_mem]
        intro a ha
        obtain ⟨p, hp', -⟩ := hfaults a ha
        rw [hp] at hp'
        cases hp'
    | some p =>
        refine .inl ⟨p, ⟨category, name, hkey, hp⟩, ?_⟩
        intro attr hattr
        obtain ⟨a, ha, rfl⟩ := List.mem_map.mp hattr
        obtain ⟨p', hp', hmem⟩ := hfaults a ha
        rw [hp] at hp'
        cases hp'
        exact hmem
  · rintro (⟨p, ⟨category, name, hkey, hp⟩, hattrs⟩ | ⟨⟨category, name, hkey, -⟩, hempty⟩)
    · refine ⟨⟨category, name, hkey⟩, ?_⟩
      simp only [forall_mem_overridesOf_iff hkey, DefaultOverride.fault?_eq_none_iff]
      intro a ha
      exact ⟨p, hp, hattrs a.1 (List.mem_map_of_mem ha)⟩
    · refine ⟨⟨category, name, hkey⟩, ?_⟩
      rw [forall_mem_overridesOf_iff hkey, List.map_eq_nil_iff.mp hempty]
      exact List.forall_mem_nil _

theorem fault?_eq_none_iff {config : Config} :
    config.fault? = none ↔
      ∀ e ∈ config.defaults.entries, TableFits e ∨ TableEscapes e := by
  simp only [fault?, Option.or_eq_none_iff, List.findSome?_eq_none_iff, overrides,
    List.mem_flatMap, ← table_passes_iff]
  constructor
  · rintro ⟨hkeys, hoverrides⟩ e he
    exact ⟨hkeys e he, fun o ho => hoverrides o ⟨e, he, ho⟩⟩
  · intro h
    refine ⟨fun e he => (h e he).1, ?_⟩
    rintro o ⟨e, he, ho⟩
    exact (h e he).2 o ho

/-- A prototype is built exactly if every table fits or escapes. So the demand that every table fit
is decided rightly unless, among tables that all pass, one escapes. -/
theorem buildNamespace_accepts_iff (config : Config) :
    ((∃ ns, config.buildNamespace = .ok ns) ↔
      ∀ e ∈ config.defaults.entries, TableFits e ∨ TableEscapes e) ∧
    (((∃ ns, config.buildNamespace = .ok ns) ↔ ∀ e ∈ config.defaults.entries, TableFits e) ↔
      ¬((∀ e ∈ config.defaults.entries, TableFits e ∨ TableEscapes e) ∧
        ∃ e ∈ config.defaults.entries, TableEscapes e)) := by
  have haccepts : (∃ ns, config.buildNamespace = .ok ns) ↔
      ∀ e ∈ config.defaults.entries, TableFits e ∨ TableEscapes e := by
    simp only [buildNamespace_eq_ok_iff, fault?_eq_none_iff, exists_and_left, exists_eq, and_true]
  refine ⟨haccepts, ?_⟩
  rw [haccepts]
  constructor
  · rintro hiff ⟨hpass, e, he, hescapes⟩
    exact not_tableFits_of_tableEscapes hescapes (hiff.mp hpass e he)
  · intro hnone
    refine ⟨fun hpass e he => (hpass e he).resolve_right ?_, fun hfits e he => .inl (hfits e he)⟩
    intro hescapes
    exact hnone ⟨hpass, e, he, hescapes⟩

/-- One table without attributes, whose key names no property. -/
def escaping : Config where
  general := .default
  defaults := .ofList [("Misc.pow", .empty)]

theorem escaping_accepted_unfit :
    ¬((∃ ns, escaping.buildNamespace = .ok ns) ↔
      ∀ e ∈ escaping.defaults.entries, TableFits e) := by
  have hkey : KeyNames "Misc.pow" "Misc" "pow" := ⟨by decide, by decide, by decide, by decide⟩
  have hnone : Namespace.builtin.property? "Misc" "pow" = none := by
    rw [Namespace.property?_builtin]
    decide
  have hescapes : TableEscapes ("Misc.pow", .empty) := ⟨⟨_, _, hkey, hnone⟩, rfl⟩
  have hentries : escaping.defaults.entries = [("Misc.pow", .empty)] := rfl
  intro hiff
  have hok : ∃ ns, escaping.buildNamespace = .ok ns := by
    refine ⟨_, buildNamespace_eq_ok_iff.mpr ⟨fault?_eq_none_iff.mpr ?_, rfl⟩⟩
    rw [hentries]
    exact List.forall_mem_singleton.mpr (.inr hescapes)
  have hfits := hiff.mp hok
  rw [hentries] at hfits
  exact not_tableFits_of_tableEscapes hescapes (List.forall_mem_singleton.mp hfits)

end PropertyMacros.Config
