import PropertyMacros.Config.Basic
import PropertyMacros.Proofs.Namespace.Prototype

/-!
What the tables of defaults stand for. A table whose key names no category and property is a fault
whatever it holds. The other tables are laid out as overrides in the order of the document, and the
prototype is built from those.
-/

namespace PropertyMacros.Config

/-- Up to its first point the key is the category, behind it the name. -/
structure KeyNames (key category name : String) : Prop where
  eq_append : key = category ++ "." ++ name
  no_point : '.' ∉ category.toList
  category_ne : category ≠ ""
  name_ne : name ≠ ""

instance (key category name : String) : Decidable (KeyNames key category name) :=
  decidable_of_iff
    (key = category ++ "." ++ name ∧ '.' ∉ category.toList ∧ category ≠ "" ∧ name ≠ "")
    ⟨fun ⟨heq, hpoint, hcategory, hname⟩ => ⟨heq, hpoint, hcategory, hname⟩,
      fun ⟨heq, hpoint, hcategory, hname⟩ => ⟨heq, hpoint, hcategory, hname⟩⟩

theorem splitKey?_eq_some_iff {key category name : String} :
    splitKey? key = some (category, name) ↔ KeyNames key category name := by
  unfold splitKey?
  constructor
  · intro h
    obtain ⟨⟨before, after⟩, hsplit, hparts⟩ := Option.bind_eq_some_iff.mp h
    obtain ⟨heq, hpoint⟩ := Text.splitFirst?_eq_some_iff.mp hsplit
    simp only [Option.ite_none_left_eq_some, Bool.or_eq_true, List.isEmpty_iff, not_or,
      Option.some.injEq, Prod.mk.injEq] at hparts
    obtain ⟨⟨hbefore, hafter⟩, rfl, rfl⟩ := hparts
    refine ⟨?_, ?_, ?_, ?_⟩
    · rw [← String.toList_inj]
      simpa using heq
    · simpa using hpoint
    · simpa [← String.toList_inj] using hbefore
    · simpa [← String.toList_inj] using hafter
  · rintro ⟨rfl, hpoint, hcategory, hname⟩
    have hsplit : Text.splitFirst? '.' (category ++ "." ++ name).toList =
        some (category.toList, name.toList) := by
      rw [String.toList_append, String.toList_append, List.append_assoc]
      exact Text.splitFirst?_append hpoint name.toList
    rw [hsplit]
    simp [hcategory, hname]

/-- The fault of a key on its own. -/
def keyFault? (key : String) : Option Error :=
  if (splitKey? key).isNone then some (.config (.malformedKey key)) else none

theorem keyFault?_eq_none_iff {key : String} :
    keyFault? key = none ↔ ∃ category name, KeyNames key category name := by
  unfold keyFault?
  cases h : splitKey? key with
  | none =>
      simp only [Option.isNone_none, if_true, reduceCtorEq, false_iff]
      rintro ⟨category, name, hkey⟩
      rw [splitKey?_eq_some_iff.mpr hkey] at h
      cases h
  | some parts =>
      simp only [Option.isNone_some, Bool.false_eq_true, if_false, true_iff]
      exact ⟨parts.1, parts.2, splitKey?_eq_some_iff.mp h⟩

/-- The overrides in a table, none if the key is malformed. -/
def overridesOf (e : String × OrderedMap String String) : List DefaultOverride :=
  match splitKey? e.1 with
  | some (category, name) => e.2.entries.map fun a => ⟨category, name, a.1, a.2⟩
  | none => []

theorem overridesOf_of_keyNames {e : String × OrderedMap String String} {category name : String}
    (h : KeyNames e.1 category name) :
    overridesOf e = e.2.entries.map fun a => ⟨category, name, a.1, a.2⟩ := by
  rw [overridesOf, splitKey?_eq_some_iff.mpr h]

theorem tableOverrides_eq (e : String × OrderedMap String String) :
    tableOverrides e.1 e.2 =
      match keyFault? e.1 with
      | none => .ok (overridesOf e)
      | some error => .error error := by
  unfold tableOverrides keyFault? overridesOf
  cases splitKey? e.1 <;> rfl

theorem mapM_tableOverrides (entries : List (String × OrderedMap String String)) :
    (entries.mapM fun e => tableOverrides e.1 e.2) =
      match entries.findSome? fun e => keyFault? e.1 with
      | none => .ok (entries.map overridesOf)
      | some error => .error error := by
  induction entries with
  | nil => rfl
  | cons e entries ih =>
      rw [List.mapM_cons, tableOverrides_eq, ih, List.findSome?_cons]
      cases keyFault? e.1 with
      | none => cases entries.findSome? fun e => keyFault? e.1 <;> rfl
      | some error => rfl

/-- The overrides in all tables. -/
def overrides (config : Config) : List DefaultOverride :=
  config.defaults.entries.flatMap overridesOf

theorem defaultOverrides_eq (config : Config) :
    config.defaultOverrides =
      match config.defaults.entries.findSome? fun e => keyFault? e.1 with
      | none => .ok config.overrides
      | some error => .error error := by
  rw [defaultOverrides, mapM_tableOverrides, overrides, List.flatMap_def]
  cases config.defaults.entries.findSome? fun e => keyFault? e.1 <;> rfl

/-- The fault that keeps a prototype from being built. Every key comes before every override. -/
def fault? (config : Config) : Option Error :=
  (config.defaults.entries.findSome? fun e => keyFault? e.1).or
    (config.overrides.findSome? DefaultOverride.fault?)

theorem buildNamespace_eq (config : Config) :
    config.buildNamespace =
      match config.fault? with
      | none => .ok (config.overrides.foldl Namespace.replaceDefault .builtin)
      | some error => .error error := by
  unfold buildNamespace fault? overrides
  cases hentries : config.defaults.entries with
  | nil => rfl
  | cons e entries =>
      rw [List.isEmpty_cons, if_neg Bool.false_ne_true, ← hentries, defaultOverrides_eq, overrides]
      cases config.defaults.entries.findSome? fun e => keyFault? e.1 with
      | none => exact Namespace.withDefaults_eq _
      | some error => rfl

theorem buildNamespace_eq_ok_iff {config : Config} {ns : Namespace} :
    config.buildNamespace = .ok ns ↔
      config.fault? = none ∧ ns = config.overrides.foldl Namespace.replaceDefault .builtin := by
  rw [buildNamespace_eq]
  cases config.fault? <;> simp [eq_comm]

/-- The defaults that the configuration holds for one property, in the order of the document. -/
def defaultsFor (config : Config) (category name : String) : List (String × String) :=
  (config.defaults.entries.filter fun e => KeyNames e.1 category name).flatMap
    fun e => e.2.entries

theorem pairsFor_overridesOf (c n : String) (e : String × OrderedMap String String) :
    DefaultOverride.pairsFor c n (overridesOf e) =
      if KeyNames e.1 c n then e.2.entries else [] := by
  simp only [← splitKey?_eq_some_iff]
  unfold DefaultOverride.pairsFor overridesOf
  rcases splitKey? e.1 with _ | ⟨category, name⟩
  · rfl
  · simp only [List.filter_map, Function.comp_def, List.map_map]
    by_cases h : category = c ∧ name = n
    · simp [h]
    · simp [h]

theorem pairsFor_overrides (config : Config) (c n : String) :
    DefaultOverride.pairsFor c n config.overrides = config.defaultsFor c n := by
  unfold overrides defaultsFor
  induction config.defaults.entries with
  | nil => rfl
  | cons e entries ih =>
      rw [List.flatMap_cons, DefaultOverride.pairsFor_append, pairsFor_overridesOf, ih,
        List.filter_cons]
      by_cases h : KeyNames e.1 c n <;> simp [h]

theorem property?_of_buildNamespace {config : Config} {ns : Namespace}
    (h : config.buildNamespace = .ok ns) (c n : String) :
    ns.property? c n =
      (Namespace.builtin.property? c n).map fun p =>
        p.updateAttributes (·.setDefaults (config.defaultsFor c n)) := by
  obtain ⟨-, rfl⟩ := buildNamespace_eq_ok_iff.mp h
  rw [Namespace.property?_foldl_replaceDefault, pairsFor_overrides]

end PropertyMacros.Config
