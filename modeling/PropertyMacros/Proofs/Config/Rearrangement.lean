import Mathlib.Data.List.Forall2
import PropertyMacros.Proofs.Config.Overrides
import PropertyMacros.Proofs.Namespace.Defaults

/-!
Configurations that hold the same tables in another order. Keys of the same map divide into a
category and a name in different ways, so no two entries of a document give a default for the same
attribute, and the order in which they stand can decide nothing but the fault that is reported.
-/

namespace PropertyMacros

theorem Attributes.setAll_eq_changeAll (attrs : Attributes) (pairs : List (String × String)) :
    attrs.setAll pairs = attrs.changeAll (pairs.map fun e => .set e.1 e.2) := by
  rw [setAll, changeAll, List.foldl_map]
  rfl

/-- What a property evaluates to after assignments to its attributes. -/
def Namespace.outcome? (ns : Namespace) (c n : String) (assignments : List (String × String)) :
    Option (Except EvalError String) :=
  (ns.property? c n).map fun p => (p.updateAttributes (·.setAll assignments)).evaluate

theorem Namespace.SameState.outcome?_eq {a b : Namespace} (h : a.SameState b) (c n : String)
    (assignments : List (String × String)) :
    a.outcome? c n assignments = b.outcome? c n assignments := by
  refine h.map_congr (fun p q hstate => ?_) c n
  simp only [Attributes.setAll_eq_changeAll]
  exact (Property.readsLike_of_state_eq (Property.state_changeAll_congr hstate _)).evaluate_eq

namespace Config

/-! ## What an entry of a document is for -/

theorem mem_overridesOf_iff {e : String × OrderedMap String String} {o : DefaultOverride} :
    o ∈ overridesOf e ↔ KeyNames e.1 o.category o.name ∧ (o.attr, o.value) ∈ e.2.entries := by
  constructor
  · intro ho
    cases hkey : splitKey? e.1 with
    | none =>
        rw [overridesOf, hkey] at ho
        cases ho
    | some parts =>
        have hnames := splitKey?_eq_some_iff.mp hkey
        rw [overridesOf_of_keyNames hnames] at ho
        obtain ⟨pair, hpair, rfl⟩ := List.mem_map.mp ho
        exact ⟨hnames, hpair⟩
  · rintro ⟨hnames, hpair⟩
    rw [overridesOf_of_keyNames hnames]
    exact List.mem_map.mpr ⟨_, hpair, rfl⟩

theorem nodup_target_overridesOf (e : String × OrderedMap String String) :
    ((overridesOf e).map DefaultOverride.target).Nodup := by
  cases hkey : splitKey? e.1 with
  | none =>
      rw [overridesOf, hkey]
      exact List.nodup_nil
  | some parts =>
      rw [overridesOf_of_keyNames (splitKey?_eq_some_iff.mp hkey), List.map_map]
      have htargets : (e.2.entries.map Prod.fst).map (fun attr => (parts.1, parts.2, attr)) =
          e.2.entries.map (DefaultOverride.target ∘ fun a => ⟨parts.1, parts.2, a.1, a.2⟩) :=
        List.map_map
      rw [← htargets]
      refine e.2.nodup_keys.map fun attr attr' heq => ?_
      exact (Prod.mk.inj (Prod.mk.inj heq).2).2

/-- No two entries of the document are for the same attribute. -/
theorem nodup_target_overrides (config : Config) :
    (config.overrides.map DefaultOverride.target).Nodup := by
  rw [overrides, List.map_flatMap, List.nodup_flatMap]
  refine ⟨fun e _ => nodup_target_overridesOf e, ?_⟩
  refine (List.pairwise_map.mp config.defaults.nodup_keys).imp fun {e f} hne => ?_
  intro target he hf
  obtain ⟨o, ho, rfl⟩ := List.mem_map.mp he
  obtain ⟨o', ho', htarget⟩ := List.mem_map.mp hf
  obtain ⟨hcategory, hrest⟩ := Prod.mk.inj htarget
  obtain ⟨hname, -⟩ := Prod.mk.inj hrest
  -- Equal parts come from equal keys.
  have hkey := (mem_overridesOf_iff.mp ho).1.eq_append
  have hkey' := (mem_overridesOf_iff.mp ho').1.eq_append
  rw [hcategory, hname] at hkey'
  exact hne (hkey.trans hkey'.symm)

/-! ## Other orders -/

/-- A table under the same key with the same attributes, in any order. -/
def SameTable (e f : String × OrderedMap String String) : Prop :=
  e.1 = f.1 ∧ e.2.entries.Perm f.2.entries

/-- The same tables in any order, with their attributes in any order. -/
def Rearranged (a b : Config) : Prop :=
  ∃ tables, a.defaults.entries.Perm tables ∧ List.Forall₂ SameTable tables b.defaults.entries

theorem SameTable.overridesOf_perm {e f : String × OrderedMap String String}
    (h : SameTable e f) : (overridesOf e).Perm (overridesOf f) := by
  obtain ⟨hkey, hattrs⟩ := h
  rw [overridesOf, overridesOf, hkey]
  cases splitKey? f.1 with
  | none => exact .nil
  | some parts => exact hattrs.map _

theorem flatMap_overridesOf_perm {tables entries : List (String × OrderedMap String String)}
    (h : List.Forall₂ SameTable tables entries) :
    (tables.flatMap overridesOf).Perm (entries.flatMap overridesOf) := by
  induction h with
  | nil => exact .nil
  | cons htable _ ih =>
      rw [List.flatMap_cons, List.flatMap_cons]
      exact htable.overridesOf_perm.append ih

namespace Rearranged

variable {a b : Config} (h : a.Rearranged b)

include h

theorem keys_perm : a.defaults.keys.Perm b.defaults.keys := by
  obtain ⟨tables, hperm, hsame⟩ := h
  have hkeys : tables.map Prod.fst = b.defaults.entries.map Prod.fst := by
    rw [← List.forall₂_eq_eq_eq, List.forall₂_map_left_iff, List.forall₂_map_right_iff]
    exact hsame.imp fun _ _ htable => htable.1
  exact (hperm.map Prod.fst).trans (.of_eq hkeys)

theorem overrides_perm : a.overrides.Perm b.overrides := by
  obtain ⟨tables, hperm, hsame⟩ := h
  exact (hperm.flatMap_right overridesOf).trans (flatMap_overridesOf_perm hsame)

theorem fault?_eq_none_iff : a.fault? = none ↔ b.fault? = none := by
  have hfault (config : Config) : config.fault? = none ↔
      (∀ key ∈ config.defaults.keys, keyFault? key = none) ∧
        ∀ o ∈ config.overrides, o.fault? = none := by
    simp only [fault?, Option.or_eq_none_iff, List.findSome?_eq_none_iff, OrderedMap.keys,
      List.forall_mem_map]
  simp only [hfault, h.keys_perm.mem_iff, h.overrides_perm.mem_iff]

theorem sameByTarget : DefaultOverride.SameByTarget a.overrides b.overrides :=
  .of_perm h.overrides_perm a.nodup_target_overrides

end Rearranged

/-- Two documents with the same tables in whatever order are both refused, or lead to equal
namespaces in which every property evaluates to the same after the same assignments. -/
theorem buildNamespace_of_rearranged {a b : Config} (h : a.Rearranged b) :
    ((∃ ns, a.buildNamespace = .ok ns) ↔ ∃ ns, b.buildNamespace = .ok ns) ∧
    ((∃ error, a.buildNamespace = .error error) ↔ ∃ error, b.buildNamespace = .error error) ∧
    ∀ ns ns', a.buildNamespace = .ok ns → b.buildNamespace = .ok ns' →
      (ns == ns') = true ∧
      ∀ c n assignments, ns.outcome? c n assignments = ns'.outcome? c n assignments := by
  have hok (config : Config) : (∃ ns, config.buildNamespace = .ok ns) ↔ config.fault? = none := by
    simp only [buildNamespace_eq_ok_iff, exists_and_left, exists_eq, and_true]
  have herror (config : Config) :
      (∃ error, config.buildNamespace = .error error) ↔ config.fault? ≠ none := by
    rw [ne_eq, ← hok]
    cases config.buildNamespace <;> simp
  refine ⟨?_, ?_, ?_⟩
  · rw [hok, hok, h.fault?_eq_none_iff]
  · rw [herror, herror, ne_eq, ne_eq, h.fault?_eq_none_iff]
  · intro ns ns' hns hns'
    obtain ⟨-, rfl⟩ := buildNamespace_eq_ok_iff.mp hns
    obtain ⟨-, rfl⟩ := buildNamespace_eq_ok_iff.mp hns'
    have hstate := Namespace.sameState_foldl_replaceDefault h.sameByTarget .builtin
    exact ⟨Namespace.beq_iff_sameState.mpr hstate, hstate.outcome?_eq⟩

/-- A configuration whose tables are those of a document, in its order. -/
def ofTables (tables : List (String × List (String × String))) : Config where
  general := .default
  defaults := .ofList (tables.map fun e => (e.1, .ofList e.2))

/-- Two tables that change places, one of them with its attributes reversed, and assignments that
are made afterwards. Of two tables at fault the first one is reported. -/
theorem buildNamespace_of_rearranged_windows :
    let a := ofTables [("Misc.sublist", [("list", "a:b"), ("index", "1")]),
      ("Misc.count", [("sep", ";")])]
    let b := ofTables [("Misc.count", [("sep", ";")]),
      ("Misc.sublist", [("index", "1"), ("list", "a:b")])]
    let faulty := ofTables [("Misc.pow", [("op", "2")]), ("Misc.root", [("op", "2")])]
    let faulty' := ofTables [("Misc.root", [("op", "2")]), ("Misc.pow", [("op", "2")])]
    let window := [("count", "2"), ("index", "7"), ("index", "0")]
    a.Rearranged b ∧ faulty.Rearranged faulty' ∧
      (∃ ns ns', a.buildNamespace = .ok ns ∧ b.buildNamespace = .ok ns' ∧ (ns == ns') = true ∧
        ns.outcome? "Misc" "sublist" [] = some (.ok "b") ∧
        ns'.outcome? "Misc" "sublist" [] = some (.ok "b") ∧
        ns.outcome? "Misc" "sublist" window = some (.ok "a:b") ∧
        ns'.outcome? "Misc" "sublist" window = some (.ok "a:b") ∧
        ns.outcome? "Misc" "count" [("list", "a;b")] = some (.ok "2") ∧
        ns'.outcome? "Misc" "count" [("list", "a;b")] = some (.ok "2")) ∧
      faulty.buildNamespace = .error (.propertyNotFound "Misc" "pow") ∧
      (∃ error, faulty'.buildNamespace = .error error) ∧
      faulty'.buildNamespace = .error (.propertyNotFound "Misc" "root") := by
  intro a b faulty faulty' window
  have hab : a.Rearranged b :=
    ⟨_, .swap _ _ [], .cons ⟨rfl, .refl _⟩ (.cons ⟨rfl, .swap _ _ []⟩ .nil)⟩
  have hfaulty : faulty.Rearranged faulty' :=
    ⟨_, .swap _ _ [], .cons ⟨rfl, .refl _⟩ (.cons ⟨rfl, .refl _⟩ .nil)⟩
  obtain ⟨hok, -, hequal⟩ := buildNamespace_of_rearranged hab
  obtain ⟨-, herror, -⟩ := buildNamespace_of_rearranged hfaulty
  obtain ⟨ns, hns⟩ : ∃ ns, a.buildNamespace = .ok ns := ⟨_, rfl⟩
  obtain ⟨ns', hns'⟩ := hok.mp ⟨ns, hns⟩
  obtain ⟨hbeq, houtcome⟩ := hequal ns ns' hns hns'
  obtain ⟨hdefault, hassigned, hcount⟩ :
      ns.outcome? "Misc" "sublist" [] = some (.ok "b") ∧
        ns.outcome? "Misc" "sublist" window = some (.ok "a:b") ∧
        ns.outcome? "Misc" "count" [("list", "a;b")] = some (.ok "2") := by
    cases hns
    exact ⟨rfl, rfl, rfl⟩
  refine ⟨hab, hfaulty, ⟨ns, ns', hns, hns', hbeq, hdefault, ?_, hassigned, ?_, hcount, ?_⟩, rfl,
    herror.mp ⟨_, rfl⟩, rfl⟩
  · rw [← houtcome, hdefault]
  · rw [← houtcome, hassigned]
  · rw [← houtcome, hcount]

end Config

end PropertyMacros
