import PropertyMacros.Proofs.Config.Overrides
import PropertyMacros.Proofs.Namespace.Step

/-!
Runs of steps. What a run has made of a property depends only on the changes that it has made to
that property, and dropping every override leads back to the namespace in which the run began.
-/

namespace PropertyMacros

open Attributes (Change writes)

/-- The property `q` is `p` after the pairs have been written to it one after the other. -/
structure Property.Records (p : Property) (pairs : List (String × String)) (q : Property) :
    Prop where
  operator_eq : q.operator = p.operator
  defaults_eq : q.attributes.defaults = p.attributes.defaults
  keys_overrides : q.attributes.overrides.keys = (pairs.map Prod.fst).eraseDups
  nodup_keys : q.attributes.overrides.keys.Nodup
  get?_overrides : ∀ attr, q.attributes.overrides.get? attr = OrderedMap.lastValue? attr pairs
  attribute?_eq : ∀ attr, q.attribute? attr =
    (OrderedMap.lastValue? attr pairs).or (p.attributes.default? attr)

theorem Property.records_changeAll {p : Property} (h : p.attributes.overrides = .empty)
    (changes : List Change) :
    p.Records (writes changes) (p.updateAttributes (·.changeAll changes)) := by
  have hdefaults := Attributes.defaults_changeAll p.attributes changes
  have hoverrides := Attributes.overrides_changeAll h changes
  have hget := Attributes.get?_overrides_changeAll h changes
  refine ⟨rfl, hdefaults, ?_, OrderedMap.nodup_keys _, hget, ?_⟩
  · exact (congrArg OrderedMap.keys hoverrides).trans (OrderedMap.keys_ofList _)
  · intro attr
    change (p.attributes.changeAll changes).get? attr = _
    rw [Attributes.get?, hget, Attributes.default?, hdefaults]
    rfl

namespace Namespace

/-- The namespace after a run of steps, those that fail being passed over. -/
def run (ns : Namespace) (steps : List Step) : Namespace := steps.foldl advance ns

/-- The changes that a run makes to the overrides of one property, in order. -/
def changes (c n : String) : Namespace → List Step → List Change
  | _, [] => []
  | ns, step :: steps => (changeOf c n ns step).toList ++ changes c n (ns.advance step) steps

theorem property?_run (ns : Namespace) (steps : List Step) (c n : String) :
    (ns.run steps).property? c n =
      (ns.property? c n).map fun p => p.updateAttributes (·.changeAll (changes c n ns steps)) := by
  induction steps generalizing ns with
  | nil => exact Option.map_id_apply.symm
  | cons step steps ih =>
      have hrun := ih (ns.advance step)
      rw [property?_advance, Option.map_map] at hrun
      refine hrun.trans (congrFun (congrArg Option.map ?_) _)
      funext p
      rw [changes, Function.comp_apply, Property.updateAttributes, Property.updateAttributes,
        Property.updateAttributes, Attributes.changeAll_append]

theorem HasCatalog.run {ns : Namespace} (h : ns.HasCatalog) (steps : List Step) :
    (ns.run steps).HasCatalog := by
  intro c n
  rw [property?_run, Option.map_map]
  exact h c n

theorem resetAll_run (ns : Namespace) (steps : List Step) :
    (ns.run steps).resetAll = ns.resetAll := by
  induction steps generalizing ns with
  | nil => rfl
  | cons step steps ih => exact (ih (ns.advance step)).trans (resetAll_advance ns step)

/-- The categories with the names in them, in order of registration. -/
def layout (ns : Namespace) : List (String × List String) :=
  ns.groups.entries.map fun group => (group.1, group.2.keys)

theorem layout_resetAll (ns : Namespace) : ns.resetAll.layout = ns.layout := by
  simp only [layout, resetAll, OrderedMap.mapValues, List.map_map]
  apply List.map_congr_left
  intro group _
  exact congrArg (Prod.mk group.1) (OrderedMap.keys_mapValues _ group.2)

theorem layout_run (ns : Namespace) (steps : List Step) : (ns.run steps).layout = ns.layout := by
  rw [← layout_resetAll, resetAll_run, layout_resetAll]

theorem resetAll_eq_self {ns : Namespace}
    (h : ∀ c n p, ns.property? c n = some p → p.attributes.overrides = .empty) :
    ns.resetAll = ns := by
  have hgroups : ns.groups.mapValues (·.mapValues Property.resetAttributes) = ns.groups := by
    apply OrderedMap.mapValues_eq_self
    intro c group hgroup
    apply OrderedMap.mapValues_eq_self
    intro n p hp
    have hempty := h c n p (by rw [property?, hgroup, Option.bind_some, hp])
    rw [Property.resetAttributes, Property.updateAttributes, Attributes.reset, ← hempty]
  rw [resetAll, hgroups]

/-- A namespace as it comes from the catalog, from replaced defaults or from a configuration. -/
inductive IsPrototype : Namespace → Prop where
  | builtin : IsPrototype builtin
  | withDefaults {overrides : List DefaultOverride} {ns : Namespace}
      (h : Namespace.withDefaults overrides = .ok ns) : IsPrototype ns
  | configured {config : Config} {ns : Namespace}
      (h : config.buildNamespace = .ok ns) : IsPrototype ns

theorem IsPrototype.exists_overrides {ns : Namespace} (h : ns.IsPrototype) :
    ∃ overrides : List DefaultOverride, ns = overrides.foldl replaceDefault .builtin := by
  cases h with
  | builtin => exact ⟨[], rfl⟩
  | @withDefaults overrides _ hbuilt =>
      rw [withDefaults_eq] at hbuilt
      cases hfault : overrides.findSome? DefaultOverride.fault? with
      | none =>
          rw [hfault] at hbuilt
          exact ⟨overrides, (Except.ok.inj hbuilt).symm⟩
      | some error =>
          rw [hfault] at hbuilt
          cases hbuilt
  | configured hbuilt => exact ⟨_, (Config.buildNamespace_eq_ok_iff.mp hbuilt).2⟩

theorem IsPrototype.hasCatalog {ns : Namespace} (h : ns.IsPrototype) : ns.HasCatalog := by
  obtain ⟨overrides, rfl⟩ := h.exists_overrides
  exact hasCatalog_builtin.foldl_replaceDefault overrides

theorem IsPrototype.overrides_eq_empty {ns : Namespace} (h : ns.IsPrototype) {c n : String}
    {p : Property} (hp : ns.property? c n = some p) : p.attributes.overrides = .empty := by
  obtain ⟨overrides, rfl⟩ := h.exists_overrides
  rw [property?_foldl_replaceDefault, property?_builtin, Option.map_map] at hp
  obtain ⟨op, -, rfl⟩ := Option.map_eq_some_iff.mp hp
  rfl

/-- What a run of steps from the prototype `proto` has to lead to. -/
structure RunOutcome (proto : Namespace) (steps : List Step) (ns : Namespace) : Prop where
  registered : ∀ c n p, proto.property? c n = some p →
    ∃ q, ns.property? c n = some q ∧ p.Records (writes (changes c n proto steps)) q
  unregistered : ∀ c n, proto.property? c n = none → ns.property? c n = none
  layout_eq : ns.layout = proto.layout
  apply_eq : ∀ step, ns.apply step =
    match step.keys.find? fun k => (proto.property? k.1 k.2).isNone with
    | some k => .error (.propertyNotFound k.1 k.2)
    | none => .ok (ns.advance step)
  advance_eq : ∀ step error, ns.apply step = .error error → ns.advance step = ns
  resetAll_eq : ns.resetAll = proto

theorem runOutcome_run {proto : Namespace} (h : proto.IsPrototype) (steps : List Step) :
    RunOutcome proto steps (proto.run steps) where
  registered := by
    intro c n p hp
    refine ⟨_, ?_, Property.records_changeAll (h.overrides_eq_empty hp) _⟩
    rw [property?_run, hp]
    rfl
  unregistered := by
    intro c n hp
    rw [property?_run, hp]
    rfl
  layout_eq := layout_run proto steps
  apply_eq := by
    intro step
    have happly := apply_eq (proto.run steps) step
    simp only [property?_run, Option.isNone_map] at happly
    exact happly
  advance_eq := by
    intro step error herror
    exact advance_of_apply_eq_error herror
  resetAll_eq := by
    rw [resetAll_run]
    exact resetAll_eq_self fun c n p => h.overrides_eq_empty

/-- Sets, a pipe, a reset and a step that fails, on two properties. -/
def mixedSteps : List Step :=
  [.set "Misc" "add" "op2" "7", .reset "Misc" "add", .set "Misc" "count" "list" "a;b;c",
    .set "Misc" "add" "op2" "1", .set "Misc" "pow" "op1" "2",
    .pipe "Misc" "count" "Misc" "add" "op1", .set "Misc" "add" "op2" "4",
    .reset "Misc" "count"]

theorem runOutcome_run_mixedSteps :
    ∃ proto, withDefaults [⟨"Misc", "count", "sep", ";"⟩] = .ok proto ∧
      RunOutcome proto mixedSteps (proto.run mixedSteps) ∧
      writes (changes "Misc" "add" proto mixedSteps) =
        [("op2", "1"), ("op1", "3"), ("op2", "4")] ∧
      writes (changes "Misc" "count" proto mixedSteps) = [] := by
  have hbuilt : withDefaults [⟨"Misc", "count", "sep", ";"⟩] =
      .ok (builtin.modify "Misc" "count" (·.setDefault "sep" ";")) := rfl
  refine ⟨_, hbuilt, runOutcome_run (.withDefaults hbuilt) mixedSteps, ?_, ?_⟩
  · rfl
  · rfl

end Namespace

end PropertyMacros
