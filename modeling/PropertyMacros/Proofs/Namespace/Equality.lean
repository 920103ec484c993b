import PropertyMacros.Proofs.Namespace.Run
import PropertyMacros.Proofs.Property

/-!
Equality of namespaces. Two namespaces are equal exactly if they have the same keys with properties
in the same state under them, however they came about. No reading tells equal namespaces apart, now
or after a run of steps.
-/

namespace PropertyMacros.Namespace

/-- What equality sees of the properties of a category. -/
def states (group : OrderedMap String Property) (n : String) : Option Property.State :=
  (group.get? n).map Property.state

/-- The same keys, and properties in the same state under them. -/
structure SameState (a b : Namespace) : Prop where
  mem_categories_iff : ∀ c, c ∈ a.categories ↔ c ∈ b.categories
  state_eq : ∀ c n, (a.property? c n).map Property.state = (b.property? c n).map Property.state

theorem map_states_eq_iff {g h : Option (OrderedMap String Property)} :
    g.map states = h.map states ↔
      (g.isSome = true ↔ h.isSome = true) ∧
        ∀ n, (g.bind (·.get? n)).map Property.state = (h.bind (·.get? n)).map Property.state := by
  cases g <;> cases h <;> simp [states, funext_iff]

theorem mem_categories_iff {ns : Namespace} {c : String} :
    c ∈ ns.categories ↔ (ns.groups.get? c).isSome = true := by
  show c ∈ ns.groups.keys ↔ _
  rw [OrderedMap.mem_keys_iff, Option.isSome_iff_exists]

theorem beq_iff_sameState {a b : Namespace} : (a == b) = true ↔ a.SameState b := by
  have hgroup (g h : OrderedMap String Property) : (g == h) = true ↔ states g = states h := by
    have hproperty (p q : Property) : (p == q) = true ↔ p.state = q.state :=
      Property.beq_iff_state_eq
    rw [funext_iff]
    exact OrderedMap.beqBy_eq_true_iff hproperty
  have hgroups : (a == b) = true ↔
      ∀ c, (a.groups.get? c).map states = (b.groups.get? c).map states :=
    OrderedMap.beqBy_eq_true_iff hgroup
  simp only [hgroups, map_states_eq_iff, ← mem_categories_iff]
  constructor
  · intro h
    exact ⟨fun c => (h c).1, fun c => (h c).2⟩
  · intro h c
    exact ⟨h.mem_categories_iff c, h.state_eq c⟩

theorem categories_eq_map_layout (ns : Namespace) : ns.categories = ns.layout.map Prod.fst := by
  rw [layout, List.map_map]
  rfl

theorem categories_run (ns : Namespace) (steps : List Step) :
    (ns.run steps).categories = ns.categories := by
  rw [categories_eq_map_layout, layout_run, categories_eq_map_layout]

namespace SameState

variable {a b : Namespace}

/-- Whatever depends on the state of a property alone is the same on both sides. -/
theorem map_congr (h : a.SameState b) {α : Type} {f : Property → α}
    (hf : ∀ p q : Property, p.state = q.state → f p = f q) (c n : String) :
    (a.property? c n).map f = (b.property? c n).map f := by
  have hstate := h.state_eq c n
  cases hp : a.property? c n with
  | none =>
      rw [hp, Option.map_none, eq_comm, Option.map_eq_none_iff] at hstate
      rw [hstate]
  | some p =>
      rw [hp, Option.map_some, eq_comm, Option.map_eq_some_iff] at hstate
      obtain ⟨q, hq, hqp⟩ := hstate
      rw [hq, Option.map_some, Option.map_some, hf p q hqp.symm]

theorem changeOf_eq (h : a.SameState b) (c n : String) (step : Step) :
    changeOf c n a step = changeOf c n b step := by
  cases step with
  | set | reset | resetAll | duplicate => rfl
  | pipe fromCategory fromName category name attr =>
      have hpiped := h.map_congr
        (fun p q hpq => congrArg (Attributes.Change.set attr)
          (Property.readsLike_of_state_eq hpq).current_eq) fromCategory fromName
      rw [changeOf, changeOf, hpiped]

theorem advance (h : a.SameState b) (step : Step) :
    (a.advance step).SameState (b.advance step) := by
  constructor
  · intro c
    have hkept (ns : Namespace) : (ns.advance step).categories = ns.categories :=
      categories_run ns [step]
    rw [hkept, hkept]
    exact h.mem_categories_iff c
  · intro c n
    rw [property?_advance, property?_advance, Option.map_map, Option.map_map, h.changeOf_eq]
    exact h.map_congr (fun p q hpq => Property.state_changeAll_congr hpq _) c n

theorem run (h : a.SameState b) (steps : List Step) : (a.run steps).SameState (b.run steps) := by
  induction steps generalizing a b with
  | nil => exact h
  | cons step steps ih => exact ih (h.advance step)

theorem apply_eq_error_iff (h : a.SameState b) (step : Step) (error : Error) :
    a.apply step = .error error ↔ b.apply step = .error error := by
  have hisNone (k : String × String) :
      (a.property? k.1 k.2).isNone = (b.property? k.1 k.2).isNone := by
    have hmap := congrArg Option.isNone (h.state_eq k.1 k.2)
    rwa [Option.isNone_map, Option.isNone_map] at hmap
  rw [apply_eq, apply_eq]
  simp only [hisNone]
  cases step.keys.find? fun k => (b.property? k.1 k.2).isNone <;> simp

end SameState

/-- Equality is decided by keys, operators, defaults and overrides, and by no order. What is equal
reads alike and stays equal under every further run. -/
theorem beq_congruence (a b : Namespace) :
    ((a == b) = true ↔ a.SameState b) ∧
    ((a == b) = true →
      (∀ c n p q, a.property? c n = some p → b.property? c n = some q → p.ReadsLike q) ∧
      (∀ step error, a.apply step = .error error ↔ b.apply step = .error error) ∧
      ∀ steps, (a.run steps == b.run steps) = true) := by
  refine ⟨beq_iff_sameState, fun hequal => ?_⟩
  have h : a.SameState b := beq_iff_sameState.mp hequal
  refine ⟨?_, h.apply_eq_error_iff, fun steps => beq_iff_sameState.mpr (h.run steps)⟩
  intro c n p q hp hq
  have hstate := h.state_eq c n
  rw [hp, hq] at hstate
  exact Property.readsLike_of_state_eq (Option.some.inj hstate)

/-- Another way to the state after both operands have been set, in the other order. -/
def detour : List Step :=
  [.set "Misc" "add" "op3" "9", .resetAll, .set "Misc" "add" "op2" "2",
    .set "Misc" "strlen" "op" "a", .pipe "Misc" "strlen" "Misc" "add" "op1",
    .reset "Misc" "strlen"]

theorem beq_congruence_detour :
    ∃ proto, withDefaults [⟨"Misc", "count", "sep", ":"⟩] = .ok proto ∧
      let a := builtin.run [.set "Misc" "add" "op1" "1", .set "Misc" "add" "op2" "2"]
      let b := proto.run detour
      ∃ p q, a.property? "Misc" "add" = some p ∧ b.property? "Misc" "add" = some q ∧
        p.attributes.overrides.keys = ["op1", "op2"] ∧
        q.attributes.overrides.keys = ["op2", "op1"] ∧
        (a == b) = true ∧ a.SameState b ∧ p.ReadsLike q ∧
        (a.run detour == b.run detour) = true := by
  have hbuilt : withDefaults [⟨"Misc", "count", "sep", ":"⟩] =
      .ok (builtin.modify "Misc" "count" (·.setDefault "sep" ":")) := rfl
  refine ⟨_, hbuilt, ?_⟩
  intro a b
  have hequal : (a == b) = true := by rfl
  obtain ⟨hiff, hcongr⟩ := beq_congruence a b
  obtain ⟨hreads, -, hruns⟩ := hcongr hequal
  refine ⟨_, _, rfl, rfl, by rfl, by rfl, hequal, hiff.mp hequal, ?_, hruns detour⟩
  exact hreads "Misc" "add" _ _ rfl rfl

end PropertyMacros.Namespace
