import PropertyMacros.Namespace.Basic
import PropertyMacros.Proofs.Attributes

/-!
The steps that a caller takes with a namespace. A step fails exactly if it names a property that is
not registered, and then nothing has changed. Otherwise it comes down to one change of the overrides
for each property that it concerns.
-/

namespace PropertyMacros

open Attributes (Change)

namespace Namespace

/-- A step of a caller. -/
inductive Step where
  | set (category name attr value : String)
  | reset (category name : String)
  | resetAll
  | duplicate
  | pipe (fromCategory fromName category name attr : String)
  deriving DecidableEq, Repr

/-- The keys of the properties that a step names, in the order in which they are looked up. -/
def Step.keys : Step → List (String × String)
  | set category name _ _ => [(category, name)]
  | reset category name => [(category, name)]
  | resetAll => []
  | duplicate => []
  | pipe fromCategory fromName category name _ => [(fromCategory, fromName), (category, name)]

/-- What comes of a step. A copy is the namespace itself. -/
def apply (ns : Namespace) : Step → Except Error Namespace
  | .set category name attr value => ns.setAttribute category name attr value
  | .reset category name => ns.resetAttributes category name
  | .resetAll => .ok ns.resetAll
  | .duplicate => .ok ns
  | .pipe fromCategory fromName category name attr =>
    ns.pipe fromCategory fromName category name attr

/-- The namespace after a step, the same one if the step fails. -/
def advance (ns : Namespace) (step : Step) : Namespace :=
  match ns.apply step with
  | .ok next => next
  | .error _ => ns

theorem update_eq (ns : Namespace) (category name : String) (f : Property → Property) :
    ns.update category name f =
      match ns.property? category name with
      | some _ => .ok (ns.modify category name f)
      | none => .error (.propertyNotFound category name) := by
  unfold update property
  cases ns.property? category name <;> rfl

theorem pipe_eq (ns : Namespace) (fromCategory fromName category name attr : String) :
    ns.pipe fromCategory fromName category name attr =
      match ns.property? fromCategory fromName with
      | some p => ns.setAttribute category name attr p.current
      | none => .error (.propertyNotFound fromCategory fromName) := by
  unfold pipe current property
  cases ns.property? fromCategory fromName <;> rfl

/-- The first key of a step without a property decides its failure. -/
theorem apply_eq (ns : Namespace) (step : Step) :
    ns.apply step =
      match step.keys.find? fun k => (ns.property? k.1 k.2).isNone with
      | some k => .error (.propertyNotFound k.1 k.2)
      | none => .ok (ns.advance step) := by
  cases step with
  | set category name attr value =>
      simp only [advance, apply, setAttribute, update_eq, Step.keys, List.find?_cons]
      cases ns.property? category name <;> rfl
  | reset category name =>
      simp only [advance, apply, resetAttributes, update_eq, Step.keys, List.find?_cons]
      cases ns.property? category name <;> rfl
  | resetAll => rfl
  | duplicate => rfl
  | pipe fromCategory fromName category name attr =>
      simp only [advance, apply, pipe_eq, setAttribute, update_eq, Step.keys, List.find?_cons]
      cases ns.property? fromCategory fromName with
      | none => rfl
      | some p => cases ns.property? category name <;> rfl

theorem advance_of_apply_eq_error {ns : Namespace} {step : Step} {error : Error}
    (h : ns.apply step = .error error) : ns.advance step = ns := by
  rw [advance, h]

theorem modify_of_property?_eq_none {ns : Namespace} {category name : String}
    (h : ns.property? category name = none) (f : Property → Property) :
    ns.modify category name f = ns := by
  have hgroups : ns.groups.modify category (·.modify name f) = ns.groups := by
    apply OrderedMap.modify_eq_self
    intro group hgroup
    apply OrderedMap.modify_eq_self
    intro p hp
    rw [property?, hgroup, Option.bind_some, hp] at h
    cases h
  rw [modify, hgroups]

theorem advance_of_apply_eq_update {ns : Namespace} {step : Step} {category name : String}
    {f : Property → Property} (h : ns.apply step = ns.update category name f) :
    ns.advance step = ns.modify category name f := by
  rw [advance, h, update_eq]
  cases hp : ns.property? category name with
  | some p => rfl
  | none => exact (modify_of_property?_eq_none hp f).symm

theorem advance_pipe (ns : Namespace) (fromCategory fromName category name attr : String) :
    ns.advance (.pipe fromCategory fromName category name attr) =
      match ns.property? fromCategory fromName with
      | some p => ns.modify category name (·.setAttribute attr p.current)
      | none => ns := by
  have happly := pipe_eq ns fromCategory fromName category name attr
  cases hp : ns.property? fromCategory fromName with
  | some p =>
      rw [hp] at happly
      exact advance_of_apply_eq_update happly
  | none =>
      rw [hp] at happly
      exact advance_of_apply_eq_error happly

/-- What a step does to the overrides of one property. -/
def changeOf (c n : String) (ns : Namespace) : Step → Option Change
  | .set category name attr value =>
    if c = category ∧ n = name then some (.set attr value) else none
  | .reset category name => if c = category ∧ n = name then some .reset else none
  | .resetAll => some .reset
  | .duplicate => none
  | .pipe fromCategory fromName category name attr =>
    if c = category ∧ n = name then
      (ns.property? fromCategory fromName).map fun p => .set attr p.current
    else none

theorem property?_modify_change (ns : Namespace) (category name c n : String) (ch : Change) :
    (ns.modify category name (·.updateAttributes (·.change ch))).property? c n =
      (ns.property? c n).map fun p =>
        p.updateAttributes
          (·.changeAll (if c = category ∧ n = name then some ch else none).toList) := by
  rw [property?_modify]
  by_cases hkey : c = category ∧ n = name
  · rw [if_pos hkey, if_pos hkey]
    rfl
  · rw [if_neg hkey, if_neg hkey]
    exact Option.map_id_apply.symm

theorem property?_advance (ns : Namespace) (step : Step) (c n : String) :
    (ns.advance step).property? c n =
      (ns.property? c n).map fun p =>
        p.updateAttributes (·.changeAll (changeOf c n ns step).toList) := by
  cases step with
  | set category name attr value =>
      rw [advance_of_apply_eq_update rfl]
      exact property?_modify_change ns category name c n (.set attr value)
  | reset category name =>
      rw [advance_of_apply_eq_update rfl]
      exact property?_modify_change ns category name c n .reset
  | resetAll => exact property?_resetAll ns c n
  | duplicate => exact Option.map_id_apply.symm
  | pipe fromCategory fromName category name attr =>
      rw [advance_pipe, changeOf]
      cases ns.property? fromCategory fromName with
      | some p => exact property?_modify_change ns category name c n (.set attr p.current)
      | none =>
          rw [Option.map_none, ite_self]
          exact Option.map_id_apply.symm

theorem resetAll_modify_change (ns : Namespace) (category name : String) (ch : Change) :
    (ns.modify category name (·.updateAttributes (·.change ch))).resetAll = ns.resetAll := by
  have hproperty (p : Property) :
      (p.updateAttributes (·.change ch)).resetAttributes = p.resetAttributes := by
    cases ch <;> rfl
  have hgroups := OrderedMap.mapValues_modify
    (OrderedMap.mapValues_modify hproperty · name) ns.groups category
  rw [resetAll, resetAll, modify, hgroups]

theorem resetAll_resetAll (ns : Namespace) : ns.resetAll.resetAll = ns.resetAll := by
  simp only [resetAll, OrderedMap.mapValues, List.map_map, Function.comp_def]
  rfl

/-- No step is seen once every override has been dropped. -/
theorem resetAll_advance (ns : Namespace) (step : Step) :
    (ns.advance step).resetAll = ns.resetAll := by
  cases step with
  | set category name attr value =>
      rw [advance_of_apply_eq_update rfl]
      exact resetAll_modify_change ns category name (.set attr value)
  | reset category name =>
      rw [advance_of_apply_eq_update rfl]
      exact resetAll_modify_change ns category name .reset
  | resetAll => exact resetAll_resetAll ns
  | duplicate => rfl
  | pipe fromCategory fromName category name attr =>
      rw [advance_pipe]
      cases ns.property? fromCategory fromName with
      | some p => exact resetAll_modify_change ns category name (.set attr p.current)
      | none => rfl

end Namespace

end PropertyMacros
