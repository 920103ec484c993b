import PropertyMacros.Proofs.Namespace.Equality
import PropertyMacros.Proofs.Namespace.Registry

/-!
Prototypes by their overrides. The overrides are judged one by one, and the first that names nothing
declared is the fault. Otherwise each attribute gets the last default that was given for it, so only
the order among overrides of one attribute can be seen.
-/

namespace PropertyMacros

namespace DefaultOverride

/-- What the override is for: an attribute of a property of a category. -/
def target (o : DefaultOverride) : String × String × String := (o.category, o.name, o.attr)

/-- The last value that the overrides give for a target. -/
def lastFor? (target : String × String × String) (overrides : List DefaultOverride) :
    Option String :=
  (overrides.filter fun o => o.target = target).getLast?.map DefaultOverride.value

theorem lastValue?_pairsFor (c n attr : String) (overrides : List DefaultOverride) :
    OrderedMap.lastValue? attr (pairsFor c n overrides) = lastFor? (c, n, attr) overrides := by
  have htarget (o : DefaultOverride) :
      (decide (o.attr = attr) && decide (o.category = c ∧ o.name = n)) =
        decide (o.target = (c, n, attr)) := by
    rw [← Bool.decide_and, decide_eq_decide, target, Prod.mk.injEq, Prod.mk.injEq]
    tauto
  rw [OrderedMap.lastValue?, pairsFor, lastFor?, List.filter_map, List.filter_filter,
    List.getLast?_map, Option.map_map]
  simp only [Function.comp_def, htarget]

/-- The same overrides for each target in the same order, whatever stands between them. -/
def SameByTarget (xs ys : List DefaultOverride) : Prop :=
  ∀ target, (xs.filter fun o => o.target = target) = ys.filter fun o => o.target = target

namespace SameByTarget

variable {xs ys : List DefaultOverride}

theorem mem_iff (h : SameByTarget xs ys) (o : DefaultOverride) : o ∈ xs ↔ o ∈ ys := by
  have hmem (zs : List DefaultOverride) : o ∈ zs ↔ o ∈ zs.filter fun x => x.target = o.target := by
    simp
  rw [hmem xs, h o.target, ← hmem ys]

theorem lastFor?_eq (h : SameByTarget xs ys) (target : String × String × String) :
    lastFor? target xs = lastFor? target ys := by
  rw [lastFor?, lastFor?, h target]

theorem swap {o o' : DefaultOverride} (h : o.target ≠ o'.target)
    (before after : List DefaultOverride) :
    SameByTarget (before ++ o :: o' :: after) (before ++ o' :: o :: after) := by
  intro target
  simp only [List.filter_append, List.filter_cons]
  by_cases ho : o.target = target
  · have ho' : o'.target ≠ target := fun heq => h (ho.trans heq.symm)
    simp [ho, ho']
  · simp [ho]

/-- Overrides of different targets can be given in any order. -/
theorem of_perm (h : xs.Perm ys) (hnodup : (xs.map DefaultOverride.target).Nodup) :
    SameByTarget xs ys := by
  induction h with
  | nil => exact fun _ => rfl
  | cons o _ ih =>
      intro target
      rw [List.filter_cons, List.filter_cons, ih (List.nodup_cons.mp hnodup).2 target]
  | swap o o' rest =>
      have hne : o'.target ≠ o.target := fun heq =>
        (List.nodup_cons.mp hnodup).1 (List.mem_cons.mpr (.inl heq))
      exact swap hne [] rest
  | trans h₁ _ ih₁ ih₂ =>
      intro target
      rw [ih₁ hnodup target, ih₂ ((h₁.map DefaultOverride.target).nodup_iff.mp hnodup) target]

end SameByTarget

end DefaultOverride

open DefaultOverride (lastFor? SameByTarget)

namespace Namespace

theorem sameState_foldl_replaceDefault {xs ys : List DefaultOverride} (h : SameByTarget xs ys)
    (ns : Namespace) :
    (xs.foldl replaceDefault ns).SameState (ys.foldl replaceDefault ns) := by
  constructor
  · intro c
    simp only [categories_eq_map_layout, layout_foldl_replaceDefault]
  · intro c n
    rw [property?_foldl_replaceDefault, property?_foldl_replaceDefault, Option.map_map,
      Option.map_map]
    congr 1
    funext p
    simp only [Function.comp_apply, Property.state, Property.updateAttributes,
      Property.State.mk.injEq, Attributes.setDefaults, true_and, and_true]
    funext attr
    rw [OrderedMap.get?_insertAll, OrderedMap.get?_insertAll, DefaultOverride.lastValue?_pairsFor,
      DefaultOverride.lastValue?_pairsFor, h.lastFor?_eq]

end Namespace

end PropertyMacros
