import Mathlib.Data.List.DropRight
import Mathlib.Data.List.Nodup
import PropertyMacros.Attributes
import PropertyMacros.Proofs.OrderedMap

/-!
Attributes after a series of changes. Of the values written to one layer the last one counts, and
the overrides stand before the defaults whenever either was written.
-/

namespace PropertyMacros.Attributes

theorem setAll_eq (attrs : Attributes) (pairs : List (String × String)) :
    attrs.setAll pairs = { attrs with overrides := attrs.overrides.insertAll pairs } := by
  induction pairs generalizing attrs with
  | nil => rfl
  | cons pair pairs ih => exact ih (attrs.set pair.1 pair.2)

theorem get?_setAll (attrs : Attributes) (pairs : List (String × String)) (name : String) :
    (attrs.setAll pairs).get? name = (OrderedMap.lastValue? name pairs).or (attrs.get? name) := by
  rw [setAll_eq, get?, OrderedMap.get?_insertAll, Option.or_assoc]
  rfl

theorem get?_of_overrides_eq_empty {attrs : Attributes} (h : attrs.overrides = .empty)
    (name : String) : attrs.get? name = attrs.default? name := by
  rw [get?, h, OrderedMap.get?_empty, Option.none_or]

/-- Replaces defaults one after the other. -/
def setDefaults (attrs : Attributes) (pairs : List (String × String)) : Attributes :=
  { attrs with defaults := attrs.defaults.insertAll pairs }

theorem default?_setDefaults (attrs : Attributes) (pairs : List (String × String))
    (name : String) :
    (attrs.setDefaults pairs).default? name =
      (OrderedMap.lastValue? name pairs).or (attrs.default? name) :=
  OrderedMap.get?_insertAll attrs.defaults pairs name

/-! ## Declared defaults -/

theorem default?_ofSchema (schema : Schema) (name : String) :
    (ofSchema schema).default? name = OrderedMap.lastValue? name schema.defaults :=
  OrderedMap.get?_ofList schema.defaults name

/-- What can happen to the overrides. -/
inductive Change where
  | set (name value : String)
  | reset
  deriving DecidableEq, Repr

/-- What is written by a change. -/
def Change.pair? : Change → Option (String × String)
  | set name value => some (name, value)
  | reset => none

/-- Applies a change. -/
def change (attrs : Attributes) : Change → Attributes
  | .set name value => attrs.set name value
  | .reset => attrs.reset

/-- Applies the changes one after the other. -/
def changeAll (attrs : Attributes) (changes : List Change) : Attributes :=
  changes.foldl change attrs

/-- What has been written since the last reset, in order. -/
def writes (changes : List Change) : List (String × String) :=
  (changes.rtakeWhile (· ≠ .reset)).filterMap Change.pair?

theorem writes_concat_set (changes : List Change) (name value : String) :
    writes (changes ++ [.set name value]) = writes changes ++ [(name, value)] := by
  rw [writes, List.rtakeWhile_concat_pos _ _ _ (by simp), List.filterMap_append]
  rfl

theorem writes_concat_reset (changes : List Change) : writes (changes ++ [.reset]) = [] := by
  rw [writes, List.rtakeWhile_concat_neg _ _ _ (by simp)]
  rfl

theorem changeAll_append (attrs : Attributes) (xs ys : List Change) :
    attrs.changeAll (xs ++ ys) = (attrs.changeAll xs).changeAll ys :=
  List.foldl_append

theorem defaults_change (attrs : Attributes) (ch : Change) :
    (attrs.change ch).defaults = attrs.defaults := by
  cases ch <;> rfl

theorem defaults_changeAll (attrs : Attributes) (changes : List Change) :
    (attrs.changeAll changes).defaults = attrs.defaults := by
  induction changes generalizing attrs with
  | nil => rfl
  | cons ch changes ih => exact (ih (attrs.change ch)).trans (attrs.defaults_change ch)

/-- Without overrides at first, those at last are what has been written since the last reset. -/
theorem overrides_changeAll {attrs : Attributes} (h : attrs.overrides = .empty)
    (changes : List Change) :
    (attrs.changeAll changes).overrides = .ofList (writes changes) := by
  induction changes using List.reverseRecOn with
  | nil => exact h
  | append_singleton changes ch ih =>
      rw [changeAll_append]
      cases ch with
      | set name value =>
          rw [writes_concat_set, OrderedMap.ofList, OrderedMap.insertAll_concat]
          exact congrArg (·.insert name value) ih
      | reset =>
          rw [writes_concat_reset]
          rfl

theorem get?_overrides_changeAll {attrs : Attributes} (h : attrs.overrides = .empty)
    (changes : List Change) (name : String) :
    (attrs.changeAll changes).overrides.get? name =
      OrderedMap.lastValue? name (writes changes) := by
  rw [overrides_changeAll h, OrderedMap.get?_ofList]

/-! ## Repeated names -/

/-- The default of the last entry of a name that has one. -/
def lastDefault? (schema : Schema) (name : String) : Option String :=
  ((schema.filter fun spec => spec.name = name).filterMap AttributeSpec.default?).getLast?

theorem lastDefault?_eq_none_iff {schema : Schema} {name : String} :
    lastDefault? schema name = none ↔
      ∀ spec ∈ schema, spec.name = name → spec.default? = none := by
  rw [lastDefault?, List.getLast?_eq_none_iff, List.filterMap_eq_nil_iff]
  simp only [List.mem_filter, decide_eq_true_eq, and_imp]

/-- Entries without a default neither give one nor take one away. -/
theorem lastValue?_defaults (schema : Schema) (name : String) :
    OrderedMap.lastValue? name schema.defaults = lastDefault? schema name := by
  rw [OrderedMap.lastValue?, ← List.getLast?_map, lastDefault?]
  congr 1
  induction schema with
  | nil => rfl
  | cons spec schema ih =>
      obtain ⟨specName, default?⟩ := spec
      by_cases hname : specName = name <;> cases default? <;>
        simpa [Schema.defaults, hname] using ih

/-- The attributes hold the defaults of the schema and, over them, what has been written. -/
structure Remembers (schema : Schema) (pairs : List (String × String)) (attrs : Attributes) :
    Prop where
  default?_eq : ∀ name, attrs.default? name = lastDefault? schema name
  get?_eq : ∀ name,
    attrs.get? name = (OrderedMap.lastValue? name pairs).or (lastDefault? schema name)
  missing_eq : attrs.missing schema = schema.names.filter fun name =>
    (∀ spec ∈ schema, spec.name = name → spec.default? = none) ∧ name ∉ pairs.map Prod.fst
  keys_overrides : attrs.overrides.keys = (pairs.map Prod.fst).eraseDups
  nodup_overrides : attrs.overrides.keys.Nodup
  get?_overrides : ∀ name, attrs.overrides.get? name = OrderedMap.lastValue? name pairs
  eq_ofSchema_iff : attrs = ofSchema schema ↔ pairs = []
  beq_ofSchema_iff : (attrs == ofSchema schema) = true ↔ pairs = []

theorem eq_nil_of_ofList_get?_eq {pairs : List (String × String)}
    (h : (OrderedMap.ofList pairs).get? = (OrderedMap.empty : OrderedMap String String).get?) :
    pairs = [] := by
  rw [List.eq_nil_iff_forall_not_mem]
  rintro ⟨name, value⟩ hmem
  have hname := congrFun h name
  rw [OrderedMap.get?_ofList, OrderedMap.get?_empty, OrderedMap.lastValue?_eq_none_iff] at hname
  exact hname (List.mem_map_of_mem hmem)

/-- Whatever the schema repeats, a row of changes leaves its defaults as they are, and the values
that have been written since the last reset. -/
theorem remembers_changeAll (schema : Schema) (changes : List Change) :
    Remembers schema (writes changes) ((ofSchema schema).changeAll changes) := by
  have hdefaults := defaults_changeAll (ofSchema schema) changes
  have hoverrides : ((ofSchema schema).changeAll changes).overrides = .ofList (writes changes) :=
    overrides_changeAll rfl changes
  have hdefault (name : String) : ((ofSchema schema).changeAll changes).default? name =
      lastDefault? schema name := by
    rw [default?, hdefaults, ← lastValue?_defaults]
    exact default?_ofSchema schema name
  have hoverride (name : String) : ((ofSchema schema).changeAll changes).overrides.get? name =
      OrderedMap.lastValue? name (writes changes) := get?_overrides_changeAll rfl changes name
  have hget (name : String) : ((ofSchema schema).changeAll changes).get? name =
      (OrderedMap.lastValue? name (writes changes)).or (lastDefault? schema name) := by
    rw [get?, hoverride, hdefault]
  have heq (h : writes changes = []) :
      (ofSchema schema).changeAll changes = ofSchema schema := by
    rw [h] at hoverrides
    exact congrArg₂ Attributes.mk hdefaults hoverrides
  have hbeq : ((ofSchema schema).changeAll changes == ofSchema schema) = true ↔
      writes changes = [] := by
    change (_ == _ && _ == _) = true ↔ _
    rw [Bool.and_eq_true, OrderedMap.beq_iff_get?_eq, OrderedMap.beq_iff_get?_eq]
    constructor
    · rintro ⟨-, h⟩
      rw [hoverrides] at h
      exact eq_nil_of_ofList_get?_eq h
    · intro h
      rw [heq h]
      exact ⟨rfl, rfl⟩
  constructor
  case default?_eq => exact hdefault
  case get?_eq => exact hget
  case missing_eq =>
    apply List.filter_congr
    intro name _
    rw [hget, Bool.eq_iff_iff, Option.isNone_iff_eq_none, Option.or_eq_none_iff,
      OrderedMap.lastValue?_eq_none_iff, lastDefault?_eq_none_iff, and_comm, decide_eq_true_eq]
  case keys_overrides => rw [hoverrides, OrderedMap.keys_ofList]
  case nodup_overrides => exact OrderedMap.nodup_keys _
  case get?_overrides => exact hoverride
  case eq_ofSchema_iff =>
    refine ⟨fun h => ?_, heq⟩
    rw [h] at hoverrides
    exact eq_nil_of_ofList_get?_eq (congrArg OrderedMap.get? hoverrides.symm)
  case beq_ofSchema_iff => exact hbeq

/-- An entry without a default stands between two that have one, and a required one stands twice. -/
example :
    let schema : Schema :=
      [⟨"sep", some ":"⟩, ⟨"list", none⟩, ⟨"sep", some ";"⟩, ⟨"sep", none⟩, ⟨"list", none⟩]
    let attrs := (ofSchema schema).changeAll [.set "list" "a", .reset, .set "sep" ","]
    attrs.default? "sep" = some ";" ∧ attrs.get? "sep" = some "," ∧
      attrs.missing schema = ["list", "list"] := by decide

end PropertyMacros.Attributes
