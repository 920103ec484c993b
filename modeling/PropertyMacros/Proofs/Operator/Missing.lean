import PropertyMacros.Proofs.Operator.Observation
import PropertyMacros.Property

/-!
Missing attributes. An operator that is applied without a look at what is there reports at most one
attribute as missing, a declared one that does not resolve. So a property whose attributes all
resolve never reports any, and otherwise it reports the list of all that do not.
-/

namespace PropertyMacros

/-- The attribute has neither an override nor a default. -/
def Attributes.Lacks (attrs : Attributes) (name : String) : Prop :=
  attrs.overrides.get? name = none ∧ attrs.defaults.get? name = none

instance (attrs : Attributes) : DecidablePred attrs.Lacks :=
  fun _ => inferInstanceAs (Decidable (_ ∧ _))

theorem Attributes.get?_eq_none_iff {attrs : Attributes} {name : String} :
    attrs.get? name = none ↔ attrs.Lacks name :=
  Option.or_eq_none_iff

theorem Attributes.missing_eq_filter (attrs : Attributes) (schema : Schema) :
    attrs.missing schema = schema.names.filter (attrs.Lacks ·) := by
  apply List.filter_congr
  intro name _
  rw [Bool.eq_iff_iff, Option.isNone_iff_eq_none, get?_eq_none_iff, decide_eq_true_iff]

/-- What a result reports as missing is one of the names, and lacking. -/
def Attributes.Blames (attrs : Attributes) (names : List String) {α : Type}
    (result : Except EvalError α) : Prop :=
  ∀ missing, result = .error (.missingAttributes missing) →
    ∃ name ∈ names, attrs.Lacks name ∧ missing = [name]

namespace Attributes.Blames

variable {attrs : Attributes} {names : List String} {name : String} {α β : Type}

theorem ok (a : α) : attrs.Blames names (.ok a : Except EvalError α) := by
  rintro missing ⟨⟩

theorem invalidOperand (text expected : String) :
    attrs.Blames names (.error (.invalidOperand name text expected) : Except EvalError α) := by
  rintro missing ⟨⟩

theorem bind {x : Except EvalError α} {f : α → Except EvalError β} (hx : attrs.Blames names x)
    (hf : ∀ a, attrs.Blames names (f a)) : attrs.Blames names (x >>= f) := by
  cases x with
  | ok a => exact hf a
  | error error =>
      rintro missing ⟨⟩
      exact hx missing rfl

theorem require (h : name ∈ names) : attrs.Blames names (attrs.require name) := by
  intro missing hmissing
  unfold Attributes.require at hmissing
  cases hget : attrs.get? name with
  | some value =>
      rw [hget] at hmissing
      cases hmissing
  | none =>
      rw [hget] at hmissing
      cases hmissing
      exact ⟨name, h, get?_eq_none_iff.mp hget, rfl⟩

theorem number (h : name ∈ names) : attrs.Blames names (attrs.number name) := by
  refine (require h).bind fun text => ?_
  cases Number.read? text.toList with
  | some value => exact ok value
  | none => exact invalidOperand _ _

theorem index (h : name ∈ names) : attrs.Blames names (attrs.index name) := by
  refine (require h).bind fun text => ?_
  cases readIndex? text.toList with
  | some value => exact ok value
  | none => exact invalidOperand _ _

theorem nonEmpty (h : name ∈ names) : attrs.Blames names (attrs.nonEmpty name) := by
  refine (require h).bind fun text => ?_
  split
  · exact invalidOperand _ _
  · exact ok text.toList

theorem truth (h : name ∈ names) : attrs.Blames names (attrs.truth name) :=
  (require h).bind fun text => ok (truthOf text)

end Attributes.Blames

namespace Operator

open Attributes (Blames)

variable {attrs : Attributes}

theorem blames_arithmetic {compute : Number → Number → Except EvalError Number}
    (h : ∀ a b, attrs.Blames binarySchema.names (compute a b)) :
    attrs.Blames binarySchema.names (arithmetic attrs compute) := by
  refine (Blames.number (by decide)).bind fun a => ?_
  refine (Blames.number (by decide)).bind fun b => ?_
  exact (h a b).bind fun c => .ok _

theorem blames_quotient (names : List String) (a b : Number) :
    attrs.Blames names (quotient a b) := by
  unfold quotient
  cases a.div? b with
  | some value => exact .ok value
  | none => rintro missing ⟨⟩

theorem blames_comparison (holds : Ordering → Bool) :
    attrs.Blames binarySchema.names (comparison attrs holds) := by
  refine (Blames.number (by decide)).bind fun a => ?_
  refine (Blames.number (by decide)).bind fun b => ?_
  exact .ok _

theorem blames_equality : attrs.Blames binarySchema.names (equality attrs) := by
  refine (Blames.require (by decide)).bind fun a => ?_
  refine (Blames.require (by decide)).bind fun b => ?_
  exact .ok _

theorem blames_connective (combine : Bool → Bool → Bool) :
    attrs.Blames binarySchema.names (connective attrs combine) := by
  refine (Blames.truth (by decide)).bind fun a => ?_
  refine (Blames.truth (by decide)).bind fun b => ?_
  exact .ok _

theorem blames_countElements : attrs.Blames count.schema.names (countElements attrs) := by
  refine (Blames.require (by decide)).bind fun list => ?_
  split
  · exact .ok _
  · exact (Blames.nonEmpty (by decide)).bind fun sep => .ok _

theorem blames_choose : attrs.Blames ifThenElse.schema.names (choose attrs) := by
  refine (Blames.truth (by decide)).bind fun cond => ?_
  split
  · exact .require (by decide)
  · exact .require (by decide)

theorem blames_replaceAll : attrs.Blames replaceString.schema.names (replaceAll attrs) := by
  refine (Blames.nonEmpty (by decide)).bind fun old => ?_
  refine (Blames.require (by decide)).bind fun text => ?_
  exact (Blames.require (by decide)).bind fun new => .ok _

theorem blames_window : attrs.Blames sublist.schema.names (window attrs) := by
  refine (Blames.nonEmpty (by decide)).bind fun sep => ?_
  refine (Blames.index (by decide)).bind fun index => ?_
  refine (Blames.index (by decide)).bind fun number => ?_
  exact (Blames.require (by decide)).bind fun list => .ok _

theorem blames_reseparate : attrs.Blames changeSeparator.schema.names (reseparate attrs) := by
  refine (Blames.nonEmpty (by decide)).bind fun old => ?_
  refine (Blames.require (by decide)).bind fun list => ?_
  exact (Blames.require (by decide)).bind fun new => .ok _

/-- No operator reads an attribute that it does not declare. -/
theorem blames_evaluate (op : Operator) (attrs : Attributes) :
    attrs.Blames op.schema.names (op.evaluate attrs) := by
  cases op with
  | add | sub | mul => exact blames_arithmetic fun a b => .ok _
  | div => exact blames_arithmetic (blames_quotient _)
  | gt | gte | lt | lte => exact blames_comparison _
  | eq | neq => exact blames_equality.bind fun equal => .ok _
  | not => exact (Blames.truth (by decide)).bind fun value => .ok _
  | and | or => exact blames_connective _
  | strLen => exact (Blames.require (by decide)).bind fun text => .ok _
  | count => exact blames_countElements
  | ifThenElse => exact blames_choose
  | replaceString => exact blames_replaceAll
  | sublist => exact blames_window
  | changeSeparator => exact blames_reseparate
  | pathSeparator | fileSeparator | lineSeparator | osName | osArch => exact .ok _

/-- Where every declared attribute resolves, none is reported. -/
theorem evaluate_ne_missingAttributes {op : Operator} {attrs : Attributes}
    (h : ∀ name ∈ op.schema.names, ¬attrs.Lacks name) (names : List String) :
    op.evaluate attrs ≠ .error (.missingAttributes names) := by
  intro heval
  obtain ⟨name, hmem, hlacks, -⟩ := blames_evaluate op attrs names heval
  exact h name hmem hlacks

end Operator

theorem Property.missing_eq_filter (p : Property) :
    p.missing = p.schema.names.filter (p.attributes.Lacks ·) :=
  p.attributes.missing_eq_filter p.schema

/-- A property reports all of its missing attributes at once, and reports them whenever there are
any. -/
theorem Property.evaluate_eq_missing_iff {p : Property} {names : List String} :
    p.evaluate = .error (.missingAttributes names) ↔ p.missing = names ∧ names ≠ [] := by
  unfold evaluate
  cases hmissing : p.missing with
  | cons name rest =>
      simp only [Except.error.injEq, EvalError.missingAttributes.injEq]
      constructor
      · rintro rfl
        exact ⟨rfl, List.cons_ne_nil _ _⟩
      · rintro ⟨rfl, -⟩
        rfl
  | nil =>
      have hresolve : ∀ name ∈ p.schema.names, ¬p.attributes.Lacks name := by
        rw [missing_eq_filter, List.filter_eq_nil_iff] at hmissing
        simpa using hmissing
      constructor
      · intro heval
        exact absurd heval (Operator.evaluate_ne_missingAttributes hresolve names)
      · rintro ⟨rfl, hne⟩
        exact absurd rfl hne

/-- A property reports missing attributes exactly if some declared one is lacking, and then all that
are, in the order of declaration. An operator on its own reports none if all resolve, and never more
than one. -/
theorem Operator.missingAttributes_iff_lacks (op : Operator) (attrs : Attributes) :
    ((∃ names, (⟨op, attrs⟩ : Property).evaluate = .error (.missingAttributes names)) ↔
      ∃ name ∈ op.schema.names, attrs.Lacks name) ∧
    (∀ names, (⟨op, attrs⟩ : Property).evaluate = .error (.missingAttributes names) →
      names = op.schema.names.filter (attrs.Lacks ·)) ∧
    ((∀ name ∈ op.schema.names, ¬attrs.Lacks name) →
      ∀ names, op.evaluate attrs ≠ .error (.missingAttributes names)) ∧
    (∀ names, op.evaluate attrs = .error (.missingAttributes names) →
      ∃ name ∈ op.schema.names, attrs.Lacks name ∧ names = [name]) := by
  have hmissing : (⟨op, attrs⟩ : Property).missing = op.schema.names.filter (attrs.Lacks ·) :=
    Property.missing_eq_filter _
  refine ⟨?_, ?_, evaluate_ne_missingAttributes, blames_evaluate op attrs⟩
  · simp only [Property.evaluate_eq_missing_iff, hmissing, exists_eq_left', ne_eq,
      List.filter_eq_nil_iff, Classical.not_forall, decide_eq_true_eq, Classical.not_not,
      exists_prop]
  · intro names heval
    rw [Property.evaluate_eq_missing_iff, hmissing] at heval
    exact heval.1.symm

/-- A window that has got no default and nothing but its list, and one that has got everything. -/
theorem Operator.missingAttributes_iff_lacks_window :
    let attrs := Attributes.empty.set "list" "a:b"
    let complete := attrs.setAll [("index", "1"), ("count", "x"), ("sep", ":")]
    (⟨sublist, attrs⟩ : Property).evaluate =
        .error (.missingAttributes ["index", "count", "sep"]) ∧
      ["index", "count", "sep"] = sublist.schema.names.filter (attrs.Lacks ·) ∧
      sublist.evaluate attrs = .error (.missingAttributes ["sep"]) ∧
      (∃ name ∈ sublist.schema.names, attrs.Lacks name ∧ ["sep"] = [name]) ∧
      (∀ name ∈ sublist.schema.names, ¬complete.Lacks name) ∧
      ∀ names, sublist.evaluate complete ≠ .error (.missingAttributes names) := by
  intro attrs complete
  have hproperty : (⟨sublist, attrs⟩ : Property).evaluate =
      .error (.missingAttributes ["index", "count", "sep"]) := rfl
  have hoperator : sublist.evaluate attrs = .error (.missingAttributes ["sep"]) := rfl
  have hcomplete : ∀ name ∈ sublist.schema.names, ¬complete.Lacks name := by decide
  obtain ⟨-, hnames, -, hsingle⟩ := missingAttributes_iff_lacks sublist attrs
  obtain ⟨-, -, hnone, -⟩ := missingAttributes_iff_lacks sublist complete
  exact ⟨hproperty, hnames _ hproperty, hoperator, hsingle _ hoperator, hcomplete,
    hnone hcomplete⟩

end PropertyMacros
