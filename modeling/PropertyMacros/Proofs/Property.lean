import PropertyMacros.Proofs.Attributes
import PropertyMacros.Proofs.Operator.Observation
import PropertyMacros.Property

/-!
Properties that no evaluation can tell apart, and properties that compare equal. Equality sees the
operator, and for every name the default and the override; the order in which they were set is lost
on it.
-/

namespace PropertyMacros.Property

/-- The same operator, whose declared attributes resolve to the same values. -/
structure Alike (p q : Property) : Prop where
  operator_eq : p.operator = q.operator
  agree : Attributes.Agree p.schema.names p.attributes q.attributes

namespace Alike

variable {p q : Property}

theorem schema_eq (h : Alike p q) : p.schema = q.schema :=
  congrArg Operator.schema h.operator_eq

theorem name_eq (h : Alike p q) : p.name = q.name :=
  congrArg Operator.name h.operator_eq

theorem missing_eq (h : Alike p q) : p.missing = q.missing := by
  rw [missing, missing, h.agree.missing_eq, h.schema_eq]

theorem evaluate_eq (h : Alike p q) : p.evaluate = q.evaluate := by
  have hvalue : p.operator.evaluate p.attributes = q.operator.evaluate q.attributes := by
    rw [← h.operator_eq]
    exact Operator.evaluate_congr h.agree
  rw [evaluate, evaluate, h.missing_eq, hvalue]

theorem isComplete_eq (h : Alike p q) : p.isComplete = q.isComplete := by
  rw [isComplete, isComplete, h.missing_eq]

theorem current_eq (h : Alike p q) : p.current = q.current := by
  rw [current, current, h.evaluate_eq, h.name_eq]

end Alike

theorem evaluate_of_isComplete {p : Property} (h : p.isComplete = true) :
    p.evaluate = p.operator.evaluate p.attributes := by
  rw [evaluate, List.isEmpty_iff.mp h]

/-- A complete choice comes to the text of the branch that its condition selects. -/
theorem evaluate_ifThenElse {attrs : Attributes} (h : (⟨.ifThenElse, attrs⟩ : Property).isComplete)
    {cond : String} (hcond : attrs.get? "cond" = some cond) :
    (⟨.ifThenElse, attrs⟩ : Property).evaluate = attrs.require (Operator.branch cond) := by
  rw [evaluate_of_isComplete h]
  exact Operator.choose_eq_require hcond

/-- Evaluation observes the values of the declared attributes and nothing else, and a complete
choice observes of its branches only the one that its condition selects. -/
theorem evaluate_noninterference :
    (∀ (op : Operator) (a b : Attributes), Attributes.Agree op.schema.names a b →
      (⟨op, a⟩ : Property).evaluate = (⟨op, b⟩ : Property).evaluate ∧
      (⟨op, a⟩ : Property).current = (⟨op, b⟩ : Property).current ∧
      (⟨op, a⟩ : Property).isComplete = (⟨op, b⟩ : Property).isComplete ∧
      (⟨op, a⟩ : Property).missing = (⟨op, b⟩ : Property).missing) ∧
    ∀ (a b : Attributes) (cond : String), (⟨.ifThenElse, a⟩ : Property).isComplete →
      (⟨.ifThenElse, b⟩ : Property).isComplete →
      a.get? "cond" = some cond → b.get? "cond" = some cond →
      a.get? (Operator.branch cond) = b.get? (Operator.branch cond) →
      (⟨.ifThenElse, a⟩ : Property).evaluate = (⟨.ifThenElse, b⟩ : Property).evaluate ∧
      (⟨.ifThenElse, a⟩ : Property).current = (⟨.ifThenElse, b⟩ : Property).current := by
  constructor
  · intro op a b h
    have halike : (⟨op, a⟩ : Property).Alike ⟨op, b⟩ := ⟨rfl, h⟩
    exact ⟨halike.evaluate_eq, halike.current_eq, halike.isComplete_eq, halike.missing_eq⟩
  · intro a b cond ha hb hacond hbcond hbranch
    have hevaluate : (⟨.ifThenElse, a⟩ : Property).evaluate =
        (⟨.ifThenElse, b⟩ : Property).evaluate := by
      rw [evaluate_ifThenElse ha hacond, evaluate_ifThenElse hb hbcond, Attributes.require,
        Attributes.require, hbranch]
    refine ⟨hevaluate, ?_⟩
    rw [current, current, hevaluate]
    rfl

/-- A window with two of its attributes left at their defaults and one that nobody declares, the
same window without any default, and two choices that differ in the branch not taken. -/
theorem evaluate_noninterference_window :
    let window := (Attributes.ofSchema Operator.sublist.schema).setAll
      [("list", "a:b:c"), ("colour", "blue"), ("index", "1")]
    let spelt := Attributes.empty.setAll
      [("index", "7"), ("sep", ":"), ("count", "1"), ("list", "a:b:c"), ("index", "1")]
    let choice := (Attributes.ofSchema Operator.ifThenElse.schema).setAll
      [("cond", "True"), ("then", "x")]
    let other := choice.set "else" "y"
    Attributes.Agree Operator.sublist.schema.names window spelt ∧
      (⟨.sublist, window⟩ : Property).evaluate = (⟨.sublist, spelt⟩ : Property).evaluate ∧
      (⟨.ifThenElse, choice⟩ : Property).isComplete ∧
      (⟨.ifThenElse, other⟩ : Property).isComplete ∧
      choice.get? (Operator.branch "True") = other.get? (Operator.branch "True") ∧
      ¬Attributes.Agree Operator.ifThenElse.schema.names choice other ∧
      (⟨.ifThenElse, choice⟩ : Property).evaluate = (⟨.ifThenElse, other⟩ : Property).evaluate := by
  intro window spelt choice other
  have hagree : Attributes.Agree Operator.sublist.schema.names window spelt := by
    show ∀ name ∈ Operator.sublist.schema.names, window.get? name = spelt.get? name
    decide
  have hdiffer : ¬Attributes.Agree Operator.ifThenElse.schema.names choice other := by
    show ¬∀ name ∈ Operator.ifThenElse.schema.names, choice.get? name = other.get? name
    decide
  have hbranch : choice.get? (Operator.branch "True") = other.get? (Operator.branch "True") := rfl
  obtain ⟨hdeclared, hchoice⟩ := evaluate_noninterference
  exact ⟨hagree, (hdeclared _ _ _ hagree).1, rfl, rfl, hbranch, hdiffer,
    (hchoice choice other "True" rfl rfl rfl rfl hbranch).1⟩

/-- Replaced defaults can as well be set before everything else. -/
theorem alike_setDefaults_setAll (op : Operator)
    (defaults assignments : List (String × String)) :
    Alike (((ofOperator op).updateAttributes (·.setDefaults defaults)).updateAttributes
        (·.setAll assignments))
      ((ofOperator op).updateAttributes (·.setAll (defaults ++ assignments))) := by
  refine ⟨rfl, ?_⟩
  intro name _
  change (((Attributes.ofSchema op.schema).setDefaults defaults).setAll assignments).get? name =
    ((Attributes.ofSchema op.schema).setAll (defaults ++ assignments)).get? name
  rw [Attributes.get?_setAll, Attributes.get?_setAll, OrderedMap.lastValue?_append,
    Option.or_assoc]
  congr 1
  exact Attributes.default?_setDefaults (.ofSchema op.schema) defaults name

/-! ## Equality -/

/-- What equality sees of a property. -/
structure State where
  operator : Operator
  default? : String → Option String
  override? : String → Option String

def state (p : Property) : State :=
  ⟨p.operator, p.attributes.defaults.get?, p.attributes.overrides.get?⟩

theorem beq_iff_state_eq {p q : Property} : (p == q) = true ↔ p.state = q.state := by
  change (p.operator == q.operator && (p.attributes.defaults == q.attributes.defaults &&
    p.attributes.overrides == q.attributes.overrides)) = true ↔ _
  rw [Bool.and_eq_true, Bool.and_eq_true, beq_iff_eq, OrderedMap.beq_iff_get?_eq,
    OrderedMap.beq_iff_get?_eq, state, state, State.mk.injEq]

/-- Nothing that can be read from the properties tells them apart. -/
structure ReadsLike (p q : Property) : Prop where
  evaluate_eq : p.evaluate = q.evaluate
  current_eq : p.current = q.current
  missing_eq : p.missing = q.missing
  required_eq : p.required = q.required
  attribute?_eq : ∀ attr, p.attribute? attr = q.attribute? attr

section

variable {p q : Property} (h : p.state = q.state)

include h

theorem attribute?_eq_of_state_eq (attr : String) : p.attribute? attr = q.attribute? attr := by
  obtain ⟨-, hdefaults, hoverrides⟩ := State.mk.inj h
  rw [attribute?, attribute?, Attributes.get?, Attributes.get?, hoverrides]
  exact congrArg (Option.or _) (congrFun hdefaults attr)

theorem required_eq_of_state_eq : p.required = q.required := by
  obtain ⟨hoperator, hdefaults, -⟩ := State.mk.inj h
  have hschema : p.schema = q.schema := congrArg Operator.schema hoperator
  rw [required, required, hschema]
  apply List.filter_congr
  intro attr _
  exact congrArg Option.isNone (congrFun hdefaults attr)

theorem readsLike_of_state_eq : p.ReadsLike q := by
  have halike : p.Alike q :=
    ⟨(State.mk.inj h).1, fun attr _ => attribute?_eq_of_state_eq h attr⟩
  exact ⟨halike.evaluate_eq, halike.current_eq, halike.missing_eq, required_eq_of_state_eq h,
    attribute?_eq_of_state_eq h⟩

theorem state_change_congr (ch : Attributes.Change) :
    (p.updateAttributes (·.change ch)).state = (q.updateAttributes (·.change ch)).state := by
  obtain ⟨hoperator, hdefaults, hoverrides⟩ := State.mk.inj h
  have hchange : (p.attributes.change ch).overrides.get? =
      (q.attributes.change ch).overrides.get? := by
    cases ch with
    | set name value =>
        funext attr
        show (p.attributes.overrides.insert name value).get? attr =
          (q.attributes.overrides.insert name value).get? attr
        rw [OrderedMap.get?_insert, OrderedMap.get?_insert, hoverrides]
    | reset => rfl
  simp only [state, updateAttributes, State.mk.injEq, Attributes.defaults_change]
  exact ⟨hoperator, hdefaults, hchange⟩

end

theorem state_changeAll_congr {p q : Property} (h : p.state = q.state)
    (changes : List Attributes.Change) :
    (p.updateAttributes (·.changeAll changes)).state =
      (q.updateAttributes (·.changeAll changes)).state := by
  induction changes generalizing p q with
  | nil => exact h
  | cons ch changes ih => exact ih (state_change_congr h ch)

end PropertyMacros.Property
