import PropertyMacros.Proofs.Number.Reading
import PropertyMacros.Proofs.Operator.Operands
import PropertyMacros.Proofs.Property

/-!
What a complete property refuses. An operator demands of some attributes that their texts belong to
a domain, and looks at these attributes in a fixed order. The first demand that is not met is the
error. When all of them are met the only way left to fail is a division by zero.
-/

namespace PropertyMacros

/-- The texts that can be demanded of an attribute. -/
inductive Domain where
  | number
  | index
  | nonEmpty
  deriving DecidableEq, Repr

namespace Domain

def Accepts : Domain → String → Prop
  | number, text => Number.IsNumeral text.toList
  | index, text => ∃ n, IsIndexOf n text.toList ∧ n < 2 ^ 64
  | nonEmpty, text => text ≠ ""

/-- How an error calls the domain. -/
def expected : Domain → String
  | number => "a number"
  | index => "a non-negative integer"
  | nonEmpty => "a non-empty string"

end Domain

/-- The demand that the text of an attribute belongs to a domain. -/
structure Demand where
  name : String
  domain : Domain
  deriving DecidableEq, Repr

namespace Demand

variable {attrs : Attributes} {d : Demand} {ds : List Demand} {further : EvalError → Prop}
  {error : EvalError} {text : String}

def Met (attrs : Attributes) (d : Demand) : Prop :=
  ∃ text, attrs.get? d.name = some text ∧ d.domain.Accepts text

/-- The attribute resolves to a text outside of the domain, and the error says so. -/
def Violated (attrs : Attributes) (d : Demand) (error : EvalError) : Prop :=
  ∃ text, attrs.get? d.name = some text ∧ ¬d.domain.Accepts text ∧
    error = .invalidOperand d.name text d.domain.expected

/-- The error of the first demand that is not met, or a further one if all demands are met. -/
def Refusal (attrs : Attributes) (further : EvalError → Prop) : List Demand → EvalError → Prop
  | [], error => further error
  | d :: ds, error => d.Violated attrs error ∨ (d.Met attrs ∧ Refusal attrs further ds error)

/-- The demand decides whether an attribute is read, and which error there is otherwise. -/
structure Decides (attrs : Attributes) (d : Demand) {α : Type} (result : Except EvalError α) :
    Prop where
  ok_iff : (∃ a, result = .ok a) ↔ d.Met attrs
  error_iff : ∀ error, result = .error error ↔ d.Violated attrs error

theorem met_iff (h : attrs.get? d.name = some text) : d.Met attrs ↔ d.domain.Accepts text := by
  simp [Met, h]

theorem violated_iff (h : attrs.get? d.name = some text) :
    d.Violated attrs error ↔
      ¬d.domain.Accepts text ∧ error = .invalidOperand d.name text d.domain.expected := by
  simp [Violated, h]

variable (d) in
theorem decides_ok {α : Type} (h : attrs.get? d.name = some text)
    (haccepts : d.domain.Accepts text) (a : α) : Decides attrs d (.ok a) where
  ok_iff := by simp [met_iff h, haccepts]
  error_iff := by simp [violated_iff h, haccepts]

variable (d) in
theorem decides_error {α : Type} (h : attrs.get? d.name = some text)
    (hrejects : ¬d.domain.Accepts text) :
    Decides (α := α) attrs d (.error (.invalidOperand d.name text d.domain.expected)) where
  ok_iff := by simp [met_iff h, hrejects]
  error_iff := by simp [violated_iff h, hrejects, eq_comm]

theorem Decides.bind {α β : Type} {x : Except EvalError α} {f : α → Except EvalError β}
    (hx : Decides attrs d x)
    (hf : ∀ a, x = .ok a → (f a = .error error ↔ Refusal attrs further ds error)) :
    x >>= f = .error error ↔ Refusal attrs further (d :: ds) error := by
  rw [Refusal, ← hx.ok_iff, ← hx.error_iff]
  -- The later demands are looked at only behind an attribute that was read.
  cases x with
  | ok a =>
      have hok : (Except.ok a >>= f = .error error) ↔ Refusal attrs further ds error := hf a rfl
      simp [hok]
  | error reason =>
      have hbind : Except.error reason >>= f = .error reason := rfl
      simp [hbind]

end Demand

namespace Attributes

open Demand (Decides)

/-- All of the names have values. -/
def Resolves (attrs : Attributes) (names : List String) : Prop :=
  ∀ name ∈ names, ∃ text, attrs.get? name = some text

variable {attrs : Attributes} {name : String}

theorem number_eq_ok_iff {text : String} (h : attrs.get? name = some text) {a : Number} :
    attrs.number name = .ok a ↔ Number.read? text.toList = some a := by
  rw [number_eq h]
  cases Number.read? text.toList <;> simp

variable (h : ∃ text, attrs.get? name = some text)

include h

theorem decides_number : Decides attrs ⟨name, .number⟩ (attrs.number name) := by
  obtain ⟨text, htext⟩ := h
  have hnumeral : Number.IsNumeral text.toList ↔ ∃ a, Number.read? text.toList = some a := by
    simp only [← Number.exists_parse_iff, Number.parse_eq_ok_iff_read?]
  rw [number_eq htext]
  cases hread : Number.read? text.toList with
  | some a => exact Demand.decides_ok ⟨name, .number⟩ htext (hnumeral.mpr ⟨a, hread⟩) a
  | none =>
      refine Demand.decides_error ⟨name, .number⟩ htext fun haccepts => ?_
      obtain ⟨a, ha⟩ := hnumeral.mp haccepts
      rw [hread] at ha
      cases ha

theorem decides_index : Decides attrs ⟨name, .index⟩ (attrs.index name) := by
  obtain ⟨text, htext⟩ := h
  rw [index_eq htext]
  cases hread : readIndex? text.toList with
  | some n => exact Demand.decides_ok ⟨name, .index⟩ htext ⟨n, readIndex?_eq_some_iff.mp hread⟩ n
  | none =>
      refine Demand.decides_error ⟨name, .index⟩ htext ?_
      rintro ⟨n, hn⟩
      rw [readIndex?_eq_some_iff.mpr hn] at hread
      cases hread

theorem decides_nonEmpty : Decides attrs ⟨name, .nonEmpty⟩ (attrs.nonEmpty name) := by
  obtain ⟨text, htext⟩ := h
  rw [nonEmpty_eq htext]
  split
  · next hempty =>
    exact Demand.decides_error ⟨name, .nonEmpty⟩ htext
      (not_not.mpr (String.toList_eq_nil_iff.mp hempty))
  · next hne =>
    exact Demand.decides_ok ⟨name, .nonEmpty⟩ htext
      (fun hempty => hne (String.toList_eq_nil_iff.mpr hempty)) text.toList

end Attributes

namespace Operator

open Demand (Refusal)

/-- What is demanded where two numbers are computed with or compared. -/
def numericOperands : List Demand := [⟨"op1", .number⟩, ⟨"op2", .number⟩]

/-- What an operator demands of its attributes, in the order in which it looks at them. Nothing is
demanded of the separator of an empty list that is counted. -/
def demands (op : Operator) (attrs : Attributes) : List Demand :=
  match op with
  | add | sub | mul | div | gt | gte | lt | lte => numericOperands
  | count => if attrs.get? "list" = some "" then [] else [⟨"sep", .nonEmpty⟩]
  | replaceString | changeSeparator => [⟨"old", .nonEmpty⟩]
  | sublist => [⟨"sep", .nonEmpty⟩, ⟨"index", .index⟩, ⟨"count", .index⟩]
  | _ => []

/-- The second operand of a division is a numeral for zero, in whatever notation. -/
def DividesByZero (op : Operator) (attrs : Attributes) : Prop :=
  op = div ∧ ∃ r : Number.Literal, attrs.get? "op2" = some (String.ofList r.text) ∧ r.value = 0

/-- What is wrong with the texts of the attributes. -/
def Fault (op : Operator) (attrs : Attributes) : EvalError → Prop :=
  Refusal attrs (fun error => op.DividesByZero attrs ∧ error = .divisionByZero) (op.demands attrs)

section

variable {attrs : Attributes} {further : EvalError → Prop} {error : EvalError}

theorem ok_eq_error_iff {α : Type} (a : α) (h : ¬further error) :
    (.ok a : Except EvalError α) = .error error ↔ Refusal attrs further [] error := by
  simp [Refusal, h]

theorem arithmetic_eq_error_iff (hr : attrs.Resolves binarySchema.names)
    {compute : Number → Number → Except EvalError Number}
    (hcompute : ∀ a b, attrs.number "op2" = .ok b → (compute a b = .error error ↔ further error)) :
    arithmetic attrs compute = .error error ↔ Refusal attrs further numericOperands error := by
  refine (Attributes.decides_number (hr "op1" (by decide))).bind fun a _ => ?_
  refine (Attributes.decides_number (hr "op2" (by decide))).bind fun b hb => ?_
  rw [Refusal, ← hcompute a b hb]
  cases compute a b with
  | ok c => exact ⟨nofun, nofun⟩
  | error reason =>
      change (.error reason : Except EvalError String) = .error error ↔ _
      rw [Except.error.injEq, Except.error.injEq]

theorem value_eq_zero_iff_dividesByZero {b : Number} (hb : attrs.number "op2" = .ok b)
    (hr : attrs.Resolves binarySchema.names) : b.value = 0 ↔ div.DividesByZero attrs := by
  obtain ⟨right, hright⟩ := hr "op2" (by decide)
  rw [Attributes.number_eq_ok_iff hright] at hb
  obtain ⟨l, hl, rfl⟩ := Number.read?_eq_some_iff.mp hb
  rw [l.value_toNumber]
  constructor
  · intro hzero
    refine ⟨rfl, l, ?_, hzero⟩
    rw [hright, hl, String.ofList_toList]
  · rintro ⟨-, r, hop, hzero⟩
    rw [hright, Option.some.injEq] at hop
    have htext : l.text = r.text := by rw [hl, hop, String.toList_ofList]
    rw [Number.Literal.value_eq_of_text_eq htext, hzero]

theorem quotient_eq_error_iff (hr : attrs.Resolves binarySchema.names) (a : Number) {b : Number}
    (hb : attrs.number "op2" = .ok b) :
    quotient a b = .error error ↔ div.DividesByZero attrs ∧ error = .divisionByZero := by
  rw [← value_eq_zero_iff_dividesByZero hb hr, ← Number.div?_eq_none_iff a, quotient]
  cases a.div? b <;> simp [eq_comm]

theorem comparison_eq_error_iff (hr : attrs.Resolves binarySchema.names)
    (holds : Ordering → Bool) (h : ¬further error) :
    comparison attrs holds = .error error ↔ Refusal attrs further numericOperands error := by
  refine (Attributes.decides_number (hr "op1" (by decide))).bind fun a _ => ?_
  refine (Attributes.decides_number (hr "op2" (by decide))).bind fun b _ => ?_
  exact ok_eq_error_iff _ h

theorem countElements_eq_error_iff (hr : attrs.Resolves count.schema.names) (h : ¬further error) :
    countElements attrs = .error error ↔ Refusal attrs further (count.demands attrs) error := by
  obtain ⟨list, hlist⟩ := hr "list" (by decide)
  rw [countElements, Attributes.require_eq hlist, demands, hlist]
  -- An empty list is counted before its separator is looked at.
  by_cases hempty : list = ""
  · subst hempty
    exact ok_eq_error_iff _ h
  · have hne : list.toList ≠ [] := fun hnil => hempty (String.toList_eq_nil_iff.mp hnil)
    rw [if_neg (fun heq => hempty (Option.some.inj heq))]
    change (if list.toList = [] then _ else _) = _ ↔ _
    rw [if_neg hne]
    refine (Attributes.decides_nonEmpty (hr "sep" (by decide))).bind fun _ _ => ?_
    exact ok_eq_error_iff _ h

theorem replaceAll_eq_error_iff (hr : attrs.Resolves replaceString.schema.names)
    (h : ¬further error) :
    replaceAll attrs = .error error ↔ Refusal attrs further [⟨"old", .nonEmpty⟩] error := by
  obtain ⟨text, htext⟩ := hr "text" (by decide)
  obtain ⟨new, hnew⟩ := hr "new" (by decide)
  refine (Attributes.decides_nonEmpty (hr "old" (by decide))).bind fun _ _ => ?_
  rw [Attributes.require_eq htext, Attributes.require_eq hnew]
  exact ok_eq_error_iff _ h

theorem reseparate_eq_error_iff (hr : attrs.Resolves changeSeparator.schema.names)
    (h : ¬further error) :
    reseparate attrs = .error error ↔ Refusal attrs further [⟨"old", .nonEmpty⟩] error := by
  obtain ⟨list, hlist⟩ := hr "list" (by decide)
  obtain ⟨new, hnew⟩ := hr "new" (by decide)
  refine (Attributes.decides_nonEmpty (hr "old" (by decide))).bind fun _ _ => ?_
  rw [Attributes.require_eq hlist, Attributes.require_eq hnew]
  exact ok_eq_error_iff _ h

theorem window_eq_error_iff (hr : attrs.Resolves sublist.schema.names) (h : ¬further error) :
    window attrs = .error error ↔ Refusal attrs further (sublist.demands attrs) error := by
  obtain ⟨list, hlist⟩ := hr "list" (by decide)
  refine (Attributes.decides_nonEmpty (hr "sep" (by decide))).bind fun _ _ => ?_
  refine (Attributes.decides_index (hr "index" (by decide))).bind fun _ _ => ?_
  refine (Attributes.decides_index (hr "count" (by decide))).bind fun _ _ => ?_
  rw [Attributes.require_eq hlist]
  exact ok_eq_error_iff _ h

theorem choose_ne_error (hr : attrs.Resolves ifThenElse.schema.names) :
    choose attrs ≠ .error error := by
  obtain ⟨cond, hcond⟩ := hr "cond" (by decide)
  obtain ⟨text, htext⟩ : ∃ text, attrs.get? (branch cond) = some text := by
    refine hr _ ?_
    unfold branch
    split <;> decide
  rw [choose_eq_require hcond, Attributes.require_eq htext]
  exact nofun

end

theorem not_dividesByZero {op : Operator} (h : op ≠ div) (attrs : Attributes) (error : EvalError) :
    ¬(op.DividesByZero attrs ∧ error = .divisionByZero) :=
  fun hzero => h hzero.1.1

/-- An operator whose attributes all resolve fails with its fault. -/
theorem evaluate_eq_error_iff {op : Operator} {attrs : Attributes}
    (hr : attrs.Resolves op.schema.names) {error : EvalError} :
    op.evaluate attrs = .error error ↔ op.Fault attrs error := by
  have hother (h : op ≠ div) := not_dividesByZero h attrs error
  cases op with
  | add | sub | mul =>
      refine arithmetic_eq_error_iff hr fun a b _ => ?_
      exact ⟨nofun, fun h => absurd h (hother (by decide))⟩
  | div => exact arithmetic_eq_error_iff hr fun a b hb => quotient_eq_error_iff hr a hb
  | gt | gte | lt | lte => exact comparison_eq_error_iff hr _ (hother (by decide))
  | eq | neq =>
      obtain ⟨left, hleft⟩ := hr "op1" (by decide)
      obtain ⟨right, hright⟩ := hr "op2" (by decide)
      rw [evaluate, equality_eq hleft hright]
      exact ok_eq_error_iff _ (hother (by decide))
  | not =>
      obtain ⟨text, htext⟩ := hr "op" (by decide)
      rw [evaluate, Attributes.truth, Attributes.require_eq htext]
      exact ok_eq_error_iff _ (hother (by decide))
  | and | or =>
      obtain ⟨left, hleft⟩ := hr "op1" (by decide)
      obtain ⟨right, hright⟩ := hr "op2" (by decide)
      rw [evaluate, connective_eq hleft hright]
      exact ok_eq_error_iff _ (hother (by decide))
  | strLen =>
      obtain ⟨text, htext⟩ := hr "op" (by decide)
      rw [evaluate, Attributes.require_eq htext]
      exact ok_eq_error_iff _ (hother (by decide))
  | count => exact countElements_eq_error_iff hr (hother (by decide))
  | ifThenElse =>
      exact ⟨fun h => absurd h (choose_ne_error hr), fun h => absurd h (hother (by decide))⟩
  | replaceString => exact replaceAll_eq_error_iff hr (hother (by decide))
  | sublist => exact window_eq_error_iff hr (hother (by decide))
  | changeSeparator => exact reseparate_eq_error_iff hr (hother (by decide))
  | pathSeparator | fileSeparator | lineSeparator | osName | osArch =>
      exact ok_eq_error_iff _ (hother (by decide))

end Operator

namespace Property

theorem resolves_of_isComplete {p : Property} (h : p.isComplete = true) :
    p.attributes.Resolves p.schema.names := by
  have hmissing : p.missing = [] := List.isEmpty_iff.mp h
  rw [missing, Attributes.missing, List.filter_eq_nil_iff] at hmissing
  intro name hname
  have hsome := hmissing name hname
  rwa [Bool.not_eq_true, Option.isNone_eq_false_iff, Option.isSome_iff_exists] at hsome

/-- A complete property fails with its fault, and has a value if it has none. -/
theorem evaluate_eq_error_iff_fault {p : Property} (h : p.isComplete = true) :
    (∀ error, p.evaluate = .error error ↔ p.operator.Fault p.attributes error) ∧
      ((∃ value, p.evaluate = .ok value) ↔ ∀ error, ¬p.operator.Fault p.attributes error) := by
  have hfault (error : EvalError) :
      p.evaluate = .error error ↔ p.operator.Fault p.attributes error := by
    rw [evaluate_of_isComplete h]
    exact Operator.evaluate_eq_error_iff (resolves_of_isComplete h)
  refine ⟨hfault, ?_⟩
  simp only [← hfault]
  cases p.evaluate with
  | ok value => simp
  | error reason => simp

/-- A window with two faults, a dividend that is no numeral in front of a zero, a zero that is
written with a sign, and an empty list whose elements are counted without a separator. -/
theorem evaluate_eq_error_iff_fault_order :
    let window : Property := ⟨.sublist, (Attributes.ofSchema Operator.sublist.schema).setAll
      [("list", "a:b"), ("index", "-0"), ("count", "x")]⟩
    let quotient := Operator.div.onOperands .empty "1." "-0.00"
    let quotient' := Operator.div.onOperands .empty "1e2" "-0.00"
    let size : Property := ⟨.count, Attributes.empty.setAll [("list", ""), ("sep", "")]⟩
    window.isComplete = true ∧
      window.operator.Fault window.attributes
        (.invalidOperand "index" "-0" "a non-negative integer") ∧
      quotient.isComplete = true ∧
      quotient.operator.Fault quotient.attributes .divisionByZero ∧
      quotient'.isComplete = true ∧
      quotient'.operator.Fault quotient'.attributes (.invalidOperand "op1" "1e2" "a number") ∧
      size.isComplete = true ∧ (∀ error, ¬size.operator.Fault size.attributes error) ∧
      size.evaluate = .ok "0" := by
  intro window quotient quotient' size
  have hwindow : window.isComplete = true := by decide
  have hquotient : quotient.isComplete = true := by decide
  have hquotient' : quotient'.isComplete = true := by decide
  have hsize : size.isComplete = true := by decide
  obtain ⟨hindex, -⟩ := evaluate_eq_error_iff_fault hwindow
  obtain ⟨hzero, -⟩ := evaluate_eq_error_iff_fault hquotient
  obtain ⟨hnumber, -⟩ := evaluate_eq_error_iff_fault hquotient'
  obtain ⟨-, hvalue⟩ := evaluate_eq_error_iff_fault hsize
  exact ⟨hwindow, (hindex _).mp (by decide), hquotient, (hzero _).mp (by decide), hquotient',
    (hnumber _).mp (by decide), hsize, hvalue.mp ⟨"0", by decide⟩, by decide⟩

end Property

end PropertyMacros
