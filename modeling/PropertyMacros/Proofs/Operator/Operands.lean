import PropertyMacros.Property

/-!
Attributes that are known to resolve, and operators with two operands. What such an operator makes
of its attributes depends only on the two texts that they resolve to.
-/

namespace PropertyMacros

theorem Attributes.require_eq {attrs : Attributes} {name text : String}
    (h : attrs.get? name = some text) : attrs.require name = .ok text := by
  rw [require, h]

theorem Attributes.number_eq {attrs : Attributes} {name text : String}
    (h : attrs.get? name = some text) :
    attrs.number name =
      match Number.read? text.toList with
      | some a => .ok a
      | none => .error (.invalidOperand name text EvalError.aNumber) := by
  rw [number, require_eq h]
  rfl

theorem Attributes.index_eq {attrs : Attributes} {name text : String}
    (h : attrs.get? name = some text) :
    attrs.index name =
      match readIndex? text.toList with
      | some n => .ok n
      | none => .error (.invalidOperand name text EvalError.anIndex) := by
  rw [index, require_eq h]
  rfl

theorem Attributes.nonEmpty_eq {attrs : Attributes} {name text : String}
    (h : attrs.get? name = some text) :
    attrs.nonEmpty name =
      if text.toList = [] then .error (.invalidOperand name text EvalError.aNonEmptyText)
      else .ok text.toList := by
  rw [nonEmpty, require_eq h]
  rfl

namespace Operator

/-- The numbers that two texts denote. The first one that denotes none decides the error. -/
def readOperands (left right : String) : Except EvalError (Number × Number) :=
  match Number.read? left.toList, Number.read? right.toList with
  | some a, some b => .ok (a, b)
  | some _, none => .error (.invalidOperand "op2" right EvalError.aNumber)
  | none, _ => .error (.invalidOperand "op1" left EvalError.aNumber)

section

variable {attrs : Attributes} {left right : String} (hleft : attrs.get? "op1" = some left)
  (hright : attrs.get? "op2" = some right)

include hleft hright

theorem arithmetic_eq (compute : Number → Number → Except EvalError Number) :
    arithmetic attrs compute = (readOperands left right).bind fun operands =>
      (compute operands.1 operands.2).map fun c => String.ofList c.print := by
  rw [arithmetic, Attributes.number_eq hleft, Attributes.number_eq hright, readOperands]
  cases Number.read? left.toList with
  | none => rfl
  | some a =>
      cases Number.read? right.toList with
      | none => rfl
      | some b =>
          cases h : compute a b <;> simp [h, bind, Except.bind, Except.map, pure, Except.pure]

theorem comparison_eq (holds : Ordering → Bool) :
    comparison attrs holds = (readOperands left right).map fun operands =>
      boolText (holds (operands.1.cmp operands.2)) := by
  rw [comparison, Attributes.number_eq hleft, Attributes.number_eq hright, readOperands]
  cases Number.read? left.toList with
  | none => rfl
  | some a => cases Number.read? right.toList <;> rfl

theorem equality_eq : equality attrs = .ok (looselyEqual left right) := by
  rw [equality, Attributes.require_eq hleft, Attributes.require_eq hright]
  rfl

theorem connective_eq (combine : Bool → Bool → Bool) :
    connective attrs combine = .ok (boolText (combine (truthOf left) (truthOf right))) := by
  rw [connective, Attributes.truth, Attributes.truth, Attributes.require_eq hleft,
    Attributes.require_eq hright]
  rfl

end

/-- A property with the operator, in which only the operands are certain. -/
def onOperands (op : Operator) (state : Attributes) (left right : String) : Property :=
  ((⟨op, state⟩ : Property).setAttribute "op1" left).setAttribute "op2" right

theorem get?_onOperands (op : Operator) (state : Attributes) (left right : String) :
    (op.onOperands state left right).attributes.get? "op1" = some left ∧
      (op.onOperands state left right).attributes.get? "op2" = some right := by
  constructor
  · exact (Attributes.get?_set _ _ _ _).trans (Attributes.get?_set _ _ _ _)
  · exact Attributes.get?_set _ _ _ _

theorem missing_onOperands {op : Operator} (h : op.schema = binarySchema) (state : Attributes)
    (left right : String) : (op.onOperands state left right).missing = [] := by
  obtain ⟨hleft, hright⟩ := get?_onOperands op state left right
  have hschema : (op.onOperands state left right).schema = binarySchema := h
  rw [Property.missing, hschema]
  simp [Attributes.missing, binarySchema, Schema.names, hleft, hright]

theorem evaluate_onOperands {op : Operator} (h : op.schema = binarySchema) (state : Attributes)
    (left right : String) :
    (op.onOperands state left right).evaluate =
      op.evaluate (op.onOperands state left right).attributes := by
  rw [Property.evaluate, missing_onOperands h]
  rfl

end Operator

end PropertyMacros
