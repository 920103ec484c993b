import PropertyMacros.Elements
import PropertyMacros.Number.Numeral
import PropertyMacros.Operator.Basic
import PropertyMacros.Platform

/-!
What each operator makes of its attributes.

Attributes are text and are given a meaning only here: as a number, a truth value, a position, a
separator or plain text. The first attribute that cannot be read decides the error.
-/

namespace PropertyMacros

/-- The truth value of a text: `true` in any mixture of ASCII case, and nothing else, is true. -/
def truthOf (text : String) : Bool :=
  text.toList.map Char.toLower == ['t', 'r', 'u', 'e']

def boolText (value : Bool) : String := if value then "true" else "false"

/-- Equality of value for two numerals, and of text otherwise. -/
def looselyEqual (a b : String) : Bool :=
  match Number.read? a.toList, Number.read? b.toList with
  | some m, some n => m.cmp n == .eq
  | _, _ => a == b

namespace Attributes

def number (attrs : Attributes) (name : String) : Except EvalError Number := do
  let text ← attrs.require name
  match Number.read? text.toList with
  | some value => .ok value
  | none => .error (.invalidOperand name text EvalError.aNumber)

def index (attrs : Attributes) (name : String) : Except EvalError Nat := do
  let text ← attrs.require name
  match readIndex? text.toList with
  | some value => .ok value
  | none => .error (.invalidOperand name text EvalError.anIndex)

/-- The text in an attribute that must not be empty. -/
def nonEmpty (attrs : Attributes) (name : String) : Except EvalError (List Char) := do
  let text ← attrs.require name
  if text.toList = [] then .error (.invalidOperand name text EvalError.aNonEmptyText)
  else .ok text.toList

def truth (attrs : Attributes) (name : String) : Except EvalError Bool := do
  return truthOf (← attrs.require name)

end Attributes

namespace Operator

/-- The numeral of what `compute` makes of both operands. -/
def arithmetic (attrs : Attributes) (compute : Number → Number → Except EvalError Number) :
    Except EvalError String := do
  let a ← attrs.number "op1"
  let b ← attrs.number "op2"
  return String.ofList (← compute a b).print

/-- Whether the order of both operands satisfies `holds`. -/
def comparison (attrs : Attributes) (holds : Ordering → Bool) : Except EvalError String := do
  let a ← attrs.number "op1"
  let b ← attrs.number "op2"
  return boolText (holds (a.cmp b))

def equality (attrs : Attributes) : Except EvalError Bool := do
  return looselyEqual (← attrs.require "op1") (← attrs.require "op2")

/-- What `combine` makes of the truth values of both operands. -/
def connective (attrs : Attributes) (combine : Bool → Bool → Bool) : Except EvalError String := do
  let a ← attrs.truth "op1"
  let b ← attrs.truth "op2"
  return boolText (combine a b)

/-- The quotient of two numbers, or the reason why there is none. -/
def quotient (a b : Number) : Except EvalError Number :=
  match a.div? b with
  | some value => .ok value
  | none => .error .divisionByZero

/-- Number of elements. The separator is looked at only if the list is not empty. -/
def countElements (attrs : Attributes) : Except EvalError String := do
  let list ← attrs.require "list"
  if list.toList = [] then return "0"
  let sep ← attrs.nonEmpty "sep"
  return String.ofList (digitsOf (Elements.count sep list.toList))

/-- The text of the branch that the condition selects. -/
def choose (attrs : Attributes) : Except EvalError String := do
  if ← attrs.truth "cond" then attrs.require "then" else attrs.require "else"

/-- Replacement of every occurrence of `old`. -/
def replaceAll (attrs : Attributes) : Except EvalError String := do
  let old ← attrs.nonEmpty "old"
  let text ← attrs.require "text"
  let new ← attrs.require "new"
  return String.ofList (Elements.replace old new.toList text.toList)

/-- The window of `count` elements from `index` on. -/
def window (attrs : Attributes) : Except EvalError String := do
  let sep ← attrs.nonEmpty "sep"
  let index ← attrs.index "index"
  let number ← attrs.index "count"
  let list ← attrs.require "list"
  return String.ofList (Elements.sublist sep index number list.toList)

/-- The list with `new` for its separator `old`. -/
def reseparate (attrs : Attributes) : Except EvalError String := do
  let old ← attrs.nonEmpty "old"
  let list ← attrs.require "list"
  let new ← attrs.require "new"
  return String.ofList (Elements.changeSeparator old new.toList list.toList)

/-- Applies the operator. An attribute that does not resolve is an error only if it is needed. -/
def evaluate (op : Operator) (attrs : Attributes) : Except EvalError String :=
  match op with
  | add => arithmetic attrs fun a b => .ok (a.add b)
  | sub => arithmetic attrs fun a b => .ok (a.sub b)
  | mul => arithmetic attrs fun a b => .ok (a.mul b)
  | div => arithmetic attrs quotient
  | gt => comparison attrs Ordering.isGT
  | gte => comparison attrs Ordering.isGE
  | lt => comparison attrs Ordering.isLT
  | lte => comparison attrs Ordering.isLE
  | eq => return boolText (← equality attrs)
  | neq => return boolText (!(← equality attrs))
  | not => return boolText (!(← attrs.truth "op"))
  | and => connective attrs Bool.and
  | or => connective attrs Bool.or
  | strLen => return String.ofList (digitsOf (← attrs.require "op").length)
  | count => countElements attrs
  | ifThenElse => choose attrs
  | replaceString => replaceAll attrs
  | sublist => window attrs
  | changeSeparator => reseparate attrs
  | pathSeparator => .ok Platform.linux.pathSeparator
  | fileSeparator => .ok Platform.linux.fileSeparator
  | lineSeparator => .ok Platform.linux.lineSeparator
  | osName => .ok Platform.linux.os
  | osArch => .ok Platform.linux.arch

end Operator

end PropertyMacros
