import PropertyMacros.Attributes
import PropertyMacros.Platform

/-!
The catalog of built-in operators: the key under which each one is registered, and the attributes
it reads.
-/

namespace PropertyMacros

/-- The built-in operators. -/
inductive Operator where
  | add
  | sub
  | mul
  | div
  | not
  | gt
  | gte
  | lt
  | lte
  /-- Equality, of value for two numbers and of text otherwise. -/
  | eq
  | neq
  | and
  | or
  | strLen
  | count
  | ifThenElse
  | replaceString
  /-- A window of a list. -/
  | sublist
  /-- A list with another separator. -/
  | changeSeparator
  /-- What stands between the entries of a search path. -/
  | pathSeparator
  /-- What stands between the components of a file name. -/
  | fileSeparator
  /-- What ends a line. -/
  | lineSeparator
  | osName
  | osArch
  deriving DecidableEq, Repr

namespace Operator

/-- Every operator, in the order of registration. -/
def all : List Operator :=
  [add, sub, mul, div, not, gt, gte, lt, lte, eq, neq, and, or, strLen, count, ifThenElse,
    replaceString, sublist, changeSeparator, pathSeparator, fileSeparator, lineSeparator, osName,
    osArch]

/-- The name of the property, also used in error texts. -/
def name : Operator → String
  | add => "add"
  | sub => "sub"
  | mul => "mul"
  | div => "div"
  | not => "not"
  | gt => "gt"
  | gte => "gte"
  | lt => "lt"
  | lte => "lte"
  | eq => "eq"
  | neq => "neq"
  | and => "and"
  | or => "or"
  | strLen => "strlen"
  | count => "count"
  | ifThenElse => "if"
  | replaceString => "replace.string"
  | sublist => "sublist"
  | changeSeparator => "change.sep"
  | pathSeparator => "path.separator"
  | fileSeparator => "file.separator"
  | lineSeparator => "line.separator"
  | osName => "os.name"
  | osArch => "os.arch"

/-- The category of operators that compute something from their attributes. -/
def misc : String := "Misc"

/-- The category of operators that describe the platform. -/
def system : String := "System"

def category : Operator → String
  | pathSeparator | fileSeparator | lineSeparator | osName | osArch => system
  | _ => misc

def binarySchema : Schema := [⟨"op1", none⟩, ⟨"op2", none⟩]

def unarySchema : Schema := [⟨"op", none⟩]

def schema : Operator → Schema
  | add | sub | mul | div | gt | gte | lt | lte | eq | neq | and | or => binarySchema
  | not | strLen => unarySchema
  | count => [⟨"list", none⟩, ⟨"sep", some Platform.linux.pathSeparator⟩]
  | ifThenElse => [⟨"cond", none⟩, ⟨"then", some ""⟩, ⟨"else", some ""⟩]
  | replaceString => [⟨"text", none⟩, ⟨"old", none⟩, ⟨"new", none⟩]
  | sublist =>
    [⟨"list", none⟩, ⟨"index", none⟩, ⟨"count", some "1"⟩,
      ⟨"sep", some Platform.linux.pathSeparator⟩]
  | changeSeparator =>
    [⟨"list", none⟩, ⟨"old", some Platform.linux.pathSeparator⟩, ⟨"new", none⟩]
  | pathSeparator | fileSeparator | lineSeparator | osName | osArch => []

def find? (category name : String) : Option Operator :=
  all.find? fun op => op.category == category && op.name == name

theorem mem_all (op : Operator) : op ∈ all := by cases op <;> decide

/-- No two operators share a key. -/
theorem nodup_keys_all : (all.map fun op => (op.category, op.name)).Nodup := by decide

end Operator

end PropertyMacros
