/-!
Digits up to hexadecimal ones, and characters given by their number.
-/

namespace PropertyMacros.Text

/-- The value of a digit, where letters follow upon `9`. -/
def digitValue? (c : Char) : Option Nat :=
  if '0' ≤ c ∧ c ≤ '9' then some (c.toNat - '0'.toNat)
  else if 'a' ≤ c ∧ c ≤ 'f' then some (c.toNat - 'a'.toNat + 10)
  else if 'A' ≤ c ∧ c ≤ 'F' then some (c.toNat - 'A'.toNat + 10)
  else none

/-- The value of a digit in `base`, which is at most sixteen. -/
def digitIn? (base : Nat) (c : Char) : Option Nat := (digitValue? c).filter (· < base)

/-- Whether `c` is a digit in `base`. -/
def isDigitIn (base : Nat) (c : Char) : Bool := (digitIn? base c).isSome

/-- Reads exactly `count` hexadecimal digits. -/
def hexNumber? : (count : Nat) → (value : Nat) → List Char → Option (Nat × List Char)
  | 0, value, text => some (value, text)
  | _ + 1, _, [] => none
  | count + 1, value, c :: rest => do hexNumber? count (value * 16 + (← digitIn? 16 c)) rest

/-- Reads the number of a character, which has to be a Unicode scalar value. -/
def scalarValue? (count : Nat) (text : List Char) : Option (Char × List Char) := do
  let (code, rest) ← hexNumber? count 0 text
  if h : code.isValidChar then some (Char.ofNatAux code h, rest) else none

end PropertyMacros.Text
