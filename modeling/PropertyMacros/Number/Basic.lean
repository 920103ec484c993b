/-!
Exact numbers: integers, and decimals given by an integer of digits and a scale.

Sums, differences and products are exact, and stay integers while both operands are. A quotient is
an integer when two integers divide exactly, and otherwise a decimal with `divisionScale` fractional
digits, a half rounded away from zero.
-/

namespace PropertyMacros

/-- The number `digits · 10^(-scale)`. One number has many such forms. -/
structure Decimal where
  digits : Int
  scale : Int
  deriving DecidableEq, Repr

/-- An operand, in one of two domains. -/
inductive Number where
  | integer (value : Int)
  | decimal (value : Decimal)
  deriving DecidableEq, Repr

namespace Decimal

/-- The digits of `d` at a scale that is not below its own. Zero has the same digits at all
scales. -/
def digitsAt (d : Decimal) (scale : Int) : Int :=
  if d.digits = 0 then 0 else d.digits * Int.pow 10 (scale - d.scale).toNat

/-- The least scale at which both operands are integers of digits. -/
def commonScale (a b : Decimal) : Int := max a.scale b.scale

/-- Exact sum. Zero leaves the other operand in its form. -/
def add (a b : Decimal) : Decimal :=
  if a.digits = 0 then b
  else if b.digits = 0 then a
  else ⟨a.digitsAt (commonScale a b) + b.digitsAt (commonScale a b), commonScale a b⟩

def neg (a : Decimal) : Decimal := ⟨-a.digits, a.scale⟩

def sub (a b : Decimal) : Decimal := a.add b.neg

def mul (a b : Decimal) : Decimal := ⟨a.digits * b.digits, a.scale + b.scale⟩

/-- Order by value. Numbers of different signs are not brought to a common scale. -/
def cmp (a b : Decimal) : Ordering :=
  (compare a.digits.sign b.digits.sign).then
    (compare (a.digitsAt (commonScale a b)) (b.digitsAt (commonScale a b)))

/-- Fractional digits of a quotient that is not an integer. -/
def divisionScale : Nat := 32

/-- The greatest exponent to which ten is raised in a division. -/
def maxExponent : Nat := Nat.pow 2 32 - 1

/-- Ten to the power of `exponent`, which is cut down to `maxExponent`. -/
def powerOfTen (exponent : Nat) : Nat := Nat.pow 10 (min exponent maxExponent)

/-- The quotient of two naturals rounded to the nearest one, a half upwards. -/
def roundedQuotient (numerator denominator : Nat) : Nat :=
  if denominator ≤ numerator % denominator * 2 then numerator / denominator + 1
  else numerator / denominator

/-- The quotient at scale `divisionScale`, a half rounded away from zero. The magnitudes are divided
as integers after one of them has been moved by the difference of the scales. -/
def divide (a b : Decimal) : Decimal :=
  let shift := b.scale - a.scale + divisionScale
  let magnitude := roundedQuotient (a.digits.natAbs * powerOfTen shift.toNat)
    (b.digits.natAbs * powerOfTen (-shift).toNat)
  ⟨a.digits.sign * b.digits.sign * magnitude, divisionScale⟩

end Decimal

namespace Number

/-- The same value in the decimal domain. -/
def toDecimal : Number → Decimal
  | integer value => ⟨value, 0⟩
  | decimal value => value

def isZero (a : Number) : Bool := a.toDecimal.digits == 0

/-- Exact sum, an integer when both operands are. -/
def add : Number → Number → Number
  | integer a, integer b => integer (a + b)
  | a, b => decimal (a.toDecimal.add b.toDecimal)

/-- Exact difference, an integer when both operands are. -/
def sub : Number → Number → Number
  | integer a, integer b => integer (a - b)
  | a, b => decimal (a.toDecimal.sub b.toDecimal)

/-- Exact product, an integer when both operands are. -/
def mul : Number → Number → Number
  | integer a, integer b => integer (a * b)
  | a, b => decimal (a.toDecimal.mul b.toDecimal)

/-- The integer quotient of two integers of which the second divides the first. -/
def exactQuotient? : Number → Number → Option Int
  | integer a, integer b => if a % b = 0 then some (a / b) else none
  | _, _ => none

/-- Quotient, `none` for a zero divisor. -/
def div? (a b : Number) : Option Number :=
  if b.isZero then none
  else match exactQuotient? a b with
    | some quotient => some (integer quotient)
    | none => some (decimal (a.toDecimal.divide b.toDecimal))

/-- Order by value, across the domains. -/
def cmp (a b : Number) : Ordering := a.toDecimal.cmp b.toDecimal

end Number

end PropertyMacros
