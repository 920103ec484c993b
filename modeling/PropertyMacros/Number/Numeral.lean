import PropertyMacros.Number.Basic

/-!
Numbers as text.

A numeral is an optional `-`, ASCII digits and at most one `.` anywhere among or around them, with
at least one digit. Text with a `.` denotes a decimal whose scale counts the digits behind it, text
without one an integer. Printing is plain: no exponent, no zero at the end of a fraction, no
superfluous zero in front, and one form of zero.
-/

namespace PropertyMacros

/-- The least number with more than `2 ^ k` digits. -/
def halfBase (k : Nat) : Nat := Nat.pow 10 (Nat.pow 2 k)

theorem halfBase_pos (k : Nat) : 0 < halfBase k := Nat.pow_pos (by decide)

theorem halfBase_succ (k : Nat) : halfBase (k + 1) = halfBase k * halfBase k := by
  have hexponent : Nat.pow 2 (k + 1) = Nat.pow 2 k + Nat.pow 2 k := Nat.mul_two _
  rw [halfBase, hexponent]
  exact Nat.pow_add 10 (Nat.pow 2 k) (Nat.pow 2 k)

/-- The last `2 ^ k` digits of a natural number. -/
def lastDigits : (k : Nat) → Nat → List Char
  | 0, n => [Nat.digitChar (n % 10)]
  | k + 1, n => lastDigits k (n / halfBase k) ++ lastDigits k (n % halfBase k)

/-- The digits of a natural number, which is cut in halves `k` times at most. Cutting is faster than
dividing by ten again and again. -/
def digitsInHalves : (k : Nat) → Nat → List Char
  | 0, n => Nat.toDigits 10 n
  | k + 1, n =>
    if n < halfBase k then digitsInHalves k n
    else digitsInHalves k (n / halfBase k) ++ lastDigits k (n % halfBase k)

/-- Digits for a natural number, `0` for zero. -/
def digitsOf (n : Nat) : List Char := digitsInHalves (Nat.log2 (n.log2 / 3 + 1) + 1) n

theorem toDigits_append_lastDigits (k : Nat) {m r : Nat} (hm : 0 < m) (hr : r < halfBase k) :
    Nat.toDigits 10 m ++ lastDigits k r = Nat.toDigits 10 (m * halfBase k + r) := by
  induction k generalizing m r with
  | zero =>
    have hr : r < 10 := hr
    rw [lastDigits, Nat.mod_eq_of_lt hr, ← Nat.toDigits_of_lt_base hr,
      Nat.toDigits_append_toDigits (by decide) hm hr]
    have hbase : halfBase 0 = 10 := rfl
    rw [hbase, Nat.mul_comm]
  | succ k ih =>
    have hpos := halfBase_pos k
    have hq : r / halfBase k < halfBase k := Nat.div_lt_of_lt_mul (halfBase_succ k ▸ hr)
    rw [lastDigits, ← List.append_assoc, ih hm hq,
      ih (Nat.add_pos_left (Nat.mul_pos hm hpos) _) (Nat.mod_lt _ hpos), halfBase_succ,
      Nat.add_mul, Nat.mul_assoc, Nat.add_assoc, Nat.div_add_mod']

theorem digitsInHalves_eq (k n : Nat) : digitsInHalves k n = Nat.toDigits 10 n := by
  induction k generalizing n with
  | zero => rfl
  | succ k ih =>
    rw [digitsInHalves]
    split
    · exact ih n
    · next h =>
      have hpos := halfBase_pos k
      rw [ih, toDigits_append_lastDigits k (Nat.div_pos (Nat.le_of_not_lt h) hpos)
        (Nat.mod_lt _ hpos), Nat.div_add_mod']

theorem digitsOf_eq (n : Nat) : digitsOf n = Nat.toDigits 10 n := digitsInHalves_eq _ n

/-- The natural number that a row of digits denotes, the empty row denoting zero. -/
def valueOf (digits : List Char) : Nat := Nat.ofDigitChars 10 digits 0

/-- `magnitude` with a minus sign if `negative`. -/
def signed (negative : Bool) (magnitude : Nat) : Int :=
  if negative then -(magnitude : Int) else magnitude

namespace Number

def readSign : List Char → Bool × List Char
  | '-' :: rest => (true, rest)
  | text => (false, text)

/-- A non-empty row of ASCII digits. -/
def isDigits (text : List Char) : Bool := !text.isEmpty && text.all Char.isDigit

/-- Reads what stands behind the sign, cut at its first point. -/
def readUnsigned? (negative : Bool) (text : List Char) : Option Number :=
  let whole := text.takeWhile (· != '.')
  match text.dropWhile (· != '.') with
  | [] => if isDigits whole then some (integer (signed negative (valueOf whole))) else none
  | _ :: fraction =>
    if isDigits (whole ++ fraction) then
      some (decimal ⟨signed negative (valueOf (whole ++ fraction)), fraction.length⟩)
    else none

def read? (text : List Char) : Option Number :=
  readUnsigned? (readSign text).1 (readSign text).2

/-- What is said about a text that is no numeral. -/
def notANumber (text : String) : String := s!"not a number: '{text}'"

/-- The fault of a text that is no numeral. -/
structure Unreadable where
  text : String
  deriving DecidableEq, Repr

def Unreadable.message (fault : Unreadable) : String := notANumber fault.text

/-- Reads a text, or says which text it was that is no numeral. -/
def parse (text : String) : Except Unreadable Number :=
  match read? text.toList with
  | some value => .ok value
  | none => .error ⟨text⟩

end Number

/-- Puts zeros in front until there are `length` digits. -/
def padZeros (length : Nat) (digits : List Char) : List Char :=
  List.replicate (length - digits.length) '0' ++ digits

def dropTrailingZeros (digits : List Char) : List Char :=
  (digits.reverse.dropWhile (· == '0')).reverse

/-- A fraction behind its point, and nothing for an empty fraction. -/
def printFraction : List Char → List Char
  | [] => []
  | digits => '.' :: digits

/-- The greatest number of zeros that are written behind the last digit that is not zero. A longer
row of zeros is left out. -/
def maxZeros : Nat := Nat.pow 2 63 - 1

/-- Plain notation of `magnitude · 10^(-scale)`. -/
def printMagnitude (magnitude : Nat) (scale : Int) : List Char :=
  if magnitude = 0 then ['0']
  else match scale with
    | .ofNat places =>
      let digits := padZeros (places + 1) (digitsOf magnitude)
      digits.take (digits.length - places) ++
        printFraction (dropTrailingZeros (digits.drop (digits.length - places)))
    | .negSucc k =>
      let digits := digitsOf magnitude
      let row := dropTrailingZeros digits
      let zeros := digits.length - row.length + (k + 1)
      row ++ List.replicate (if zeros ≤ maxZeros then zeros else 0) '0'

/-- Plain notation of a decimal, the same for every form of one number. -/
def Decimal.print (d : Decimal) : List Char :=
  if d.digits < 0 then '-' :: printMagnitude d.digits.natAbs d.scale
  else printMagnitude d.digits.natAbs d.scale

def Number.print : Number → List Char
  | .integer value => Decimal.print ⟨value, 0⟩
  | .decimal value => value.print

/-- The greatest position in a list is below this bound. -/
def indexBound : Nat := Nat.pow 2 64

def dropPlus : List Char → List Char
  | '+' :: rest => rest
  | text => text

/-- Reads a non-negative integer below `indexBound`: an optional `+` and ASCII digits. -/
def readIndex? (text : List Char) : Option Nat :=
  let digits := dropPlus text
  if Number.isDigits digits && valueOf digits < indexBound then some (valueOf digits) else none

end PropertyMacros
