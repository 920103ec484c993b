import PropertyMacros.Number.Numeral
import PropertyMacros.Text.Hexadecimal

/-!
Integers and real numbers of a TOML document.

The form of a number is checked where it is read, and its value is worked out only where something
asks for it. Digits are grouped with single underscores. A number without a base of its own may have
a sign and has no superfluous zero in front.
-/

namespace PropertyMacros.Toml

open Text (digitIn? isDigitIn)

/-- A number as it is written, but without underscores. An integer need not consist of digits of its
base, since behind its first group the form is not checked. -/
inductive Numeral where
  | integer (base : Nat) (text : List Char)
  | real (text : List Char)
  deriving DecidableEq, Repr

def dropSign : List Char → List Char
  | '-' :: rest => rest
  | '+' :: rest => rest
  | text => text

/-- Drops underscores, which stand between two digits. Of what is in front of the text `afterDigit`
tells whether it is one. -/
def ungroupFrom? (isDigit : Char → Bool) (afterDigit : Bool) : List Char → Option (List Char)
  | [] => some []
  | ['_'] => none
  | '_' :: c :: rest =>
    if afterDigit && isDigit c then (ungroupFrom? isDigit true rest).map (c :: ·) else none
  | c :: rest => (ungroupFrom? isDigit (isDigit c) rest).map (c :: ·)

/-- Drops underscores, which stand between two digits. -/
def ungroup? (isDigit : Char → Bool) : List Char → Option (List Char) := ungroupFrom? isDigit false

/-- What rows of digits with underscores consist of. -/
def isGrouped (isDigit : Char → Bool) (c : Char) : Bool := isDigit c || c == '_'

/-- Skips a row of grouped digits with at least one digit. A zero in front of other digits has to be
allowed. -/
def skipDigits? (mayHaveZeros : Bool) (text : List Char) : Option (List Char) :=
  match (text.takeWhile (isGrouped Char.isDigit)).countP Char.isDigit with
  | 0 => none
  | 1 => some (text.dropWhile (isGrouped Char.isDigit))
  | _ =>
    if text.head? == some '0' && !mayHaveZeros then none
    else some (text.dropWhile (isGrouped Char.isDigit))

/-- What stands in front of an exponent. -/
def isExponentMark (c : Char) : Bool := c == 'e' || c == 'E'

def skipFraction? : List Char → Option (List Char)
  | '.' :: rest => skipDigits? true rest
  | text => some text

def skipExponent? : List Char → Option (List Char)
  | [] => some []
  | c :: rest => if isExponentMark c then skipDigits? true (dropSign rest) else some (c :: rest)

/-- Whether a text without a sign has the form of a real number. -/
def isReal (text : List Char) : Bool :=
  (skipDigits? false text >>= skipFraction? >>= skipExponent?) == some []

/-- Reads an integer behind the characters that announce its base. -/
def readInBase? (base : Nat) (text : List Char) : Option Numeral :=
  if text.all (isGrouped (isDigitIn base)) then
    (ungroup? (isDigitIn base) text).map (.integer base)
  else none

/-- Reads a number without a base of its own. A point or an exponent makes it a real number, and so
do the words for infinity and for what is no number. -/
def readDecimal? (text : List Char) : Option Numeral :=
  let unsigned := dropSign text
  let rest := unsigned.dropWhile Char.isDigit
  if unsigned = ['i', 'n', 'f'] || unsigned = ['n', 'a', 'n'] then some (.real text)
  else if rest.any fun c => c == '.' || isExponentMark c then
    if isReal unsigned then (ungroup? Char.isDigit text).map .real else none
  else match unsigned, rest with
    | ['0'], _ => some (.integer 10 text)
    | [], _ | '0' :: _, _ => none
    | _, [] | _, '_' :: _ => (ungroup? (isDigitIn 16) text).map (.integer 10)
    | _, _ => none

def Numeral.read? : List Char → Option Numeral
  | '0' :: 'x' :: rest => readInBase? 16 rest
  | '0' :: 'o' :: rest => readInBase? 8 rest
  | '0' :: 'b' :: rest => readInBase? 2 rest
  | text => readDecimal? text

/-- The least number above all that fit into 128 bits without a sign. -/
def integerBound : Nat := Nat.pow 2 128

/-- The value of a row of digits in `base`. -/
def valueIn? (base : Nat) (text : List Char) : Option Nat :=
  if text.isEmpty then none
  else text.foldlM (fun value c => (digitIn? base c).map (value * base + ·)) 0

/-- Whether an integer fits into 128 bits. -/
def integerFits (base : Nat) (text : List Char) : Bool :=
  match text with
  | '-' :: row => (valueIn? base row).any (· ≤ integerBound / 2)
  | text => (valueIn? base (dropSign text)).any (· < integerBound)

/-- The magnitude from which on a number of double precision is infinite. -/
def realBound : Nat := Nat.pow 2 1024 - Nat.pow 2 970

/-- Whether a row of digits without zeros in front, of which `scale` ones are a fraction, rounds to
a finite number of double precision. Far from the bound the number of digits tells. -/
def isFiniteDouble (row : List Char) (scale : Int) : Bool :=
  let places : Int := row.length - scale
  row.isEmpty || places < 300 ||
    places < 320 &&
      valueOf row * Nat.pow 10 (-scale).toNat < realBound * Nat.pow 10 scale.toNat

def exponentOf : List Char → Int
  | '-' :: row => -(valueOf row : Int)
  | text => (valueOf (dropSign text) : Int)

/-- Whether a real number in its written form is finite in double precision, or is not meant to be
finite. -/
def realFits (text : List Char) : Bool :=
  let unsigned := dropSign text
  let mantissa := unsigned.takeWhile (!isExponentMark ·)
  let exponent := (unsigned.dropWhile (!isExponentMark ·)).drop 1
  let whole := mantissa.takeWhile (· != '.')
  let fraction := (mantissa.dropWhile (· != '.')).drop 1
  unsigned = ['i', 'n', 'f'] || unsigned = ['n', 'a', 'n'] ||
    isFiniteDouble ((whole ++ fraction).dropWhile (· == '0'))
      (fraction.length - exponentOf exponent)

/-- Whether a number fits: an integer into 128 bits, a real number into double precision. -/
def Numeral.fits : Numeral → Bool
  | integer base text => integerFits base text
  | real text => realFits text

end PropertyMacros.Toml
