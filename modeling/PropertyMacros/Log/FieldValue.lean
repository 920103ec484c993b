import PropertyMacros.Pattern.Form

/-!
Values that a field of a span can be asked for: numbers and patterns.
-/

namespace PropertyMacros.Log

/-- Whether a text is a row of digits with a point among or around them. -/
def isPlainNumber (text : List Char) : Bool :=
  (text.all fun c => c.isDigit || c == '.') && text.any Char.isDigit && text.count '.' ≤ 1

/-- Whether a text without a sign is a number: plain or with an exponent, or a word for infinity or
for what is no number. -/
def isUnsignedNumber (text : List Char) : Bool :=
  let lower := text.map Char.toLower
  lower ∈ ["inf".toList, "infinity".toList, "nan".toList] ||
    match Text.splitFirst? 'e' lower with
    | none => isPlainNumber text
    | some (mantissa, exponent) =>
      let digits := match exponent with
        | '+' :: digits | '-' :: digits => digits
        | digits => digits
      isPlainNumber mantissa && !digits.isEmpty && digits.all Char.isDigit

/-- Whether a text is a number or a pattern. A number without a plus sign is a pattern too. -/
def isNumberOrPattern (text : List Char) : Bool :=
  match text with
  | '+' :: number => isUnsignedNumber number
  | text => Pattern.isPattern text

end PropertyMacros.Log
