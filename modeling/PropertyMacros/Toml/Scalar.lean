import PropertyMacros.Toml.Value

/-!
Unquoted values: truth values, dates and times, and numbers.
-/

namespace PropertyMacros.Toml

/-- Gives a meaning to an unquoted value. -/
def scalar? (text : List Char) : Option Value :=
  if text = ['t', 'r', 'u', 'e'] then some (.boolean true)
  else if text = ['f', 'a', 'l', 's', 'e'] then some (.boolean false)
  else ((dateTime? text).map .dateTime).orElse fun _ => (Numeral.read? text).map .number

/-- What ends an unquoted value. -/
def isDelimiter (c : Char) : Bool :=
  c ∈ ['=', ',', '[', ']', '{', '}', ' ', '\t', '#', '\r', '\n']

/-- A date, with the digit of a time behind one blank. -/
def isDateBeforeTime (row rest : List Char) : Bool :=
  match date? row, rest with
  | some (_, []), ' ' :: c :: _ => c.isDigit
  | _, _ => false

/-- Reads an unquoted value. A blank ends it, except between a date and a time. -/
def unquoted? (text : List Char) : Option (Value × List Char) :=
  let row := text.takeWhile (!isDelimiter ·)
  let rest := text.dropWhile (!isDelimiter ·)
  if isDateBeforeTime row rest then
    let timeRow := rest.tail.takeWhile (!isDelimiter ·)
    (scalar? (row ++ ' ' :: timeRow)).map fun value =>
      (value, rest.tail.dropWhile (!isDelimiter ·))
  else (scalar? row).map fun value => (value, rest)

end PropertyMacros.Toml
