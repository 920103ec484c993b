import PropertyMacros.Number.Numeral

/-!
Dates and times of a TOML document.

A date-time has a date, a time, or both, and with both it may have an offset. Seconds that are left
out are zero. Fractions of a second are kept to nine digits.
-/

namespace PropertyMacros.Toml

structure Date where
  year : Nat
  month : Nat
  day : Nat
  deriving DecidableEq, Repr

/-- A time of day. The fraction is in nanoseconds. -/
structure Time where
  hour : Nat
  minute : Nat
  second : Nat
  nanosecond : Nat
  deriving DecidableEq, Repr

/-- The distance from universal time. -/
inductive Offset where
  | universal
  | minutes (count : Int)
  deriving DecidableEq, Repr

/-- A date, a time, or a date with a time and perhaps an offset. -/
structure DateTime where
  date? : Option Date
  time? : Option Time
  offset? : Option Offset
  deriving DecidableEq, Repr

def isLeapYear (year : Nat) : Bool := year % 4 == 0 && (year % 100 != 0 || year % 400 == 0)

def daysOfMonth (year month : Nat) : Nat :=
  if month = 2 then if isLeapYear year then 29 else 28
  else if month ∈ [4, 6, 9, 11] then 30
  else 31

/-- Reads a row of exactly `count` digits. -/
def digits? (count : Nat) (text : List Char) : Option (Nat × List Char) :=
  let row := text.takeWhile Char.isDigit
  if row.length = count then some (valueOf row, text.drop count) else none

def date? (text : List Char) : Option (Date × List Char) := do
  let (year, rest) ← digits? 4 text
  let (month, rest) ← match rest with
    | '-' :: rest => digits? 2 rest
    | _ => none
  let (day, rest) ← match rest with
    | '-' :: rest => digits? 2 rest
    | _ => none
  guard (1 ≤ month ∧ month ≤ 12 ∧ 1 ≤ day ∧ day ≤ daysOfMonth year month)
  some (⟨year, month, day⟩, rest)

/-- Reads the fraction of a second behind its point, cut to nine digits. -/
def fraction? (text : List Char) : Option (Nat × List Char) :=
  let row := text.takeWhile Char.isDigit
  if row.isEmpty then none
  else some (valueOf (row.take 9 ++ List.replicate (9 - row.length) '0'), text.drop row.length)

def time? (text : List Char) : Option (Time × List Char) := do
  let (hour, rest) ← digits? 2 text
  let (minute, rest) ← match rest with
    | ':' :: rest => digits? 2 rest
    | _ => none
  guard (hour ≤ 23 ∧ minute ≤ 59)
  match rest with
  | ':' :: rest =>
    let (second, rest) ← digits? 2 rest
    guard (second ≤ 60)
    match rest with
    | '.' :: rest =>
      let (nanosecond, rest) ← fraction? rest
      some (⟨hour, minute, second, nanosecond⟩, rest)
    | rest => some (⟨hour, minute, second, 0⟩, rest)
  | rest => some (⟨hour, minute, 0, 0⟩, rest)

/-- Reads an offset in hours and minutes behind its sign. -/
def offsetMinutes? (text : List Char) : Option Nat := do
  let (hours, rest) ← digits? 2 text
  let (minutes, rest) ← match rest with
    | ':' :: rest => digits? 2 rest
    | _ => none
  guard (hours ≤ 23 ∧ minutes ≤ 59 ∧ rest = [])
  some (hours * 60 + minutes)

/-- Reads what follows a date and a time: an offset or nothing. -/
def offset? : List Char → Option (Option Offset)
  | [] => some none
  | ['Z'] | ['z'] => some (some .universal)
  | '+' :: rest => (offsetMinutes? rest).map fun count => some (.minutes count)
  | '-' :: rest => (offsetMinutes? rest).map fun count => some (.minutes (-(count : Int)))
  | _ => none

/-- Reads a date-time that takes up the whole text. -/
def dateTime? (text : List Char) : Option DateTime :=
  match date? text with
  | some (date, []) => some ⟨date, none, none⟩
  | some (date, separator :: rest) => do
    guard (separator ∈ ['T', 't', ' '])
    let (time, rest) ← time? rest
    some ⟨date, time, ← offset? rest⟩
  | none => do
    let (time, rest) ← time? text
    guard (rest = [])
    some ⟨none, time, none⟩

/-- A number with zeros in front. -/
def padded (length n : Nat) : List Char := padZeros length (digitsOf n)

def Date.print (d : Date) : List Char :=
  padded 4 d.year ++ '-' :: padded 2 d.month ++ '-' :: padded 2 d.day

/-- Hours, minutes and seconds, with the fraction of a second unless it is zero. -/
def Time.print (t : Time) : List Char :=
  padded 2 t.hour ++ ':' :: padded 2 t.minute ++ ':' :: padded 2 t.second ++
    printFraction (dropTrailingZeros (padded 9 t.nanosecond))

/-- `Z`, or a sign with hours and minutes. -/
def Offset.print : Offset → List Char
  | .universal => ['Z']
  | .minutes count =>
    (if count < 0 then '-' else '+') ::
      padded 2 (count.natAbs / 60) ++ ':' :: padded 2 (count.natAbs % 60)

/-- Date and time with a `T` between them, and the offset. -/
def DateTime.print (d : DateTime) : List Char :=
  (d.date?.map Date.print).getD [] ++
    (if d.date?.isSome && d.time?.isSome then ['T'] else []) ++
    (d.time?.map Time.print).getD [] ++ (d.offset?.map Offset.print).getD []

end PropertyMacros.Toml
