/-!
JSON values and their indented text.

Every element and every member stands on a line of its own, two blanks deeper than what holds it.
Strings escape quotes, backslashes and control characters, and nothing else.
-/

namespace PropertyMacros

/-- A JSON value, as far as numbers are not needed. Members keep their order. -/
inductive Json where
  | null
  | bool (value : Bool)
  | string (text : String)
  | array (elements : List Json)
  | object (members : List (String × Json))

namespace Json

/-- A control character by its code point, in four hexadecimal digits. -/
def controlEscape (c : Char) : List Char :=
  let digits := Nat.toDigits 16 c.toNat
  '\\' :: 'u' :: List.replicate (4 - digits.length) '0' ++ digits

def escapeChar (c : Char) : List Char :=
  if c = '"' then ['\\', '"']
  else if c = '\\' then ['\\', '\\']
  else if c = '\x08' then ['\\', 'b']
  else if c = '\t' then ['\\', 't']
  else if c = '\n' then ['\\', 'n']
  else if c = '\x0c' then ['\\', 'f']
  else if c = '\r' then ['\\', 'r']
  else if c < ' ' then controlEscape c
  else [c]

def quote (text : String) : List Char := '"' :: text.toList.flatMap escapeChar ++ ['"']

/-- The start of a line at a depth. -/
def lineAt (depth : Nat) : List Char := '\n' :: List.replicate (2 * depth) ' '

mutual

/-- The text of a value whose first line has been started at `depth`. -/
def render (depth : Nat) : Json → List Char
  | null => ['n', 'u', 'l', 'l']
  | bool true => ['t', 'r', 'u', 'e']
  | bool false => ['f', 'a', 'l', 's', 'e']
  | string text => quote text
  | array [] => ['[', ']']
  | array (element :: elements) =>
    '[' :: lineAt (depth + 1) ++ render (depth + 1) element ++
      renderElements (depth + 1) elements ++ lineAt depth ++ [']']
  | object [] => ['\x7b', '\x7d']
  | object ((key, value) :: members) =>
    '\x7b' :: lineAt (depth + 1) ++ quote key ++ ':' :: ' ' :: render (depth + 1) value ++
      renderMembers (depth + 1) members ++ lineAt depth ++ ['\x7d']

def renderElements (depth : Nat) : List Json → List Char
  | [] => []
  | element :: elements =>
    ',' :: lineAt depth ++ render depth element ++ renderElements depth elements

def renderMembers (depth : Nat) : List (String × Json) → List Char
  | [] => []
  | (key, value) :: members =>
    ',' :: lineAt depth ++ quote key ++ ':' :: ' ' :: render depth value ++
      renderMembers depth members

end

/-- The indented text of a value. -/
def pretty (value : Json) : String := String.ofList (render 0 value)

/-- The string, or `null` if there is none. -/
def ofOption : Option String → Json
  | some text => string text
  | none => null

end Json

end PropertyMacros
