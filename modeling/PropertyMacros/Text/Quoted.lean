import PropertyMacros.Text.Visible

/-!
Texts in double quotes on one line, in which every character can be told.

Quotes, backslashes and the usual control characters are written with a backslash. Other characters
that are not seen when they stand alone are written by their code point.
-/

namespace PropertyMacros.Text

/-- A code point in braces, with lower-case hexadecimal digits. -/
def codePoint (c : Char) : List Char := '\\' :: 'u' :: '\x7b' :: Nat.toDigits 16 c.toNat ++ ['\x7d']

def quoteChar (c : Char) : List Char :=
  if c = '\x00' then ['\\', '0']
  else if c = '\t' then ['\\', 't']
  else if c = '\r' then ['\\', 'r']
  else if c = '\n' then ['\\', 'n']
  else if c = '\\' then ['\\', '\\']
  else if c = '"' then ['\\', '"']
  else if isVisible c then [c]
  else codePoint c

def quote (text : List Char) : List Char := '"' :: text.flatMap quoteChar ++ ['"']

end PropertyMacros.Text
