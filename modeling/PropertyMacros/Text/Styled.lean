/-!
Text with terminal styles.

A style is a sequence of display codes, which are switched on in front of the text and off behind
it. The plain style leaves the text as it is.
-/

namespace PropertyMacros.Text

/-- The display codes of a style, in the order in which they are written. -/
abbrev Style := List Nat

/-- The sequence that sets display codes. -/
def escapeSequence (codes : Style) : List Char :=
  '\x1b' :: '[' :: List.intercalate [';'] (codes.map (Nat.toDigits 10)) ++ ['m']

def styled (style : Style) (text : List Char) : List Char :=
  if style = [] then text else escapeSequence style ++ text ++ escapeSequence [0]

end PropertyMacros.Text
