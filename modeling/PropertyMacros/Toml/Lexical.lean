/-!
Blanks, line ends and comments of a TOML document.

A reader takes the text that is left and returns what it has read with the rest, or nothing if the
text is not what it should be.
-/

namespace PropertyMacros.Toml

def isBlank (c : Char) : Bool := c == ' ' || c == '\t'

/-- What may stand in comments and strings: tabs, and all but control characters. -/
def isText (c : Char) : Bool := c == '\t' || (' ' ≤ c && c != '\x7f')

def skipBlanks (text : List Char) : List Char := text.dropWhile isBlank

/-- Reads a line feed, or a carriage return with a line feed. -/
def lineEnd? : List Char → Option (List Char)
  | '\n' :: rest => some rest
  | '\r' :: '\n' :: rest => some rest
  | _ => none

/-- Skips a comment, if there is one, up to the line end. -/
def skipComment : List Char → List Char
  | '#' :: rest => rest.dropWhile isText
  | text => text

/-- Skips what may stand behind a statement: blanks, a comment and the line end, which the last line
need not have. -/
def endLine? (text : List Char) : Option (List Char) :=
  match skipComment (skipBlanks text) with
  | [] => some []
  | rest => lineEnd? rest

/-- Skips blanks, comments and line ends from outside or inside a comment. -/
def skipSpaceFrom (inComment : Bool) : List Char → List Char
  | [] => []
  | '\n' :: rest => skipSpaceFrom false rest
  | '\r' :: '\n' :: rest => skipSpaceFrom false rest
  | c :: rest =>
    if inComment && isText c || isBlank c then skipSpaceFrom inComment rest
    else if !inComment && c == '#' then skipSpaceFrom true rest
    else c :: rest

/-- Skips blanks, comments and line ends in any number. What follows is left to the next reader,
and so is a control character that ends a comment. -/
def skipSpace (text : List Char) : List Char := skipSpaceFrom false text

def char? (c : Char) : List Char → Option (List Char)
  | [] => none
  | d :: rest => if d = c then some rest else none

end PropertyMacros.Toml
