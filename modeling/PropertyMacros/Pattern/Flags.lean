import PropertyMacros.Text.Blank
import PropertyMacros.Text.Steps

/-!
Patterns: the flags that decide what a text means.

A pattern is a regular expression. It works on Unicode characters unless the flag `u` is switched
off, and then on bytes. Tables of Unicode properties are not available. So what would need them is
refused: classes of digits, blanks and words, word boundaries, and letters regardless of their case.
On bytes these are the ASCII ones, and there nothing may match a part of a character.

With the flag `x` a pattern is spaced freely: blanks between its parts do not count, and neither
does what stands between a number sign and the end of its line.
-/

namespace PropertyMacros.Pattern

/-- The flags that matter for the form of a pattern. -/
structure Flags where
  ignoresCase : Bool
  isUnicode : Bool
  isSpacedFreely : Bool
  deriving DecidableEq, Repr

def Flags.initial : Flags := ⟨false, true, false⟩

def flagLetters : List Char := ['i', 'm', 's', 'U', 'u', 'R', 'x']

namespace Flags

/-- Whether a character may stand for itself. -/
def allowsChars (flags : Flags) : Bool := !(flags.ignoresCase && flags.isUnicode)

/-- Whether a row of letters can stand for flags, each of them once and the hyphen not at the
end. -/
def areLetters (letters : List Char) : Bool :=
  letters.all (· ∈ '-' :: flagLetters) && decide letters.Nodup && letters.getLast? != some '-'

/-- Switches flags on, or off behind a hyphen. -/
def switch (flags : Flags) (letters : List Char) : Flags :=
  let on := letters.takeWhile (· != '-')
  let off := letters.dropWhile (· != '-')
  let switched (c : Char) (value : Bool) := (value || on.contains c) && !off.contains c
  ⟨switched 'i' flags.ignoresCase, switched 'u' flags.isUnicode, switched 'x' flags.isSpacedFreely⟩

/-- Skips blanks and comments. -/
def skipSpacing : (isComment : Bool) → List Char → List Char
  | _, [] => []
  | true, c :: rest => skipSpacing (c != '\n') rest
  | false, c :: rest =>
    if Text.isBlank c then skipSpacing false rest
    else if c == '#' then skipSpacing true rest
    else c :: rest

/-- Skips what does not count in front of the next part. -/
def skip (flags : Flags) (text : List Char) : List Char :=
  if flags.isSpacedFreely then skipSpacing false text else text

/-- The next character that counts. Of a comment only the sign in front of it and the blanks behind
that are left out, and if nothing but blanks follows, they count. -/
def peek? (flags : Flags) (text : List Char) : Option Char :=
  if flags.isSpacedFreely then
    let visible := match text.dropWhile Text.isBlank with
      | '#' :: comment => comment.dropWhile Text.isBlank
      | visible => visible
    visible.head?.or text.head?
  else text.head?

/-- Takes a number of characters, in front of each of which spacing can stand. -/
def takeSpaced? (flags : Flags) : (count : Nat) → List Char → Option (List Char × List Char)
  | 0, text => some ([], text)
  | count + 1, text =>
    match flags.skip text with
    | [] => none
    | c :: rest => (flags.takeSpaced? count rest).map fun p => (c :: p.1, p.2)

end Flags

/-- How deep a row of parts nests. A part that is alone does not make a row. -/
def rowDepth : List Nat → Nat
  | [] => 0
  | [depth] => depth
  | depths => depths.foldl max 0 + 1

end PropertyMacros.Pattern
