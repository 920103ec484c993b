import PropertyMacros.Text.BreakClass

/-!
Where a line may be broken.

Whether a break is allowed between two characters depends on the class of the second one and on what
stands in front of it: the class of the last character that is no blank, whether blanks follow upon
it, and in three cases a little more. Marks take the class of the character that they belong to.
-/

namespace PropertyMacros.Text

open BreakClass

/-- What stands in front of a character. -/
structure BreakContext where
  /-- The class of the last character that is no blank. -/
  last : BreakClass
  /-- Whether blanks follow upon it. -/
  isSpaced : Bool
  /-- Whether the joiner of emoji stands directly in front. -/
  isJoined : Bool
  /-- Whether the last character is a hyphen behind a Hebrew letter. -/
  isHebrewHyphen : Bool
  /-- Whether the last character begins a flag. -/
  isHalfFlag : Bool

def BreakContext.start : BreakContext := ⟨mandatory, false, false, false, false⟩

/-- The ends of a line. -/
def isLineEnd (k : BreakClass) : Bool :=
  k ∈ [mandatory, carriageReturn, lineFeed, nextLine]

/-- Marks that belong to the character in front of them. -/
def isMark (k : BreakClass) : Bool := k ∈ [combining, zeroWidthJoiner]

def isLetter (k : BreakClass) : Bool := k ∈ [alphabetic, hebrewLetter]

def isOpening (k : BreakClass) : Bool := k ∈ [opening, wideOpening]

/-- Signs in front of a number or behind it. -/
def isNumericSign (k : BreakClass) : Bool := k ∈ [numericPrefix, numericSuffix]

def isPicture (k : BreakClass) : Bool := k ∈ [ideographic, emojiBase, emojiModifier]

/-- Parts of Korean syllables, and whole ones. -/
def isKorean (k : BreakClass) : Bool :=
  k ∈ [leadingJamo, vowelJamo, trailingJamo, openSyllable, closedSyllable]

/-- Whether two classes belong to one Korean syllable. -/
def isSyllable (first second : BreakClass) : Bool :=
  (first = leadingJamo && second ∈ [leadingJamo, vowelJamo, openSyllable, closedSyllable]) ||
    (first ∈ [vowelJamo, openSyllable] && second ∈ [vowelJamo, trailingJamo]) ||
    (first ∈ [trailingJamo, closedSyllable] && second = trailingJamo)

/-- Whether two classes that meet without a blank belong to one number. -/
def isNumber (first second : BreakClass) : Bool :=
  (isLetter first && second = numeric) || (first = numeric && isLetter second) ||
    (first = numericPrefix && isPicture second) || (isPicture first && second = numericSuffix) ||
    (isNumericSign first && isLetter second) || (isLetter first && isNumericSign second) ||
    (first ∈ [closing, closingParenthesis, numeric] && isNumericSign second) ||
    (isNumericSign first && (isOpening second || second = numeric)) ||
    (first ∈ [hyphen, infixSeparator, numeric, slash] && second = numeric) ||
    (isKorean first && second = numericSuffix) || (first = numericPrefix && isKorean second)

/-- Whether two classes that meet without a blank belong to one word. -/
def isWord (first second : BreakClass) : Bool :=
  (isLetter first && isLetter second) || (first = infixSeparator && isLetter second) ||
    ((isLetter first || first = numeric) && second = opening) ||
    (first = closingParenthesis && (isLetter second || second = numeric)) ||
    (first = emojiBase && second = emojiModifier)

/-- Whether a break is allowed between two classes that meet without a blank. -/
def allowsBetween (first second : BreakClass) : Bool :=
  if first = zeroWidthSpace then true
  else if wordJoiner ∈ [first, second] || first = glue then false
  else if second = glue then first ∈ [breakAfter, hyphen]
  else if second ∈ [closing, closingParenthesis, exclamation, infixSeparator, slash] then false
  else if isOpening first || quotation ∈ [first, second] then false
  else if first = breakBoth && second = breakBoth then false
  else if first ∈ [closing, closingParenthesis] && second = nonstarter then false
  else if contingent ∈ [first, second] then true
  else if second ∈ [breakAfter, hyphen, nonstarter] || first = breakBefore then false
  else if first = slash && second = hebrewLetter then false
  else if second = inseparable then false
  else !(isNumber first second || isSyllable first second || isWord first second)

/-- Whether a break is allowed between two classes with blanks between them. -/
def allowsAfterSpace (first second : BreakClass) : Bool :=
  if first = zeroWidthSpace then true
  else if second = wordJoiner then false
  else if second ∈ [closing, closingParenthesis, exclamation, infixSeparator, slash] then false
  else if isOpening first || (first = quotation && isOpening second) then false
  else if first ∈ [closing, closingParenthesis] && second = nonstarter then false
  else !(first = breakBoth && second = breakBoth)

namespace BreakContext

/-- Whether a mark in this place belongs to the character in front of it. -/
def hasBase (c : BreakContext) : Bool :=
  !(c.isSpaced || isLineEnd c.last || c.last = zeroWidthSpace)

/-- Whether a break is allowed in front of a character. -/
def allows (c : BreakContext) (next : BreakClass) : Bool :=
  if isLineEnd c.last && !c.isSpaced then !(c.last = carriageReturn && next = lineFeed)
  else if isLineEnd next || next ∈ [space, zeroWidthSpace] || c.isJoined then false
  else if isMark next && c.hasBase then false
  else
    let next := if isMark next then alphabetic else next
    if c.isSpaced then allowsAfterSpace c.last next
    else if c.isHebrewHyphen || (c.isHalfFlag && next = regionalIndicator) then false
    else allowsBetween c.last next

def next (c : BreakContext) (k : BreakClass) : BreakContext :=
  if k = space then { c with isSpaced := true, isJoined := false }
  else if isMark k && c.hasBase then { c with isJoined := k = zeroWidthJoiner }
  else
    { last := if isMark k then alphabetic else k
      isSpaced := false
      isJoined := k = zeroWidthJoiner
      isHebrewHyphen := c.last = hebrewLetter && !c.isSpaced && k ∈ [breakAfter, hyphen]
      isHalfFlag :=
        k = regionalIndicator && !(c.isHalfFlag && !c.isSpaced && c.last = regionalIndicator) }

end BreakContext

end PropertyMacros.Text
