/-!
Delimited lists: one text whose elements stand between literal separators.

Nothing is trimmed or collapsed, so separators at the ends or side by side delimit empty elements,
and the empty text is the list without elements. Occurrences of a separator are found from left to
right and do not overlap. The empty separator occurs at every character boundary, both ends
included.
-/

namespace PropertyMacros.Elements

/-- Occurrences of a non-empty `sep` in a text whose first `skip` characters are spoken for by an
occurrence that has been counted already. -/
def occurrences (sep : List Char) : Nat → List Char → Nat
  | _, [] => 0
  | skip + 1, _ :: rest => occurrences sep skip rest
  | 0, c :: rest =>
    if sep.isPrefixOf (c :: rest) then occurrences sep (sep.length - 1) rest + 1
    else occurrences sep 0 rest

def consFirst (c : Char) : List (List Char) → List (List Char)
  | [] => [[c]]
  | piece :: pieces => (c :: piece) :: pieces

/-- The pieces of a text around the occurrences of a non-empty `sep`, where the first `skip`
characters belong to an occurrence that has been found already. -/
def pieces (sep : List Char) : Nat → List Char → List (List Char)
  | _, [] => [[]]
  | skip + 1, _ :: rest => pieces sep skip rest
  | 0, c :: rest =>
    if sep.isPrefixOf (c :: rest) then [] :: pieces sep (sep.length - 1) rest
    else consFirst c (pieces sep 0 rest)

/-- The elements of `list`, empty ones included. -/
def split (sep list : List Char) : List (List Char) :=
  if list = [] then []
  else if sep = [] then [] :: list.map (fun c => [c]) ++ [[]]
  else pieces sep 0 list

/-- The number of elements of `list`, read off the occurrences of `sep`. -/
def count (sep list : List Char) : Nat :=
  if list = [] then 0
  else if sep = [] then list.length + 2
  else occurrences sep 0 list + 1

/-- The elements at positions `index`, …, `index + number - 1` that exist, joined again. -/
def sublist (sep : List Char) (index number : Nat) (list : List Char) : List Char :=
  sep.intercalate (((split sep list).drop index).take number)

/-- The elements of `list` as separated by `old`, joined with `new`. -/
def changeSeparator (old new list : List Char) : List Char :=
  new.intercalate (split old list)

/-- Writes `new` for every occurrence of a non-empty `old`, where the first `skip` characters
belong to an occurrence that has been replaced already. -/
def replaceFrom (old new : List Char) : Nat → List Char → List Char
  | _, [] => []
  | skip + 1, _ :: rest => replaceFrom old new skip rest
  | 0, c :: rest =>
    if old.isPrefixOf (c :: rest) then new ++ replaceFrom old new (old.length - 1) rest
    else c :: replaceFrom old new 0 rest

/-- Writes `new` for every occurrence of a non-empty `old` in `text`. -/
def replace (old new text : List Char) : List Char := replaceFrom old new 0 text

@[simp] theorem split_nil (sep : List Char) : split sep [] = [] := rfl

@[simp] theorem count_nil (sep : List Char) : count sep [] = 0 := rfl

end PropertyMacros.Elements
