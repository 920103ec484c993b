import PropertyMacros.Toml.Quoted
import PropertyMacros.Toml.Scalar

/-!
TOML documents: keys, values, and the statements that fill the table of a document.

The dialect is TOML 1.1. Every statement takes a line: a header opens a table for the keys that
follow, and a key with a value adds to the table that is open.
-/

namespace PropertyMacros.Toml

open Text (Step readSteps)

/-- What may stand in an unquoted key. -/
def isBareKey (c : Char) : Bool := c.isAlphanum || c == '-' || c == '_'

def simpleKey? (text : List Char) : Option (String × List Char) :=
  match singleLine? text with
  | some (key, rest) => some (String.ofList key, rest)
  | none =>
    let key := text.takeWhile isBareKey
    if key.isEmpty then none else some (String.ofList key, text.dropWhile isBareKey)

/-- Reads one part of a key with the point behind it, or the last part. Blanks may surround each.
The parts are collected in reverse. -/
def keyStep (collected : List String) (text : List Char) : Option (Step (List String)) := do
  let (key, rest) ← simpleKey? (skipBlanks text)
  match skipBlanks rest with
  | '.' :: rest => some (.more (key :: collected) rest)
  | rest => some (.done (key :: collected) rest)

/-- How many parts a key may have, and how deep brackets and braces may be nested. -/
def maxDepth : Nat := 80

/-- Reads a key: the parts in front of the last one, and the last one. -/
def key? (text : List Char) : Option ((List String × String) × List Char) := do
  match ← readSteps keyStep [] text with
  | (last :: before, rest) =>
    if before.length < maxDepth then some ((before.reverse, last), rest) else none
  | _ => none

/-- Adds a value under a dotted or plain key to the table at the end of `path`. -/
def addAt (path : List PathStep) (key : List String × String) (value : Value) (origin : Origin)
    (entries : Entries) : Option Entries := do
  let change := addKey (!key.1.isEmpty) key.2 value
  (← alter change (path ++ key.1.map .dotted) origin entries).entries?

/-- Reads an element of an array with what follows it, or the end. The elements are collected in
reverse. -/
def arrayStep (value? : List Char → Option (Value × List Char)) (collected : List Value)
    (text : List Char) : Option (Step (List Value)) :=
  match skipSpace text with
  | ']' :: rest => some (.done collected rest)
  | text => do
    let (value, rest) ← value? text
    match skipSpace rest with
    | ',' :: rest => some (.more (value :: collected) rest)
    | ']' :: rest => some (.done (value :: collected) rest)
    | _ => none

/-- Reads a key of a table in braces with its value and what follows it, or the end. -/
def bracesStep (value? : List Char → Option (Value × List Char)) (entries : Entries)
    (text : List Char) : Option (Step Entries) :=
  match skipSpace text with
  | '}' :: rest => some (.done entries rest)
  | text => do
    let (key, rest) ← key? text
    let (value, rest) ← value? (skipSpace (← char? '=' (skipSpace rest)))
    let entries ← addAt [] key value .braces entries
    match skipSpace rest with
    | ',' :: rest => some (.more entries rest)
    | '}' :: rest => some (.done entries rest)
    | _ => none

/-- Reads a value in which brackets and braces are nested at most `depth` times. -/
def value? : (depth : Nat) → List Char → Option (Value × List Char)
  | _, '"' :: rest => do
    let (text, rest) ← quoted? ('"' :: rest)
    some (.string (String.ofList text), rest)
  | _, '\'' :: rest => do
    let (text, rest) ← quoted? ('\'' :: rest)
    some (.string (String.ofList text), rest)
  | depth + 1, '[' :: rest => do
    let (elements, rest) ← readSteps (arrayStep (value? depth)) [] rest
    some (.array elements.reverse, rest)
  | depth + 1, '{' :: rest => do
    let (entries, rest) ← readSteps (bracesStep (value? depth)) [] rest
    some (.table .braces entries, rest)
  | _, text => unquoted? text

/-- The table of a document so far, and the path to the table that is open. -/
structure Progress where
  entries : Entries
  path : List PathStep

/-- Opens the table of a header. -/
def Progress.openHeader (p : Progress) (isArray : Bool) (key : List String × String) :
    Option Progress := do
  let change := if isArray then openNextTable key.2 else openTable key.2
  let table ← alter change (key.1.map .header) .header p.entries
  some ⟨← table.entries?, key.1.map .header ++ [.header key.2]⟩

/-- Reads a header behind its first bracket. -/
def header? (p : Progress) (text : List Char) : Option (Progress × List Char) :=
  match text with
  | '[' :: text => do
    let (key, rest) ← key? text
    some (← p.openHeader true key, ← char? ']' (← char? ']' rest))
  | text => do
    let (key, rest) ← key? text
    some (← p.openHeader false key, ← char? ']' rest)

def keyValue? (p : Progress) (text : List Char) : Option (Progress × List Char) := do
  let (key, rest) ← key? text
  let (value, rest) ← value? maxDepth (skipBlanks (← char? '=' rest))
  some ({ p with entries := ← addAt p.path key value .header p.entries }, rest)

/-- Reads a statement with its line end, or the end of the document. Empty lines and comments lead
to it. -/
def statementStep (p : Progress) (text : List Char) : Option (Step Progress) :=
  match skipSpace text with
  | [] => some (.done p [])
  | '[' :: rest => do
    let (p, rest) ← header? p rest
    some (.more p (← endLine? rest))
  | text => do
    let (p, rest) ← keyValue? p text
    some (.more p (← endLine? rest))

def skipByteOrderMark : List Char → List Char
  | '\ufeff' :: rest => rest
  | text => text

def read? (text : List Char) : Option Entries := do
  let (p, _) ← readSteps statementStep ⟨[], []⟩ (skipByteOrderMark text)
  some p.entries

end PropertyMacros.Toml
