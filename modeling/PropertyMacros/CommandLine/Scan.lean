import PropertyMacros.Command.Eval
import PropertyMacros.CommandLine.Syntax

/-!
Reading the arguments of one level from left to right.

The value of an option and the assignments behind the names of a property are not looked at when
they come in but when the next option does, or the arguments end. So of two faults the later one can
be reported, which the order of the steps below decides.
-/

namespace PropertyMacros.CommandLine

/-- Why there is nothing to run. The first two are requests and no faults. -/
inductive Stop where
  | help
  | version
  | noArguments
  | missingCommand
  | unknownCommand
  /-- The category or the name of the property is not given. -/
  | missingArgument
  /-- An option that the level does not have, or an argument that it has no place for. -/
  | unknownArgument
  | repeatedOption (opt : Opt)
  /-- An option without its value, or an empty path. -/
  | missingValue (opt : Opt)
  | unexpectedValue (opt : Opt)
  | invalidAssignment (error : CommandError)
  deriving DecidableEq, Repr

/-- What has come in but has not been looked at. -/
inductive Pending where
  | nothing
  /-- An option with its value, as far as that has come in. -/
  | value (opt : Opt) (value? : Option String)
  /-- Arguments that are to be assignments. -/
  | assignments (args : List String)
  deriving DecidableEq, Repr

structure Scan where
  /-- The options used, with their values. Flags have an empty one. -/
  options : List (Opt × String)
  /-- The category and the name of a property. -/
  names : List String
  assignments : List (String × String)
  pending : Pending
  /-- Whether two dashes have come in, so that nothing is an option any more. -/
  afterSeparator : Bool
  deriving DecidableEq, Repr

namespace Scan

def start : Scan := ⟨[], [], [], .nothing, false⟩

def uses (scan : Scan) (opt : Opt) : Bool := (scan.options.lookup opt).isSome

def value? (scan : Scan) (opt : Opt) : Option String := scan.options.lookup opt

def record (scan : Scan) (opt : Opt) (value : String) : Except Stop Scan :=
  if scan.uses opt then .error (.repeatedOption opt)
  else if opt.isPath && value == "" then .error (.missingValue opt)
  else .ok { scan with options := scan.options ++ [(opt, value)] }

/-- Reads assignments up to the first argument that is none. -/
def readAssignments (args : List String) : Except Stop (List (String × String)) :=
  (args.mapM readAssignment).mapError .invalidAssignment

def resolve (scan : Scan) : Except Stop Scan :=
  let settled := { scan with pending := .nothing }
  match scan.pending with
  | .nothing => .ok settled
  | .value opt none => .error (.missingValue opt)
  | .value opt (some value) => settled.record opt value
  | .assignments args => do
    return { settled with assignments := scan.assignments ++ (← readAssignments args) }

/-- Uses a flag. Requests for help or the version end everything. -/
def useFlag (scan : Scan) (opt : Opt) : Except Stop Scan := do
  let scan ← scan.resolve
  match opt with
  | .help => throw .help
  | .version => throw .version
  | _ => scan.record opt ""

/-- Uses an option with a value attached to it. -/
def useValue (scan : Scan) (opt : Opt) (value : String) : Except Stop Scan := do
  (← scan.resolve).record opt value

/-- Uses an option whose value is the next argument. -/
def awaitValue (scan : Scan) (opt : Opt) : Except Stop Scan := do
  return { ← scan.resolve with pending := .value opt none }

def useLong (level : Level) (scan : Scan) (name : List Char) (value? : Option (List Char)) :
    Except Stop Scan :=
  match level.findLong? name with
  | none => .error .unknownArgument
  | some opt =>
    match opt.takesValue, value? with
    | true, some value => scan.useValue opt (String.ofList value)
    | true, none => scan.awaitValue opt
    | false, some _ => .error (.unexpectedValue opt)
    | false, none => scan.useFlag opt

/-- Drops the equals sign that may stand between a letter and its value. -/
def dropEquals : List Char → List Char
  | '=' :: value => value
  | value => value

/-- Options by their letters. What follows the letter of an option with a value is the value. -/
def useShort (level : Level) : Scan → List Char → Except Stop Scan
  | scan, [] => .ok scan
  | scan, letter :: rest =>
    match level.findShort? letter with
    | none => .error .unknownArgument
    | some opt =>
      if opt.takesValue then
        if rest.isEmpty then scan.awaitValue opt
        else scan.useValue opt (String.ofList (dropEquals rest))
      else do useShort level (← scan.useFlag opt) rest

/-- An argument that is no option. Only the level of `eval` has a place for it: the category and the
name come first, and assignments follow. -/
def usePlain (level : Level) (scan : Scan) (arg : String) : Except Stop Scan :=
  match level with
  | .eval =>
    if scan.names.length < 2 then do
      let scan ← scan.resolve
      return { scan with names := scan.names ++ [arg] }
    else match scan.pending with
      | .assignments args => .ok { scan with pending := .assignments (args ++ [arg]) }
      | _ => do return { ← scan.resolve with pending := .assignments [arg] }
  | .root =>
    if scan.afterSeparator && (Keyword.ofName? arg).isSome then .error .unknownArgument
    else .error .unknownCommand
  | .list => .error .unknownArgument

def step (level : Level) (scan : Scan) (arg : String) : Except Stop Scan :=
  if scan.afterSeparator then scan.usePlain level arg
  else match Token.ofArg arg.toList with
    | .separator => .ok { scan with afterSeparator := true }
    | .long name value? => scan.useLong level name value?
    | .short letters => scan.useShort level letters
    | .plain =>
      match scan.pending with
      | .value opt none => .ok { scan with pending := .value opt (some arg) }
      | _ => scan.usePlain level arg

/-- Whether the next argument can be the name of a command. -/
def expectsCommand (scan : Scan) : Bool :=
  !scan.afterSeparator && match scan.pending with
    | .value _ none => false
    | _ => true

/-- Reads the arguments in front of a command, up to its name. -/
def root : Scan → List String → Except Stop (Scan × Option (Keyword × List String))
  | scan, [] => .ok (scan, none)
  | scan, arg :: args =>
    match scan.expectsCommand, Keyword.ofName? arg with
    | true, some keyword => .ok (scan, some (keyword, args))
    | _, _ => do root (← scan.step .root arg) args

/-- Reads the arguments behind a command. -/
def behind (level : Level) (args : List String) : Except Stop Scan :=
  args.foldlM (step level) start

end Scan

end PropertyMacros.CommandLine
