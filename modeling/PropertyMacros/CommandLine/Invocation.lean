import PropertyMacros.Command.Listing
import PropertyMacros.CommandLine.Scan
import PropertyMacros.Environment

/-!
What a command line asks for.

The paths of the configuration and of the log come from an option at either level, the one behind
the command first, or else from the environment.
-/

namespace PropertyMacros.CommandLine

inductive Command where
  | eval (cmd : EvalCommand)
  | list (cmd : ListCommand)
  deriving DecidableEq, Repr

structure Invocation where
  config? : Option String
  logFile? : Option String
  verbose : Bool
  command : Command
  deriving DecidableEq, Repr

/-- The variable that stands in for an option. -/
def ambient? (env : Environment) : Opt → Option String
  | .config => env.configFile?
  | .logFile => env.logFile?
  | _ => none

/-- Whether the variable of an option is needed and empty. -/
def lacksPath (env : Environment) (scan : Scan) (opt : Opt) : Bool :=
  !scan.uses opt && ambient? env opt == some ""

/-- Ends a level: nothing stays pending, and the variables of options that it does not use must not
be empty. -/
def finish (env : Environment) (scan : Scan) : Except Stop Scan := do
  let scan ← scan.resolve
  if lacksPath env scan .config then throw (.missingValue .config)
  else if lacksPath env scan .logFile then throw (.missingValue .logFile)
  else return scan

def evalCommand (scan : Scan) : Except Stop Command :=
  match scan.names with
  | category :: name :: _ =>
    .ok (.eval ⟨category, name, scan.assignments, scan.uses .json, scan.uses .strict⟩)
  | _ => .error .missingArgument

def listCommand (scan : Scan) : Command :=
  .list ⟨scan.value? .category, scan.uses .json⟩

/-- What `help` leads to: the names behind it have to be those of a command. -/
def helpStop : List String → Stop
  | [] => .help
  | [name] => if (Keyword.ofName? name).isSome then .help else .unknownCommand
  | _ => .unknownCommand

def readCommand (env : Environment) (keyword : Keyword) (args : List String) :
    Except Stop (Scan × Command) := do
  match keyword with
  | .eval =>
    let scan ← finish env (← Scan.behind .eval args)
    return (scan, ← evalCommand scan)
  | .list =>
    let scan ← finish env (← Scan.behind .list args)
    return (scan, listCommand scan)
  | .help => throw (helpStop args)

def noCommand (env : Environment) (scan : Scan) : Stop :=
  if scan.options.isEmpty && (ambient? env .config).isNone && (ambient? env .logFile).isNone then
    .noArguments
  else .missingCommand

/-- The value of an option that stands behind the command or in front of it, or of its variable. -/
def pathOf (env : Environment) (before behind : Scan) (opt : Opt) : Option String :=
  ((behind.value? opt).or (before.value? opt)).or (ambient? env opt)

/-- Reads a command line. The command is read to its end before anything pending in front of it is
looked at. -/
def parse (env : Environment) (args : List String) : Except Stop Invocation := do
  match ← Scan.root .start args with
  | (before, none) => throw (noCommand env (← finish env before))
  | (before, some (keyword, rest)) =>
    let (behind, command) ← readCommand env keyword rest
    let before ← finish env before
    return ⟨pathOf env before behind .config, pathOf env before behind .logFile,
      before.uses .verbose || behind.uses .verbose, command⟩

end PropertyMacros.CommandLine
