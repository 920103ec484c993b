import PropertyMacros.CommandLine.Invocation
import PropertyMacros.Config.Locate
import PropertyMacros.Log.Filter

/-!
A run of the program: from arguments, environment and files to the output, the reported events and
the exit code.
-/

namespace PropertyMacros

open Log (Event)

namespace Log

def lookupFailed (category name : String) : Event :=
  ⟨.debug, fromNamespace, "Property lookup failed: " ++ category ++ "." ++ name⟩

def defaultSet (o : DefaultOverride) : Event :=
  ⟨.debug, fromNamespace,
    "Default of " ++ o.category ++ "." ++ o.name ++ " attribute '" ++ o.attr ++ "' set to " ++
      String.ofList (Text.quote o.value.toList)⟩

/-- The events of replacing defaults, up to the first fault. -/
def ofDefaults : List DefaultOverride → List Event
  | [] => []
  | o :: os =>
    match o.fault? with
    | none => defaultSet o :: ofDefaults os
    | some (.propertyNotFound category name) => [lookupFailed category name]
    | some _ => []

/-- The events of building a namespace. -/
def ofConfig (config : Config) : List Event :=
  match config.defaultOverrides with
  | .ok overrides => ofDefaults overrides
  | .error _ => []

/-- The event of finding a configuration file or none. -/
def ofLoad (env : Environment) (files : Files) (explicit? : Option String) : List Event :=
  match Config.locate? env files explicit? with
  | none => [⟨.debug, fromConfig, "No config file found, using defaults"⟩]
  | some path =>
    match Config.readFile files path with
    | .ok _ => [⟨.debug, fromConfig, "Loaded config from " ++ path⟩]
    | .error _ => []

/-- The events of an evaluation: an unknown property, attributes that are not declared, and the
reason of a failure. -/
def ofEval (cmd : EvalCommand) (ns : Namespace) : List Event :=
  match ns.property? cmd.category cmd.name with
  | none => [lookupFailed cmd.category cmd.name]
  | some p =>
    let key := cmd.category ++ "." ++ cmd.name
    let ignored := cmd.attributes.filterMap fun a =>
      if a.1 ∈ p.schema.names then none
      else some ⟨.warn, fromEval, key ++ " has no attribute '" ++ a.1 ++ "', it will be ignored"⟩
    let failed := match (p.updateAttributes (·.setAll cmd.attributes)).failure? with
      | some reason => [⟨.debug, fromEval, key ++ " evaluated to an error: " ++ reason⟩]
      | none => []
    ignored ++ failed

def ofCommand (command : CommandLine.Command) (ns : Namespace) : List Event :=
  match command with
  | .eval cmd => ofEval cmd ns
  | .list _ => []

end Log

/-- How a run ends. -/
structure Outcome where
  exitCode : Nat
  stdout : String
  /-- The events that are reported, and then the reason of a failure. -/
  events : List Event
  failure? : Option String
  deriving DecidableEq, Repr

namespace Program

/-- The name and the version of the program. -/
def versionText : String := "propex 0.1.0\n"

def execute (command : CommandLine.Command) (context : Context) : Except CommandError String :=
  match command with
  | .eval cmd => cmd.execute context
  | .list cmd => cmd.execute context

/-- The failure of opening the log, which is said with its cause. -/
def logFailure (fault : FileFault) : String :=
  (Error.io fault.message).message ++ ": " ++ fault.message

/-- The outcome of a command line that has been read, with all its events. -/
def run (env : Environment) (files : Files) (inv : CommandLine.Invocation) : Outcome :=
  match inv.logFile?.mapM files.openLog with
  | .error fault => ⟨1, "", [], logFailure fault⟩
  | .ok _ =>
    let loadEvents := Log.ofLoad env files inv.config?
    match Config.loadOrDefault env files inv.config? with
    | .error error => ⟨1, "", loadEvents, "Failed to load configuration: " ++ error.message⟩
    | .ok config =>
      let events := loadEvents ++ Log.ofConfig config
      match Context.ofConfig config with
      | .error error =>
        ⟨1, "", events, "Invalid property defaults in config: " ++ error.message⟩
      | .ok context =>
        let events := events ++ Log.ofCommand inv.command context.prototype
        match execute inv.command context with
        | .error error => ⟨1, "", events, error.message⟩
        | .ok stdout => ⟨0, stdout, events, none⟩

/-- The outcome with the events that are reported. -/
def report (env : Environment) (files : Files) (inv : CommandLine.Invocation) : Outcome :=
  let outcome := run env files inv
  { outcome with
    events := outcome.events.filter (Log.Filter.choose env.logFilter? inv.verbose).reports }

/-- The exit code of a command line that asks for nothing to run. -/
def stopCode : CommandLine.Stop → Nat
  | .help | .version => 0
  | _ => 2

end Program

end PropertyMacros
