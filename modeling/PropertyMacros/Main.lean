import PropertyMacros.Accounts
import PropertyMacros.CommandLine.Usage
import PropertyMacros.FailureReport
import PropertyMacros.Program

/-!
The command line program `propex`: it fetches the environment and the files, and prints what a run
leads to.
-/

namespace PropertyMacros

/-- The fault behind a failed file operation. -/
def FileFault.ofError : IO.Error → FileFault
  | .noFileOrDirectory .. => .notFound
  | .inappropriateType _ 21 _ => .isDirectory
  | .inappropriateType .. => .notDirectory
  | error => .other (toString error)

/-- The outcome of a file operation. -/
def attempt {α : Type} (action : IO α) : IO (Except FileFault α) := do
  return (← action.toBaseIO).mapError .ofError

/-- The directory of the account of the process. -/
def Accounts.fetchHome : IO (Option String) := do
  let status ← attempt (IO.FS.readFile "/proc/self/status")
  let accounts ← attempt (IO.FS.readFile "/etc/passwd")
  return do home? (← accounts.toOption) (← userId? (← status.toOption))

def Environment.fetch : IO Environment := do
  return ⟨← IO.getEnv "PROPEX_CONFIG", ← IO.getEnv "PROPEX_LOG_FILE",
    ← IO.getEnv "XDG_CONFIG_HOME", ← IO.getEnv "HOME", ← Accounts.fetchHome, ← IO.getEnv "RUST_LOG"⟩

/-- Opens the log, and reads the files that may be asked for. -/
def Files.fetch (paths : List String) (logFile? : Option String) : IO Files := do
  let log ← logFile?.mapM fun path => attempt (Functor.discard (IO.FS.Handle.mk path .append))
  let contents ← paths.mapM fun (path : String) => return (path, ← attempt (IO.FS.readBinFile path))
  return ⟨fun path => (contents.lookup path).getD (.error .notFound),
    fun _ => log.getD (.error .notFound)⟩

def CommandLine.Invocation.perform (inv : Invocation) (env : Environment) : IO UInt32 := do
  let paths := [inv.config?, env.configFile?, env.defaultConfigFile?].reduceOption
  let files ← Files.fetch paths inv.logFile?
  let outcome := Program.report env files inv
  outcome.events.forM fun event => IO.eprintln event.line
  IO.print outcome.stdout
  outcome.failure?.forM fun message => (FailureReport.lines message).forM IO.eprintln
  if let some path := inv.logFile? then
    if (files.openLog path).isOk then
      let log ← IO.FS.Handle.mk path .append
      (Program.run env files inv).events.forM fun event => log.putStr (event.line ++ "\n")
  return outcome.exitCode.toUInt32

/-- Says why there is nothing to run. -/
def CommandLine.Stop.perform (stop : Stop) : IO UInt32 := do
  match stop with
  | .help => IO.print usage
  | .version => IO.print Program.versionText
  | _ =>
    stop.fault?.forM fun fault => IO.eprintln ("error: " ++ fault ++ "\n")
    IO.eprint usage
  return (Program.stopCode stop).toUInt32

end PropertyMacros

open PropertyMacros in
def main (args : List String) : IO UInt32 := do
  let env ← Environment.fetch
  match CommandLine.parse env args with
  | .ok inv => inv.perform env
  | .error stop => stop.perform
