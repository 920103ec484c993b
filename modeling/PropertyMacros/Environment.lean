/-!
The variables of the environment that the program looks at.
-/

namespace PropertyMacros

/-- The variables, as far as they are set, and what stands in for them. -/
structure Environment where
  /-- `PROPEX_CONFIG`: the configuration file. -/
  configFile? : Option String
  /-- `PROPEX_LOG_FILE`: the log file. -/
  logFile? : Option String
  /-- `XDG_CONFIG_HOME`: the directory of all configuration files. -/
  configHome? : Option String
  /-- `HOME`: the directory of the user. -/
  home? : Option String
  /-- The directory of the account, which is no variable. It counts where `HOME` is empty or not
  set. -/
  accountHome? : Option String
  /-- `RUST_LOG`: which events are reported. -/
  logFilter? : Option String
  deriving DecidableEq, Repr

def Environment.empty : Environment := ⟨none, none, none, none, none, none⟩

end PropertyMacros
