import PropertyMacros.Config.Document
import PropertyMacros.Environment
import PropertyMacros.Files.Basic

/-!
Which configuration file is read.

An explicit path comes first, then the one in the environment, and last the file in the directory of
the user, which is the only one that may be absent.
-/

namespace PropertyMacros

/-- Joins a relative path to a directory. -/
def joinPath (directory path : String) : String :=
  if directory = "" || directory.toList.getLast? = some '/' then directory ++ path
  else directory ++ "/" ++ path

namespace Environment

def nonEmpty? (text : Option String) : Option String := text.filter (· != "")

def userHome? (env : Environment) : Option String := (nonEmpty? env.home?).or env.accountHome?

/-- The directory of all configuration files: the one in the environment if it is an absolute path,
or else the usual one of the user. -/
def configBase? (env : Environment) : Option String :=
  (env.configHome?.filter fun path => path.toList.head? == some '/').or
    (env.userHome?.map (joinPath · ".config"))

def configDirectory? (env : Environment) : Option String :=
  env.configBase?.map (joinPath · "propex/")

def defaultConfigFile? (env : Environment) : Option String :=
  env.configDirectory?.map (joinPath · "config.toml")

end Environment

namespace Config

/-- The configuration file to read. -/
def locate? (env : Environment) (files : Files) (explicit? : Option String) : Option String :=
  explicit?.or <| (Environment.nonEmpty? env.configFile?).or <|
    env.defaultConfigFile?.filter files.contains

def readFile (files : Files) (path : String) : Except Error String :=
  (files.readText path).mapError fun fault => .config (.unreadableFile path fault.message)

def ofFileText (path text : String) : Except Error Config :=
  match ofText? text with
  | some config => .ok config
  | none => .error (.config (.invalidFile path))

def load (files : Files) (path : String) : Except Error Config := do
  ofFileText path (← readFile files path)

def loadOrDefault (env : Environment) (files : Files) (explicit? : Option String) :
    Except Error Config :=
  match locate? env files explicit? with
  | some path => load files path
  | none => .ok default

end Config

end PropertyMacros
