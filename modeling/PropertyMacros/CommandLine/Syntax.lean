import PropertyMacros.Text.Split

/-!
Options, the levels of a command line at which they may stand, and the forms of its arguments.
-/

namespace PropertyMacros.CommandLine

inductive Opt where
  | config
  | logFile
  | verbose
  | json
  | strict
  | category
  | help
  | version
  deriving DecidableEq, Repr

namespace Opt

def long : Opt → List Char
  | config => "config".toList
  | logFile => "log-file".toList
  | verbose => "verbose".toList
  | json => "json".toList
  | strict => "strict".toList
  | category => "category".toList
  | help => "help".toList
  | version => "version".toList

def short? : Opt → Option Char
  | verbose => some 'v'
  | category => some 'c'
  | help => some 'h'
  | version => some 'V'
  | _ => none

def takesValue : Opt → Bool
  | config | logFile | category => true
  | _ => false

/-- Whether the value is a path, which must not be empty. -/
def isPath : Opt → Bool
  | config | logFile => true
  | _ => false

end Opt

/-- The part of a command line in front of the command, or behind it. -/
inductive Level where
  | root
  | eval
  | list
  deriving DecidableEq, Repr

/-- The options of a level. Some can stand at every level. -/
def Level.options : Level → List Opt
  | root => [.config, .verbose, .logFile, .help, .version]
  | eval => [.json, .strict, .config, .verbose, .logFile, .help]
  | list => [.category, .json, .config, .verbose, .logFile, .help]

def Level.findLong? (level : Level) (name : List Char) : Option Opt :=
  level.options.find? (·.long == name)

def Level.findShort? (level : Level) (letter : Char) : Option Opt :=
  level.options.find? (·.short? == some letter)

/-- What follows the options in front of a command. -/
inductive Keyword where
  | eval
  | list
  | help
  deriving DecidableEq, Repr

def Keyword.ofName? (name : String) : Option Keyword :=
  if name = "eval" then some eval
  else if name = "list" then some list
  else if name = "help" then some help
  else none

/-- An argument by its dashes. -/
inductive Token where
  /-- Two dashes alone, behind which nothing is an option. -/
  | separator
  /-- A long name, and the value behind an equals sign. -/
  | long (name : List Char) (value? : Option (List Char))
  | short (letters : List Char)
  | plain
  deriving DecidableEq, Repr

/-- The form of an argument. A single dash is plain. -/
def Token.ofArg (arg : List Char) : Token :=
  match arg with
  | ['-', '-'] => separator
  | '-' :: '-' :: rest =>
    match Text.splitFirst? '=' rest with
    | some (name, value) => long name (some value)
    | none => long rest none
  | '-' :: c :: rest => short (c :: rest)
  | _ => plain

end PropertyMacros.CommandLine
