import PropertyMacros.Text.Quoted

/-!
Events: messages about a run, each of one level and from one part of the program.
-/

namespace PropertyMacros.Log

inductive Level where
  | error
  | warn
  | info
  | debug
  | trace
  deriving DecidableEq, Repr

/-- Levels by rank, the most important first. -/
def Level.rank : Level → Nat
  | error => 1
  | warn => 2
  | info => 3
  | debug => 4
  | trace => 5

/-- A message of one level from one part of the program. -/
structure Event where
  level : Level
  origin : String
  message : String
  deriving DecidableEq, Repr

/-- The part that reads the configuration. -/
def fromConfig : String := "propex_config::config"

/-- The part that looks properties up. -/
def fromNamespace : String := "propex_engine::maps"

/-- The part that evaluates. -/
def fromEval : String := "propex::cmd::eval"

/-- The label of a level, right-aligned. -/
def Level.label : Level → String
  | error => "ERROR"
  | warn => " WARN"
  | info => " INFO"
  | debug => "DEBUG"
  | trace => "TRACE"

/-- Characters that control a terminal, which no message may hold. -/
def escapeControl (c : Char) : List Char :=
  if c = '\x1b' then "\\x1b".toList
  else if c = '\x07' then "\\x07".toList
  else if c = '\x08' then "\\x08".toList
  else if c = '\x0c' then "\\x0c".toList
  else if c = '\x7f' then "\\x7f".toList
  else if 0x80 ≤ c.toNat && c.toNat ≤ 0x9f then Text.codePoint c
  else [c]

def Event.line (e : Event) : String :=
  e.level.label ++ " " ++ String.ofList (e.message.toList.flatMap escapeControl)

end PropertyMacros.Log
