import PropertyMacros.CommandLine.Invocation

/-!
What is said when there is nothing to run: how the program is used, and why a command line cannot be
read.
-/

namespace PropertyMacros.CommandLine

def usage : String :=
  "Evaluate built-in property macros\n\n" ++
  "Usage: propex [OPTIONS] <COMMAND>\n\n" ++
  "Commands:\n" ++
  "  eval [--json] [--strict] <CATEGORY> <NAME> [ATTR=VALUE]...\n" ++
  "  list [--json] [-c, --category <CATEGORY>]\n" ++
  "  help [COMMAND]\n\n" ++
  "Options:\n" ++
  "      --config <FILE>    Path to the config file [env: PROPEX_CONFIG]\n" ++
  "  -v, --verbose          Enable verbose output\n" ++
  "      --log-file <FILE>  Write logs to a file [env: PROPEX_LOG_FILE]\n" ++
  "  -h, --help             Print help\n" ++
  "  -V, --version          Print version\n"

def Opt.text (opt : Opt) : String := "--" ++ String.ofList opt.long

/-- The fault of a command line in words. Requests and an empty command line have none. -/
def Stop.fault? : Stop → Option String
  | .help | .version | .noArguments => none
  | .missingCommand => some "a command is required"
  | .unknownCommand => some "there is no such command"
  | .missingArgument => some "a category and a name are required"
  | .unknownArgument => some "there is an unexpected argument"
  | .repeatedOption opt => some ("the option '" ++ opt.text ++ "' is used more than once")
  | .missingValue opt => some ("the option '" ++ opt.text ++ "' requires a value")
  | .unexpectedValue opt => some ("the option '" ++ opt.text ++ "' takes no value")
  | .invalidAssignment error => some error.message

end PropertyMacros.CommandLine
