import CatchmentLint.CommandLine.Arguments

/-!
# CatchmentLint.CommandLine.Help

What the program says about itself, and about arguments that it cannot read.
-/

namespace CatchmentLint.CommandLine

def versionLine : Text := "kalix-lint 0.1.0".toList

def usageLine : Text := "Usage: kalix-lint [OPTIONS] <FILE>".toList

/-- The options with what they do. -/
def optionHelp : List (String × String) :=
  [("    --schema <SCHEMA>", "Path to a schema TOML file"),
   ("    --base-dir <BASE_DIR>",
    "Base directory for input files (defaults to the model's directory)"),
   ("    --watch", "Keep running and re-validate on every change"),
   ("    --debounce-ms <DEBOUNCE_MS>", "Debounce delay in watch mode (ms) [default: 300]"),
   ("    --timeout-ms <TIMEOUT_MS>", "Validation timeout (ms) [default: 5000]"),
   ("    --format <FORMAT>", "[default: text] [possible values: text, json]"),
   ("    --log-level <LOG_LEVEL>",
    "Log level (trace, debug, info, warn, error) [default: info]"),
   ("-h, --help", "Print help"),
   ("-V, --version", "Print version")]

/-- One line of the list of options, whose second column starts at the same place in all. -/
def optionLine (option : String × String) : Text :=
  let name := option.1.toList
  "  ".toList ++ name ++ List.replicate (33 - name.length) ' ' ++ option.2.toList

def helpLines : List Text :=
  ["Linter for Kalix model files".toList, [], usageLine, [], "Arguments:".toList,
    "  <FILE>  Model file to validate".toList, [], "Options:".toList] ++ optionHelp.map optionLine

namespace Stop

/-- What is printed where the arguments ask for it. -/
def output : Stop → Text
  | .help => helpLines.flatMap (· ++ ['\n'])
  | .version => versionLine ++ ['\n']
  | _ => []

/-- What is wrong with the arguments, if anything is. -/
def complaint? : Stop → Option Text
  | .help | .version => none
  | .missingFile => some "a model file is required".toList
  | .invalidValue => some "an option has no value, or one that it does not take".toList
  | .invalidNumber => some "a number of milliseconds was expected".toList
  | .unknownArgument => some "unexpected argument".toList
  | .repeatedOption => some "an option is given more than once".toList
  | .valueOfFlag => some "a flag takes no value".toList

end Stop

end CatchmentLint.CommandLine
