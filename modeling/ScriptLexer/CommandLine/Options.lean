import ScriptLexer.Log.Level
import ScriptLexer.Session
import ScriptLexer.Text.Terminal

/-!
# Options

What a command line can ask for, and what can be wrong with one. The names
here are those users type and those the messages show. The help and the version are
texts, which a command line can ask for instead of a run.
-/

namespace ScriptLexer

namespace CommandLine

/-- **A flag**: an argument that is given or not. -/
inductive Flag where
  /-- List as JSON. -/
  | json
  /-- Report diagnostics as plain lines. -/
  | plain
  deriving DecidableEq, Repr

/-- A flag as it is typed and shown. -/
def Flag.shown : Flag → String
  | json => "--json"
  | plain => "--plain"

/-- **A setting**: an argument with a value. -/
inductive Setting where
  /-- The prompt of a session. -/
  | prompt
  /-- How much is logged. -/
  | logLevel
  deriving DecidableEq, Repr

/-- A setting as messages show it. -/
def Setting.shown : Setting → String
  | prompt => "--prompt <PROMPT>"
  | logLevel => "--log-level <LOG_LEVEL>"

/-- The file arguments as messages show them. -/
def filesShown : String := "[FILE]..."

/-- **What the long name of an argument stands for.** -/
inductive Named where
  | flag (f : Flag)
  | setting (s : Setting)
  | help
  | version
  deriving DecidableEq, Repr

/-- The argument with a long name, which is written without its hyphens. -/
def Named.ofName? (name : String) : Option Named :=
  match name with
  | "json" => some (.flag .json)
  | "plain" => some (.flag .plain)
  | "prompt" => some (.setting .prompt)
  | "log-level" => some (.setting .logLevel)
  | "help" => some .help
  | "version" => some .version
  | _ => none

/-- **A usage error**: what is wrong with a command line. -/
inductive UsageError where
  /-- An argument that does not exist. -/
  | unknownArgument (shown : String)
  /-- An argument that lacks its value. -/
  | valueMissing (shown : String)
  /-- A value that an argument does not take. -/
  | invalidValue (value shown : String)
  /-- An argument given more than once. -/
  | repeated (shown : String)
  /-- A value for an argument that takes none. -/
  | unexpectedValue (value shown : String)
  deriving DecidableEq, Repr

namespace UsageError

/-- The wording of a usage error. What the user typed is shown without the control
sequences a terminal would obey. -/
def message : UsageError → String
  | unknownArgument shown => "unexpected argument '" ++ stripControls shown ++ "' found"
  | valueMissing shown =>
    "a value is required for '" ++ shown ++ "' but none was supplied"
  | invalidValue value shown =>
    "invalid value '" ++ stripControls value ++ "' for '" ++ shown ++ "'"
  | repeated shown => "the argument '" ++ shown ++ "' cannot be used multiple times"
  | unexpectedValue value shown =>
    "unexpected value '" ++ stripControls value ++ "' for '" ++ shown
      ++ "' found; no more were expected"

/-- The line that reports a usage error, without its line break. -/
def report (e : UsageError) : String :=
  "error: " ++ e.message

end UsageError

/-- **The options** of a run. -/
structure Options where
  /-- The files to scan; without any there is a session. -/
  files : List String
  /-- List as JSON. -/
  json : Bool
  /-- Report diagnostics as plain lines. -/
  plain : Bool
  /-- The prompt of a session. -/
  prompt : String
  /-- How much is logged. -/
  logLevel : Level
  deriving DecidableEq, Repr

/-- **What a command line asks for.** -/
inductive Request where
  /-- The help text. -/
  | help
  /-- The version. -/
  | version
  /-- A run. -/
  | run (o : Options)
  deriving DecidableEq, Repr

/-! ## Help and version -/

/-- The version text. -/
def versionText : String :=
  "lpp 0.1.0\n"

/-- The lines of the help text. -/
def helpLines : List String :=
  ["lpp - scan lpp source into tokens",
    "",
    "Usage: lpp [OPTIONS] [FILE]...",
    "",
    "Arguments:",
    "  [FILE]...  Source files to tokenize. Starts the interactive loop when empty",
    "",
    "Options:",
    "      --json                   Print tokens and diagnostics as JSON, one document per file",
    "      --prompt <PROMPT>        Prompt shown by the interactive loop [default: \">> \"]",
    "      --log-level <LOG_LEVEL>  Log verbosity. `LPP_LOG` overrides it [default: warn] "
      ++ "[possible values: error, warn, info, debug, trace]",
    "      --plain                  Render diagnostics as plain lines even on a terminal",
    "  -h, --help                   Print help",
    "  -V, --version                Print version"]

/-- The help text. -/
def helpText : String :=
  String.join (helpLines.map (· ++ "\n"))

end CommandLine

end ScriptLexer
