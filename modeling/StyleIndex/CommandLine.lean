/-
The command line. Arguments are read from left to right, and the first that asks for help or the version, or that is wrong,
decides. No option may be given twice.
-/
namespace StyleIndex.CommandLine

/-- what the arguments ask for -/
inductive Action where
  | serve
  | help (long : Bool)
  | version
  | wrong
deriving DecidableEq, Repr

/-- the options seen so far -/
structure Seen where
  logLevel : Bool := false
  noColor : Bool := false
  stdio : Bool := false

/-- an argument that can be the value of an option: it does not look like an option itself -/
def isValue (arg : String) : Bool :=
  match arg.toList with
  | '-' :: _ :: _ => false
  | _ => true

/-- a group of one-letter options; only the first letter counts, since each of them decides -/
def shortOptions : List Char → Action
  | 'h' :: _ => .help false
  | 'V' :: _ => .version
  | _ => .wrong

/-- reads arguments; behind `--` there may be none -/
def parse (seen : Seen) : List String → Action
  | [] => .serve
  | arg :: rest =>
    if arg = "--help" then .help true
    else if arg = "--version" then .version
    else if arg = "--" then (if rest.isEmpty then .serve else .wrong)
    else if arg = "--no-color" then
      if seen.noColor then .wrong else parse { seen with noColor := true } rest
    else if arg = "--stdio" then
      if seen.stdio then .wrong else parse { seen with stdio := true } rest
    else if arg = "--log-level" then
      match rest with
      | value :: rest =>
        if seen.logLevel || !isValue value then .wrong else parse { seen with logLevel := true } rest
      | [] => .wrong
    else if "--log-level=".toList.isPrefixOf arg.toList then
      if seen.logLevel then .wrong else parse { seen with logLevel := true } rest
    else
      match arg.toList with
      | '-' :: '-' :: _ => .wrong
      | '-' :: letters => shortOptions letters
      | _ => .wrong

def action (args : List String) : Action :=
  parse {} args

def versionText : String := "classy 0.3.0\n"

def longHelp : String :=
  "Class-name and PostCSS mixin completion server.\n\n" ++
  "Speaks the Language Server Protocol over stdin/stdout.\n\n" ++
  "Usage: classy [OPTIONS]\n\n" ++
  "Options:\n" ++
  "      --log-level <LOG_LEVEL>\n" ++
  "          Log filter for stderr output (e.g. `debug`, `classy_lsp=trace`). Falls back to `RUST_LOG`,\n" ++
  "          then `info`\n\n" ++
  "      --no-color\n" ++
  "          Disable ANSI colors in log output\n\n" ++
  "      --stdio\n" ++
  "          Accepted for editor compatibility; stdio is the only transport\n\n" ++
  "  -h, --help\n" ++
  "          Print help (see a summary with '-h')\n\n" ++
  "  -V, --version\n" ++
  "          Print version\n"

def shortHelp : String :=
  "Class-name and PostCSS mixin completion server\n\n" ++
  "Usage: classy [OPTIONS]\n\n" ++
  "Options:\n" ++
  "      --log-level <LOG_LEVEL>  Log filter for stderr output (e.g. `debug`, `classy_lsp=trace`).\n" ++
  "                               Falls back to `RUST_LOG`, then `info`\n" ++
  "      --no-color               Disable ANSI colors in log output\n" ++
  "      --stdio                  Accepted for editor compatibility; stdio is the only transport\n" ++
  "  -h, --help                   Print help (see more with '--help')\n" ++
  "  -V, --version                Print version\n"

/-- what an action prints; serving prints nothing by itself -/
def Action.output : Action → String
  | .help true => longHelp
  | .help false => shortHelp
  | .version => versionText
  | .serve => ""
  | .wrong => ""

/-- the exit code of an action -/
def Action.exitCode : Action → Nat
  | .wrong => 2
  | _ => 0

end StyleIndex.CommandLine
