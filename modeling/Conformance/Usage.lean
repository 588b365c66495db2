import Conformance.Arguments

/-!
# Usage

The texts that the command line shows about itself.
-/

namespace Conformance.Usage

/-- Lines, each ended by a newline. -/
def page (lines : List String) : String := String.join (lines.map (· ++ "\n"))

def version : String := page ["wrenconform 0.1.0"]

/-- The help text in brief. -/
def brief : String := page [
  "Run a language test corpus against an interpreter",
  "",
  "Usage: wrenconform [OPTIONS] [SELECTOR]",
  "",
  "Arguments:",
  "  [SELECTOR]  Only run tests whose path (relative to the test root) starts with this",
  "",
  "Options:",
  "      --root <DIR>      Root directory of the test corpus [default: test]",
  "      --binary <PATH>   Interpreter under test (default: $WRENCONFORM_BIN, then bin/wren)",
  "      --ext <EXT>       Extension of test source files [default: wren]",
  "      --ignore <NAME>   Additional file or directory names to leave out " ++
    "(benchmark is always ignored)",
  "      --kind <KIND>     How files are passed to the interpreter and judged " ++
    "[default: test] [possible values: test, example, api]",
  "      --timeout <SECS>  Kill a test that runs longer than this many seconds",
  "  -v, --verbose         Print each interpreter argument before running it",
  "      --no-color        Disable colored output",
  "  -h, --help            Print help (see more with '--help')",
  "  -V, --version         Print version"]

/-- The help text at length. -/
def full : String := page [
  "Run a language test corpus against an interpreter",
  "",
  "Usage: wrenconform [OPTIONS] [SELECTOR]",
  "",
  "Arguments:",
  "  [SELECTOR]",
  "          Only run tests whose path (relative to the test root) starts with this",
  "",
  "Options:",
  "      --root <DIR>",
  "          Root directory of the test corpus",
  "          ",
  "          [default: test]",
  "",
  "      --binary <PATH>",
  "          Interpreter under test (default: $WRENCONFORM_BIN, then bin/wren)",
  "",
  "      --ext <EXT>",
  "          Extension of test source files",
  "          ",
  "          [default: wren]",
  "",
  "      --ignore <NAME>",
  "          Additional file or directory names to leave out (benchmark is always ignored)",
  "",
  "      --kind <KIND>",
  "          How files are passed to the interpreter and judged",
  "",
  "          Possible values:",
  "          - test:    Pass the file path; compare stdout line by line",
  "          - example: Pass the file path; only check that enough output lines appear",
  "          - api:     Pass the bare suite name (file stem) to an embedding test host",
  "          ",
  "          [default: test]",
  "",
  "      --timeout <SECS>",
  "          Kill a test that runs longer than this many seconds",
  "",
  "  -v, --verbose",
  "          Print each interpreter argument before running it",
  "",
  "      --no-color",
  "          Disable colored output",
  "",
  "  -h, --help",
  "          Print help (see a summary with '-h')",
  "",
  "  -V, --version",
  "          Print version"]

/-- What is said about a command line that cannot be used. -/
def complaint (error : Arguments.UsageError) : String :=
  let problem := match error with
    | .unknownArgument => "unexpected argument found"
    | .invalidValue => "invalid or missing value for an option"
    | .valueValidation => "a value could not be read"
    | .argumentConflict => "an argument cannot be used multiple times"
    | .tooManyValues => "unexpected value for a flag"
  page [
    "error: " ++ problem, "", "Usage: wrenconform [OPTIONS] [SELECTOR]", "",
    "For more information, try '--help'."]

end Conformance.Usage
