import Conformance.Mark
import Conformance.Line

/-!
# Expectations

`Expectations` holds everything that one run of a test file must satisfy, gathered from the file's
marks. `Directive.parse` reads a whole file: the first line that says to skip the file, or
that it is no test, decides alone; otherwise the marks of all lines are gathered in order.
-/

namespace Conformance

/-- One expected line of output, and the line of the file that asks for it. -/
structure ExpectedLine where
  text : String
  line : Nat
  deriving DecidableEq, Repr

/-- The expected runtime error, and the line of the file that asks for it. -/
structure ExpectedError where
  message : String
  line : Nat
  deriving DecidableEq, Repr

/-- The exit code of an interpreter that could not compile its input. -/
def compileErrorCode : Int := 65

/-- The exit code of an interpreter stopped by a runtime error. -/
def runtimeErrorCode : Int := 70

/-- Everything that a single run of a test file must satisfy. -/
structure Expectations where
  /-- Lines of standard output, in order. -/
  output : List ExpectedLine := []
  /-- Lines on which a compile error is expected, in the order of the marks, repeats kept. -/
  errorLines : List Nat := []
  exitCode : Int := 0
  /-- The runtime error of the last mark that names one. -/
  runtimeError : Option ExpectedError := none
  /-- Lines of standard input, each with its newline. -/
  stdinLines : List String := []
  /-- The number of marks that count: output, error and runtime error. -/
  count : Nat := 0
  deriving DecidableEq, Repr

namespace Expectations

/-- What one mark on line `line` adds. -/
def note (line : Nat) (e : Expectations) : Mark → Expectations
  | .output text => { e with output := e.output ++ [⟨text, line⟩], count := e.count + 1 }
  | .error =>
    { e with
      errorLines := e.errorLines ++ [line], exitCode := compileErrorCode, count := e.count + 1 }
  | .errorLine number =>
    { e with
      errorLines := e.errorLines ++ number.toList, exitCode := compileErrorCode,
      count := e.count + 1 }
  | .runtimeError message =>
    { e with
      runtimeError := some ⟨message, line⟩, exitCode := runtimeErrorCode, count := e.count + 1 }
  | .stdin text => { e with stdinLines := e.stdinLines ++ [text ++ "\n"] }

/-- What a whole line adds. -/
def noteLine (e : Expectations) (number : Nat) (line : List Char) : Expectations :=
  (Mark.onLine line).foldl (note number) e

/-- The text fed to the interpreter, if the file asks for any. -/
def stdin (e : Expectations) : Option String :=
  if e.stdinLines = [] then none else some (String.join e.stdinLines)

end Expectations

/-- What a session does with a test file. -/
inductive Directive where
  /-- Run the interpreter and judge the run. -/
  | run (expectations : Expectations)
  /-- Count the file as skipped, under this reason. -/
  | skip (reason : String)
  /-- Leave the file alone. -/
  | nontest
  deriving DecidableEq, Repr

namespace Directive

def skipMarker : String := "// skip: "
def nontestMarker : String := "// nontest"

/-- The directive of a line that decides for the whole file. Skipping wins on a line with both. -/
def deciding? (line : List Char) : Option Directive :=
  match Occurrence.after? skipMarker line with
  | some reason => some (.skip (.ofList reason))
  | none => (Occurrence.after? nontestMarker line).map fun _ => .nontest

/-- The directive of the remaining lines, the next of which has this number. -/
def ofLines (gathered : Expectations) (number : Nat) : List (List Char) → Directive
  | [] => .run gathered
  | line :: rest =>
    match deciding? line with
    | some directive => directive
    | none => ofLines (gathered.noteLine number line) (number + 1) rest

/-- The directive of a test file. -/
def parse (source : String) : Directive :=
  ofLines {} 1 (Line.physical source.toList)

end Directive
end Conformance
