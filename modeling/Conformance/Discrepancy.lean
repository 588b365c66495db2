import Conformance.Duration
import Conformance.Line

/-!
# Discrepancies

A `Discrepancy` is one way in which a run failed to meet its expectations. `lines` is its text as
it is reported, line by line.
-/

namespace Conformance

/-- One way in which a run failed to meet its expectations. -/
inductive Discrepancy where
  /-- Captured output was not valid UTF-8. -/
  | decode
  /-- The program was killed after running past the limit. -/
  | timedOut (limit : Duration)
  /-- The test file could not be read. -/
  | unreadable (reason : String)
  /-- Another runtime error was reported. -/
  | runtimeErrorMismatch (expected actual : String)
  /-- An error was reported on a line that expects none. -/
  | unexpectedError (line : String)
  /-- A line of standard error is no error report. -/
  | unexpectedStderr (line : String)
  /-- No error was reported at all, and this line expects one. -/
  | missingError (line : Nat)
  /-- No error was reported at all, and a runtime error is expected. -/
  | missingRuntimeError (message : String)
  | exitCode (expected actual : Int) (stderr : String)
  /-- A line of output beyond the expected ones. -/
  | unexpectedOutput (actual : String)
  | outputMismatch (expected : String) (line : Nat) (actual : String)
  /-- An expected line of output beyond the actual ones. -/
  | missingOutput (expected : String) (line : Nat)
  deriving DecidableEq, Repr

namespace Discrepancy

/-- The reported lines. -/
def lines : Discrepancy → List String
  | decode => ["Error decoding output."]
  | timedOut limit => [s!"Timed out after {limit.secondsText}s and was killed."]
  | unreadable reason => [s!"Could not read test file: {reason}"]
  | runtimeErrorMismatch expected actual =>
    [s!"Expected runtime error \"{expected}\" and got:", actual]
  | unexpectedError line => ["Unexpected error:", line]
  | unexpectedStderr line => ["Unexpected output on stderr:", line]
  | missingError line => [s!"Expected error on line {line} and got none."]
  | missingRuntimeError message => [s!"Expected runtime error \"{message}\" and got none."]
  | exitCode expected actual stderr =>
    s!"Expected return code {expected} and got {actual}. Stderr:" :: Line.split stderr
  | unexpectedOutput actual => [s!"Got output \"{actual}\" when none was expected."]
  | outputMismatch expected line actual =>
    [s!"Expected output \"{expected}\" on line {line} and got \"{actual}\"."]
  | missingOutput expected line => [s!"Missing expected output \"{expected}\" on line {line}."]

/-- The reported lines as one text. -/
def text (d : Discrepancy) : String := "\n".intercalate d.lines

end Discrepancy
end Conformance
