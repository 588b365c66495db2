import Conformance.Discrepancy
import Conformance.ErrorReport
import Conformance.Expectations
import Conformance.Kind
import Conformance.Outcome

/-!
# Judgement

`judge` compares an outcome with the expectations of its test file. Decoding comes first, and a run
that was killed is judged no further. Then reported errors are compared, then the exit codes, and
only if those agree the output.
-/

namespace Conformance.Expectations

/-- What one line of standard error amounts to where compile errors are expected. -/
def judgeErrorLine (e : Expectations) (line : List Char) : List Discrepancy :=
  match ErrorReport.digits? line with
  | some digits =>
    if (Numeral.word? digits).any (· ∈ e.errorLines) then []
    else [.unexpectedError (.ofList line)]
  | none => if line = [] then [] else [.unexpectedStderr (.ofList line)]

/-- A runtime error is compared with the first line of standard error. -/
def judgeRuntimeError (expected : ExpectedError) (stderr : String) : List Discrepancy :=
  let first := ((Line.split stderr).head?).getD ""
  if first = expected.message then [] else [.runtimeErrorMismatch expected.message first]

/-- Every expected error is missing. -/
def missingErrors (e : Expectations) : List Discrepancy :=
  e.errorLines.map .missingError ++
    e.runtimeError.toList.map fun expected => .missingRuntimeError expected.message

/-- The expected errors against standard error. -/
def judgeErrors (e : Expectations) (stderr : String) : List Discrepancy :=
  if e.exitCode ≠ 0 ∧ stderr ≠ "" then
    match e.runtimeError with
    | some expected => judgeRuntimeError expected stderr
    | none => (Line.segments stderr.toList).flatMap e.judgeErrorLine
  else e.missingErrors

/-- One missing line of output. -/
def missing (expected : ExpectedLine) : Discrepancy :=
  .missingOutput expected.text expected.line

/-- Expected and actual lines of output, compared in lock-step. -/
def judgeLines : List ExpectedLine → List String → List Discrepancy
  | expected, [] => expected.map missing
  | [], actual :: rest => .unexpectedOutput actual :: judgeLines [] rest
  | expected :: more, actual :: rest =>
    (if expected.text = actual then []
      else [.outputMismatch expected.text expected.line actual]) ++ judgeLines more rest

/-- The expected output against the actual lines. Of an example only their number counts. -/
def judgeOutput (e : Expectations) (kind : Kind) (actual : List String) : List Discrepancy :=
  match kind with
  | .example => (e.output.drop actual.length).map missing
  | .test | .api => judgeLines e.output actual

/-- Every way in which the outcome fails to meet the expectations; none if the test passed. -/
def judge (e : Expectations) (outcome : Outcome) (kind : Kind) : List Discrepancy :=
  (if outcome.decodeFailed then [.decode] else []) ++
  match outcome.timedOut with
  | some limit => [.timedOut limit]
  | none =>
    e.judgeErrors outcome.stderr ++
    if outcome.exitCode = e.exitCode then e.judgeOutput kind (Line.output outcome.stdout)
    else [.exitCode e.exitCode outcome.exitCode outcome.stderr]

end Conformance.Expectations
