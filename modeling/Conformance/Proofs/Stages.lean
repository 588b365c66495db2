import Conformance.Judgement
import Mathlib.Data.List.Basic

/-!
# The stages of a judgement

A judgement looks at decoding, at the time limit, at the reported errors, and then either at the
exit code or at the output. `Staged` says what it can find after decoding, in which order, and
`concernsErrors` and `concernsOutput` say of a discrepancy which stage it comes from. Main
statement: every judgement is in stages, and what comes after the stage that ends it makes no
difference.
-/

namespace Conformance

namespace Discrepancy

/-- The discrepancy is about an error that was reported or is missing. -/
def concernsErrors : Discrepancy → Bool
  | runtimeErrorMismatch _ _ | unexpectedError _ | unexpectedStderr _ | missingError _
  | missingRuntimeError _ => true
  | decode | timedOut _ | unreadable _ | exitCode _ _ _ | unexpectedOutput _ | outputMismatch _ _ _
  | missingOutput _ _ => false

/-- The discrepancy is about a line of output. -/
def concernsOutput : Discrepancy → Bool
  | unexpectedOutput _ | outputMismatch _ _ _ | missingOutput _ _ => true
  | decode | timedOut _ | unreadable _ | runtimeErrorMismatch _ _ | unexpectedError _
  | unexpectedStderr _ | missingError _ | missingRuntimeError _ | exitCode _ _ _ => false

theorem not_concernsOutput {d : Discrepancy} (error : d.concernsErrors) :
    ¬ d.concernsOutput = true := by
  cases d <;> simp_all [concernsErrors, concernsOutput]

end Discrepancy

namespace Expectations

/-! ## Errors and output -/

theorem concernsErrors_of_mem_judgeErrorLine {e : Expectations} {line : List Char}
    {d : Discrepancy} (found : d ∈ e.judgeErrorLine line) : d.concernsErrors := by
  rw [judgeErrorLine] at found
  cases read : ErrorReport.digits? line with
  | some digits =>
    rw [read] at found
    obtain ⟨-, here⟩ := List.mem_ite_nil_left.1 found
    obtain rfl := List.mem_singleton.1 here
    rfl
  | none =>
    rw [read] at found
    obtain ⟨-, here⟩ := List.mem_ite_nil_left.1 found
    obtain rfl := List.mem_singleton.1 here
    rfl

theorem concernsErrors_of_mem_judgeRuntimeError {expected : ExpectedError} {stderr : String}
    {d : Discrepancy} (found : d ∈ judgeRuntimeError expected stderr) : d.concernsErrors := by
  rw [judgeRuntimeError] at found
  obtain ⟨-, here⟩ := List.mem_ite_nil_left.1 found
  obtain rfl := List.mem_singleton.1 here
  rfl

theorem concernsErrors_of_mem_missingErrors {e : Expectations} {d : Discrepancy}
    (found : d ∈ e.missingErrors) : d.concernsErrors := by
  rw [missingErrors] at found
  rcases List.mem_append.1 found with error | runtime
  · obtain ⟨line, -, rfl⟩ := List.mem_map.1 error
    rfl
  · obtain ⟨expected, -, rfl⟩ := List.mem_map.1 runtime
    rfl

theorem concernsErrors_of_mem_judgeErrors {e : Expectations} {stderr : String} {d : Discrepancy}
    (found : d ∈ e.judgeErrors stderr) : d.concernsErrors := by
  rw [judgeErrors] at found
  split_ifs at found with reported
  · cases runtime : e.runtimeError with
    | some expected =>
      rw [runtime] at found
      exact concernsErrors_of_mem_judgeRuntimeError found
    | none =>
      rw [runtime] at found
      obtain ⟨line, -, here⟩ := List.mem_flatMap.1 found
      exact concernsErrors_of_mem_judgeErrorLine here
  · exact concernsErrors_of_mem_missingErrors found

theorem concernsOutput_of_mem_missing {expected : List ExpectedLine} {d : Discrepancy}
    (found : d ∈ expected.map missing) : d.concernsOutput := by
  obtain ⟨line, -, rfl⟩ := List.mem_map.1 found
  rfl

theorem concernsOutput_of_mem_judgeLines {expected : List ExpectedLine} {actual : List String}
    {d : Discrepancy} (found : d ∈ judgeLines expected actual) : d.concernsOutput := by
  induction actual generalizing expected with
  | nil =>
    rw [judgeLines] at found
    exact concernsOutput_of_mem_missing found
  | cons line rest ih =>
    cases expected with
    | nil =>
      rw [judgeLines] at found
      rcases List.mem_cons.1 found with rfl | later
      · rfl
      · exact ih later
    | cons first more =>
      rw [judgeLines] at found
      rcases List.mem_append.1 found with here | later
      · obtain ⟨-, here⟩ := List.mem_ite_nil_left.1 here
        obtain rfl := List.mem_singleton.1 here
        rfl
      · exact ih later

theorem concernsOutput_of_mem_judgeOutput {e : Expectations} {kind : Kind} {actual : List String}
    {d : Discrepancy} (found : d ∈ e.judgeOutput kind actual) : d.concernsOutput := by
  cases kind with
  | «example» => exact concernsOutput_of_mem_missing found
  | test | api => exact concernsOutput_of_mem_judgeLines found

/-! ## Stages -/

/-- What a judgement can find after decoding. A run that was killed is judged no further. Errors
    come before everything else, and output is looked at only if the exit code is the expected
    one. -/
inductive Staged (e : Expectations) (outcome : Outcome) : List Discrepancy → Prop
  | killed {limit : Duration} (timed : outcome.timedOut = some limit) :
      Staged e outcome [.timedOut limit]
  | failed {errors : List Discrepancy} (finished : outcome.timedOut = none)
      (reported : ∀ d ∈ errors, d.concernsErrors) (code : outcome.exitCode ≠ e.exitCode) :
      Staged e outcome (errors ++ [.exitCode e.exitCode outcome.exitCode outcome.stderr])
  | compared {errors output : List Discrepancy} (finished : outcome.timedOut = none)
      (reported : ∀ d ∈ errors, d.concernsErrors) (code : outcome.exitCode = e.exitCode)
      (printed : ∀ d ∈ output, d.concernsOutput) :
      Staged e outcome (errors ++ output)

/-- What a judgement says of decoding. -/
def judgeDecoding (outcome : Outcome) : List Discrepancy :=
  if outcome.decodeFailed then [.decode] else []

variable {e : Expectations} {outcome : Outcome}

theorem eq_decode_of_mem_judgeDecoding {d : Discrepancy} (found : d ∈ judgeDecoding outcome) :
    d = .decode := by
  rw [judgeDecoding] at found
  exact List.mem_singleton.1 (List.mem_ite_nil_right.1 found).2

theorem not_concernsOutput_of_mem_judgeErrors {stderr : String} {d : Discrepancy}
    (found : d ∈ e.judgeErrors stderr) : d.concernsOutput = false :=
  Bool.eq_false_iff.2 (Discrepancy.not_concernsOutput (concernsErrors_of_mem_judgeErrors found))

theorem judge_of_timedOut {limit : Duration} (timed : outcome.timedOut = some limit)
    (kind : Kind) : e.judge outcome kind = judgeDecoding outcome ++ [.timedOut limit] := by
  rw [judge, timed, judgeDecoding]

theorem judge_of_exitCode_ne (finished : outcome.timedOut = none)
    (code : outcome.exitCode ≠ e.exitCode) (kind : Kind) :
    e.judge outcome kind = judgeDecoding outcome ++
      (e.judgeErrors outcome.stderr ++
        [.exitCode e.exitCode outcome.exitCode outcome.stderr]) := by
  rw [judge, finished, judgeDecoding]
  dsimp only
  rw [if_neg code]

theorem judge_of_exitCode_eq (finished : outcome.timedOut = none)
    (code : outcome.exitCode = e.exitCode) (kind : Kind) :
    e.judge outcome kind = judgeDecoding outcome ++
      (e.judgeErrors outcome.stderr ++ e.judgeOutput kind (Line.output outcome.stdout)) := by
  rw [judge, finished, judgeDecoding]
  dsimp only
  rw [if_pos code]

theorem exists_staged (e : Expectations) (outcome : Outcome) (kind : Kind) :
    ∃ rest, e.judge outcome kind = judgeDecoding outcome ++ rest ∧ Staged e outcome rest := by
  have reported : ∀ d ∈ e.judgeErrors outcome.stderr, d.concernsErrors :=
    fun d found => concernsErrors_of_mem_judgeErrors found
  cases timed : outcome.timedOut with
  | some limit => exact ⟨_, judge_of_timedOut timed kind, .killed timed⟩
  | none =>
    by_cases code : outcome.exitCode = e.exitCode
    · refine ⟨_, judge_of_exitCode_eq timed code kind, .compared timed reported code ?_⟩
      intro d found
      exact concernsOutput_of_mem_judgeOutput found
    · exact ⟨_, judge_of_exitCode_ne timed code kind, .failed timed reported code⟩

theorem Staged.not_unreadable {found : List Discrepancy} (staged : Staged e outcome found)
    (reason : String) : .unreadable reason ∉ found := by
  have noError : (Discrepancy.unreadable reason).concernsErrors ≠ true := Bool.false_ne_true
  have noOutput : (Discrepancy.unreadable reason).concernsOutput ≠ true := Bool.false_ne_true
  intro member
  cases staged with
  | killed timed => simp at member
  | failed finished reported code =>
    rcases List.mem_append.1 member with error | last
    · exact noError (reported _ error)
    · simp at last
  | compared finished reported code printed =>
    rcases List.mem_append.1 member with error | output
    · exact noError (reported _ error)
    · exact noOutput (printed _ output)

/-- Every judgement says first whether decoding failed, and then what it finds in stages. Of a run
    that was killed nothing else matters than its limit, whatever was expected. Of a run with
    another exit code than the expected one neither the output nor the kind matters. That a file
    cannot be read is never said of a run. -/
theorem judge_in_stages (e : Expectations) (outcome : Outcome) (kind : Kind) :
    (∃ rest, e.judge outcome kind = (if outcome.decodeFailed then [.decode] else []) ++ rest ∧
      Staged e outcome rest) ∧
    (∀ (limit : Duration) (other : Outcome) (expected : Expectations) (otherKind : Kind),
      outcome.timedOut = some limit → other.timedOut = some limit →
      other.decodeFailed = outcome.decodeFailed →
        expected.judge other otherKind = e.judge outcome kind) ∧
    (∀ (stdout : String) (otherKind : Kind),
      outcome.timedOut = none → outcome.exitCode ≠ e.exitCode →
        e.judge { outcome with stdout } otherKind = e.judge outcome kind) ∧
    ∀ reason, .unreadable reason ∉ e.judge outcome kind := by
  obtain ⟨rest, judged, staged⟩ := exists_staged e outcome kind
  refine ⟨⟨rest, judged, staged⟩, ?_, ?_, ?_⟩
  · intro limit other expected otherKind timed timedToo decoded
    rw [judge_of_timedOut timed, judge_of_timedOut timedToo, judgeDecoding, judgeDecoding, decoded]
  · intro stdout otherKind finished code
    have same : e.judge { outcome with stdout } otherKind = _ :=
      @judge_of_exitCode_ne e { outcome with stdout } finished code otherKind
    rw [same, judge_of_exitCode_ne finished code, judgeDecoding, judgeDecoding]
  · intro reason member
    rw [judged] at member
    rcases List.mem_append.1 member with decoding | later
    · cases eq_decode_of_mem_judgeDecoding decoding
    · exact staged.not_unreadable reason later

/-- Two killed runs that have nothing in common but their limit, a run with the wrong exit code and
    two outputs, and a run with the expected exit code, of which the output is judged. What is
    expected here cannot be asked for by a file. -/
theorem judge_in_stages_apart :
    let e : Expectations := { output := [⟨"a\nb", 0⟩], errorLines := [7], exitCode := 3 }
    let killed : Outcome := { stdout := "a", exitCode := -1, timedOut := some (.ofSecs 2) }
    let other : Outcome := { stderr := "b", exitCode := 3, timedOut := some (.ofSecs 2) }
    let wrong : Outcome := { stdout := "a\n", stderr := "oops\n", decodeFailed := true }
    let right : Outcome := { stdout := "a\nc\n", stderr := "oops\n", exitCode := 3 }
    (killed.timedOut = some (.ofSecs 2) ∧ other.timedOut = some (.ofSecs 2) ∧
      other.decodeFailed = killed.decodeFailed ∧
      Expectations.judge {} other .api = e.judge killed .test) ∧
    (wrong.timedOut = none ∧ wrong.exitCode ≠ e.exitCode ∧
      e.judge { wrong with stdout := "b" } .example = e.judge wrong .test ∧
      e.judge wrong .test = [.decode, .unexpectedStderr "oops", .exitCode 3 0 "oops\n"]) ∧
    (let judged : List Discrepancy :=
      [.unexpectedStderr "oops", .outputMismatch "a\nb" 0 "a", .unexpectedOutput "c"]
     right.timedOut = none ∧ right.exitCode = e.exitCode ∧ e.judge right .test = judged ∧
      Staged e right judged) := by
  intro e killed other wrong right
  obtain ⟨-, alike, -⟩ := judge_in_stages e killed .test
  obtain ⟨-, -, hidden, -⟩ := judge_in_stages e wrong .test
  obtain ⟨⟨rest, judged, staged⟩, -⟩ := judge_in_stages e right .test
  have code : wrong.exitCode ≠ e.exitCode := by decide
  have compared : e.judge right .test =
      [.unexpectedStderr "oops", .outputMismatch "a\nb" 0 "a", .unexpectedOutput "c"] := by
    decide
  refine ⟨⟨rfl, rfl, rfl, alike (.ofSecs 2) other {} .api rfl rfl rfl⟩, ⟨rfl, code, ?_, ?_⟩,
    rfl, rfl, compared, ?_⟩
  · exact hidden "b" .example rfl code
  · decide
  · obtain rfl : _ = rest := compared.symm.trans judged
    exact staged

end Expectations
end Conformance
