import Conformance.Console
import Conformance.Proofs.Rendering
import Conformance.Proofs.WellFormed

/-!
# The lines of a failure block

A discrepancy cites texts: expected ones from the test file, and actual ones from the run. `Whole`
holds if each of them is a single line; standard error is not cited but shown line by line. Main
statement: every judgement of a run cites single lines only, so a failure block has one line for its
header and one for each line of each discrepancy.
-/

namespace Conformance

namespace Line

theorem split_intercalate {lines : List String} (more : lines ≠ [])
    (whole : ∀ line ∈ lines, '\n' ∉ line.toList) : split ("\n".intercalate lines) = lines := by
  have parts : ∀ line ∈ lines.map String.toList, '\n' ∉ line := by
    simpa only [List.forall_mem_map] using whole
  rw [split_eq_iff, String.toList_intercalate]
  exact List.splitOn_intercalate '\n' parts (by simpa using more)

end Line

/-- A text that stands in a longer one as it is. -/
theorem toString_text (text : String) : toString text = text := rfl

/-! ## Numbers -/

theorem newline_not_mem_toDigits (n : Nat) : '\n' ∉ Nat.toDigits 10 n := fun member =>
  absurd (Numeral.ascii_of_mem_toDigits member) (by decide)

theorem newline_not_mem_repr (z : Int) : '\n' ∉ z.repr.toList := by
  rw [Int.repr_eq_if]
  split_ifs
  · simp [newline_not_mem_toDigits]
  · simp [newline_not_mem_toDigits]

theorem Duration.newline_not_mem_secondsText (d : Duration) : '\n' ∉ d.secondsText.toList := by
  simp [secondsText, toString_text, newline_not_mem_toDigits]

/-! ## Discrepancies -/

namespace Discrepancy

/-- The texts that a discrepancy cites from the test file or from the run. -/
def cited : Discrepancy → List String
  | decode | timedOut _ | missingError _ | exitCode _ _ _ => []
  | unreadable text | unexpectedError text | unexpectedStderr text | missingRuntimeError text
  | unexpectedOutput text | missingOutput text _ => [text]
  | runtimeErrorMismatch expected actual | outputMismatch expected _ actual => [expected, actual]

/-- Each text that the discrepancy cites is a single line. -/
def Whole (d : Discrepancy) : Prop := ∀ text ∈ d.cited, '\n' ∉ text.toList

variable {d : Discrepancy}

theorem lines_ne_nil (d : Discrepancy) : d.lines ≠ [] := by
  cases d <;> exact List.cons_ne_nil _ _

/-- What cites single lines is reported in single lines. -/
theorem Whole.lines (whole : d.Whole) : ∀ line ∈ d.lines, '\n' ∉ line.toList := by
  cases d with
  | decode => simp [Discrepancy.lines]
  | timedOut limit =>
    simp [Discrepancy.lines, toString_text, limit.newline_not_mem_secondsText]
  | missingError line => simp [Discrepancy.lines, toString_text, newline_not_mem_toDigits]
  | exitCode expected actual stderr =>
    refine List.forall_mem_cons.2 ⟨?_, fun line => Line.not_mem_of_mem_split⟩
    simp [toString_text, newline_not_mem_repr]
  | unreadable text | unexpectedError text | unexpectedStderr text | missingRuntimeError text
  | unexpectedOutput text | runtimeErrorMismatch expected actual =>
    simpa [Whole, cited, Discrepancy.lines, toString_text] using whole
  | missingOutput text line | outputMismatch expected line actual =>
    simpa [Whole, cited, Discrepancy.lines, toString_text, newline_not_mem_toDigits] using whole

/-- The text of a discrepancy can be taken apart into the lines that it was made of. -/
theorem Whole.split_text (whole : d.Whole) : Line.split d.text = d.lines :=
  Line.split_intercalate d.lines_ne_nil whole.lines

end Discrepancy

/-! ## Judgements -/

namespace Expectations

variable {e : Expectations} {d : Discrepancy}

theorem whole_of_mem_judgeErrorLine {line : List Char} (whole : '\n' ∉ line)
    (found : d ∈ e.judgeErrorLine line) : d.Whole := by
  rw [judgeErrorLine] at found
  cases read : ErrorReport.digits? line with
  | some digits =>
    rw [read] at found
    obtain ⟨-, here⟩ := List.mem_ite_nil_left.1 found
    obtain rfl := List.mem_singleton.1 here
    simpa [Discrepancy.Whole, Discrepancy.cited] using whole
  | none =>
    rw [read] at found
    obtain ⟨-, here⟩ := List.mem_ite_nil_left.1 found
    obtain rfl := List.mem_singleton.1 here
    simpa [Discrepancy.Whole, Discrepancy.cited] using whole

theorem whole_of_mem_judgeRuntimeError {expected : ExpectedError} {stderr : String}
    (message : '\n' ∉ expected.message.toList) (found : d ∈ judgeRuntimeError expected stderr) :
    d.Whole := by
  rw [judgeRuntimeError] at found
  obtain ⟨-, here⟩ := List.mem_ite_nil_left.1 found
  obtain rfl := List.mem_singleton.1 here
  -- The first line of standard error ends before the first newline.
  have first : '\n' ∉ ((Line.split stderr).head?.getD "").toList := by
    cases line : (Line.split stderr).head? with
    | none => simp
    | some line => exact Line.not_mem_of_mem_split (List.mem_of_head? ‹_›)
  simpa [Discrepancy.Whole, Discrepancy.cited] using And.intro message first

theorem whole_of_mem_missingErrors
    (message : ∀ expected, e.runtimeError = some expected → '\n' ∉ expected.message.toList)
    (found : d ∈ e.missingErrors) : d.Whole := by
  rw [missingErrors] at found
  rcases List.mem_append.1 found with error | runtime
  · obtain ⟨line, -, rfl⟩ := List.mem_map.1 error
    simp [Discrepancy.Whole, Discrepancy.cited]
  · obtain ⟨expected, asked, rfl⟩ := List.mem_map.1 runtime
    simpa [Discrepancy.Whole, Discrepancy.cited] using message expected (Option.mem_toList.1 asked)

theorem whole_of_mem_judgeErrors {stderr : String}
    (message : ∀ expected, e.runtimeError = some expected → '\n' ∉ expected.message.toList)
    (found : d ∈ e.judgeErrors stderr) : d.Whole := by
  rw [judgeErrors] at found
  split_ifs at found with reported
  · cases runtime : e.runtimeError with
    | some expected =>
      rw [runtime] at found
      exact whole_of_mem_judgeRuntimeError (message expected runtime) found
    | none =>
      rw [runtime] at found
      obtain ⟨line, cut, here⟩ := List.mem_flatMap.1 found
      exact whole_of_mem_judgeErrorLine (Line.not_mem_of_mem_segments cut) here
  · exact whole_of_mem_missingErrors message found

theorem whole_of_mem_missing {expected : List ExpectedLine}
    (texts : ∀ line ∈ expected, '\n' ∉ line.text.toList) (found : d ∈ expected.map missing) :
    d.Whole := by
  obtain ⟨line, member, rfl⟩ := List.mem_map.1 found
  simpa [Discrepancy.Whole, Discrepancy.cited, missing] using texts line member

theorem whole_of_mem_judgeLines {expected : List ExpectedLine} {actual : List String}
    (texts : ∀ line ∈ expected, '\n' ∉ line.text.toList)
    (printed : ∀ line ∈ actual, '\n' ∉ line.toList) (found : d ∈ judgeLines expected actual) :
    d.Whole := by
  induction actual generalizing expected with
  | nil =>
    rw [judgeLines] at found
    exact whole_of_mem_missing texts found
  | cons line rest ih =>
    obtain ⟨here, printed⟩ := List.forall_mem_cons.1 printed
    cases expected with
    | nil =>
      rw [judgeLines] at found
      rcases List.mem_cons.1 found with rfl | later
      · simpa [Discrepancy.Whole, Discrepancy.cited] using here
      · exact ih texts printed later
    | cons first more =>
      obtain ⟨asked, texts⟩ := List.forall_mem_cons.1 texts
      rw [judgeLines] at found
      rcases List.mem_append.1 found with differs | later
      · obtain ⟨-, differs⟩ := List.mem_ite_nil_left.1 differs
        obtain rfl := List.mem_singleton.1 differs
        simpa [Discrepancy.Whole, Discrepancy.cited] using And.intro asked here
      · exact ih texts printed later

theorem whole_of_mem_judgeOutput {kind : Kind} {actual : List String}
    (texts : ∀ line ∈ e.output, '\n' ∉ line.text.toList)
    (printed : ∀ line ∈ actual, '\n' ∉ line.toList) (found : d ∈ e.judgeOutput kind actual) :
    d.Whole := by
  cases kind with
  | «example» =>
    exact whole_of_mem_missing (fun line member => texts line (List.mem_of_mem_drop member)) found
  | test | api => exact whole_of_mem_judgeLines texts printed found

/-- A judgement cites single lines of the test file and of the run. -/
theorem whole_of_mem_judge {source : String} (parsed : Directive.parse source = .run e)
    {outcome : Outcome} {kind : Kind} (found : d ∈ e.judge outcome kind) : d.Whole := by
  have formed := wellFormed_documentedFrom (Line.cut_physical source.toList).whole 0
  rw [← documented, ← Directive.eq_documented_of_parse parsed] at formed
  have message : ∀ expected, e.runtimeError = some expected → '\n' ∉ expected.message.toList :=
    fun expected asked => (formed.error expected asked).2.2
  rw [judge] at found
  rcases List.mem_append.1 found with decoding | found
  · obtain rfl := List.mem_singleton.1 (List.mem_ite_nil_right.1 decoding).2
    simp [Discrepancy.Whole, Discrepancy.cited]
  · cases timed : outcome.timedOut with
    | some limit =>
      rw [timed] at found
      obtain rfl := List.mem_singleton.1 found
      simp [Discrepancy.Whole, Discrepancy.cited]
    | none =>
      rw [timed] at found
      rcases List.mem_append.1 found with error | found
      · exact whole_of_mem_judgeErrors message error
      · split_ifs at found with code
        · exact whole_of_mem_judgeOutput formed.whole (fun line => Line.not_mem_of_mem_output)
            found
        · obtain rfl := List.mem_singleton.1 found
          simp [Discrepancy.Whole, Discrepancy.cited]

/-! ## Failure blocks -/

/-- A failure block without colours, line by line. -/
theorem failureLines_plain (path : String) (found : List Discrepancy) :
    Console.failureLines path found false =
      ("FAIL: " ++ path) :: (found.flatMap Discrepancy.lines).map ("      " ++ ·) := by
  simp [Console.failureLines, Color.paint, Console.indent]

/-- Every reported line stands on a line of its own: a failure block is its header and then each
    line of each discrepancy, indented, and the text of a discrepancy is cut into its lines. -/
theorem split_failure {source : String} (parsed : Directive.parse source = .run e)
    (outcome : Outcome) (kind : Kind) {path : String} (single : '\n' ∉ path.toList) :
    let found := e.judge outcome kind
    (∀ d ∈ found, ∀ line ∈ d.lines, '\n' ∉ line.toList) ∧
    Line.split (Console.failure path found false) =
      ("FAIL: " ++ path) :: (found.flatMap Discrepancy.lines).map ("      " ++ ·) ∧
    ∀ d ∈ found, Line.split d.text = d.lines := by
  intro found
  have whole (d : Discrepancy) (member : d ∈ found) : d.Whole := whole_of_mem_judge parsed member
  have lines : ∀ line ∈ found.flatMap Discrepancy.lines, '\n' ∉ line.toList := by
    intro line member
    obtain ⟨d, listed, reported⟩ := List.mem_flatMap.1 member
    exact (whole d listed).lines line reported
  refine ⟨fun d member => (whole d member).lines, ?_, fun d member => (whole d member).split_text⟩
  rw [Console.failure, failureLines_plain]
  refine Line.split_intercalate (List.cons_ne_nil _ _) (List.forall_mem_cons.2 ⟨?_, ?_⟩)
  · simpa using single
  · simpa only [List.forall_mem_map, String.toList_append, List.mem_append] using
      fun line member => not_or.2 ⟨by decide, lines line member⟩

/-- Another runtime error than the expected one, more on standard error behind it, and another exit
    code. -/
theorem split_failure_mismatch :
    let e : Expectations := {
      output := [⟨"a", 1⟩], exitCode := 70, runtimeError := some ⟨"boom", 2⟩, count := 2 }
    let outcome : Outcome := { stdout := "b\nc", stderr := "bang\n[m line 2]\n", exitCode := 1 }
    Directive.parse "// expect: a\n// expect runtime error: boom" = .run e ∧
      '\n' ∉ "test/a.wren".toList ∧
      Line.split (Console.failure "test/a.wren" (e.judge outcome .test) false) = [
        "FAIL: test/a.wren", "      Expected runtime error \"boom\" and got:", "      bang",
        "      Expected return code 70 and got 1. Stderr:", "      bang", "      [m line 2]",
        "      "] := by
  intro e outcome
  have parsed : Directive.parse "// expect: a\n// expect runtime error: boom" = .run e := by
    decide
  have single : '\n' ∉ "test/a.wren".toList := by decide
  obtain ⟨-, block, -⟩ := split_failure parsed outcome .test single
  exact ⟨parsed, single, block.trans (by decide)⟩

end Expectations
end Conformance
