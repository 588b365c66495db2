import Conformance.Judgement
import Conformance.Proofs.Gathering
import Conformance.Proofs.Reports

/-!
# When a run passes

`MetBy` says which outcomes meet given expectations, in terms of the captured texts alone. Not every
value of `Expectations` can be asked for by a file; `Sound` holds of those that can. Main statement:
the judgement finds nothing wrong exactly with the outcomes that meet what the file asks for.
-/

namespace Conformance

open Documented

namespace Expectations

/-! ## What a file can ask for -/

/-- Lines of output are single lines, an exit code of zero goes with no expected error and any
    other with at least one, and the message of a runtime error is not empty. -/
structure Sound (e : Expectations) : Prop where
  whole : ∀ expected ∈ e.output, '\n' ∉ expected.text.toList
  clean : e.exitCode = 0 → e.errorLines = [] ∧ e.runtimeError = none
  failing : e.exitCode ≠ 0 → e.runtimeError = none → e.errorLines ≠ []
  message : ∀ expected, e.runtimeError = some expected → expected.message ≠ ""

theorem Sound.empty : Sound {} where
  whole := by simp
  clean := fun _ => ⟨rfl, rfl⟩
  failing := fun other => absurd rfl other
  message := fun _ none => nomatch none

theorem Sound.followedBy {earlier later : Expectations} (first : Sound earlier)
    (second : Sound later) : Sound (earlier.followedBy later) where
  whole := by
    intro expected member
    rcases List.mem_append.1 member with member | member
    · exact first.whole expected member
    · exact second.whole expected member
  clean := by
    intro zero
    rw [Expectations.followedBy] at zero
    split_ifs at zero with last
    · obtain ⟨lines, error⟩ := first.clean zero
      obtain ⟨laterLines, laterError⟩ := second.clean last
      simp [Expectations.followedBy, lines, error, laterLines, laterError]
    · exact absurd zero last
  failing := by
    intro other none
    obtain ⟨laterError, error⟩ := Option.or_eq_none_iff.1 none
    rw [Expectations.followedBy] at other ⊢
    rw [ne_eq, List.append_eq_nil_iff, not_and_or]
    split_ifs at other with last
    · exact .inl (first.failing other error)
    · exact .inr (second.failing last laterError)
  message := by
    intro expected some
    rcases Option.or_eq_some_iff.1 some with later | ⟨-, earlier⟩
    · exact second.message expected later
    · exact first.message expected earlier

/-- The text after a marker in a line is part of the line. -/
theorem not_mem_of_textAfter? {marker text : String} {line : List Char} (whole : '\n' ∉ line)
    (found : textAfter? marker line = some text) : '\n' ∉ text.toList := by
  obtain ⟨rest, after, rfl⟩ := Option.map_eq_some_iff.1 found
  obtain ⟨before, rfl⟩ := Occurrence.mem_textsAfter.1 (List.mem_of_head? after)
  rw [String.toList_ofList]
  exact fun member => whole (List.mem_append_right _ member)

theorem ne_empty_of_message? {line : List Char} {text : String}
    (found : message? line = some text) : text ≠ "" := by
  obtain ⟨rest, after, rfl⟩ := Option.map_eq_some_iff.1 found
  have more := (Option.filter_eq_some_iff.1 after).2
  rintro empty
  have none : rest = [] := by simpa using congrArg String.toList empty
  simp [none] at more

theorem sound_singleton {line : List Char} (whole : '\n' ∉ line) (number : Nat) :
    Sound (documentedFrom number [line]) := by
  rw [documentedFrom_singleton]
  constructor
  · intro expected member
    obtain ⟨text, found, rfl⟩ := Option.map_eq_some_iff.1 (Option.mem_toList.1 member)
    exact not_mem_of_textAfter? whole found
  · intro zero
    cases asked : exitCode? line with
    | some code =>
      simp only [asked, Option.getD_some] at zero
      exact absurd zero (exitCode?_ne_zero asked)
    | none =>
      rw [exitCode?] at asked
      split_ifs at asked with message error
      have unnamed := Mark.digits?_eq_none error
      have silent : message? line = none := by simpa using message
      simp [Documented.errorLines, error, unnamed, silent]
  · intro other silent
    have silent : message? line = none := Option.map_eq_none_iff.1 silent
    have error : Mark.errorMarker.toList <:+: line := by
      by_contra error
      simp [exitCode?, silent, error] at other
    simp [Documented.errorLines, error]
  · intro expected asked
    obtain ⟨text, found, rfl⟩ := Option.map_eq_some_iff.1 asked
    exact ne_empty_of_message? found

theorem sound_documentedFrom {lines : List (List Char)} (whole : ∀ line ∈ lines, '\n' ∉ line)
    (number : Nat) : Sound (documentedFrom number lines) := by
  induction lines generalizing number with
  | nil => exact Sound.empty
  | cons line rest ih =>
    have added := documentedFrom_append number [line] rest
    rw [List.singleton_append] at added
    rw [added]
    exact (sound_singleton (whole line List.mem_cons_self) number).followedBy
      (ih (fun other member => whole other (List.mem_cons_of_mem line member)) _)

/-- What a test file asks for can be asked for. -/
theorem sound_of_parse {source : String} {e : Expectations}
    (parsed : Directive.parse source = .run e) : Sound e := by
  rw [Directive.eq_documented_of_parse parsed]
  exact sound_documentedFrom (Line.cut_physical source.toList).whole 1

/-! ## What an outcome must be like -/

/-- Standard error as expected. A runtime error is named by the first line. Otherwise, if a failure
    is expected, there is something, and each line that is not empty reports an expected line. -/
def ErrorsMetBy (e : Expectations) (stderr : String) : Prop :=
  match e.runtimeError with
  | some expected => stderr.toList.takeWhile (· ≠ '\n') = expected.message.toList
  | none => e.exitCode ≠ 0 → stderr ≠ "" ∧ ∀ line ∈ Line.segments stderr.toList,
      line = [] ∨ ∃ number ∈ e.errorLines, ErrorReport.ReportsNumber line number

/-- Standard output as expected: the texts, each with a newline, which the last one may lack if it
    is not empty. An example may print anything of at least as many lines. -/
def OutputMetBy (e : Expectations) (kind : Kind) (stdout : String) : Prop :=
  match kind with
  | .test | .api =>
    let texts := e.output.map (·.text)
    stdout = String.join (texts.map (· ++ "\n")) ∨
      ∃ last, texts.getLast? = some last ∧ last ≠ "" ∧
        stdout ++ "\n" = String.join (texts.map (· ++ "\n"))
  | .example => e.output.length ≤ (Line.output stdout).length

/-- The outcome is as expected. -/
structure MetBy (e : Expectations) (outcome : Outcome) (kind : Kind) : Prop where
  decoded : outcome.decodeFailed = false
  finished : outcome.timedOut = none
  exitCode : outcome.exitCode = e.exitCode
  output : e.OutputMetBy kind outcome.stdout
  errors : e.ErrorsMetBy outcome.stderr

/-! ## Errors -/

theorem judgeErrorLine_eq_nil_iff {e : Expectations} {line : List Char} :
    e.judgeErrorLine line = [] ↔
      line = [] ∨ ∃ number ∈ e.errorLines, ErrorReport.ReportsNumber line number := by
  rw [judgeErrorLine]
  cases read : ErrorReport.digits? line with
  | none =>
    have unreported := ErrorReport.digits?_eq_none_iff.1 read
    by_cases empty : line = []
    · simp [empty]
    · simp [empty, ErrorReport.ReportsNumber, unreported]
  | some digits =>
    have reports := ErrorReport.digits?_eq_some_iff.1 read
    have alone : ∀ other, ErrorReport.Reports line other ↔ other = digits := by
      intro other
      rw [← ErrorReport.digits?_eq_some_iff, read, Option.some.injEq, eq_comm]
    have more : digits ≠ [] ∧ line ≠ [] := by
      obtain ⟨before, opened, ⟨after, rfl, some, -⟩, -⟩ := reports
      exact ⟨some, by simp⟩
    simp [Numeral.word?_eq_number? more.1, more.2, ErrorReport.ReportsNumber, alone,
      Option.any_eq_true, and_comm]

theorem judgeRuntimeError_eq_nil_iff {expected : ExpectedError} {stderr : String} :
    judgeRuntimeError expected stderr = [] ↔
      stderr.toList.takeWhile (· ≠ '\n') = expected.message.toList := by
  have first : (Line.split stderr).head?.getD "" =
      String.ofList (stderr.toList.takeWhile (· ≠ '\n')) := by
    rw [Line.split, List.head?_map, Line.head?_segments, Option.map_some, Option.getD_some]
  have same : String.ofList (stderr.toList.takeWhile (· ≠ '\n')) = expected.message ↔
      stderr.toList.takeWhile (· ≠ '\n') = expected.message.toList := by
    rw [← String.toList_inj, String.toList_ofList]
  rw [judgeRuntimeError, first, ← same]
  constructor
  · intro fine
    by_contra other
    rw [if_neg other] at fine
    cases fine
  · exact fun equal => if_pos equal

theorem judgeErrors_eq_nil_iff {e : Expectations} (sound : e.Sound) {stderr : String} :
    e.judgeErrors stderr = [] ↔ e.ErrorsMetBy stderr := by
  rw [judgeErrors, ErrorsMetBy]
  by_cases zero : e.exitCode = 0
  · obtain ⟨lines, error⟩ := sound.clean zero
    simp [zero, error, lines, missingErrors]
  · by_cases empty : stderr = ""
    · rw [if_neg (by simp [empty]), missingErrors]
      cases error : e.runtimeError with
      | none => simp [sound.failing zero error, zero, empty]
      | some expected =>
        have more : expected.message.toList ≠ [] := by simpa using sound.message expected error
        simp [empty, more.symm]
    · rw [if_pos ⟨zero, empty⟩]
      cases error : e.runtimeError with
      | none =>
        simp only [List.flatMap_eq_nil_iff, judgeErrorLine_eq_nil_iff, zero, empty, ne_eq,
          not_false_eq_true, true_and, forall_const]
      | some expected => exact judgeRuntimeError_eq_nil_iff

/-! ## Output -/

theorem judgeLines_eq_nil_iff {expected : List ExpectedLine} {actual : List String} :
    judgeLines expected actual = [] ↔ actual = expected.map (·.text) := by
  induction expected generalizing actual with
  | nil => cases actual <;> simp [judgeLines]
  | cons first more ih =>
    cases actual with
    | nil => simp [judgeLines]
    | cons line rest =>
      rw [judgeLines, List.append_eq_nil_iff, ih, List.map_cons, List.cons_eq_cons,
        eq_comm (a := line)]
      by_cases same : first.text = line <;> simp [same]

theorem judgeOutput_eq_nil_iff {e : Expectations} (sound : e.Sound) {kind : Kind}
    {stdout : String} :
    e.judgeOutput kind (Line.output stdout) = [] ↔ e.OutputMetBy kind stdout := by
  have whole : ∀ text ∈ e.output.map (·.text), '\n' ∉ text.toList := by
    intro text member
    obtain ⟨expected, listed, rfl⟩ := List.mem_map.1 member
    exact sound.whole expected listed
  cases kind with
  | test | api => exact judgeLines_eq_nil_iff.trans (Line.output_eq_iff whole)
  | «example» => rw [judgeOutput, OutputMetBy, List.map_eq_nil_iff, List.drop_eq_nil_iff]

/-! ## Judgements -/

/-- Nothing is wrong with an outcome exactly if it meets what the test file asks for. -/
theorem judge_eq_nil_iff {source : String} {e : Expectations}
    (parsed : Directive.parse source = .run e) (outcome : Outcome) (kind : Kind) :
    e.judge outcome kind = [] ↔ e.MetBy outcome kind := by
  have sound := sound_of_parse parsed
  rw [judge, List.append_eq_nil_iff]
  constructor
  · rintro ⟨decoded, judged⟩
    cases timed : outcome.timedOut with
    | some limit => simp [timed] at judged
    | none =>
      simp only [timed, List.append_eq_nil_iff] at judged
      obtain ⟨errors, output⟩ := judged
      split_ifs at output with code
      refine ⟨by simpa using decoded, timed, code, ?_, ?_⟩
      · exact (judgeOutput_eq_nil_iff sound).1 output
      · exact (judgeErrors_eq_nil_iff sound).1 errors
  · intro met
    have errors := (judgeErrors_eq_nil_iff sound).2 met.errors
    have output := (judgeOutput_eq_nil_iff sound).2 met.output
    simp [met.decoded, met.finished, met.exitCode, errors, output]

/-- An empty line of output, a last one without its newline, and two reports with a gap. -/
theorem judge_eq_nil_iff_reports :
    let e : Expectations := {
      output := [⟨"", 1⟩, ⟨"a", 2⟩], errorLines := [3, 7], exitCode := 65, count := 4 }
    let outcome : Outcome := {
      stdout := "\na", stderr := "[m line 7] Error\n\n[x line 3] Error: y", exitCode := 65 }
    Directive.parse "// expect: \n// expect: a\n// expect error line 7" = .run e ∧
      e.MetBy outcome .test := by
  intro e outcome
  have parsed : Directive.parse "// expect: \n// expect: a\n// expect error line 7" = .run e := by
    decide
  exact ⟨parsed, (judge_eq_nil_iff parsed outcome .test).1 (by decide)⟩

end Expectations
end Conformance
