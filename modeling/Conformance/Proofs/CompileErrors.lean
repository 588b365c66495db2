import Conformance.Proofs.Passing
import Conformance.Proofs.Stages

/-!
# Tests that expect a compile error

Where compile errors are expected, standard error is read line by line, and empty lines are passed
over. Main statement: a run that passes such a test has left something on standard error, and has
reported an error on an expected line, unless it has left nothing but newlines.
-/

namespace Conformance

theorem Line.eq_newline_of_segments_empty {cs : List Char}
    (empty : ∀ line ∈ segments cs, line = []) : ∀ c ∈ cs, c = '\n' := by
  induction cs using segment_induction with
  | last line whole =>
    rw [segments_of_not_mem whole, List.forall_mem_singleton] at empty
    simp [empty]
  | ended line rest whole ih =>
    rw [segments_append whole, List.forall_mem_cons] at empty
    obtain ⟨rfl, later⟩ := empty
    rw [List.nil_append, List.forall_mem_cons]
    exact ⟨rfl, ih later⟩

namespace Expectations

variable {e : Expectations} {outcome : Outcome} {kind : Kind}

/-- A run that passes has the expected errors. -/
theorem judgeErrors_of_passed (passed : e.judge outcome kind = []) :
    e.judgeErrors outcome.stderr = [] := by
  cases timed : outcome.timedOut with
  | some limit =>
    rw [judge_of_timedOut timed, List.append_eq_nil_iff] at passed
    cases passed.2
  | none =>
    by_cases code : outcome.exitCode = e.exitCode
    · rw [judge_of_exitCode_eq timed code, List.append_eq_nil_iff, List.append_eq_nil_iff] at passed
      exact passed.2.1
    · rw [judge_of_exitCode_ne timed code, List.append_eq_nil_iff, List.append_eq_nil_iff] at passed
      exact passed.2.1

/-- A run that passes a test of a compile error has written to standard error. If it has written
    more than newlines, one of the lines reports an error where one is expected. -/
theorem reported_of_passed {source : String} (parsed : Directive.parse source = .run e)
    (expects : e.errorLines ≠ []) (compiles : e.runtimeError = none)
    (passed : e.judge outcome kind = []) :
    outcome.stderr ≠ "" ∧ ((∃ c ∈ outcome.stderr.toList, c ≠ '\n') →
      ∃ line ∈ Line.segments outcome.stderr.toList, ∃ number ∈ e.errorLines,
        ErrorReport.ReportsNumber line number) := by
  have sound := sound_of_parse parsed
  have code : e.exitCode ≠ 0 := fun zero => expects (sound.clean zero).1
  have met := (judgeErrors_eq_nil_iff sound).1 (judgeErrors_of_passed passed)
  rw [ErrorsMetBy, compiles] at met
  obtain ⟨written, lines⟩ := met code
  refine ⟨written, ?_⟩
  rintro ⟨c, member, other⟩
  by_contra unreported
  have empty : ∀ line ∈ Line.segments outcome.stderr.toList, line = [] := by
    intro line listed
    rcases lines line listed with nothing | ⟨number, expected, reports⟩
    · exact nothing
    · exact absurd ⟨line, listed, number, expected, reports⟩ unreported
  exact other (Line.eq_newline_of_segments_empty empty c member)

/-- An error on the line that the mark names, among empty lines. -/
theorem reported_of_passed_gap :
    let e : Expectations := { errorLines := [1, 7], exitCode := 65, count := 2 }
    let outcome : Outcome := { stderr := "\n[m line 7] Error: x\n\n", exitCode := 65 }
    Directive.parse "// expect error line 7" = .run e ∧ e.errorLines ≠ [] ∧
      e.runtimeError = none ∧ e.judge outcome .test = [] ∧
      ∃ line ∈ Line.segments outcome.stderr.toList, ∃ number ∈ e.errorLines,
        ErrorReport.ReportsNumber line number := by
  intro e outcome
  have parsed : Directive.parse "// expect error line 7" = .run e := by decide
  have expects : e.errorLines ≠ [] := by decide
  have passed : e.judge outcome .test = [] := by decide
  have more : ∃ c ∈ outcome.stderr.toList, c ≠ '\n' := ⟨'[', by decide, by decide⟩
  exact ⟨parsed, expects, rfl, passed, (reported_of_passed parsed expects rfl passed).2 more⟩

/-- A single newline on standard error passes a test of a compile error, and reports none. -/
theorem passed_unreported :
    let e : Expectations := { errorLines := [1], exitCode := 65, count := 1 }
    let outcome : Outcome := { stderr := "\n", exitCode := 65 }
    Directive.parse "// expect error\n" = .run e ∧ e.errorLines ≠ [] ∧ e.runtimeError = none ∧
      e.judge outcome .test = [] ∧
      ¬ ∃ line ∈ Line.segments outcome.stderr.toList, ∃ number ∈ e.errorLines,
        ErrorReport.ReportsNumber line number := by
  intro e outcome
  have parsed : Directive.parse "// expect error\n" = .run e := by decide
  have passed : e.judge outcome .test = [] := by decide
  refine ⟨parsed, by decide, rfl, passed, ?_⟩
  rintro ⟨line, listed, number, -, digits, ⟨before, opened, ⟨after, cut, -⟩, -⟩, -⟩
  have segments : Line.segments outcome.stderr.toList = [[], []] := by decide
  rw [segments] at listed
  have empty : line = [] := by simpa using listed
  simp [empty] at cut

end Expectations
end Conformance
