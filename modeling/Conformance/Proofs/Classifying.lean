import Conformance.Proofs.Reports
import Conformance.Proofs.Stages
import Mathlib.Data.List.Forall2
import Mathlib.Data.List.ReduceOption

/-!
# What standard error amounts to

Where compile errors are expected, `Classified` says what a line of standard error is and what is
said of it: a line is an error report on an expected line or on another one, it is empty, or it does
not belong there. Main statement: what a judgement says of errors is said line by line in this way;
if nothing was written, or no error is expected by the exit code, all expected errors are missing.
-/

namespace Conformance

namespace ErrorReport

/-- A line is an error report: a bracket opens, and later ` line `, a numeral and `] Error` follow
    each other. -/
def IsReport (line : List Char) : Prop :=
  ∃ before digits, '[' ∈ before ∧ NamesAfter before line digits

theorem NamesAfter.isPrefix {before line digits : List Char}
    (named : NamesAfter before line digits) : before <+: line := by
  obtain ⟨after, rfl, -⟩ := named
  simp only [List.append_assoc]
  exact List.prefix_append _ _

/-- Of the places where a report may name a line, one is the last. -/
theorem exists_reports {before line digits : List Char} (opened : '[' ∈ before)
    (named : NamesAfter before line digits) : ∃ last, Reports line last := by
  by_cases latest : ∀ further other, NamesAfter further line other →
      further.length ≤ before.length
  · exact ⟨digits, before, opened, named, latest⟩
  · push Not at latest
    obtain ⟨further, other, there, longer⟩ := latest
    have onward : before <+: further :=
      List.prefix_of_prefix_length_le named.isPrefix there.isPrefix longer.le
    have within := there.isPrefix.length_le
    exact exists_reports (onward.subset opened) there
termination_by line.length - before.length

theorem isReport_iff {line : List Char} : IsReport line ↔ ∃ digits, Reports line digits := by
  constructor
  · rintro ⟨before, digits, opened, named⟩
    exact exists_reports opened named
  · rintro ⟨digits, before, opened, named, -⟩
    exact ⟨before, digits, opened, named⟩

end ErrorReport

open ErrorReport

namespace Expectations

/-- What a line of standard error is, and what is said of it. -/
inductive Classified (e : Expectations) (line : List Char) : Option Discrepancy → Prop
  | expected {digits : List Char} {number : Nat} (reports : Reports line digits)
      (read : Numeral.number? digits = some number) (member : number ∈ e.errorLines) :
      Classified e line none
  | unexpected {digits : List Char} (reports : Reports line digits)
      (other : ∀ number, Numeral.number? digits = some number → number ∉ e.errorLines) :
      Classified e line (some (.unexpectedError (.ofList line)))
  | stray (plain : ¬ IsReport line) (more : line ≠ []) :
      Classified e line (some (.unexpectedStderr (.ofList line)))
  | empty (plain : ¬ IsReport line) (nothing : line = []) : Classified e line none

variable {e : Expectations} {line : List Char}

theorem judgeErrorLine_of_reports {digits : List Char} (reports : Reports line digits) :
    e.judgeErrorLine line =
      if (Numeral.number? digits).any (· ∈ e.errorLines) then []
      else [.unexpectedError (.ofList line)] := by
  have more : digits ≠ [] := by
    obtain ⟨before, -, ⟨after, -, more, -⟩, -⟩ := reports
    exact more
  rw [judgeErrorLine, digits?_eq_some_iff.2 reports]
  dsimp only
  rw [Numeral.word?_eq_number? more]

theorem judgeErrorLine_of_not_isReport (plain : ¬ IsReport line) :
    e.judgeErrorLine line = if line = [] then [] else [.unexpectedStderr (.ofList line)] := by
  have unread := digits?_eq_none_iff.2 fun digits reports =>
    plain (isReport_iff.2 ⟨digits, reports⟩)
  rw [judgeErrorLine, unread]

theorem exists_classified (e : Expectations) (line : List Char) :
    ∃ found, Classified e line found := by
  by_cases report : IsReport line
  · obtain ⟨digits, reports⟩ := isReport_iff.1 report
    by_cases expected : ∃ number, Numeral.number? digits = some number ∧ number ∈ e.errorLines
    · obtain ⟨number, read, member⟩ := expected
      exact ⟨_, .expected reports read member⟩
    · refine ⟨_, .unexpected reports fun number read member => ?_⟩
      exact expected ⟨number, read, member⟩
  · by_cases nothing : line = []
    · exact ⟨_, .empty report nothing⟩
    · exact ⟨_, .stray report nothing⟩

theorem Classified.judged {found : Option Discrepancy} (classified : Classified e line found) :
    e.judgeErrorLine line = found.toList := by
  cases classified with
  | expected reports read member =>
    rw [judgeErrorLine_of_reports reports, read, if_pos (by simpa using member)]
    rfl
  | unexpected reports other =>
    rw [judgeErrorLine_of_reports reports, if_neg]
    · rfl
    · simpa [Option.any_eq_true] using other
  | stray plain more =>
    rw [judgeErrorLine_of_not_isReport plain, if_neg more]
    rfl
  | empty plain nothing =>
    rw [judgeErrorLine_of_not_isReport plain, if_pos nothing]
    rfl

theorem Classified.unique {found other : Option Discrepancy} (classified : Classified e line found)
    (classifiedToo : Classified e line other) : found = other := by
  have same : found.toList = other.toList := classified.judged.symm.trans classifiedToo.judged
  ext d
  rw [← Option.mem_toList, same, Option.mem_toList]

/-- Some lines are judged as they are classified, one after the other. -/
theorem exists_entries (e : Expectations) (lines : List (List Char)) :
    ∃ entries, (∀ other, List.Forall₂ (Classified e) lines other ↔ other = entries) ∧
      lines.flatMap e.judgeErrorLine = entries.reduceOption := by
  induction lines with
  | nil => exact ⟨[], fun other => List.forall₂_nil_left_iff, rfl⟩
  | cons line rest ih =>
    obtain ⟨entries, classified, judged⟩ := ih
    obtain ⟨found, here⟩ := exists_classified e line
    refine ⟨found :: entries, fun other => ?_, ?_⟩
    · rw [List.forall₂_cons_left_iff]
      constructor
      · rintro ⟨first, more, there, others, rfl⟩
        rw [there.unique here, (classified more).1 others]
      · rintro rfl
        exact ⟨found, entries, here, (classified entries).2 rfl, rfl⟩
    · rw [List.flatMap_cons, here.judged, judged]
      cases found <;> rfl

theorem Classified.ne_missingError {found : Option Discrepancy}
    (classified : Classified e line found) (number : Nat) :
    found ≠ some (.missingError number) := by
  rintro rfl
  cases classified

/-- What is not about errors in a judgement comes after what is, but for a failure to decode. -/
theorem exists_rest {outcome : Outcome} (finished : outcome.timedOut = none) (kind : Kind) :
    ∃ rest, e.judge outcome kind =
        judgeDecoding outcome ++ (e.judgeErrors outcome.stderr ++ rest) ∧
      ∀ d ∈ rest, d.concernsErrors = false := by
  by_cases code : outcome.exitCode = e.exitCode
  · refine ⟨_, judge_of_exitCode_eq finished code kind, fun d found => ?_⟩
    by_contra error
    exact Discrepancy.not_concernsOutput (by simpa using error)
      (concernsOutput_of_mem_judgeOutput found)
  · exact ⟨_, judge_of_exitCode_ne finished code kind, List.forall_mem_singleton.2 rfl⟩

/-- What a judgement says of errors comes next to what it says of decoding. If an exit code other
    than zero but no runtime error is expected, and something was written to standard error, its
    lines are classified one after the other, in one way only, and no error is ever said to be
    missing. If nothing was written, or the exit code zero is expected, all expected errors are said
    to be missing, in order. -/
theorem judge_classified (e : Expectations) {outcome : Outcome}
    (finished : outcome.timedOut = none) (kind : Kind) :
    ∃ errors rest : List Discrepancy,
      e.judge outcome kind =
        (if outcome.decodeFailed then [.decode] else []) ++ (errors ++ rest) ∧
      (∀ d ∈ errors, d.concernsErrors = true) ∧ (∀ d ∈ rest, d.concernsErrors = false) ∧
      (e.exitCode ≠ 0 → e.runtimeError = none → outcome.stderr ≠ "" →
        (∃ entries, (∀ other, List.Forall₂ (Classified e)
            (Line.segments outcome.stderr.toList) other ↔ other = entries) ∧
          errors = entries.reduceOption) ∧
        ∀ line, .missingError line ∉ e.judge outcome kind) ∧
      (outcome.stderr = "" ∨ e.exitCode = 0 →
        errors = e.errorLines.map .missingError ++
          e.runtimeError.toList.map fun expected => .missingRuntimeError expected.message) := by
  obtain ⟨rest, judged, other⟩ := exists_rest (e := e) finished kind
  refine ⟨e.judgeErrors outcome.stderr, rest, judged,
    fun d => concernsErrors_of_mem_judgeErrors, other, ?_, ?_⟩
  · intro failing compiles written
    have lines : e.judgeErrors outcome.stderr =
        (Line.segments outcome.stderr.toList).flatMap e.judgeErrorLine := by
      rw [judgeErrors, if_pos ⟨failing, written⟩, compiles]
    obtain ⟨entries, classified, said⟩ :=
      exists_entries e (Line.segments outcome.stderr.toList)
    refine ⟨⟨entries, classified, lines.trans said⟩, fun line member => ?_⟩
    rw [judged, lines, List.mem_append, List.mem_append] at member
    rcases member with decoding | error | later
    · cases eq_decode_of_mem_judgeDecoding decoding
    · obtain ⟨segment, -, here⟩ := List.mem_flatMap.1 error
      obtain ⟨found, classified⟩ := exists_classified e segment
      rw [classified.judged, Option.mem_toList] at here
      exact classified.ne_missingError line here
    · cases other _ later
  · intro missing
    rw [judgeErrors, if_neg, missingErrors]
    rintro ⟨failing, written⟩
    exact missing.elim written failing

/-- Two reports on one line, a digit of another script, and lines that are no reports; and a run
    that has written nothing. -/
theorem judge_classified_mixed :
    let e : Expectations := { errorLines := [7, 3, 7], exitCode := 65 }
    let stderr := "[a line 9] Error [b line 07] Error\n\n[m line 3] Error\n[line 5] Error\n" ++
      "m line 7] Error [\n[m line \u0667] Error"
    let outcome : Outcome := { stderr, exitCode := 65 }
    let silent : Outcome := { exitCode := 65 }
    (outcome.timedOut = none ∧ e.exitCode ≠ 0 ∧ e.runtimeError = none ∧ outcome.stderr ≠ "" ∧
      .missingError 3 ∉ e.judge outcome .test ∧
      e.judge outcome .test = [.unexpectedStderr "[line 5] Error",
        .unexpectedStderr "m line 7] Error [", .unexpectedError "[m line \u0667] Error"]) ∧
    silent.timedOut = none ∧ silent.stderr = "" ∧
      ∃ rest, e.judge silent .test =
        [.missingError 7, .missingError 3, .missingError 7] ++ rest := by
  intro e stderr outcome silent
  have finished : outcome.timedOut = none := rfl
  obtain ⟨_, _, -, -, -, said, -⟩ := judge_classified e finished .test
  have finishedToo : silent.timedOut = none := rfl
  obtain ⟨_, rest, judged, -, -, -, missing⟩ := judge_classified e finishedToo .test
  have failing : e.exitCode ≠ 0 := by decide
  have written : outcome.stderr ≠ "" := by decide
  have found := (said failing rfl written).2 3
  refine ⟨⟨rfl, failing, rfl, written, found, by decide⟩, rfl, rfl, rest, ?_⟩
  rw [judged, missing (.inl rfl)]
  rfl

end Expectations
end Conformance
