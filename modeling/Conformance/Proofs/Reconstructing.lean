import Conformance.Proofs.Gathering
import Conformance.Proofs.Stages

/-!
# The output that a judgement tells of

A judgement names the lines of output that are wrong, and is silent on those that are right. Since a
test file asks for at most one line of output on each of its lines, the numbers of these lines tell
which ones are right. Main statement: two runs with the expected exit code that are judged the same
have printed the same lines.
-/

namespace Conformance

/-! ## Lines of output -/

namespace Line

theorem not_mem_of_mem_output {text line : String} (member : line ∈ output text) :
    '\n' ∉ line.toList := by
  rw [output] at member
  split_ifs at member
  · exact not_mem_of_mem_split (List.mem_of_mem_dropLast member)
  · exact not_mem_of_mem_split member

/-- Texts with the same lines of output differ at most by a final newline. -/
theorem eq_of_output_eq {text other : String} (same : output text = output other) :
    text = other ∨ text = other ++ "\n" ∨ other = text ++ "\n" := by
  have whole : ∀ line ∈ output other, '\n' ∉ line.toList := fun _ => not_mem_of_mem_output
  have shown := (output_eq_iff whole).1 same
  have shownToo := (output_eq_iff whole).1 rfl
  rcases shown with ended | ⟨-, -, -, unended⟩
  · rcases shownToo with endedToo | ⟨-, -, -, unendedToo⟩
    · exact .inl (ended.trans endedToo.symm)
    · exact .inr (.inl (ended.trans unendedToo.symm))
  · rcases shownToo with endedToo | ⟨-, -, -, unendedToo⟩
    · exact .inr (.inr (endedToo.trans unended.symm))
    · have both : text.toList ++ "\n".toList = other.toList ++ "\n".toList := by
        rw [← String.toList_append, ← String.toList_append, unended, unendedToo]
      exact .inl (String.toList_inj.1 (List.append_cancel_right both))

end Line

/-- The line of the test file that asks for the output in question. -/
def Discrepancy.askedBy? : Discrepancy → Option Nat
  | outputMismatch _ line _ | missingOutput _ line => some line
  | decode | timedOut _ | unreadable _ | runtimeErrorMismatch _ _ | unexpectedError _
  | unexpectedStderr _ | missingError _ | missingRuntimeError _ | exitCode _ _ _
  | unexpectedOutput _ => none

namespace Expectations

/-! ## Lines of the test file -/

/-- The lines that ask for output are among the lines of the file, in order. -/
theorem lines_output_sublist (number : Nat) (lines : List (List Char)) :
    ((documentedFrom number lines).output.map (·.line)).Sublist
      (List.range' number lines.length) := by
  induction lines generalizing number with
  | nil => exact .slnil
  | cons line rest ih =>
    have added := documentedFrom_append number [line] rest
    rw [List.singleton_append] at added
    have numbers : List.range' number (line :: rest).length =
        number :: List.range' (number + 1) rest.length := List.range'_succ
    rw [added, followedBy, documentedFrom_singleton, List.map_append, numbers]
    have later := ih (number + 1)
    cases Documented.textAfter? Mark.outputMarker line with
    | none => exact later.cons number
    | some text => exact later.cons_cons number

/-- A test file asks for at most one line of output on each of its lines. -/
theorem nodup_lines_of_parse {source : String} {e : Expectations}
    (parsed : Directive.parse source = .run e) : (e.output.map (·.line)).Nodup := by
  rw [Directive.eq_documented_of_parse parsed, documented]
  exact (lines_output_sublist 1 _).nodup List.nodup_range'

/-! ## Lines in lock-step -/

theorem mem_lines_of_mem_judgeLines {expected : List ExpectedLine} {actual : List String}
    {d : Discrepancy} (found : d ∈ judgeLines expected actual) {line : Nat}
    (asked : d.askedBy? = some line) : line ∈ expected.map (·.line) := by
  induction actual generalizing expected with
  | nil =>
    rw [judgeLines] at found
    obtain ⟨here, member, rfl⟩ := List.mem_map.1 found
    obtain rfl := Option.some.inj asked
    exact List.mem_map_of_mem member
  | cons text rest ih =>
    cases expected with
    | nil =>
      rw [judgeLines] at found
      rcases List.mem_cons.1 found with rfl | later
      · cases asked
      · exact ih later
    | cons first more =>
      rw [judgeLines] at found
      rw [List.map_cons, List.mem_cons]
      rcases List.mem_append.1 found with here | later
      · obtain ⟨-, here⟩ := List.mem_ite_nil_left.1 here
        obtain rfl := List.mem_singleton.1 here
        exact .inl (Option.some.inj asked).symm
      · exact .inr (ih later)

theorem judgeLines_nil (actual : List String) :
    judgeLines [] actual = actual.map .unexpectedOutput := by
  induction actual with
  | nil => rfl
  | cons text rest ih => rw [judgeLines, ih, List.map_cons]

/-- A line that the others do not have is not asked for among them. -/
theorem not_asked_further {first : ExpectedLine} {more : List ExpectedLine}
    (distinct : ((first :: more).map (·.line)).Nodup) {rest : List String} {d : Discrepancy}
    {found : List Discrepancy} (asked : d.askedBy? = some first.line) :
    judgeLines more rest ≠ d :: found := by
  intro same
  have member : d ∈ judgeLines more rest := by
    rw [same]
    exact List.mem_cons_self
  exact (List.nodup_cons.1 distinct).1 (mem_lines_of_mem_judgeLines member asked)

/-- That the first line is missing is not said where there is an actual one. -/
theorem judgeLines_ne_missing {first : ExpectedLine} {more : List ExpectedLine}
    (distinct : ((first :: more).map (·.line)).Nodup) (text : String) (rest : List String) :
    judgeLines (first :: more) (text :: rest) ≠ judgeLines (first :: more) [] := by
  intro same
  rw [judgeLines, judgeLines, List.map_cons, missing] at same
  by_cases right : first.text = text
  · rw [if_pos right, List.nil_append] at same
    exact not_asked_further distinct rfl same
  · rw [if_neg right, List.singleton_append] at same
    cases (List.cons.inj same).1

/-- If all lines come from different lines of the file, the discrepancies tell the actual ones. -/
theorem judgeLines_inj {expected : List ExpectedLine}
    (distinct : (expected.map (·.line)).Nodup) {actual other : List String}
    (same : judgeLines expected actual = judgeLines expected other) : actual = other := by
  induction expected generalizing actual other with
  | nil =>
    rw [judgeLines_nil, judgeLines_nil] at same
    exact List.map_injective_iff.2 (fun _ _ => Discrepancy.unexpectedOutput.inj) same
  | cons first more ih =>
    have apart := (List.nodup_cons.1 distinct).2
    cases actual with
    | nil =>
      cases other with
      | nil => rfl
      | cons text rest => exact absurd same.symm (judgeLines_ne_missing distinct text rest)
    | cons text rest =>
      cases other with
      | nil => exact absurd same (judgeLines_ne_missing distinct text rest)
      | cons otherText others =>
        rw [judgeLines, judgeLines] at same
        -- An entry about the first line is no later one, so both sides have it or neither.
        by_cases right : first.text = text
        · rw [if_pos right, List.nil_append] at same
          by_cases rightToo : first.text = otherText
          · rw [if_pos rightToo, List.nil_append] at same
            rw [← right, ← rightToo, ih apart same]
          · rw [if_neg rightToo, List.singleton_append] at same
            exact absurd same (not_asked_further distinct rfl)
        · rw [if_neg right, List.singleton_append] at same
          by_cases rightToo : first.text = otherText
          · rw [if_pos rightToo, List.nil_append] at same
            exact absurd same.symm (not_asked_further distinct rfl)
          · rw [if_neg rightToo, List.singleton_append] at same
            obtain ⟨entry, later⟩ := List.cons.inj same
            obtain ⟨-, -, rfl⟩ := Discrepancy.outputMismatch.inj entry
            rw [ih apart later]

/-! ## Whole judgements -/

/-- What a judgement says of the output can be told from all else that it says. -/
theorem filter_judge {e : Expectations} {outcome : Outcome} (finished : outcome.timedOut = none)
    (code : outcome.exitCode = e.exitCode) (kind : Kind) :
    (e.judge outcome kind).filter Discrepancy.concernsOutput =
      e.judgeOutput kind (Line.output outcome.stdout) := by
  have decoding : (judgeDecoding outcome).filter Discrepancy.concernsOutput = [] := by
    refine List.filter_eq_nil_iff.2 fun d found => ?_
    rw [eq_decode_of_mem_judgeDecoding found]
    exact Bool.false_ne_true
  have errors : (e.judgeErrors outcome.stderr).filter Discrepancy.concernsOutput = [] := by
    refine List.filter_eq_nil_iff.2 fun d found => ?_
    exact Bool.eq_false_iff.1 (not_concernsOutput_of_mem_judgeErrors found)
  have output : (e.judgeOutput kind (Line.output outcome.stdout)).filter
      Discrepancy.concernsOutput = e.judgeOutput kind (Line.output outcome.stdout) :=
    List.filter_eq_self.2 fun d found => concernsOutput_of_mem_judgeOutput found
  rw [judge_of_exitCode_eq finished code, List.filter_append, List.filter_append, decoding, errors,
    output, List.nil_append, List.nil_append]

/-- Two runs with the expected exit code that are judged the same by what a test file asks for, line
    by line, have printed the same lines, whatever they have printed on standard error. Their
    outputs differ at most by a final newline. -/
theorem output_eq_of_judge_eq {source : String} {e : Expectations}
    (parsed : Directive.parse source = .run e) {kind : Kind} (byLine : kind ≠ .example)
    {outcome other : Outcome} (finished : outcome.timedOut = none ∧ other.timedOut = none)
    (code : outcome.exitCode = e.exitCode ∧ other.exitCode = e.exitCode)
    (same : e.judge outcome kind = e.judge other kind) :
    Line.output outcome.stdout = Line.output other.stdout ∧
      (outcome.stdout = other.stdout ∨ outcome.stdout = other.stdout ++ "\n" ∨
        other.stdout = outcome.stdout ++ "\n") := by
  have judged : e.judgeOutput kind (Line.output outcome.stdout) =
      e.judgeOutput kind (Line.output other.stdout) := by
    rw [← filter_judge finished.1 code.1, ← filter_judge finished.2 code.2, same]
  have lines : judgeLines e.output (Line.output outcome.stdout) =
      judgeLines e.output (Line.output other.stdout) := by
    cases kind with
    | test | api => exact judged
    | «example» => exact absurd rfl byLine
  have printed := judgeLines_inj (nodup_lines_of_parse parsed) lines
  exact ⟨printed, Line.eq_of_output_eq printed⟩

/-- One wrong line and one that is missing, with different reports of one error. -/
theorem output_eq_of_judge_eq_wrong :
    let e : Expectations := {
      output := [⟨"a", 1⟩, ⟨"b", 2⟩, ⟨"a", 3⟩], errorLines := [4], exitCode := 65, count := 4 }
    let outcome : Outcome := { stdout := "a\nx\n", stderr := "[m line 4] Error", exitCode := 65 }
    let other : Outcome := { stdout := "a\nx", stderr := "\n[n line 4] Error\n", exitCode := 65 }
    Directive.parse "// expect: a\n// expect: b\n// expect: a\n// expect error" = .run e ∧
      e.judge outcome .api = e.judge other .api ∧
      Line.output outcome.stdout = Line.output other.stdout := by
  intro e outcome other
  have parsed : Directive.parse "// expect: a\n// expect: b\n// expect: a\n// expect error" =
      .run e := by
    decide
  have same : e.judge outcome .api = e.judge other .api := by decide
  have byLine : Kind.api ≠ .example := by decide
  exact ⟨parsed, same, (output_eq_of_judge_eq parsed byLine ⟨rfl, rfl⟩ ⟨rfl, rfl⟩ same).1⟩

end Expectations
end Conformance
