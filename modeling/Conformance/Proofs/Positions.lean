import Conformance.Proofs.SourceLines
import Conformance.Proofs.Stages

/-!
# Output position by position

`compared` says of each actual line of output what the expected line in the same position makes of
it, and `unprinted` which expected lines have no actual one in their position. Main statement: these
two, in this order, are all that a judgement says of the output, and of an example it says only the
second.
-/

namespace Conformance

/-- The lines that a text shows: its pieces between newlines, but for one empty piece at the end. -/
def Line.Shows (text : String) (lines : List String) : Prop :=
  split text = lines ++ [""] ∨ (split text = lines ∧ lines.getLast? ≠ some "")

theorem Line.shows_iff {text : String} {lines : List String} :
    Shows text lines ↔ output text = lines := by
  rw [Shows, output, dropFinal_eq_iff]

namespace Discrepancy

/-- The discrepancy is about a line of output that was printed. -/
def concernsPrinted : Discrepancy → Bool
  | unexpectedOutput _ | outputMismatch _ _ _ => true
  | decode | timedOut _ | unreadable _ | runtimeErrorMismatch _ _ | unexpectedError _
  | unexpectedStderr _ | missingError _ | missingRuntimeError _ | exitCode _ _ _
  | missingOutput _ _ => false

theorem concernsOutput_of_printed {d : Discrepancy} (printed : d.concernsPrinted = true) :
    d.concernsOutput = true := by
  cases d <;> simp_all [concernsOutput, concernsPrinted]

end Discrepancy

namespace Expectations

/-- What is said of an actual line, given the expected line in the same position. -/
def said (actual : String) : Option ExpectedLine → Option Discrepancy
  | none => some (.unexpectedOutput actual)
  | some wanted =>
    if wanted.text = actual then none
    else some (.outputMismatch wanted.text wanted.line actual)

/-- What is said of all actual lines. -/
def compared (expected : List ExpectedLine) (actual : List String) : List Discrepancy :=
  actual.zipIdx.filterMap fun line => said line.1 expected[line.2]?

/-- What is said of the expected lines from position `n` on. -/
def unprinted (expected : List ExpectedLine) (n : Nat) : List Discrepancy :=
  (expected.zipIdx.filter (n ≤ ·.2)).map fun wanted =>
    .missingOutput wanted.1.text wanted.1.line

/-! ## Positions -/

theorem compared_cons (expected : List ExpectedLine) (line : String) (rest : List String) :
    compared expected (line :: rest) =
      (said line expected.head?).toList ++ compared expected.tail rest := by
  have later : (rest.zipIdx 1).filterMap (fun line => said line.1 expected[line.2]?) =
      compared expected.tail rest := by
    rw [compared, List.zipIdx_succ, List.filterMap_map]
    simp only [Function.comp_def, List.getElem?_tail]
  rw [compared, List.zipIdx_cons, List.filterMap_cons, later, List.head?_eq_getElem?]
  cases said line expected[0]? <;> rfl

theorem unprinted_eq_drop (expected : List ExpectedLine) (n : Nat) :
    unprinted expected n = (expected.drop n).map missing := by
  induction expected generalizing n with
  | nil => simp [unprinted]
  | cons wanted more ih =>
    have later : (((more.zipIdx 1).filter (n ≤ ·.2)).map fun wanted => missing wanted.1) =
        unprinted more (n - 1) := by
      rw [List.zipIdx_succ, List.filter_map, List.map_map, unprinted]
      simp only [Function.comp_def, Nat.sub_le_iff_le_add, missing]
    rw [ih] at later
    rw [unprinted, List.zipIdx_cons, List.filter_cons]
    cases n with
    | zero | succ n => simpa [missing] using later

/-- Going through the lines in lock-step is going through the positions. -/
theorem judgeLines_eq (expected : List ExpectedLine) (actual : List String) :
    judgeLines expected actual = compared expected actual ++ unprinted expected actual.length := by
  induction actual generalizing expected with
  | nil => rw [judgeLines, unprinted_eq_drop, List.length_nil, List.drop_zero]; rfl
  | cons line rest ih =>
    have lockstep : judgeLines expected (line :: rest) =
        (said line expected.head?).toList ++ judgeLines expected.tail rest := by
      cases expected with
      | nil => rfl
      | cons wanted more =>
        rw [judgeLines, List.head?_cons, List.tail_cons, said]
        split_ifs <;> rfl
    rw [lockstep, ih, compared_cons, unprinted_eq_drop, unprinted_eq_drop, List.drop_tail,
      List.length_cons, List.append_assoc]

theorem judgeOutput_eq (e : Expectations) (kind : Kind) (actual : List String) :
    e.judgeOutput kind actual = (if kind = .example then [] else compared e.output actual) ++
      unprinted e.output actual.length := by
  cases kind with
  | test | api => exact judgeLines_eq e.output actual
  | «example» => exact (unprinted_eq_drop e.output actual.length).symm

variable {expected : List ExpectedLine} {actual : List String} {n : Nat} {d : Discrepancy}

theorem mem_compared :
    d ∈ compared expected actual ↔
      ∃ (line : String) (i : Nat), actual[i]? = some line ∧ said line expected[i]? = some d := by
  simp [compared, List.mem_zipIdx_iff_getElem?]

theorem mem_unprinted :
    d ∈ unprinted expected n ↔
      ∃ (wanted : ExpectedLine) (i : Nat),
        expected[i]? = some wanted ∧ n ≤ i ∧ missing wanted = d := by
  simp [unprinted, List.mem_zipIdx_iff_getElem?, missing, and_assoc]

theorem printed_of_said {line : String} {wanted : Option ExpectedLine}
    (here : said line wanted = some d) : d.concernsPrinted = true := by
  cases wanted with
  | none =>
    obtain rfl := Option.some.inj here
    rfl
  | some wanted =>
    rw [said] at here
    split_ifs at here
    obtain rfl := Option.some.inj here
    rfl

theorem eq_none_of_said_unexpected {line text : String} {wanted : Option ExpectedLine}
    (here : said line wanted = some (.unexpectedOutput text)) : wanted = none := by
  cases wanted with
  | none => rfl
  | some wanted =>
    rw [said] at here
    split_ifs at here
    cases Option.some.inj here

theorem printed_of_mem_compared (found : d ∈ compared expected actual) :
    d.concernsPrinted = true := by
  obtain ⟨line, i, -, here⟩ := mem_compared.1 found
  exact printed_of_said here

theorem not_printed_of_mem_unprinted (found : d ∈ unprinted expected n) :
    d.concernsPrinted = false := by
  obtain ⟨wanted, i, -, -, rfl⟩ := mem_unprinted.1 found
  rfl

/-- Only a position beyond all expected lines holds a line that was not expected at all. -/
theorem length_lt_of_unexpected {text : String}
    (found : .unexpectedOutput text ∈ compared expected actual) :
    expected.length < actual.length := by
  obtain ⟨line, i, there, here⟩ := mem_compared.1 found
  have inside := (List.getElem?_eq_some_iff.1 there).1
  have beyond := List.getElem?_eq_none_iff.1 (eq_none_of_said_unexpected here)
  omega

theorem lt_length_of_mem_unprinted (found : d ∈ unprinted expected n) : n < expected.length := by
  obtain ⟨wanted, i, there, beyond, -⟩ := mem_unprinted.1 found
  have inside := (List.getElem?_eq_some_iff.1 there).1
  omega

/-! ## Whole judgements -/

variable {e : Expectations} {outcome : Outcome}

/-- What is said of the output comes last, if the run has ended with the expected exit code. What
    comes before it is the same for all kinds of tests. -/
theorem exists_before (e : Expectations) (outcome : Outcome) :
    ∃ before : List Discrepancy, (∀ d ∈ before, d.concernsOutput = false) ∧
      ∀ kind, e.judge outcome kind = before ++
        if outcome.timedOut = none ∧ outcome.exitCode = e.exitCode then
          e.judgeOutput kind (Line.output outcome.stdout)
        else [] := by
  have decoding : ∀ d ∈ judgeDecoding outcome, d.concernsOutput = false := fun d found => by
    rw [eq_decode_of_mem_judgeDecoding found]
    rfl
  have errors : ∀ d ∈ e.judgeErrors outcome.stderr, d.concernsOutput = false := fun d found =>
    not_concernsOutput_of_mem_judgeErrors found
  cases timed : outcome.timedOut with
  | some limit =>
    refine ⟨judgeDecoding outcome ++ [.timedOut limit], ?_, fun kind => ?_⟩
    · exact List.forall_mem_append.2 ⟨decoding, List.forall_mem_singleton.2 rfl⟩
    · rw [judge_of_timedOut timed, if_neg (by simp), List.append_nil]
  | none =>
    by_cases code : outcome.exitCode = e.exitCode
    · refine ⟨judgeDecoding outcome ++ e.judgeErrors outcome.stderr, ?_, fun kind => ?_⟩
      · exact List.forall_mem_append.2 ⟨decoding, errors⟩
      · rw [judge_of_exitCode_eq timed code, if_pos ⟨rfl, code⟩, List.append_assoc]
    · refine ⟨judgeDecoding outcome ++ (e.judgeErrors outcome.stderr ++
        [.exitCode e.exitCode outcome.exitCode outcome.stderr]), ?_, fun kind => ?_⟩
      · refine List.forall_mem_append.2 ⟨decoding, List.forall_mem_append.2 ⟨errors, ?_⟩⟩
        exact List.forall_mem_singleton.2 rfl
      · rw [judge_of_exitCode_ne timed code, if_neg (fun both => code both.2), List.append_nil]

/-- An example is judged like a test, but for what is said of printed lines. -/
theorem judge_example_eq (e : Expectations) (outcome : Outcome) :
    e.judge outcome .example =
      (e.judge outcome .test).filter fun d => !d.concernsPrinted := by
  obtain ⟨before, silent, judged⟩ := exists_before e outcome
  have kept : before.filter (fun d => !d.concernsPrinted) = before := by
    refine List.filter_eq_self.2 fun d found => ?_
    by_contra printed
    have output := Discrepancy.concernsOutput_of_printed (by simpa using printed)
    rw [silent d found] at output
    cases output
  rw [judged, judged, List.filter_append, kept]
  split_ifs
  · have gone (expected : List ExpectedLine) (actual : List String) :
        (compared expected actual).filter (fun d => !d.concernsPrinted) = [] := by
      refine List.filter_eq_nil_iff.2 fun d found => ?_
      simp [printed_of_mem_compared found]
    have left (expected : List ExpectedLine) (n : Nat) :
        (unprinted expected n).filter (fun d => !d.concernsPrinted) = unprinted expected n := by
      refine List.filter_eq_self.2 fun d found => ?_
      simp [not_printed_of_mem_unprinted found]
    rw [judgeOutput_eq, judgeOutput_eq, if_pos rfl, if_neg (by simp), List.filter_append, gone,
      left]
  · rfl

/-- What a judgement says of the output is found in some position. -/
theorem mem_positions_of_mem_judge {kind : Kind} (found : d ∈ e.judge outcome kind)
    (output : d.concernsOutput = true) :
    d ∈ compared e.output (Line.output outcome.stdout) ∨
      d ∈ unprinted e.output (Line.output outcome.stdout).length := by
  obtain ⟨before, silent, judged⟩ := exists_before e outcome
  rw [judged, List.mem_append] at found
  rcases found with early | last
  · rw [silent d early] at output
    cases output
  · split_ifs at last with ended
    · rw [judgeOutput_eq, List.mem_append] at last
      exact last.imp_left fun printed => (List.mem_ite_nil_left.1 printed).2
    · cases last

/-- Lines that were not expected and lines that are missing are not found in one run. -/
theorem not_missing_of_unexpected {kind : Kind} {text wanted : String} {line : Nat}
    (unexpected : .unexpectedOutput text ∈ e.judge outcome kind) :
    .missingOutput wanted line ∉ e.judge outcome kind := by
  intro missed
  have printed := (mem_positions_of_mem_judge unexpected rfl).resolve_right fun other => by
    cases not_printed_of_mem_unprinted other
  have absent := (mem_positions_of_mem_judge missed rfl).resolve_left fun other => by
    cases printed_of_mem_compared other
  have longer := length_lt_of_unexpected printed
  have shorter := lt_length_of_mem_unprinted absent
  omega

/-- If a run has ended with the expected exit code, it is said of its output, in order, which actual
    lines are not those expected in the same position and then which expected ones are missing.
    Hence no run has both lines that were not expected at all and missing ones, the two kinds of
    test whose output is compared line by line are judged alike, and an example is judged like them
    but for what is said of printed lines; so it passes if they do. -/
theorem judge_positional (e : Expectations) (outcome : Outcome) :
    (∀ actual, outcome.timedOut = none → outcome.exitCode = e.exitCode →
      Line.Shows outcome.stdout actual →
        ∃ before : List Discrepancy, (∀ d ∈ before, d.concernsOutput = false) ∧
          ∀ kind, kind ≠ .example →
            e.judge outcome kind =
              before ++ (compared e.output actual ++ unprinted e.output actual.length)) ∧
    (∀ kind text wanted line, .unexpectedOutput text ∈ e.judge outcome kind →
      .missingOutput wanted line ∉ e.judge outcome kind) ∧
    e.judge outcome .api = e.judge outcome .test ∧
    e.judge outcome .example = (e.judge outcome .test).filter (fun d => !d.concernsPrinted) ∧
    (e.judge outcome .test = [] → e.judge outcome .example = []) := by
  obtain ⟨before, silent, judged⟩ := exists_before e outcome
  refine ⟨?_, fun kind text wanted line => not_missing_of_unexpected, ?_,
    judge_example_eq e outcome, ?_⟩
  · intro actual finished code shown
    refine ⟨before, silent, fun kind byLine => ?_⟩
    rw [judged, if_pos ⟨finished, code⟩, Line.shows_iff.1 shown, judgeOutput_eq, if_neg byLine]
  · rw [judged, judged]
    rfl
  · intro passed
    rw [judge_example_eq, passed]
    rfl

/-- A wrong line and a missing one, an empty line too many, and a last line without its newline. -/
theorem judge_positional_gap :
    let e : Expectations := { output := [⟨"a", 1⟩, ⟨"b", 2⟩, ⟨"c", 4⟩] }
    let short : Outcome := { stdout := "a\nx\n", decodeFailed := true }
    let long : Outcome := { stdout := "a\nb\nc\n\n" }
    let right : Outcome := { stdout := "a\nb\nc" }
    (short.timedOut = none ∧ short.exitCode = e.exitCode ∧ Line.Shows short.stdout ["a", "x"] ∧
      (∃ before : List Discrepancy, (∀ d ∈ before, d.concernsOutput = false) ∧
        e.judge short .api = before ++ [.outputMismatch "b" 2 "x", .missingOutput "c" 4])) ∧
    (.unexpectedOutput "" ∈ e.judge long .test ∧ .missingOutput "c" 4 ∉ e.judge long .test) ∧
    e.judge right .test = [] ∧ e.judge right .example = [] := by
  intro e short long right
  have shown : Line.Shows short.stdout ["a", "x"] := .inl (by decide)
  have more : .unexpectedOutput "" ∈ e.judge long .test := by decide
  have passed : e.judge right .test = [] := by decide
  obtain ⟨before, silent, judged⟩ := (judge_positional e short).1 ["a", "x"] rfl rfl shown
  refine ⟨⟨rfl, rfl, shown, before, silent, judged .api (by decide)⟩, ⟨more, ?_⟩, passed, ?_⟩
  · exact (judge_positional e long).2.1 .test "" "c" 4 more
  · exact (judge_positional e right).2.2.2.2 passed

end Expectations
end Conformance
