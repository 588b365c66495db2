import Conformance.Proofs.Passing
import Conformance.Proofs.Reconstructing

/-!
# What a test file can ask for

`WellFormed` holds of what some consecutive lines of a file ask for, whatever they are: it holds of
nothing, of what a single line asks for, and of what earlier and later lines ask for together. Main
statement: exit code, errors, numbers of lines and the number of marks fit together in everything
that a test file asks for.
-/

namespace Conformance.Expectations

open Documented

/-- What `lines` lines can ask for that come after `before` other ones. -/
structure WellFormed (before lines : Nat) (e : Expectations) : Prop extends Sound e where
  exitCode : e.exitCode = 0 ∨ (e.exitCode = 65 ∧ e.errorLines ≠ []) ∨
    (e.exitCode = 70 ∧ e.runtimeError ≠ none)
  nothing : e.count = 0 ↔ e.output = [] ∧ e.errorLines = [] ∧ e.runtimeError = none
  named : e.output.length + e.errorLines.length ≤ e.count
  bounded : e.count ≤ 4 * lines
  error : ∀ expected, e.runtimeError = some expected →
    before < expected.line ∧ expected.line ≤ before + lines ∧ '\n' ∉ expected.message.toList
  stdin : ∀ line ∈ e.stdinLines, ∃ text : String, '\n' ∉ text.toList ∧ line = text ++ "\n"

variable {before m n : Nat} {earlier later : Expectations}

theorem WellFormed.empty : WellFormed before 0 {} where
  toSound := .empty
  exitCode := .inl rfl
  nothing := by simp
  named := Nat.le_refl 0
  bounded := Nat.le_refl 0
  error := fun _ none => nomatch none
  stdin := by simp

theorem WellFormed.followedBy (first : WellFormed before m earlier)
    (second : WellFormed (before + m) n later) :
    WellFormed before (m + n) (earlier.followedBy later) where
  toSound := first.toSound.followedBy second.toSound
  exitCode := by
    simp only [Expectations.followedBy, ne_eq, List.append_eq_nil_iff, Option.or_eq_none_iff]
    -- The later lines decide, unless they ask for no exit code.
    rcases second.exitCode with zero | ⟨code, error⟩ | ⟨code, error⟩
    · rw [if_pos zero]
      rcases first.exitCode with zero | ⟨code, error⟩ | ⟨code, error⟩
      · exact .inl zero
      · exact .inr (.inl ⟨code, fun none => error none.1⟩)
      · exact .inr (.inr ⟨code, fun none => error none.2⟩)
    · rw [if_neg (by rw [code]; decide)]
      exact .inr (.inl ⟨code, fun none => error none.2⟩)
    · rw [if_neg (by rw [code]; decide)]
      exact .inr (.inr ⟨code, fun none => error none.1⟩)
  nothing := by
    simp only [Expectations.followedBy, Nat.add_eq_zero_iff, first.nothing, second.nothing,
      List.append_eq_nil_iff, Option.or_eq_none_iff]
    tauto
  named := by
    simp only [Expectations.followedBy, List.length_append]
    have := first.named
    have := second.named
    omega
  bounded := by
    simp only [Expectations.followedBy]
    have := first.bounded
    have := second.bounded
    omega
  error := by
    intro expected asked
    rcases Option.or_eq_some_iff.1 asked with there | ⟨-, here⟩
    · obtain ⟨after, upTo, whole⟩ := second.error expected there
      exact ⟨by omega, by omega, whole⟩
    · obtain ⟨after, upTo, whole⟩ := first.error expected here
      exact ⟨after, by omega, whole⟩
  stdin := by
    intro line member
    rcases List.mem_append.1 member with here | there
    · exact first.stdin line here
    · exact second.stdin line there

/-! ## A single line -/

theorem not_mem_of_message? {line : List Char} (whole : '\n' ∉ line) {text : String}
    (found : message? line = some text) : '\n' ∉ text.toList := by
  rw [message?_eq_filter] at found
  exact not_mem_of_textAfter? whole (Option.filter_eq_some_iff.1 found).1

/-- A line expects an error for each of its marks, but for a numeral without a value. -/
theorem length_errorLines_le (number : Nat) (line : List Char) :
    (Documented.errorLines number line).length ≤
      (if Mark.errorMarker.toList <:+: line then 1 else 0) +
        if (digits? line).isSome then 1 else 0 := by
  rw [Documented.errorLines, List.length_append]
  refine Nat.add_le_add ?_ ?_
  · split_ifs <;> simp
  · cases digits? line with
    | none => simp
    | some digits => cases number : Numeral.number? digits <;> simp [number]

/-- A single line has at most one mark of each of the four kinds that count. -/
theorem wellFormed_singleton {line : List Char} (whole : '\n' ∉ line) (before : Nat) :
    WellFormed before 1 (documentedFrom (before + 1) [line]) := by
  have sound := sound_singleton whole (before + 1)
  have errors := length_errorLines_le (before + 1) line
  have output := @isSome_textAfter?_iff Mark.outputMarker line
  rw [documentedFrom_singleton] at sound ⊢
  simp only [← output] at sound ⊢
  refine ⟨sound, ?code, ?nothing, ?named, ?bounded, ?error, ?stdin⟩
  case code =>
    simp only [exitCode?, Documented.errorLines]
    cases message? line with
    | some message => simp
    | none => by_cases held : Mark.errorMarker.toList <:+: line <;> simp [held]
  case nothing =>
    simp only [Documented.errorLines]
    by_cases held : Mark.errorMarker.toList <:+: line
    · simp [held]
    · rw [Mark.digits?_eq_none held]
      cases textAfter? Mark.outputMarker line <;> cases message? line <;> simp [held]
  case named =>
    dsimp only
    cases textAfter? Mark.outputMarker line with
    | none =>
      simp only [Option.map_none, Option.toList_none, List.length_nil]
      omega
    | some text =>
      simp only [Option.map_some, Option.toList_some, List.length_singleton, Option.isSome_some,
        if_true]
      omega
  case bounded =>
    dsimp only
    split_ifs <;> omega
  case error =>
    intro expected asked
    obtain ⟨text, found, rfl⟩ := Option.map_eq_some_iff.1 asked
    exact ⟨Nat.lt_succ_self before, Nat.le_refl _, not_mem_of_message? whole found⟩
  case stdin =>
    intro terminated member
    obtain ⟨text, found, rfl⟩ := Option.map_eq_some_iff.1 (Option.mem_toList.1 member)
    exact ⟨text, not_mem_of_textAfter? whole found, rfl⟩

/-! ## Whole files -/

theorem wellFormed_documentedFrom {lines : List (List Char)}
    (whole : ∀ line ∈ lines, '\n' ∉ line) (before : Nat) :
    WellFormed before lines.length (documentedFrom (before + 1) lines) := by
  induction lines generalizing before with
  | nil => exact .empty
  | cons line rest ih =>
    have added := documentedFrom_append (before + 1) [line] rest
    rw [List.singleton_append] at added
    have first := wellFormed_singleton (whole line List.mem_cons_self) before
    have second := ih (fun other member => whole other (List.mem_cons_of_mem line member))
      (before + 1)
    rw [added, List.length_cons, Nat.add_comm]
    exact first.followedBy second

/-- Exit code, errors, line numbers and the number of marks fit together in what a file asks for. -/
theorem wellFormed_of_parse {source : String} {lines : List (List Char)} {e : Expectations}
    (cut : Line.Cut source.toList lines) (parsed : Directive.parse source = .run e) :
    (e.exitCode = 0 ∨ e.exitCode = 65 ∨ e.exitCode = 70) ∧
    (e.exitCode = 0 ↔ e.errorLines = [] ∧ e.runtimeError = none) ∧
    (e.exitCode = 65 → e.errorLines ≠ []) ∧ (e.exitCode = 70 → e.runtimeError ≠ none) ∧
    (e.count = 0 ↔ e.output = [] ∧ e.errorLines = [] ∧ e.runtimeError = none) ∧
    e.output.length + e.errorLines.length ≤ e.count ∧ e.count ≤ 4 * lines.length ∧
    (e.output.map (·.line)).Pairwise (· < ·) ∧
    (∀ expected ∈ e.output, 1 ≤ expected.line ∧ expected.line ≤ lines.length ∧
      '\n' ∉ expected.text.toList) ∧
    (∀ expected, e.runtimeError = some expected → 1 ≤ expected.line ∧
      expected.line ≤ lines.length ∧ '\n' ∉ expected.message.toList ∧ expected.message ≠ "") ∧
    ∀ line ∈ e.stdinLines, ∃ text : String, '\n' ∉ text.toList ∧ line = text ++ "\n" := by
  have same := Directive.eq_documented_of_parse parsed
  rw [← Line.cut_iff.1 cut] at same
  have formed : WellFormed 0 lines.length e := same ▸ wellFormed_documentedFrom cut.whole 0
  have numbered : (e.output.map (·.line)).Sublist (List.range' 1 lines.length) :=
    same ▸ lines_output_sublist 1 lines
  refine ⟨?_, ?_, ?_, ?_, formed.nothing, formed.named, formed.bounded, ?_, ?_, ?_, formed.stdin⟩
  · rcases formed.exitCode with zero | ⟨code, -⟩ | ⟨code, -⟩
    · exact .inl zero
    · exact .inr (.inl code)
    · exact .inr (.inr code)
  · refine ⟨formed.clean, ?_⟩
    rintro ⟨lines, error⟩
    by_contra other
    exact formed.failing other error lines
  · intro code
    rcases formed.exitCode with zero | ⟨-, errors⟩ | ⟨other, -⟩
    · omega
    · exact errors
    · omega
  · intro code
    rcases formed.exitCode with zero | ⟨other, -⟩ | ⟨-, error⟩
    · omega
    · omega
    · exact error
  · exact List.Pairwise.sublist numbered List.pairwise_lt_range'
  · intro expected member
    have listed := List.mem_range'_1.1 (numbered.subset (List.mem_map_of_mem member))
    exact ⟨by omega, by omega, formed.whole expected member⟩
  · intro expected asked
    obtain ⟨after, upTo, whole⟩ := formed.error expected asked
    exact ⟨by omega, by omega, whole, formed.message expected asked⟩

/-- All marks that count on the first line, and a compile error that is asked for last. -/
theorem wellFormed_of_parse_crowded :
    let source := "// expect: // expect error line 9 // expect runtime error: m\n// stdin: \r\n" ++
      "// expect error"
    let lines := ["// expect: // expect error line 9 // expect runtime error: m".toList,
      "// stdin: ".toList, "// expect error".toList]
    let e : Expectations := {
      output := [⟨"// expect error line 9 // expect runtime error: m", 1⟩], errorLines := [1, 9, 3]
      exitCode := 65, runtimeError := some ⟨"m", 1⟩, stdinLines := ["\n"], count := 5 }
    Line.Cut source.toList lines ∧ Directive.parse source = .run e ∧ e.errorLines ≠ [] ∧
      e.output.length + e.errorLines.length ≤ e.count ∧ e.count ≤ 4 * lines.length ∧
      ∃ text : String, '\n' ∉ text.toList ∧ "\n" = text ++ "\n" := by
  intro source lines e
  have cut : Line.Cut source.toList lines := Line.cut_iff.2 (by decide)
  have parsed : Directive.parse source = .run e := by decide
  obtain ⟨-, -, errors, -, -, named, bounded, -, -, -, stdin⟩ := wellFormed_of_parse cut parsed
  exact ⟨cut, parsed, errors rfl, named, bounded, stdin "\n" List.mem_cons_self⟩

end Conformance.Expectations
