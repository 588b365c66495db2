import Conformance.Proofs.Classifying
import Conformance.Proofs.Rendering

/-!
# Line numbers in marks and in error reports

A mark can name the line of an expected error by a numeral, and the report of an error does so,
too. Both numerals are read as integers. Main statement: a test file with such a mark alone is
passed by a run with such a report alone exactly if the report's numeral has a value, and this is
the value of the mark's numeral or the number of the mark's own line.
-/

namespace Conformance

namespace Numeral

/-- A text that is made of decimal digits of any scripts. -/
def IsNumeral (text : String) : Prop := text ≠ "" ∧ ∀ c ∈ text.toList, isDigit c = true

/-- A text that is made of the decimal digits of ASCII alone. -/
def IsAscii (text : String) : Prop := ∀ c ∈ text.toList, c.isDigit = true

instance (text : String) : Decidable (IsNumeral text) :=
  decidable_of_iff (text ≠ "" ∧ text.toList.all isDigit = true) (by rw [List.all_eq_true]; rfl)

instance (text : String) : Decidable (IsAscii text) :=
  decidable_of_iff (text.toList.all Char.isDigit = true) List.all_eq_true

/-- The number that the ASCII digits of a text write. -/
def value (text : String) : Nat := Nat.ofDigitChars 10 text.toList 0

/-- A text with zeros before it. -/
def pad (zeros : Nat) (text : String) : String := .ofList (List.replicate zeros '0') ++ text

variable {text : String}

theorem number?_eq_some_iff {n : Nat} :
    number? text.toList = some n ↔ IsAscii text ∧ value text < wordLimit ∧ value text = n := by
  rw [number?, Option.ite_none_right_eq_some, List.all_eq_true, and_assoc, Option.some.injEq]
  exact Iff.rfl

theorem toList_pad (zeros : Nat) (text : String) :
    (pad zeros text).toList = List.replicate zeros '0' ++ text.toList := by
  rw [pad, String.toList_append, String.toList_ofList]

theorem IsNumeral.pad (numeral : IsNumeral text) (zeros : Nat) : IsNumeral (pad zeros text) := by
  obtain ⟨more, digits⟩ := numeral
  have zero : isDigit '0' = true := by decide
  constructor
  · intro nothing
    have empty := congrArg String.toList nothing
    rw [toList_pad, String.toList_empty, List.append_eq_nil_iff] at empty
    exact more (String.toList_eq_nil_iff.1 empty.2)
  · rw [toList_pad, List.forall_mem_append]
    exact ⟨fun c member => List.eq_of_mem_replicate member ▸ zero, digits⟩

theorem isAscii_pad_iff {zeros : Nat} : IsAscii (pad zeros text) ↔ IsAscii text := by
  have zero : ∀ c ∈ List.replicate zeros '0', c.isDigit = true := fun c member =>
    List.eq_of_mem_replicate member ▸ (by decide : '0'.isDigit = true)
  rw [IsAscii, toList_pad, List.forall_mem_append, IsAscii]
  exact and_iff_right zero

theorem value_pad (zeros : Nat) (text : String) : value (pad zeros text) = value text := by
  rw [value, toList_pad, value]
  induction zeros with
  | zero => rfl
  | succ zeros ih =>
    rw [List.replicate_succ, List.cons_append, Nat.ofDigitChars_cons, Nat.sub_self, ih]

end Numeral

open Numeral Occurrence

/-! ## The mark -/

/-- A test file with a single mark, which names a line. -/
def Directive.naming (named : String) : String := "// expect error line " ++ named

namespace Mark

variable {marker : String} {digits : List Char}

theorem slashless_of_digits (all : ∀ c ∈ digits, isDigit c = true) : '/' ∉ digits := by
  intro member
  exact absurd (all _ member) (by decide)

/-- A mark that names a line begins with no other marker than its own and that of an error. -/
theorem eq_of_isPrefix_named (member : marker ∈ markers)
    (begins : marker.toList <+: errorLineMarker.toList ++ digits) :
    marker = errorLineMarker ∨ marker = errorMarker := by
  rcases List.prefix_or_prefix_of_prefix begins (List.prefix_append _ _) with short | long
  · rcases eq_of_isPrefix marker member errorLineMarker (by decide) short with same | ⟨same, -⟩
    · exact .inl same
    · exact .inr same
  · rcases eq_of_isPrefix errorLineMarker (by decide) marker member long with same | ⟨same, -⟩
    · exact .inl same.symm
    · exact absurd same (by decide)

theorem textsAfter_named (member : marker ∈ markers) (all : ∀ c ∈ digits, isDigit c = true) :
    textsAfter marker (errorLineMarker.toList ++ digits) =
      (marker.toList.isPrefixOf? (errorLineMarker.toList ++ digits)).toList := by
  obtain ⟨tail, begins, -⟩ := isMarker_of_mem member
  have own : IsMarker errorLineMarker.toList := isMarker_of_mem (by decide)
  refine @textsAfter_line marker [] _ _ (isMarker_of_mem member) own ?_ ?_
  · rw [begins]
    simp
  · intro held
    exact slashless_of_digits all (held.subset (by simp [begins]))

theorem not_infix_named (member : marker ∈ markers) (all : ∀ c ∈ digits, isDigit c = true)
    (other : marker ≠ errorLineMarker ∧ marker ≠ errorMarker) :
    ¬ marker.toList <:+: errorLineMarker.toList ++ digits := by
  rw [← textsAfter_ne_nil_iff, textsAfter_named member all, not_not]
  cases begins : marker.toList.isPrefixOf? (errorLineMarker.toList ++ digits) with
  | none => rfl
  | some text =>
    have cut := List.isPrefixOf?_eq_some_iff_append_eq.1 begins
    rcases eq_of_isPrefix_named member ⟨text, cut⟩ with same | same
    · exact absurd same other.1
    · exact absurd same other.2

/-- A mark with a numeral asks for errors on its own line and on the one that the numeral names. -/
theorem documented_named (more : digits ≠ []) (all : ∀ c ∈ digits, isDigit c = true) :
    Expectations.documented [errorLineMarker.toList ++ digits] =
      { errorLines := 1 :: (number? digits).toList, exitCode := compileErrorCode, count := 2 } := by
  have output := textsAfter_eq_nil
    (@not_infix_named outputMarker digits (by decide) all (by decide))
  have message := textsAfter_eq_nil
    (@not_infix_named runtimeErrorMarker digits (by decide) all (by decide))
  have stdin := textsAfter_eq_nil
    (@not_infix_named stdinMarker digits (by decide) all (by decide))
  have error : errorMarker.toList <:+: errorLineMarker.toList ++ digits :=
    ((by decide : errorMarker.toList <+: errorLineMarker.toList).trans
      (List.prefix_append _ _)).isInfix
  have named : Documented.digits? (errorLineMarker.toList ++ digits) = some digits := by
    have behind := @textsAfter_named errorLineMarker digits (by decide) all
    rw [List.isPrefixOf?_eq_some_iff_append_eq.2 rfl] at behind
    obtain ⟨c, rest, rfl⟩ := List.exists_cons_of_ne_nil more
    have first := all c List.mem_cons_self
    rw [Documented.digits?, behind]
    simp [first, List.takeWhile_eq_self_iff.2 all]
  rw [Expectations.documented, Expectations.documentedFrom_singleton]
  simp [Documented.textAfter?, Documented.message?, Documented.errorLines, Documented.exitCode?,
    output, message, stdin, error, named, ← textsAfter_ne_nil_iff, compileErrorCode]

end Mark

/-- Whatever its numeral is, the mark counts twice and asks for the exit code of a compile error. -/
theorem Directive.parse_naming {named : String} (numeral : IsNumeral named) :
    parse (naming named) = .run {
      errorLines := 1 :: (number? named.toList).toList
      exitCode := compileErrorCode
      count := 2 } := by
  obtain ⟨more, digits⟩ := numeral
  have written : named.toList ≠ [] := by simpa using more
  have text : (naming named).toList = Mark.errorLineMarker.toList ++ named.toList :=
    String.toList_append
  have lines : Line.physical (naming named).toList =
      [Mark.errorLineMarker.toList ++ named.toList] := by
    have whole : '\n' ∉ Mark.errorLineMarker.toList ++ named.toList := by
      rw [List.mem_append]
      rintro (marker | numeral)
      · revert marker
        decide
      · exact absurd (digits _ numeral) (by decide)
    rw [text, Line.physical_of_not_mem whole, if_neg]
    simp [written]
  rw [parse_eq_run_iff, lines, List.findSome?_singleton, deciding?_eq_none_iff]
  refine ⟨⟨?_, ?_⟩, (Mark.documented_named written digits).symm⟩
  · exact Mark.not_infix_named (by decide) digits (by decide)
  · exact Mark.not_infix_named (by decide) digits (by decide)

/-! ## The report -/

/-- The outcome of a run that reports a single compile error. -/
def Outcome.reporting (place reported : String) : Outcome where
  stderr := "[" ++ place ++ " line " ++ reported ++ "] Error"
  exitCode := 65

/-- A line that ends with the report of a numeral reports this one, whatever stands before it. -/
theorem ErrorReport.reports_single {before digits : List Char} (opened : '[' ∈ before)
    (more : digits ≠ []) (all : ∀ c ∈ digits, isDigit c = true) :
    Reports (before ++ " line ".toList ++ digits ++ "] Error".toList) digits := by
  refine ⟨before, opened, ⟨[], by simp, more, all⟩, ?_⟩
  rintro further other ⟨after, cut, -⟩
  by_contra longer
  have start : before <+: before ++ " line ".toList ++ digits ++ "] Error".toList := by
    simp only [List.append_assoc, List.prefix_append]
  have startToo : further <+: before ++ " line ".toList ++ digits ++ "] Error".toList := by
    rw [cut]
    simp only [List.append_assoc, List.prefix_append]
  obtain ⟨skipped, rfl⟩ :=
    List.prefix_of_prefix_length_le start startToo (Nat.le_of_not_le longer)
  -- Both sides go on with ` line `, but its letter `l` stands only once behind `before`.
  have once : 'l' ∉ "ine ".toList ++ digits ++ "] Error".toList := by
    simp only [List.mem_append, not_or]
    exact ⟨⟨by decide, fun digit => absurd (all _ digit) (by decide)⟩, by decide⟩
  have rest : [' '] ++ 'l' :: ("ine ".toList ++ digits ++ "] Error".toList) =
      (skipped ++ [' ']) ++ 'l' :: ("ine ".toList ++ other ++ "] Error".toList ++ after) := by
    simpa using cut
  have nothing : skipped = [] := by
    simpa using ((List.append_cons_inj_of_notMem (by decide) once).1 rest).1
  simp [nothing] at longer

namespace Expectations

/-- Where such an error is expected and no output, only the report can be wrong. -/
theorem judge_reporting {e : Expectations} (compiles : e.exitCode = compileErrorCode)
    (quiet : e.output = []) (error : e.runtimeError = none) {place : String}
    (whole : '\n' ∉ place.toList) {reported : String} (numeral : IsNumeral reported) (kind : Kind) :
    e.judge (.reporting place reported) kind =
      if (number? reported.toList).any (· ∈ e.errorLines) then []
      else [.unexpectedError (Outcome.reporting place reported).stderr] := by
  obtain ⟨more, digits⟩ := numeral
  have stderr : (Outcome.reporting place reported).stderr.toList =
      '[' :: place.toList ++ " line ".toList ++ reported.toList ++ "] Error".toList := by
    simp [Outcome.reporting]
  have reports : ErrorReport.Reports (Outcome.reporting place reported).stderr.toList
      reported.toList := by
    rw [stderr]
    exact ErrorReport.reports_single List.mem_cons_self (by simpa using more) digits
  have oneLine : '\n' ∉ (Outcome.reporting place reported).stderr.toList := by
    simp only [stderr, List.mem_append, List.mem_cons, not_or]
    refine ⟨⟨⟨⟨by decide, whole⟩, by decide⟩, fun digit => ?_⟩, by decide⟩
    exact absurd (digits _ digit) (by decide)
  have failing : e.exitCode ≠ 0 ∧ (Outcome.reporting place reported).stderr ≠ "" := by
    refine ⟨by rw [compiles]; decide, fun empty => ?_⟩
    rw [empty] at stderr
    simp at stderr
  have judged : e.judgeErrors (Outcome.reporting place reported).stderr =
      if (number? reported.toList).any (· ∈ e.errorLines) then []
      else [.unexpectedError (Outcome.reporting place reported).stderr] := by
    rw [judgeErrors, if_pos failing, error]
    dsimp only
    rw [Line.segments_of_not_mem oneLine, List.flatMap_singleton, judgeErrorLine_of_reports reports,
      String.ofList_toList]
  have printed :
      e.judgeOutput kind (Line.output (Outcome.reporting place reported).stdout) = [] := by
    have nothing : Line.output "" = [] := by decide
    rw [Outcome.reporting, nothing]
    cases kind <;> simp [judgeOutput, judgeLines, quiet]
  rw [judge_of_exitCode_eq rfl compiles.symm, judged, printed, List.append_nil]
  rfl

end Expectations

/-! ## Both together -/

/-- A run with this outcome passes the test in this file. -/
def Passes (source : String) (outcome : Outcome) (kind : Kind) : Prop :=
  ∃ e, Directive.parse source = .run e ∧ e.judge outcome kind = []

open Directive (naming)
open Outcome (reporting)

variable {named reported place : String}

theorem passes_iff_value (numeral : IsNumeral named) (numeralToo : IsNumeral reported)
    (whole : '\n' ∉ place.toList) (kind : Kind) :
    Passes (naming named) (reporting place reported) kind ↔
      IsAscii reported ∧ value reported < wordLimit ∧
        (value reported = 1 ∨ IsAscii named ∧ value named = value reported) := by
  have matched : Passes (naming named) (reporting place reported) kind ↔
      ∃ n, number? reported.toList = some n ∧ (n = 1 ∨ number? named.toList = some n) := by
    rw [Passes, Directive.parse_naming numeral]
    simp only [Directive.run.injEq, exists_eq_left']
    rw [Expectations.judge_reporting rfl rfl rfl whole numeralToo]
    simp [Option.any_eq_true, or_iff_not_imp_left]
  rw [matched]
  simp only [number?_eq_some_iff]
  constructor
  · rintro ⟨n, ⟨ascii, fits, rfl⟩, own | ⟨asciiToo, -, same⟩⟩
    · exact ⟨ascii, fits, .inl own⟩
    · exact ⟨ascii, fits, .inr ⟨asciiToo, same⟩⟩
  · rintro ⟨ascii, fits, own | ⟨asciiToo, same⟩⟩
    · exact ⟨_, ⟨ascii, fits, rfl⟩, .inl own⟩
    · exact ⟨_, ⟨ascii, fits, rfl⟩, .inr ⟨asciiToo, same ▸ fits, same⟩⟩

/-- The numeral of a mark and that of a report are read as integers. The run passes if the report's
    numeral is made of ASCII digits and has a value below `2 ^ 64`, and either this is the number of
    the mark's own line or the mark's numeral is made of ASCII digits and has the same value. Zeros
    before a numeral make no difference. A mark whose numeral has no such value names no line, but
    it counts twice and asks for the exit code of a compile error all the same. -/
theorem passes_naming_iff (numeral : IsNumeral named) (numeralToo : IsNumeral reported)
    (whole : '\n' ∉ place.toList) (kind : Kind) :
    (Passes (naming named) (reporting place reported) kind ↔
      IsAscii reported ∧ value reported < 2 ^ 64 ∧
        (value reported = 1 ∨ IsAscii named ∧ value named = value reported)) ∧
    (∀ zeros zerosToo,
      Passes (naming (pad zeros named)) (reporting place (pad zerosToo reported)) kind ↔
        Passes (naming named) (reporting place reported) kind) ∧
    ∃ e, Directive.parse (naming named) = .run e ∧ e.count = 2 ∧ e.exitCode = 65 ∧
      (IsAscii named ∧ value named < 2 ^ 64 → e.errorLines = [1, value named]) ∧
      (¬ (IsAscii named ∧ value named < 2 ^ 64) → e.errorLines = [1]) := by
  have passes := passes_iff_value numeral numeralToo whole kind
  refine ⟨passes, fun zeros zerosToo => ?_, _, Directive.parse_naming numeral, rfl, rfl, ?_, ?_⟩
  · rw [passes_iff_value (numeral.pad zeros) (numeralToo.pad zerosToo) whole, passes]
    simp only [isAscii_pad_iff, value_pad]
  · rintro ⟨ascii, fits⟩
    rw [number?_eq_some_iff.2 ⟨ascii, fits, rfl⟩]
    rfl
  · intro valueless
    have nothing : number? named.toList = none := by
      refine Option.eq_none_iff_forall_ne_some.2 fun n read => valueless ?_
      obtain ⟨ascii, fits, -⟩ := number?_eq_some_iff.1 read
      exact ⟨ascii, fits⟩
    rw [nothing]
    rfl

/-- Two numerals of one number, a number that would wrap to that of the mark's own line, and a digit
    of another script. -/
theorem passes_naming_iff_seven :
    let place := "x line 9] Error [m"
    let great := "18446744073709551617"
    (IsNumeral "07" ∧ IsNumeral "007" ∧ '\n' ∉ place.toList ∧
      Passes (naming "07") (reporting place "007") .test) ∧
    (IsNumeral great ∧ ¬ Passes (naming great) (reporting place great) .api) ∧
    IsNumeral "\u0667" ∧ ¬ Passes (naming "\u0667") (reporting place "\u0667") .example := by
  intro place great
  have whole : '\n' ∉ place.toList := by decide
  have seven : IsNumeral "07" ∧ IsNumeral "007" := by decide
  have numeral : IsNumeral great := by decide
  have foreign : IsNumeral "\u0667" := by decide
  obtain ⟨passes, -⟩ := passes_naming_iff seven.1 seven.2 whole .test
  obtain ⟨fails, -⟩ := passes_naming_iff numeral numeral whole .api
  obtain ⟨failsToo, -⟩ := passes_naming_iff foreign foreign whole .example
  refine ⟨⟨seven.1, seven.2, whole, passes.2 (by decide)⟩, ⟨numeral, ?_⟩, foreign, ?_⟩
  · exact fun passed => absurd (fails.1 passed).2.1 (by decide)
  · exact fun passed => absurd (failsToo.1 passed).1 (by decide)

end Conformance
