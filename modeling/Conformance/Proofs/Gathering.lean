import Conformance.Expectations
import Conformance.Proofs.Markers
import Conformance.Proofs.SourceLines
import Mathlib.Data.List.Basic

/-!
# What the lines of a test file ask for

`Expectations.documented` says field by field what some lines ask for, from the lines alone. Reading
a file takes one line after the other; `followedBy` joins what earlier and later lines ask for, and
`ofLines_eq` says what is read from any lines. Main statement: a file whose lines do not decide for
the whole file is to be run with what its lines ask for.
-/

namespace Conformance

open Occurrence

/-! ## One line -/

namespace Documented

/-- The text after the first occurrence of a marker in a line. -/
def textAfter? (marker : String) (line : List Char) : Option String :=
  (textsAfter marker line).head?.map String.ofList

/-- The decimal digits after the first error line marker that stands directly before one. -/
def digits? (line : List Char) : Option (List Char) :=
  ((textsAfter Mark.errorLineMarker line).find? (·.head?.any Numeral.isDigit)).map
    (·.takeWhile Numeral.isDigit)

/-- The text after the first runtime error marker, unless it is empty. -/
def message? (line : List Char) : Option String :=
  ((textsAfter Mark.runtimeErrorMarker line).head?.filter (· ≠ [])).map String.ofList

/-- The numbers of the lines on which the line with this number expects an error. -/
def errorLines (number : Nat) (line : List Char) : List Nat :=
  (if Mark.errorMarker.toList <:+: line then [number] else []) ++
    ((digits? line).bind Numeral.number?).toList

/-- The exit code that a line asks for. -/
def exitCode? (line : List Char) : Option Int :=
  if (message? line).isSome then some 70
  else if Mark.errorMarker.toList <:+: line then some 65
  else none

end Documented

/-- What some lines ask for, the first of which has this number. -/
def Expectations.documentedFrom (number : Nat) (lines : List (List Char)) : Expectations where
  output := (lines.zipIdx number).filterMap fun (line, n) =>
    (Documented.textAfter? Mark.outputMarker line).map (⟨·, n⟩)
  errorLines := (lines.zipIdx number).flatMap fun (line, n) => Documented.errorLines n line
  exitCode := (lines.filterMap Documented.exitCode?).getLast?.getD 0
  runtimeError := ((lines.zipIdx number).filterMap fun (line, n) =>
    (Documented.message? line).map (⟨·, n⟩)).getLast?
  stdinLines := lines.filterMap fun line =>
    (Documented.textAfter? Mark.stdinMarker line).map (· ++ "\n")
  count := lines.countP (fun line => Mark.outputMarker.toList <:+: line) +
    lines.countP (fun line => Mark.errorMarker.toList <:+: line) +
    lines.countP (fun line => (Documented.digits? line).isSome) +
    lines.countP (fun line => (Documented.message? line).isSome)

/-- What the lines of a test file ask for. -/
def Expectations.documented (lines : List (List Char)) : Expectations :=
  documentedFrom 1 lines

namespace Documented

theorem isSome_textAfter?_iff {marker : String} {line : List Char} :
    (textAfter? marker line).isSome ↔ marker.toList <:+: line := by
  rw [textAfter?, Option.isSome_map, ← after?_eq_head?, isSome_after?_iff]

theorem message?_eq_filter (line : List Char) :
    message? line = (textAfter? Mark.runtimeErrorMarker line).filter (· ≠ "") := by
  rw [message?, textAfter?]
  cases (textsAfter Mark.runtimeErrorMarker line).head? with
  | none => rfl
  | some text => by_cases empty : text = [] <;> simp [Option.filter, empty]

end Documented

namespace Mark

theorem namedLine?_eq (line : List Char) : namedLine? line = Documented.digits? line := by
  rw [namedLine?, first?_after_marker, Documented.digits?]
  induction textsAfter errorLineMarker line with
  | nil => rfl
  | cons text texts ih =>
    rw [List.findSome?_cons, List.find?_cons, numeral?]
    cases text with
    | nil => simpa using ih
    | cons c text =>
      by_cases digit : Numeral.isDigit c = true
      · simp [digit]
      · simpa [digit] using ih

theorem digits?_ne_nil {line digits : List Char} (named : Documented.digits? line = some digits) :
    digits ≠ [] := by
  rw [← namedLine?_eq, namedLine?, first?_eq_some_iff] at named
  obtain ⟨-, rest, -, read, -⟩ := named
  obtain ⟨text, -, numeral⟩ := Option.bind_eq_some_iff.1 read
  exact (numeral?_eq_some_iff.1 numeral).2

/-- A line that names a line has the mark of an error, too. -/
theorem error_of_digits? {line digits : List Char} (named : Documented.digits? line = some digits) :
    errorMarker.toList <:+: line := by
  obtain ⟨text, found, -⟩ := Option.map_eq_some_iff.1 named
  obtain ⟨before, rfl⟩ := mem_textsAfter.1 (List.mem_of_find?_eq_some found)
  refine ⟨before, " line ".toList ++ text, ?_⟩
  have marker : errorLineMarker.toList = errorMarker.toList ++ " line ".toList := by decide
  rw [marker]
  simp only [List.append_assoc]

theorem digits?_eq_none {line : List Char} (absent : ¬ errorMarker.toList <:+: line) :
    Documented.digits? line = none := by
  by_contra named
  obtain ⟨digits, named⟩ := Option.ne_none_iff_exists'.1 named
  exact absent (error_of_digits? named)

theorem message?_eq (line : List Char) :
    (message? line).map String.ofList = Documented.message? line := by
  have filter : ∀ text : Option (List Char),
      text.filter (· ≠ []) = text.bind fun text => if text = [] then none else some text := by
    intro text
    cases text with
    | none => rfl
    | some text => by_cases empty : text = [] <;> simp [Option.filter, empty]
  rw [message?, Documented.message?]
  simp only [filter]
  rw [first?_after_marker]
  congr 1
  cases texts : textsAfter runtimeErrorMarker line with
  | nil => rfl
  | cons text rest =>
    rw [List.findSome?_cons, List.head?_cons, Option.bind_some]
    by_cases empty : text = []
    · rw [if_pos empty]
      refine List.findSome?_eq_none_iff.2 fun other member => ?_
      rw [if_pos]
      exact eq_nil_of_mem_textsAfter (by rw [texts, List.head?_cons, empty])
        (by rw [texts]; exact List.mem_cons_of_mem _ member)
    · rw [if_neg empty]

end Mark

/-! ## Line after line -/

namespace Expectations

/-- What earlier lines and later lines ask for together. -/
def followedBy (earlier later : Expectations) : Expectations where
  output := earlier.output ++ later.output
  errorLines := earlier.errorLines ++ later.errorLines
  exitCode := if later.exitCode = 0 then earlier.exitCode else later.exitCode
  runtimeError := later.runtimeError.or earlier.runtimeError
  stdinLines := earlier.stdinLines ++ later.stdinLines
  count := earlier.count + later.count

@[simp] theorem followedBy_empty (e : Expectations) : e.followedBy {} = e := by
  simp [followedBy]

@[simp] theorem empty_followedBy (e : Expectations) : followedBy {} e = e := by
  cases e with
  | mk output errorLines exitCode runtimeError stdinLines count =>
    simp only [followedBy, List.nil_append, Option.or_none, Nat.zero_add, Expectations.mk.injEq,
      true_and, and_true]
    split
    · next zero => exact zero.symm
    · rfl

theorem followedBy_assoc (a b c : Expectations) :
    (a.followedBy b).followedBy c = a.followedBy (b.followedBy c) := by
  simp only [followedBy, List.append_assoc, Option.or_assoc, Nat.add_assoc, Expectations.mk.injEq,
    true_and, and_true]
  by_cases zero : c.exitCode = 0
  · simp [zero]
  · simp [zero]

theorem note_eq (number : Nat) (e : Expectations) (mark : Mark) :
    e.note number mark = e.followedBy (note number {} mark) := by
  cases mark <;> simp [note, followedBy, compileErrorCode, runtimeErrorCode]

theorem foldl_note (number : Nat) (e : Expectations) (marks : List Mark) :
    marks.foldl (note number) e = e.followedBy (marks.foldl (note number) {}) := by
  induction marks generalizing e with
  | nil => simp
  | cons mark marks ih =>
    rw [List.foldl_cons, List.foldl_cons, ih, ih (note number {} mark), note_eq, followedBy_assoc]

theorem documentedFrom_nil (number : Nat) : documentedFrom number [] = {} := rfl

theorem documentedFrom_singleton (number : Nat) (line : List Char) :
    documentedFrom number [line] = {
      output := ((Documented.textAfter? Mark.outputMarker line).map (⟨·, number⟩)).toList
      errorLines := Documented.errorLines number line
      exitCode := (Documented.exitCode? line).getD 0
      runtimeError := (Documented.message? line).map (⟨·, number⟩)
      stdinLines := ((Documented.textAfter? Mark.stdinMarker line).map (· ++ "\n")).toList
      count := (if Mark.outputMarker.toList <:+: line then 1 else 0) +
        (if Mark.errorMarker.toList <:+: line then 1 else 0) +
        (if (Documented.digits? line).isSome then 1 else 0) +
        (if (Documented.message? line).isSome then 1 else 0) } := by
  simp only [documentedFrom, List.zipIdx_singleton, List.filterMap_cons, List.filterMap_nil,
    List.flatMap_singleton, List.countP_singleton, decide_eq_true_eq, Expectations.mk.injEq,
    true_and, and_true]
  refine ⟨?_, ?_, ?_, ?_⟩
  · cases Documented.textAfter? Mark.outputMarker line <;> rfl
  · cases Documented.exitCode? line <;> rfl
  · cases Documented.message? line <;> rfl
  · cases Documented.textAfter? Mark.stdinMarker line <;> rfl

theorem exitCode?_ne_zero {line : List Char} {code : Int}
    (asked : Documented.exitCode? line = some code) : code ≠ 0 := by
  unfold Documented.exitCode? at asked
  split_ifs at asked <;> cases asked <;> decide

theorem documentedFrom_append (number : Nat) (earlier later : List (List Char)) :
    documentedFrom number (earlier ++ later) =
      (documentedFrom number earlier).followedBy
        (documentedFrom (number + earlier.length) later) := by
  simp only [documentedFrom, followedBy, List.zipIdx_append, List.filterMap_append,
    List.flatMap_append, List.countP_append, List.getLast?_append, Expectations.mk.injEq, true_and]
  refine ⟨?_, by omega⟩
  -- The last exit code of the later lines is zero only if they ask for none.
  cases asked : (later.filterMap Documented.exitCode?).getLast? with
  | none => simp
  | some code =>
    obtain ⟨line, -, here⟩ := List.mem_filterMap.1 (List.mem_of_getLast? asked)
    simp [exitCode?_ne_zero here]

/-- A single line asks for what its documented marks say. -/
theorem noteLine_empty (number : Nat) (line : List Char) :
    noteLine {} number line = documentedFrom number [line] := by
  have named : (Documented.digits? line).isSome → (after? Mark.errorMarker line).isSome := by
    intro some
    obtain ⟨digits, named⟩ := Option.isSome_iff_exists.1 some
    exact isSome_after?_iff.2 (Mark.error_of_digits? named)
  have digits := @Mark.digits?_ne_nil line
  simp only [documentedFrom_singleton, noteLine, Mark.onLine, Documented.errorLines,
    Documented.exitCode?, Documented.textAfter?, ← after?_eq_head?,
    Mark.namedLine?_eq, ← Mark.message?_eq, ← isSome_after?_iff]
  -- Only whether the five texts are there matters from here on, and the named line's digits.
  generalize after? Mark.outputMarker line = output
  generalize after? Mark.errorMarker line = error at named ⊢
  generalize Documented.digits? line = line at named digits ⊢
  generalize Mark.message? _ = message
  generalize after? Mark.stdinMarker _ = stdin
  cases output <;> cases error <;> cases line <;> cases message <;> cases stdin <;>
    simp_all [note, compileErrorCode, runtimeErrorCode, Numeral.word?_eq_number?]

theorem noteLine_eq (e : Expectations) (number : Nat) (line : List Char) :
    e.noteLine number line = e.followedBy (documentedFrom number [line]) := by
  rw [← noteLine_empty, noteLine, noteLine, foldl_note]

end Expectations

/-! ## Whole files -/

namespace Directive

/-- The first line that decides does so alone; without one, the lines add what they ask for. -/
theorem ofLines_eq (e : Expectations) (number : Nat) (lines : List (List Char)) :
    ofLines e number lines =
      (lines.findSome? deciding?).getD (.run (e.followedBy (.documentedFrom number lines))) := by
  induction lines generalizing e number with
  | nil => simp [ofLines, Expectations.documentedFrom_nil]
  | cons line rest ih =>
    rw [ofLines, List.findSome?_cons]
    cases deciding? line with
    | some directive => rfl
    | none =>
      have added := Expectations.documentedFrom_append number [line] rest
      dsimp only
      rw [ih, Expectations.noteLine_eq, Expectations.followedBy_assoc]
      exact congrArg (fun all => (rest.findSome? deciding?).getD (.run (e.followedBy all)))
        added.symm

theorem parse_eq (source : String) :
    parse source = ((Line.physical source.toList).findSome? deciding?).getD
      (.run (.documented (Line.physical source.toList))) := by
  rw [parse, ofLines_eq, Expectations.empty_followedBy, Expectations.documented]

theorem deciding?_eq_none_iff {line : List Char} :
    deciding? line = none ↔
      ¬ skipMarker.toList <:+: line ∧ ¬ nontestMarker.toList <:+: line := by
  rw [deciding?, ← after?_eq_none_iff, ← after?_eq_none_iff]
  cases after? skipMarker line with
  | some reason => simp
  | none => simp

theorem deciding?_ne_run {line : List Char} {e : Expectations} :
    deciding? line ≠ some (.run e) := by
  rw [deciding?]
  cases after? skipMarker line with
  | some reason => simp
  | none => simp

/-- A file is to be run if none of its lines decides, and with what they ask for. -/
theorem parse_eq_run_iff {source : String} {e : Expectations} :
    parse source = .run e ↔ (Line.physical source.toList).findSome? deciding? = none ∧
      e = .documented (Line.physical source.toList) := by
  rw [parse_eq]
  cases found : (Line.physical source.toList).findSome? deciding? with
  | none => simp [eq_comm]
  | some directive =>
    obtain ⟨line, -, here⟩ := List.exists_of_findSome?_eq_some found
    have other : directive ≠ .run e := fun same =>
      deciding?_ne_run (here.trans (congrArg some same))
    simp [other]

theorem eq_documented_of_parse {source : String} {e : Expectations}
    (parsed : parse source = .run e) : e = .documented (Line.physical source.toList) :=
  (parse_eq_run_iff.1 parsed).2

theorem parse_of_deciding?_eq_none {source : String}
    (undecided : ∀ line ∈ Line.physical source.toList, deciding? line = none) :
    parse source = .run (.documented (Line.physical source.toList)) :=
  parse_eq_run_iff.2 ⟨List.findSome?_eq_none_iff.2 undecided, rfl⟩

/-- A file without a deciding line is to be run with what its lines ask for. -/
theorem parse_undecided {source : String} {lines : List (List Char)}
    (cut : Line.Cut source.toList lines)
    (undecided : ∀ line ∈ lines,
      ¬ skipMarker.toList <:+: line ∧ ¬ nontestMarker.toList <:+: line) :
    parse source = .run (.documented lines) := by
  obtain rfl := Line.cut_iff.1 cut
  exact parse_of_deciding?_eq_none fun line member =>
    deciding?_eq_none_iff.2 (undecided line member)

/-- Marks within the text of another mark, a carriage return, and a last line without a newline. -/
theorem parse_undecided_nested :
    let source := "// expect: // expect error line 07x\r\n// expect runtime error: m"
    let lines := ["// expect: // expect error line 07x".toList, "// expect runtime error: m".toList]
    Line.Cut source.toList lines ∧
    (∀ line ∈ lines, ¬ skipMarker.toList <:+: line ∧ ¬ nontestMarker.toList <:+: line) ∧
    parse source = .run {
      output := [⟨"// expect error line 07x", 1⟩]
      errorLines := [1, 7]
      exitCode := 70
      runtimeError := some ⟨"m", 2⟩
      count := 4 } := by
  intro source lines
  have cut : Line.Cut source.toList lines := Line.cut_iff.2 (by decide)
  have undecided : ∀ line ∈ lines,
      ¬ skipMarker.toList <:+: line ∧ ¬ nontestMarker.toList <:+: line :=
    fun line member => deciding?_eq_none_iff.1 ((by decide : ∀ line ∈ lines, deciding? line = none)
      line member)
  refine ⟨cut, undecided, ?_⟩
  rw [parse_undecided cut undecided]
  exact congrArg Directive.run (by decide)

end Directive
end Conformance
