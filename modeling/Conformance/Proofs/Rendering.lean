import Conformance.Proofs.Gathering
import Mathlib.Algebra.Ring.Nat

/-!
# Writing marks and reading them back

A `MarkedLine` is a line of code with at most one mark behind it, written in its documented form.
Main statement: a file made of such lines is to be run with exactly what their marks ask for, each
under the number of its line.
-/

namespace Conformance

open Occurrence

namespace Mark

/-- All markers: those of the marks, and the two that decide for a whole file. -/
def markers : List String :=
  [outputMarker, errorMarker, errorLineMarker, runtimeErrorMarker, stdinMarker,
    Directive.skipMarker, Directive.nontestMarker]

/-- A text on one line in which no marker stands. -/
structure Unmarked (text : String) : Prop where
  oneLine : '\n' ∉ text.toList
  noMarker : ∀ marker ∈ markers, ¬ marker.toList <:+: text.toList

instance (text : String) : Decidable (Unmarked text) :=
  decidable_of_iff ('\n' ∉ text.toList ∧ ∀ marker ∈ markers, ¬ marker.toList <:+: text.toList)
    ⟨fun ⟨oneLine, noMarker⟩ => ⟨oneLine, noMarker⟩,
      fun ⟨oneLine, noMarker⟩ => ⟨oneLine, noMarker⟩⟩

/-- A mark whose written form says all that the mark asks for, and nothing else. -/
def Writable : Mark → Prop
  | output text => Unmarked text
  | error => True
  | errorLine number => ∃ n, number = some n ∧ n < Numeral.wordLimit
  | runtimeError message => message ≠ "" ∧ Unmarked message
  | stdin text => Unmarked text

/-- The marker that a mark is written with. -/
def marker : Mark → String
  | output _ => outputMarker
  | error => errorMarker
  | errorLine _ => errorLineMarker
  | runtimeError _ => runtimeErrorMarker
  | stdin _ => stdinMarker

/-- What is written behind the marker of a mark. -/
def text : Mark → String
  | output text => text
  | error => ""
  | errorLine number => (number.map toString).getD ""
  | runtimeError message => message
  | stdin text => text

end Mark

/-- A line of a test file: code, and at most one mark behind it. -/
structure MarkedLine where
  code : String
  mark : Option Mark
  unmarked : Mark.Unmarked code
  writable : ∀ m, mark = some m → m.Writable
  /-- A carriage return at the end of the line would be no part of it. -/
  unreturned : (code ++ (mark.map Mark.render).getD "").toList.getLast? ≠ some '\r'

namespace MarkedLine

/-- The line as it is written. -/
def text (line : MarkedLine) : String := line.code ++ (line.mark.map Mark.render).getD ""

/-- The file that is made of some lines. -/
def source (lines : List MarkedLine) : String := Line.terminated (lines.map text)

/-- The line of output that a line asks for. -/
def output? (line : MarkedLine) : Option String :=
  match line.mark with
  | some (.output text) => some text
  | _ => none

/-- The lines on which the line with this number expects an error. -/
def errorLines (number : Nat) (line : MarkedLine) : List Nat :=
  match line.mark with
  | some .error => [number]
  | some (.errorLine named) => number :: named.toList
  | _ => []

/-- The message of the runtime error that a line asks for. -/
def message? (line : MarkedLine) : Option String :=
  match line.mark with
  | some (.runtimeError message) => some message
  | _ => none

/-- The exit code that a line asks for. -/
def exitCode? (line : MarkedLine) : Option Int :=
  match line.mark with
  | some .error | some (.errorLine _) => some 65
  | some (.runtimeError _) => some 70
  | _ => none

/-- The line of input that a line asks for. -/
def stdin? (line : MarkedLine) : Option String :=
  match line.mark with
  | some (.stdin text) => some text
  | _ => none

/-- How much the mark of a line counts. One that names a line is a mark of an error, too. -/
def count (line : MarkedLine) : Nat :=
  match line.mark with
  | some (.output _) | some .error | some (.runtimeError _) => 1
  | some (.errorLine _) => 2
  | some (.stdin _) | none => 0

/-- What some lines ask for. -/
def asked (lines : List MarkedLine) : Expectations where
  output := (lines.zipIdx 1).filterMap fun (line, n) => line.output?.map (⟨·, n⟩)
  errorLines := (lines.zipIdx 1).flatMap fun (line, n) => line.errorLines n
  exitCode := (lines.filterMap exitCode?).getLast?.getD 0
  runtimeError :=
    ((lines.zipIdx 1).filterMap fun (line, n) => line.message?.map (⟨·, n⟩)).getLast?
  stdinLines := (lines.filterMap stdin?).map (· ++ "\n")
  count := (lines.map count).sum

end MarkedLine

/-! ## Markers in a written line -/

namespace Occurrence

/-- What every marker begins with, and it has no other slash. -/
def IsMarker (marker : List Char) : Prop :=
  ∃ tail, marker = '/' :: '/' :: ' ' :: tail ∧ '/' ∉ tail

theorem isMarker_of_mem {marker : String} (member : marker ∈ Mark.markers) :
    IsMarker marker.toList := by
  have shaped : ∀ marker ∈ Mark.markers, marker.toList.take 3 = ['/', '/', ' '] ∧
      '/' ∉ marker.toList.drop 3 := by
    decide
  obtain ⟨front, slashless⟩ := shaped marker member
  refine ⟨marker.toList.drop 3, ?_, slashless⟩
  calc marker.toList = marker.toList.take 3 ++ marker.toList.drop 3 :=
        (List.take_append_drop 3 marker.toList).symm
    _ = '/' :: '/' :: ' ' :: marker.toList.drop 3 := by rw [front]; rfl

variable {marker : String} {code own text : List Char}

/-- No marker begins where no slash stands. -/
theorem textsAfter_slashless (isMarker : IsMarker marker.toList) (slashless : '/' ∉ code)
    (rest : List Char) : textsAfter marker (code ++ rest) = textsAfter marker rest := by
  obtain ⟨tail, begins, -⟩ := isMarker
  induction code with
  | nil => rfl
  | cons c code ih =>
    obtain ⟨other, slashless⟩ := not_or.1 (mt List.mem_cons.2 slashless)
    have here : marker.toList.isPrefixOf? (c :: (code ++ rest)) = none := by
      rw [begins, List.isPrefixOf?, if_neg (by simpa using other)]
    rw [List.cons_append, textsAfter_cons, here, ih slashless]
    rfl

/-- No marker begins in unmarked code, even if another marker follows it. -/
theorem textsAfter_code (isMarker : IsMarker marker.toList) (absent : ¬ marker.toList <:+: code)
    (rest : List Char) :
    textsAfter marker (code ++ '/' :: '/' :: ' ' :: rest) =
      textsAfter marker ('/' :: '/' :: ' ' :: rest) := by
  induction code with
  | nil => rfl
  | cons c code ih =>
    have later : ¬ marker.toList <:+: code := fun held => absent (held.trans (List.infix_cons
      List.infix_rfl))
    have here : marker.toList.isPrefixOf? (c :: code ++ '/' :: '/' :: ' ' :: rest) = none := by
      rw [Option.eq_none_iff_forall_ne_some]
      intro text begins
      have cut := List.isPrefixOf?_eq_some_iff_append_eq.1 begins
      rcases List.append_eq_append_iff.1 cut with ⟨more, within, -⟩ | ⟨more, across, beyond⟩
      · exact absent (within ▸ (List.prefix_append _ _).isInfix)
      · -- The marker would go on with the slashes behind the code, but only its second
        -- character is one more slash, and a third one never follows.
        obtain ⟨tail, shape, slashless⟩ := isMarker
        cases more with
        | nil => exact absent ⟨[], [], by simpa using across⟩
        | cons b more =>
          obtain ⟨rfl, beyond⟩ := List.cons_eq_cons.1 beyond
          rw [shape] at across
          obtain ⟨-, across⟩ := List.cons_eq_cons.1 across
          cases code with
          | nil =>
            obtain ⟨-, rfl⟩ := List.cons_eq_cons.1 across
            simp at beyond
          | cons d code =>
            obtain ⟨-, across⟩ := List.cons_eq_cons.1 across
            have slash : '/' ∈ ' ' :: tail := by
              rw [across]
              simp
            simp [slashless] at slash
    rw [List.cons_append, textsAfter_cons, ← List.cons_append, here, ih later]
    rfl

/-- In a line of unmarked code with a mark and unmarked text behind it, no marker begins but where
    the mark does. -/
theorem textsAfter_line (isMarker : IsMarker marker.toList) (ownMarker : IsMarker own)
    (before : ¬ marker.toList <:+: code) (behind : ¬ marker.toList <:+: text) :
    textsAfter marker (code ++ (own ++ text)) =
      (marker.toList.isPrefixOf? (own ++ text)).toList := by
  obtain ⟨tail, rfl, slashless⟩ := ownMarker
  have second : marker.toList.isPrefixOf? ('/' :: ' ' :: (tail ++ text)) = none := by
    obtain ⟨rest, begins, -⟩ := isMarker
    rw [begins]
    rfl
  have within := @textsAfter_slashless marker (' ' :: tail) isMarker (by simpa using slashless) text
  simp only [List.cons_append] at within ⊢
  rw [textsAfter_code isMarker before, textsAfter_cons, textsAfter_cons, second, within,
    textsAfter_eq_nil behind]
  simp

end Occurrence

namespace Numeral

variable {n : Nat}

theorem toList_toString (n : Nat) : (toString n).toList = Nat.toDigits 10 n := by
  rw [Nat.toString_eq_ofList_toDigits, String.toList_ofList]

theorem ascii_of_mem_toDigits {c : Char} (member : c ∈ Nat.toDigits 10 n) : c.isDigit = true :=
  Nat.isDigit_of_mem_toDigits (by decide) (by decide) member

/-- The decimal digits of ASCII are among those of Unicode. -/
theorem isDigit_of_ascii {c : Char} (ascii : c.isDigit = true) : isDigit c = true := by
  rw [Char.isDigit, Bool.and_eq_true, decide_eq_true_eq, decide_eq_true_eq] at ascii
  rw [isDigit, List.any_eq_true]
  refine ⟨0x30, by simp [zeros], ?_⟩
  rw [Bool.and_eq_true, decide_eq_true_eq, decide_eq_true_eq]
  exact ascii

/-- A number that fits is the value of its numeral. -/
theorem number?_toDigits (fits : n < wordLimit) : number? (Nat.toDigits 10 n) = some n := by
  have digits : (Nat.toDigits 10 n).all Char.isDigit = true :=
    List.all_eq_true.2 fun c member => ascii_of_mem_toDigits member
  have value := Nat.ofDigitChars_toDigits (n := n) (b := 10) (by decide) (by decide)
  rw [number?, value, if_pos ⟨digits, fits⟩]

end Numeral

namespace Mark

variable {marker : String} {mark : Mark}

theorem toList_render (mark : Mark) :
    mark.render.toList = mark.marker.toList ++ mark.text.toList := by
  cases mark <;> simp [render, Mark.marker, text]

theorem marker_mem (mark : Mark) : mark.marker ∈ markers := by
  cases mark <;> simp [Mark.marker, markers]

/-- No marker stands in what is written behind a mark. -/
theorem Writable.text (writable : mark.Writable) : Unmarked mark.text := by
  have of_slashless (text : String) (plain : ∀ c ∈ text.toList, c ≠ '/' ∧ c ≠ '\n') :
      Unmarked text := by
    refine ⟨fun newline => (plain _ newline).2 rfl, fun marker member held => ?_⟩
    obtain ⟨tail, begins, -⟩ := isMarker_of_mem member
    exact (plain '/' (held.subset (by simp [begins]))).1 rfl
  cases mark with
  | output text => exact writable
  | error => exact of_slashless "" (by simp)
  | errorLine number =>
    obtain ⟨n, rfl, -⟩ := writable
    refine of_slashless (toString n) fun c member => ?_
    rw [Numeral.toList_toString] at member
    have digit := Numeral.ascii_of_mem_toDigits member
    refine ⟨?_, ?_⟩ <;> rintro rfl <;> exact absurd digit (by decide)
  | runtimeError message => exact writable.2
  | stdin text => exact writable

/-- Of all markers, one alone goes on from another one. -/
theorem eq_of_isPrefix : ∀ first ∈ markers, ∀ second ∈ markers,
    first.toList <+: second.toList →
      first = second ∨ first = errorMarker ∧ second = errorLineMarker := by
  decide

/-- A marker with which a mark begins is no longer than the mark's own. -/
theorem isPrefix_marker (member : marker ∈ markers) (mark : Mark)
    (begins : marker.toList <+: mark.marker.toList ++ mark.text.toList) :
    marker.toList <+: mark.marker.toList := by
  rcases List.prefix_or_prefix_of_prefix begins (List.prefix_append _ _) with short | long
  · exact short
  · rcases eq_of_isPrefix _ mark.marker_mem _ member long with same | ⟨same, named⟩
    · rw [same]
    · -- Nothing is written behind the marker of an error that names no line.
      cases mark with
      | error => simpa [text] using begins
      | _ =>
        simp only [Mark.marker] at same
        exact absurd same (by decide)

/-- A mark begins with no other marker than its own, and that of an error if it names a line. -/
theorem isPrefixOf?_written (member : marker ∈ markers) (other : marker ≠ errorMarker)
    (mark : Mark) : marker.toList.isPrefixOf? (mark.marker.toList ++ mark.text.toList) =
      if mark.marker = marker then some mark.text.toList else none := by
  split_ifs with own
  · rw [own, List.isPrefixOf?_eq_some_iff_append_eq]
  · rw [Option.eq_none_iff_forall_ne_some]
    intro text begins
    have written := List.isPrefixOf?_eq_some_iff_append_eq.1 begins
    rcases eq_of_isPrefix marker member _ mark.marker_mem
      (isPrefix_marker member mark ⟨text, written⟩) with same | ⟨same, -⟩
    · exact own same.symm
    · exact other same

end Mark

namespace MarkedLine

variable {marker : String} {line : MarkedLine}

/-- What stands behind a marker in a written line: what its mark says, if it begins in this way. -/
theorem textsAfter_text (member : marker ∈ Mark.markers) (line : MarkedLine) :
    textsAfter marker line.text.toList = match line.mark with
      | none => []
      | some m => (marker.toList.isPrefixOf? (m.marker.toList ++ m.text.toList)).toList := by
  rw [text]
  cases marked : line.mark with
  | none =>
    refine textsAfter_eq_nil ?_
    simpa using line.unmarked.noMarker marker member
  | some m =>
    have behind := (line.writable m marked).text
    simp only [Option.map_some, Option.getD_some, String.toList_append, Mark.toList_render]
    exact textsAfter_line (isMarker_of_mem member) (isMarker_of_mem m.marker_mem)
      (line.unmarked.noMarker marker member) (behind.noMarker marker member)

/-- Of the markers, only those with which its mark begins stand in a line. -/
theorem infix_text_iff (member : marker ∈ Mark.markers) (line : MarkedLine) :
    marker.toList <:+: line.text.toList ↔
      ∃ m, line.mark = some m ∧ marker.toList <+: m.marker.toList := by
  rw [← textsAfter_ne_nil_iff, textsAfter_text member]
  cases line.mark with
  | none => simp
  | some m =>
    dsimp only
    constructor
    · intro held
      obtain ⟨text, behind⟩ := List.exists_mem_of_ne_nil _ held
      have written := List.isPrefixOf?_eq_some_iff_append_eq.1 (Option.mem_toList.1 behind)
      exact ⟨m, rfl, Mark.isPrefix_marker member m ⟨text, written⟩⟩
    · rintro ⟨other, same, more, own⟩
      obtain rfl := Option.some.inj same
      rw [← own, List.append_assoc, List.isPrefixOf?_eq_some_iff_append_eq.2 rfl]
      simp

/-- Only the text of a line's own mark stands behind its marker. -/
theorem textsAfter_eq (member : marker ∈ Mark.markers) (other : marker ≠ Mark.errorMarker)
    (line : MarkedLine) : textsAfter marker line.text.toList =
      ((line.mark.filter (·.marker = marker)).map (·.text.toList)).toList := by
  rw [textsAfter_text member]
  cases line.mark with
  | none => rfl
  | some m =>
    dsimp only
    rw [Mark.isPrefixOf?_written member other]
    by_cases own : m.marker = marker <;> simp [own, Option.filter]

theorem textAfter?_output (line : MarkedLine) :
    Documented.textAfter? Mark.outputMarker line.text.toList = line.output? := by
  rw [Documented.textAfter?, textsAfter_eq (by decide) (by decide), output?]
  cases line.mark with
  | none => rfl
  | some m =>
    cases m with
    | output text => simp [Option.filter, Mark.marker, Mark.text]
    | _ => rfl

theorem textAfter?_stdin (line : MarkedLine) :
    Documented.textAfter? Mark.stdinMarker line.text.toList = line.stdin? := by
  rw [Documented.textAfter?, textsAfter_eq (by decide) (by decide), stdin?]
  cases line.mark with
  | none => rfl
  | some m =>
    cases m with
    | stdin text => simp [Option.filter, Mark.marker, Mark.text]
    | _ => rfl

theorem message?_text (line : MarkedLine) :
    Documented.message? line.text.toList = line.message? := by
  rw [Documented.message?, textsAfter_eq (by decide) (by decide), message?]
  cases marked : line.mark with
  | none => rfl
  | some m =>
    cases m with
    | runtimeError message =>
      have more : message ≠ "" := (line.writable _ marked).1
      simp [Option.filter, Mark.marker, Mark.text, more]
    | _ => rfl

/-- The digits of the numeral in a mark that names a line. -/
theorem digits?_text (line : MarkedLine) : Documented.digits? line.text.toList =
    match line.mark with
    | some (.errorLine number) => number.map (Nat.toDigits 10)
    | _ => none := by
  rw [Documented.digits?, textsAfter_eq (by decide) (by decide)]
  cases marked : line.mark with
  | none => rfl
  | some m =>
    cases m with
    | errorLine number =>
      obtain ⟨n, rfl, -⟩ := line.writable _ marked
      have digits : ∀ c ∈ Nat.toDigits 10 n, Numeral.isDigit c = true := fun c member =>
        Numeral.isDigit_of_ascii (Numeral.ascii_of_mem_toDigits member)
      have whole := List.takeWhile_eq_self_iff.2 digits
      obtain ⟨c, rest, numeral⟩ := List.exists_cons_of_ne_nil (@Nat.toDigits_ne_nil n 10)
      have first : Numeral.isDigit c = true := digits c (by simp [numeral])
      rw [numeral] at whole
      simp [Option.filter, Mark.marker, Mark.text, numeral, whole, first]
    | _ => rfl

/-- The marker of an error stands in a line that is marked with one, also if it names a line. -/
theorem error_infix_iff (line : MarkedLine) :
    Mark.errorMarker.toList <:+: line.text.toList ↔ line.exitCode? = some 65 := by
  rw [infix_text_iff (by decide), exitCode?]
  cases line.mark with
  | none => simp
  | some m =>
    simp only [Option.some.injEq, exists_eq_left']
    cases m <;> simp only [Mark.marker] <;> decide

theorem output_infix_iff (line : MarkedLine) :
    Mark.outputMarker.toList <:+: line.text.toList ↔ line.output?.isSome := by
  rw [← textAfter?_output, Documented.textAfter?, Option.isSome_map, List.isSome_head?,
    ← textsAfter_ne_nil_iff]

/-! ## What written lines ask for -/

theorem errorLines_text (number : Nat) (line : MarkedLine) :
    Documented.errorLines number line.text.toList = line.errorLines number := by
  simp only [Documented.errorLines, error_infix_iff, digits?_text, exitCode?, errorLines]
  cases marked : line.mark with
  | none => rfl
  | some m =>
    cases m with
    | errorLine named =>
      obtain ⟨n, rfl, fits⟩ := line.writable _ marked
      simp [Numeral.number?_toDigits fits]
    | _ => rfl

theorem exitCode?_text (line : MarkedLine) :
    Documented.exitCode? line.text.toList = line.exitCode? := by
  simp only [Documented.exitCode?, error_infix_iff, message?_text, exitCode?, message?]
  cases line.mark with
  | none => rfl
  | some m => cases m <;> rfl

theorem count_text (line : MarkedLine) :
    (if Mark.outputMarker.toList <:+: line.text.toList then 1 else 0) +
        (if Mark.errorMarker.toList <:+: line.text.toList then 1 else 0) +
        (if (Documented.digits? line.text.toList).isSome then 1 else 0) +
        (if (Documented.message? line.text.toList).isSome then 1 else 0) = line.count := by
  simp only [output_infix_iff, error_infix_iff, digits?_text, message?_text, output?, exitCode?,
    message?, count]
  cases marked : line.mark with
  | none => rfl
  | some m =>
    cases m with
    | errorLine named =>
      obtain ⟨n, rfl, -⟩ := line.writable _ marked
      rfl
    | _ => rfl

/-- What the lines are documented to ask for is what their marks ask for. -/
theorem documented_text (lines : List MarkedLine) :
    Expectations.documented (lines.map (·.text.toList)) = asked lines := by
  have counted :
      (lines.map (·.text.toList)).countP (fun line => Mark.outputMarker.toList <:+: line) +
      (lines.map (·.text.toList)).countP (fun line => Mark.errorMarker.toList <:+: line) +
      (lines.map (·.text.toList)).countP (fun line => (Documented.digits? line).isSome) +
      (lines.map (·.text.toList)).countP (fun line => (Documented.message? line).isSome) =
        (lines.map count).sum := by
    induction lines with
    | nil => rfl
    | cons line lines ih =>
      have here := line.count_text
      simp only [List.map_cons, List.countP_cons, List.sum_cons, decide_eq_true_eq] at ih ⊢
      omega
  simp only [Expectations.documented, Expectations.documentedFrom, asked, counted, List.zipIdx_map,
    List.filterMap_map, List.flatMap_map, Function.comp_def, Prod.map, id, textAfter?_output,
    errorLines_text, exitCode?_text, message?_text, textAfter?_stdin, List.map_filterMap]

/-- No marker that decides for the whole file stands in a written line. -/
theorem deciding?_text (line : MarkedLine) : Directive.deciding? line.text.toList = none := by
  rw [Directive.deciding?_eq_none_iff, infix_text_iff (by decide), infix_text_iff (by decide)]
  constructor <;> rintro ⟨m, -, begins⟩ <;> revert begins <;> cases m <;>
    simp only [Mark.marker] <;> decide

theorem oneLine_text (line : MarkedLine) : '\n' ∉ line.text.toList := by
  have code := line.unmarked.oneLine
  rw [text, String.toList_append, List.mem_append]
  cases marked : line.mark with
  | none => simpa using code
  | some m =>
    have behind := (line.writable m marked).text.oneLine
    have marker : '\n' ∉ m.marker.toList := by cases m <;> simp only [Mark.marker] <;> decide
    simp [Mark.toList_render, code, marker, behind]

theorem physical_source (lines : List MarkedLine) :
    Line.physical (source lines).toList = lines.map (·.text.toList) := by
  induction lines with
  | nil => decide
  | cons line lines ih =>
    have first : (source (line :: lines)).toList =
        line.text.toList ++ '\n' :: (source lines).toList := by
      simp [source, Line.terminated]
    have kept : Line.dropReturn line.text.toList = line.text.toList := if_neg line.unreturned
    rw [first, Line.physical_append line.oneLine_text, ih, kept, List.map_cons]

/-- Reading undoes writing: a file of marked lines is to be run with exactly what their marks ask
    for. Its input is that of all marks for it, line by line, if there are any. -/
theorem parse_source (lines : List MarkedLine) :
    Directive.parse (source lines) = .run (asked lines) ∧
      (asked lines).stdin = if lines.filterMap stdin? = [] then none
        else some (Line.terminated (lines.filterMap stdin?)) := by
  constructor
  · have undecided : ∀ line ∈ Line.physical (source lines).toList,
        Directive.deciding? line = none := by
      rw [physical_source, List.forall_mem_map]
      exact fun line _ => line.deciding?_text
    rw [Directive.parse_of_deciding?_eq_none undecided, physical_source, documented_text]
  · rw [Expectations.stdin, asked, Line.terminated]
    simp only [List.map_eq_nil_iff]

/-- One line of each kind, with parts of markers in the code and in the texts. -/
theorem parse_source_mixed :
    ∃ lines : List MarkedLine,
      lines.map (fun line => (line.code, line.mark)) =
        [("var a // nontes", none), ("/", some (.output "// expect")), ("f() ", some .error),
          ("", some (.errorLine (some 9))), ("// skip:", some (.runtimeError "// m")),
          ("\r", some (.stdin "")), ("", some (.output ""))] ∧
      Directive.parse (source lines) = .run {
        output := [⟨"// expect", 2⟩, ⟨"", 7⟩]
        errorLines := [3, 4, 9]
        exitCode := 70
        runtimeError := some ⟨"// m", 5⟩
        stdinLines := ["\n"]
        count := 6 } := by
  have plain : Mark.Unmarked "" ∧ Mark.Unmarked "// expect" ∧ Mark.Unmarked "// m" := by decide
  let lines : List MarkedLine := [
    ⟨"var a // nontes", none, by decide, by simp, by decide⟩,
    ⟨"/", some (.output "// expect"), by decide, by rintro _ ⟨⟩; exact plain.2.1, by decide⟩,
    ⟨"f() ", some .error, by decide, by rintro _ ⟨⟩; exact trivial, by decide⟩,
    ⟨"", some (.errorLine (some 9)), by decide, by rintro _ ⟨⟩; exact ⟨9, rfl, by decide⟩,
      by decide⟩,
    ⟨"// skip:", some (.runtimeError "// m"), by decide,
      by rintro _ ⟨⟩; exact ⟨by decide, plain.2.2⟩, by decide⟩,
    ⟨"\r", some (.stdin ""), by decide, by rintro _ ⟨⟩; exact plain.1, by decide⟩,
    ⟨"", some (.output ""), by decide, by rintro _ ⟨⟩; exact plain.1, by decide⟩]
  refine ⟨lines, rfl, (parse_source lines).1.trans (congrArg Directive.run ?_)⟩
  rfl

end MarkedLine
end Conformance
