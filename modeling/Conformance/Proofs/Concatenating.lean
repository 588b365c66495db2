import Conformance.Proofs.Gathering

/-!
# Test files one after the other

A file that ends with a newline can be followed by another one. `ErrorPlace` keeps apart whether
the line of an expected error is that of its mark or is named by it, since only the first kind moves
when the file does. Main statement: the first of the two files that is not to be run decides for
both, and if there is none, both are run with what either asks for, the lines of the second one
moved behind those of the first.
-/

namespace Conformance

namespace Line

/-- No line goes on behind a text that is empty or ends with a newline. -/
theorem physical_of_closed {cs : List Char} (closed : cs = [] ∨ cs.getLast? = some '\n')
    (rest : List Char) : physical (cs ++ rest) = physical cs ++ physical rest := by
  induction cs using segment_induction with
  | last line whole =>
    rcases closed with rfl | ended
    · rfl
    · exact absurd (List.mem_of_getLast? ended) whole
  | ended line more whole ih =>
    have closedToo : more = [] ∨ more.getLast? = some '\n' := by
      rcases closed with none | ended
      · simp at none
      · cases more with
        | nil => exact .inl rfl
        | cons c more => exact .inr (by simpa using ended)
    rw [List.append_assoc, List.cons_append, physical_append whole, physical_append whole,
      ih closedToo, List.cons_append]

end Line

/-- The line on which an error is expected: that of the mark itself, or one that the mark names. -/
inductive ErrorPlace where
  | own (line : Nat)
  | named (line : Nat)
  deriving DecidableEq, Repr

namespace ErrorPlace

def line : ErrorPlace → Nat
  | own line | named line => line

/-- The place after the mark has moved down by `n` lines. -/
def raise (n : Nat) : ErrorPlace → ErrorPlace
  | own line => own (line + n)
  | named line => named line

@[simp] theorem raise_zero (place : ErrorPlace) : place.raise 0 = place := by
  cases place <;> rfl

end ErrorPlace

/-- Where the line with this number expects errors. -/
def Documented.errorPlaces (number : Nat) (line : List Char) : List ErrorPlace :=
  (if Mark.errorMarker.toList <:+: line then [.own number] else []) ++
    (((digits? line).bind Numeral.number?).map .named).toList

/-- Where some lines expect errors, the first of which has this number. -/
def Expectations.errorPlacesFrom (number : Nat) (lines : List (List Char)) : List ErrorPlace :=
  (lines.zipIdx number).flatMap fun (line, n) => Documented.errorPlaces n line

namespace Documented

theorem map_line_raise (number n : Nat) (line : List Char) :
    (errorPlaces number line).map (fun place => (place.raise n).line) =
      errorLines (number + n) line := by
  rw [errorPlaces, errorLines, List.map_append]
  congr 1
  · split_ifs <;> rfl
  · cases (digits? line).bind Numeral.number? <;> rfl

theorem map_line_errorPlaces (number : Nat) (line : List Char) :
    (errorPlaces number line).map ErrorPlace.line = errorLines number line := by
  simpa using map_line_raise number 0 line

end Documented

namespace Expectations

theorem errorLines_documentedFrom (number : Nat) (lines : List (List Char)) :
    (documentedFrom number lines).errorLines =
      (errorPlacesFrom number lines).map ErrorPlace.line := by
  simp only [documentedFrom, errorPlacesFrom, List.map_flatMap, Documented.map_line_errorPlaces]

/-- Lines that are moved down by `n` lines ask for the same, each under its new number. -/
theorem documentedFrom_add (number n : Nat) (lines : List (List Char)) :
    documentedFrom (number + n) lines = { documentedFrom number lines with
      output := (documentedFrom number lines).output.map fun expected =>
        { expected with line := expected.line + n }
      errorLines := (errorPlacesFrom number lines).map fun place => (place.raise n).line
      runtimeError := (documentedFrom number lines).runtimeError.map fun expected =>
        { expected with line := expected.line + n } } := by
  have moved : lines.zipIdx (number + n) =
      (lines.zipIdx number).map (Prod.map id (· + n)) := by
    rw [Nat.add_comm, List.map_snd_add_zipIdx_eq_zipIdx]
  simp only [documentedFrom, errorPlacesFrom, moved, ← List.getLast?_map, List.filterMap_map,
    List.map_filterMap, List.flatMap_map, List.map_flatMap, Function.comp_def, Option.map_map,
    Documented.map_line_raise, Prod.map, id]

theorem documented_append (lines later : List (List Char)) :
    documented (lines ++ later) = {
      output := (documented lines).output ++ (documented later).output.map fun expected =>
        { expected with line := expected.line + lines.length }
      errorLines := (documented lines).errorLines ++ (errorPlacesFrom 1 later).map fun place =>
        (place.raise lines.length).line
      exitCode := if (documented later).exitCode = 0 then (documented lines).exitCode
        else (documented later).exitCode
      runtimeError := ((documented later).runtimeError.map fun expected =>
        { expected with line := expected.line + lines.length }).or (documented lines).runtimeError
      stdinLines := (documented lines).stdinLines ++ (documented later).stdinLines
      count := (documented lines).count + (documented later).count } := by
  rw [documented, documentedFrom_append, documentedFrom_add, followedBy]
  rfl

end Expectations

namespace Directive

open Expectations (documented documentedFrom errorPlacesFrom)

/-- A file that is not to be run is what one of its lines says. -/
theorem findSome?_of_not_run {source : String} (decided : ∀ e, parse source ≠ .run e) :
    (Line.physical source.toList).findSome? deciding? = some (parse source) := by
  cases found : (Line.physical source.toList).findSome? deciding? with
  | some directive => rw [parse_eq, found, Option.getD_some]
  | none => exact absurd (parse_eq_run_iff.2 ⟨found, rfl⟩) (decided _)

/-- Two files one after the other, the first of which is empty or ends with a newline, are what the
    first one is if it is not to be run, and otherwise what the second one is if it is not to be
    run. If both are to be run, they are to be run with what either asks for: the lines of the
    second one come after those of the first, and so do its marks, but not the lines that these
    name. The exit code and the runtime error are those of the second one if it asks for any. -/
theorem parse_append {first : String} (closed : first = "" ∨ ∃ text, first = text ++ "\n")
    (second : String) {lines later : List (List Char)} (cut : Line.Cut first.toList lines)
    (cutToo : Line.Cut second.toList later) :
    ((∀ e, parse first ≠ .run e) → parse (first ++ second) = parse first) ∧
    (∀ e, parse first = .run e → (∀ f, parse second ≠ .run f) →
      parse (first ++ second) = parse second) ∧
    ∀ e f, parse first = .run e → parse second = .run f →
      f.errorLines = (errorPlacesFrom 1 later).map ErrorPlace.line ∧
      parse (first ++ second) = .run {
        output := e.output ++ f.output.map fun expected =>
          { expected with line := expected.line + lines.length }
        errorLines := e.errorLines ++ (errorPlacesFrom 1 later).map fun place =>
          (place.raise lines.length).line
        exitCode := if f.exitCode = 0 then e.exitCode else f.exitCode
        runtimeError := (f.runtimeError.map fun expected =>
          { expected with line := expected.line + lines.length }).or e.runtimeError
        stdinLines := e.stdinLines ++ f.stdinLines
        count := e.count + f.count } := by
  obtain rfl := Line.cut_iff.1 cut
  obtain rfl := Line.cut_iff.1 cutToo
  have joined : Line.physical (first ++ second).toList =
      Line.physical first.toList ++ Line.physical second.toList := by
    rw [String.toList_append]
    refine Line.physical_of_closed ?_ second.toList
    rcases closed with rfl | ⟨text, rfl⟩
    · exact .inl rfl
    · exact .inr (by simp)
  have found : (Line.physical (first ++ second).toList).findSome? deciding? =
      ((Line.physical first.toList).findSome? deciding?).or
        ((Line.physical second.toList).findSome? deciding?) := by
    rw [joined, List.findSome?_append]
  refine ⟨?_, ?_, ?_⟩
  · intro decided
    rw [parse_eq, found, findSome?_of_not_run decided, Option.some_or, Option.getD_some]
  · intro e run decided
    rw [parse_eq, found, (parse_eq_run_iff.1 run).1, findSome?_of_not_run decided, Option.none_or,
      Option.getD_some]
  · intro e f run runToo
    obtain ⟨undecided, rfl⟩ := parse_eq_run_iff.1 run
    obtain ⟨undecidedToo, rfl⟩ := parse_eq_run_iff.1 runToo
    refine ⟨Expectations.errorLines_documentedFrom 1 _, parse_eq_run_iff.2 ⟨?_, ?_⟩⟩
    · rw [found, undecided, undecidedToo, Option.none_or]
    · rw [joined, Expectations.documented_append]

/-- An empty line at the seam, a mark that names a line before its own, and files that decide. -/
theorem parse_append_numbered :
    let first := "// expect: a\n// expect error line 9\n"
    let second := "\n// expect error line 1\r\n// expect runtime error: m"
    let e : Expectations := {
      output := [⟨"a", 1⟩], errorLines := [2, 9], exitCode := 65, count := 3 }
    let f : Expectations := {
      errorLines := [2, 1], exitCode := 70, runtimeError := some ⟨"m", 3⟩, count := 3 }
    (first = "" ∨ ∃ text, first = text ++ "\n") ∧ parse first = .run e ∧ parse second = .run f ∧
      parse (first ++ second) = .run {
        output := [⟨"a", 1⟩], errorLines := [2, 9, 4, 1], exitCode := 70
        runtimeError := some ⟨"m", 5⟩, count := 6 } ∧
      parse (first ++ "// skip: b") = .skip "b" ∧ parse ("// nontest\n" ++ second) = .nontest := by
  intro first second e f
  have closed : first = "" ∨ ∃ text, first = text ++ "\n" :=
    .inr ⟨"// expect: a\n// expect error line 9", by decide⟩
  have run : parse first = .run e := by decide
  have runToo : parse second = .run f := by decide
  have skipped : parse "// skip: b" = .skip "b" := by decide
  have nontest : parse "// nontest\n" = .nontest := by decide
  have cut (source : String) := Line.cut_physical source.toList
  obtain ⟨-, -, both⟩ := parse_append closed second (cut first) (cut second)
  obtain ⟨-, later, -⟩ := parse_append closed "// skip: b" (cut first) (cut "// skip: b")
  obtain ⟨early, -, -⟩ := parse_append (.inr ⟨"// nontest", by decide⟩) second
    (cut "// nontest\n") (cut second)
  refine ⟨closed, run, runToo, (both e f run runToo).2.trans (by decide), ?_, ?_⟩
  · rw [later e run (by simp [skipped]), skipped]
  · rw [early (by simp [nontest]), nontest]

end Directive
end Conformance
