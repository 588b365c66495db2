import Conformance.Proofs.Gathering

/-!
# Lines that decide for the whole file

A line that says to skip the file, or that the file is no test, decides. The first such line
determines the directive of the file, whatever stands before it, beside its marker and after it.
-/

namespace Conformance.Directive

open Occurrence

/-- A line with one of the two markers that decide for the whole file. -/
def Decides (line : List Char) : Prop :=
  skipMarker.toList <:+: line ∨ nontestMarker.toList <:+: line

/-- The first deciding line of a source text. -/
def FirstDeciding (source : String) (line : List Char) : Prop :=
  ∃ before after, Line.Cut source.toList (before ++ line :: after) ∧ Decides line ∧
    ∀ earlier ∈ before, ¬ Decides earlier

theorem deciding?_isSome_iff {line : List Char} : (deciding? line).isSome ↔ Decides line := by
  rw [Option.isSome_iff_ne_none, ne_eq, deciding?_eq_none_iff, Decides]
  tauto

theorem deciding?_eq_none_iff_not {line : List Char} :
    deciding? line = none ↔ ¬ Decides line := by
  rw [← deciding?_isSome_iff, Bool.not_eq_true, Option.isSome_eq_false_iff,
    Option.isNone_iff_eq_none]

/-- Skipping wins on a line with both markers. -/
theorem deciding?_of_skip {line : List Char} (skip : skipMarker.toList <:+: line) :
    ∃ reason, StandsAfter skipMarker line reason ∧
      deciding? line = some (.skip (.ofList reason)) := by
  obtain ⟨reason, after⟩ := Option.isSome_iff_exists.1 (isSome_after?_iff.2 skip)
  exact ⟨reason, after?_eq_some_iff.1 after, by rw [deciding?, after]⟩

theorem deciding?_of_not_skip {line : List Char} (decides : Decides line)
    (other : ¬ skipMarker.toList <:+: line) : deciding? line = some .nontest := by
  have nontest := decides.resolve_left other
  obtain ⟨text, after⟩ := Option.isSome_iff_exists.1 (isSome_after?_iff.2 nontest)
  rw [deciding?, after?_eq_none_iff.2 other, after, Option.map_some]

/-- The directive of a file is that of its first deciding line. -/
theorem deciding?_of_first {source : String} {line : List Char}
    (first : FirstDeciding source line) : deciding? line = some (parse source) := by
  obtain ⟨before, after, cut, decides, undecided⟩ := first
  obtain ⟨directive, here⟩ := Option.isSome_iff_exists.1 (deciding?_isSome_iff.2 decides)
  have found : (Line.physical source.toList).findSome? deciding? = some directive := by
    rw [← Line.cut_iff.1 cut, List.findSome?_eq_some_iff]
    exact ⟨before, line, after, rfl, here, fun earlier member =>
      deciding?_eq_none_iff_not.2 (undecided earlier member)⟩
  rw [here, parse_eq, found, Option.getD_some]

/-- Among lines of which one decides, one is the first. -/
theorem exists_first {source : String} {lines : List (List Char)}
    (cut : Line.Cut source.toList lines) {line : List Char} (member : line ∈ lines)
    (decides : Decides line) : ∃ line, FirstDeciding source line := by
  cases found : lines.findSome? deciding? with
  | none =>
    have undecided := List.findSome?_eq_none_iff.1 found line member
    exact absurd decides (deciding?_eq_none_iff_not.1 undecided)
  | some directive =>
    obtain ⟨before, first, after, rfl, here, earlier⟩ := List.findSome?_eq_some_iff.1 found
    refine ⟨first, before, after, cut, deciding?_isSome_iff.1 (by rw [here]; rfl), ?_⟩
    intro other listed
    exact deciding?_eq_none_iff_not.1 (earlier other listed)

/-- A file is run exactly if none of its lines decides. -/
theorem exists_first_iff {source : String} :
    (∃ line, FirstDeciding source line) ↔ ∀ e, parse source ≠ .run e := by
  constructor
  · rintro ⟨line, first⟩ e run
    exact deciding?_ne_run ((deciding?_of_first first).trans (congrArg some run))
  · intro decided
    by_contra unfound
    refine decided _ (parse_of_deciding?_eq_none fun line member => ?_)
    rw [deciding?_eq_none_iff_not]
    exact fun decides => unfound (exists_first (Line.cut_physical source.toList) member decides)

/-- The first deciding line determines the directive of a file: it says to skip the file, with the
    text after its first skip marker as the reason, or else that the file is no test. -/
theorem first_deciding_line_determines (source : String) :
    (∀ line, FirstDeciding source line →
      (skipMarker.toList <:+: line → ∃ reason, StandsAfter skipMarker line reason ∧
        parse source = .skip (.ofList reason)) ∧
      (¬ skipMarker.toList <:+: line → parse source = .nontest) ∧
      ∀ other, FirstDeciding other line → parse other = parse source) ∧
    (∀ lines, Line.Cut source.toList lines → (∃ line ∈ lines, Decides line) →
      ∃ line, FirstDeciding source line) ∧
    ((∃ line, FirstDeciding source line) ↔ ∀ e, parse source ≠ .run e) := by
  refine ⟨?_, ?_, exists_first_iff⟩
  · intro line first
    have here := deciding?_of_first first
    refine ⟨?_, ?_, ?_⟩
    · intro skip
      obtain ⟨reason, stands, skipped⟩ := deciding?_of_skip skip
      exact ⟨reason, stands, Option.some.inj (here.symm.trans skipped)⟩
    · intro plain
      obtain ⟨-, -, -, decides, -⟩ := first
      exact Option.some.inj (here.symm.trans (deciding?_of_not_skip decides plain))
    · intro other alike
      exact Option.some.inj ((deciding?_of_first alike).symm.trans here)
  · rintro lines cut ⟨line, member, decides⟩
    exact exists_first cut member decides

/-- A skip marker within the text of another mark, before the other marker on the line. -/
theorem first_deciding_line_determines_nested :
    let source := "// expect error\n// expect: // skip: a // nontest\n// skip: b"
    let line := "// expect: // skip: a // nontest".toList
    FirstDeciding source line ∧ skipMarker.toList <:+: line ∧
      ∃ reason, StandsAfter skipMarker line reason ∧ parse source = .skip (.ofList reason) := by
  intro source line
  have first : FirstDeciding source line := by
    refine ⟨["// expect error".toList], ["// skip: b".toList], Line.cut_iff.2 (by decide), ?_, ?_⟩
    · exact deciding?_isSome_iff.1 (by decide)
    · intro earlier member
      obtain rfl := List.mem_singleton.1 member
      exact deciding?_eq_none_iff_not.1 (by decide)
  have skip : skipMarker.toList <:+: line := isSome_after?_iff.1 (by decide)
  exact ⟨first, skip, ((first_deciding_line_determines source).1 line first).1 skip⟩

end Conformance.Directive
