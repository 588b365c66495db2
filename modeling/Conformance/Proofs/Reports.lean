import Conformance.ErrorReport
import Conformance.Proofs.Markers
import Mathlib.Data.List.TakeWhile

/-!
# What an error report names

`Reports` says which digits a line reports, without searching the line: they stand in the last place
of the line where digits stand between ` line ` and `] Error`, and a bracket opens before it.
-/

namespace Conformance.ErrorReport

/-- After `before`, the line goes on with ` line `, a numeral with these digits, and `] Error`. -/
def NamesAfter (before line digits : List Char) : Prop :=
  ∃ after, line = before ++ " line ".toList ++ digits ++ "] Error".toList ++ after ∧
    digits ≠ [] ∧ ∀ c ∈ digits, Numeral.isDigit c

/-- A line is an error report, and these are the digits of the line number it names. -/
def Reports (line digits : List Char) : Prop :=
  ∃ before, '[' ∈ before ∧ NamesAfter before line digits ∧
    ∀ further other, NamesAfter further line other → further.length ≤ before.length

/-- A line is an error report that names line `number`. -/
def ReportsNumber (line : List Char) (number : Nat) : Prop :=
  ∃ digits, Reports line digits ∧ Numeral.number? digits = some number

/-! ## The digits of a report -/

/-- A run of digits ends where another character follows. -/
theorem takeWhile_digits {digits : List Char} (all : ∀ c ∈ digits, Numeral.isDigit c) {c : Char}
    (other : Numeral.isDigit c = false) (rest : List Char) :
    (digits ++ c :: rest).takeWhile Numeral.isDigit = digits := by
  rw [List.takeWhile_append_of_pos all, List.takeWhile_cons_of_neg (by simp [other]),
    List.append_nil]

theorem dropWhile_digits {digits : List Char} (all : ∀ c ∈ digits, Numeral.isDigit c) {c : Char}
    (other : Numeral.isDigit c = false) (rest : List Char) :
    (digits ++ c :: rest).dropWhile Numeral.isDigit = c :: rest := by
  rw [List.dropWhile_append_of_pos all, List.dropWhile_cons_of_neg (by simp [other])]

theorem digitsHere?_eq_some_iff {cs digits : List Char} :
    digitsHere? cs = some digits ↔ NamesAfter [] cs digits := by
  have closing : Numeral.isDigit ']' = false := by decide
  constructor
  · intro read
    obtain ⟨rest, opened, read⟩ := Option.bind_eq_some_iff.1 read
    obtain ⟨taken, numeral, read⟩ := Option.bind_eq_some_iff.1 read
    obtain ⟨after, closed, same⟩ := Option.bind_eq_some_iff.1 read
    obtain rfl : taken = digits := Option.some.inj same
    obtain rfl := List.isPrefixOf?_eq_some_iff_append_eq.1 opened
    obtain ⟨run, more⟩ := Mark.numeral?_eq_some_iff.1 numeral
    have dropped := List.isPrefixOf?_eq_some_iff_append_eq.1 closed
    refine ⟨after, ?_, more, ?_⟩
    · have parts : taken ++ ("] Error".toList ++ after) = rest := by
        rw [dropped, ← run, List.takeWhile_append_dropWhile]
      rw [← parts]
      simp only [List.nil_append, List.append_assoc]
    · rw [← run]
      exact fun c member => List.mem_takeWhile_imp member
  · rintro ⟨after, rfl, more, all⟩
    have cut : [] ++ " line ".toList ++ digits ++ "] Error".toList ++ after =
        " line ".toList ++ (digits ++ ']' :: (" Error".toList ++ after)) := by
      simp
    have numeral := Mark.numeral?_eq_some_iff.2
      ⟨takeWhile_digits all closing (" Error".toList ++ after), more⟩
    have closed : "] Error".toList.isPrefixOf? (']' :: (" Error".toList ++ after)) = some after :=
      List.isPrefixOf?_eq_some_iff_append_eq.2 rfl
    rw [cut, digitsHere?, List.isPrefixOf?_eq_some_iff_append_eq.2 rfl]
    simp only [Option.bind_eq_bind, Option.bind_some, numeral, dropWhile_digits all closing, closed]
    rfl

theorem namesAfter_iff {before line digits : List Char} :
    NamesAfter before line digits ↔
      ∃ later, line = before ++ later ∧ digitsHere? later = some digits := by
  simp only [digitsHere?_eq_some_iff]
  constructor
  · rintro ⟨after, rfl, numeral⟩
    refine ⟨" line ".toList ++ digits ++ "] Error".toList ++ after, ?_, after, rfl, numeral⟩
    simp only [List.append_assoc]
  · rintro ⟨later, rfl, after, rfl, numeral⟩
    refine ⟨after, ?_, numeral⟩
    simp only [List.append_assoc, List.nil_append]

/-! ## The opening bracket -/

/-- A cut beyond the first bracket of a line is a cut of what stands after the bracket. -/
theorem cut_beyond {start rest before later : List Char}
    (cut : start ++ '[' :: rest = before ++ later) (beyond : start.length < before.length) :
    ∃ inside, before = start ++ '[' :: inside ∧ rest = inside ++ later := by
  rcases List.append_eq_append_iff.1 cut with ⟨more, rfl, tail⟩ | ⟨more, rfl, -⟩
  · cases more with
    | nil => simp at beyond
    | cons c inside =>
      obtain ⟨rfl, same⟩ := List.cons_eq_cons.1 tail
      exact ⟨inside, rfl, same⟩
  · simp only [List.length_append] at beyond
    omega

/-- A part of a line with a bracket goes beyond the first one. -/
theorem beyond_of_mem {start rest before later : List Char}
    (cut : start ++ '[' :: rest = before ++ later) (unopened : '[' ∉ start)
    (opened : '[' ∈ before) : start.length < before.length := by
  rcases List.append_eq_append_iff.1 cut with ⟨more, rfl, -⟩ | ⟨more, rfl, -⟩
  · cases more with
    | nil =>
      rw [List.append_nil] at opened
      exact absurd opened unopened
    | cons c more => simp
  · exact absurd (List.mem_append_left more opened) unopened

/-- The digits found in a line are those that it reports. -/
theorem digits?_eq_some_iff {line digits : List Char} :
    digits? line = some digits ↔ Reports line digits := by
  rw [digits?]
  cases opened : line.dropWhile (· ≠ '[') with
  | nil =>
    have unopened : '[' ∉ line := by
      intro member
      simpa using List.dropWhile_eq_nil_iff.1 opened _ member
    constructor
    · intro none
      cases none
    · rintro ⟨before, held, ⟨after, rfl, -⟩, -⟩
      exact absurd (by simp [held]) unopened
  | cons c rest =>
    obtain rfl : c = '[' := by
      have refused := List.head?_dropWhile_not (· ≠ '[') line
      rw [opened] at refused
      simpa using refused
    have cut : line = line.takeWhile (· ≠ '[') ++ '[' :: rest := by
      rw [← opened, List.takeWhile_append_dropWhile]
    have unopened : '[' ∉ line.takeWhile (· ≠ '[') := by
      intro member
      simpa using List.mem_takeWhile_imp member
    generalize line.takeWhile (· ≠ '[') = start at cut unopened
    subst cut
    dsimp only
    rw [Occurrence.last?_eq_some_iff]
    constructor
    · rintro ⟨before, later, rfl, read, latest⟩
      refine ⟨start ++ '[' :: before, by simp, namesAfter_iff.2 ⟨later, by simp, read⟩, ?_⟩
      intro further other named
      obtain ⟨tail, cut, found⟩ := namesAfter_iff.1 named
      by_contra longer
      simp only [List.length_append, List.length_cons] at longer
      obtain ⟨inside, rfl, within⟩ := cut_beyond cut (by omega)
      simp only [List.length_append, List.length_cons] at longer
      rw [latest inside tail within (by omega)] at found
      cases found
    · rintro ⟨before, held, named, latest⟩
      obtain ⟨later, cut, read⟩ := namesAfter_iff.1 named
      obtain ⟨inside, rfl, rfl⟩ := cut_beyond cut (beyond_of_mem cut unopened held)
      refine ⟨inside, later, rfl, read, ?_⟩
      intro further tail within longer
      cases found : digitsHere? tail with
      | none => rfl
      | some other =>
        have bound := latest (start ++ '[' :: further) other
          (namesAfter_iff.2 ⟨tail, by rw [within]; simp, found⟩)
        simp only [List.length_append, List.length_cons] at bound
        omega

theorem digits?_eq_none_iff {line : List Char} :
    digits? line = none ↔ ∀ digits, ¬ Reports line digits := by
  rw [Option.eq_none_iff_forall_ne_some]
  exact forall_congr' fun digits => not_congr digits?_eq_some_iff

end Conformance.ErrorReport
