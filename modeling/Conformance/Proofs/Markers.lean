import Conformance.Mark
import Mathlib.Data.List.Infix

/-!
# Where markers stand

What a recogniser reads at its first and at its last position, said through the ways to cut a text
in two. `textsAfter` lists what stands after each occurrence of a marker in a line, and
`StandsAfter` says that a text stands after the first one. `number?` is the number that a numeral
stands for.
-/

namespace Conformance.Occurrence

variable {α : Type} {read : List Char → Option α}

/-! ## First and last positions -/

/-- What is read at the first position where something is read. -/
theorem first?_eq_some_iff {cs : List Char} {found : α} :
    first? read cs = some found ↔ ∃ before rest, cs = before ++ rest ∧ read rest = some found ∧
      ∀ earlier later, cs = earlier ++ later → earlier.length < before.length →
        read later = none := by
  induction cs with
  | nil =>
    constructor
    · intro here
      exact ⟨[], [], rfl, here, by simp⟩
    · rintro ⟨before, rest, cut, here, -⟩
      obtain ⟨rfl, rfl⟩ := List.append_eq_nil_iff.1 cut.symm
      exact here
  | cons c cs ih =>
    cases here : read (c :: cs) with
    | some other =>
      rw [first?, here]
      constructor
      · intro same
        exact ⟨[], c :: cs, rfl, here.trans same, by simp⟩
      · rintro ⟨before, rest, cut, there, earliest⟩
        cases before with
        | nil =>
          rw [List.nil_append] at cut
          rw [← there, ← cut, here]
        | cons b before =>
          have refused := earliest [] (c :: cs) rfl (by simp)
          rw [here] at refused
          cases refused
    | none =>
      rw [first?, here]
      constructor
      · intro accepted
        obtain ⟨before, rest, rfl, there, earliest⟩ := ih.1 accepted
        refine ⟨c :: before, rest, rfl, there, ?_⟩
        intro earlier later cut shorter
        cases earlier with
        | nil => rw [← List.nil_append later, ← cut, here]
        | cons e earlier =>
          obtain ⟨-, cut⟩ := List.cons_eq_cons.1 cut
          exact earliest earlier later cut (by simpa using shorter)
      · rintro ⟨before, rest, cut, there, earliest⟩
        cases before with
        | nil =>
          rw [List.nil_append] at cut
          rw [← cut, here] at there
          cases there
        | cons b before =>
          obtain ⟨rfl, rfl⟩ := List.cons_eq_cons.1 cut
          refine ih.2 ⟨before, rest, rfl, there, ?_⟩
          intro earlier later cut shorter
          exact earliest (c :: earlier) later (by rw [cut]; rfl) (by simpa using shorter)

/-- Nothing is read anywhere. -/
theorem last?_eq_none_iff {cs : List Char} :
    last? read cs = none ↔ ∀ before rest, cs = before ++ rest → read rest = none := by
  induction cs with
  | nil =>
    constructor
    · intro refused before rest cut
      obtain ⟨rfl, rfl⟩ := List.append_eq_nil_iff.1 cut.symm
      exact refused
    · intro refused
      exact refused [] [] rfl
  | cons c cs ih =>
    rw [last?]
    cases later : last? read cs with
    | some found =>
      constructor
      · intro none
        cases none
      · intro refused
        have none := ih.2 fun before rest cut => refused (c :: before) rest (by rw [cut]; rfl)
        rw [later] at none
        cases none
    | none =>
      constructor
      · intro here before rest cut
        cases before with
        | nil =>
          rw [List.nil_append] at cut
          rw [← cut]
          exact here
        | cons b before =>
          obtain ⟨-, cut⟩ := List.cons_eq_cons.1 cut
          exact ih.1 later before rest cut
      · intro refused
        exact refused [] (c :: cs) rfl

/-- What is read at the last position where something is read. -/
theorem last?_eq_some_iff {cs : List Char} {found : α} :
    last? read cs = some found ↔ ∃ before rest, cs = before ++ rest ∧ read rest = some found ∧
      ∀ further later, cs = further ++ later → before.length < further.length →
        read later = none := by
  induction cs with
  | nil =>
    constructor
    · intro here
      refine ⟨[], [], rfl, here, ?_⟩
      intro further later cut longer
      obtain ⟨rfl, -⟩ := List.append_eq_nil_iff.1 cut.symm
      simp at longer
    · rintro ⟨before, rest, cut, here, -⟩
      obtain ⟨rfl, rfl⟩ := List.append_eq_nil_iff.1 cut.symm
      exact here
  | cons c cs ih =>
    rw [last?]
    cases later : last? read cs with
    | some other =>
      rw [later] at ih
      constructor
      · intro same
        obtain ⟨before, rest, rfl, there, latest⟩ := ih.1 same
        refine ⟨c :: before, rest, rfl, there, ?_⟩
        intro further later cut longer
        cases further with
        | nil => simp at longer
        | cons f further =>
          obtain ⟨-, cut⟩ := List.cons_eq_cons.1 cut
          exact latest further later cut (by simpa using longer)
      · rintro ⟨before, rest, cut, there, latest⟩
        cases before with
        | nil =>
          have refused : last? read cs = none := last?_eq_none_iff.2 fun before rest cut =>
            latest (c :: before) rest (by rw [cut]; rfl) (by simp)
          rw [later] at refused
          cases refused
        | cons b before =>
          obtain ⟨rfl, rfl⟩ := List.cons_eq_cons.1 cut
          refine ih.2 ⟨before, rest, rfl, there, ?_⟩
          intro further later cut longer
          exact latest (c :: further) later (by rw [cut]; rfl) (by simpa using longer)
    | none =>
      have refused := last?_eq_none_iff.1 later
      constructor
      · intro here
        refine ⟨[], c :: cs, rfl, here, ?_⟩
        intro further later cut longer
        cases further with
        | nil => simp at longer
        | cons f further =>
          obtain ⟨-, cut⟩ := List.cons_eq_cons.1 cut
          exact refused further later cut
      · rintro ⟨before, rest, cut, there, -⟩
        cases before with
        | nil =>
          rw [List.nil_append] at cut
          rw [cut, there]
        | cons b before =>
          obtain ⟨-, cut⟩ := List.cons_eq_cons.1 cut
          rw [refused before rest cut] at there
          cases there

/-! ## Markers -/

/-- The texts that stand directly after an occurrence of a marker, from left to right. -/
def textsAfter (marker : String) (line : List Char) : List (List Char) :=
  line.tails.filterMap marker.toList.isPrefixOf?

/-- `text` stands after the first occurrence of a marker in a line. -/
def StandsAfter (marker : String) (line text : List Char) : Prop :=
  ∃ before, line = before ++ marker.toList ++ text ∧
    ∀ earlier later, line = earlier ++ marker.toList ++ later → before.length ≤ earlier.length

theorem textsAfter_cons (marker : String) (c : Char) (cs : List Char) :
    textsAfter marker (c :: cs) =
      (marker.toList.isPrefixOf? (c :: cs)).toList ++ textsAfter marker cs := by
  rw [textsAfter, List.tails, List.filterMap_cons, textsAfter]
  cases marker.toList.isPrefixOf? (c :: cs) with
  | none => rfl
  | some text => rfl

/-- Reading on after a marker: the first text after an occurrence that can be read. -/
theorem first?_after_marker (marker : String) (next : List Char → Option α) (line : List Char) :
    first? (fun cs => (marker.toList.isPrefixOf? cs).bind next) line =
      (textsAfter marker line).findSome? next := by
  induction line with
  | nil =>
    rw [first?, textsAfter, List.tails, List.filterMap_cons]
    cases marker.toList.isPrefixOf? [] with
    | none => rfl
    | some text => simp
  | cons c cs ih =>
    rw [first?, ih, textsAfter, textsAfter, List.tails, List.filterMap_cons]
    cases marker.toList.isPrefixOf? (c :: cs) with
    | none => rfl
    | some text =>
      rw [List.findSome?_cons]
      rfl

theorem after?_eq_head? (marker : String) (line : List Char) :
    after? marker line = (textsAfter marker line).head? := by
  have read := first?_after_marker marker some line
  simp only [Option.bind_fun_some] at read
  rw [after?, read]
  cases textsAfter marker line with
  | nil => rfl
  | cons text texts => rfl

theorem mem_textsAfter {marker : String} {line text : List Char} :
    text ∈ textsAfter marker line ↔ ∃ before, line = before ++ marker.toList ++ text := by
  simp only [textsAfter, List.mem_filterMap, List.mem_tails, List.isPrefixOf?_eq_some_iff_append_eq]
  constructor
  · rintro ⟨rest, ⟨before, cut⟩, rfl⟩
    exact ⟨before, by rw [← cut, List.append_assoc]⟩
  · rintro ⟨before, rfl⟩
    exact ⟨marker.toList ++ text, ⟨before, by rw [List.append_assoc]⟩, rfl⟩

/-- A line holds a marker if some text stands after it. -/
theorem textsAfter_ne_nil_iff {marker : String} {line : List Char} :
    textsAfter marker line ≠ [] ↔ marker.toList <:+: line := by
  constructor
  · intro held
    obtain ⟨text, member⟩ := List.exists_mem_of_ne_nil _ held
    obtain ⟨before, rfl⟩ := mem_textsAfter.1 member
    exact ⟨before, text, rfl⟩
  · rintro ⟨before, text, cut⟩
    exact List.ne_nil_of_mem (mem_textsAfter.2 ⟨before, cut.symm⟩)

theorem textsAfter_eq_nil {marker : String} {line : List Char}
    (absent : ¬ marker.toList <:+: line) : textsAfter marker line = [] := by
  by_contra held
  exact absent (textsAfter_ne_nil_iff.1 held)

theorem after?_eq_none_iff {marker : String} {line : List Char} :
    after? marker line = none ↔ ¬ marker.toList <:+: line := by
  rw [after?_eq_head?, List.head?_eq_none_iff, ← textsAfter_ne_nil_iff, not_not]

theorem isSome_after?_iff {marker : String} {line : List Char} :
    (after? marker line).isSome ↔ marker.toList <:+: line := by
  rw [← not_iff_not, Bool.not_eq_true, Option.isSome_eq_false_iff, Option.isNone_iff_eq_none]
  exact after?_eq_none_iff

theorem after?_eq_some_iff {marker : String} {line text : List Char} :
    after? marker line = some text ↔ StandsAfter marker line text := by
  rw [after?, first?_eq_some_iff]
  constructor
  · rintro ⟨before, rest, rfl, there, earliest⟩
    obtain rfl := List.isPrefixOf?_eq_some_iff_append_eq.1 there
    refine ⟨before, by rw [List.append_assoc], ?_⟩
    intro earlier later cut
    by_contra shorter
    have refused := earliest earlier (marker.toList ++ later) (by rw [cut, List.append_assoc])
      (by omega)
    rw [List.isPrefixOf?_eq_some_iff_append_eq.2 rfl] at refused
    cases refused
  · rintro ⟨before, rfl, earliest⟩
    refine ⟨before, marker.toList ++ text, by rw [List.append_assoc],
      List.isPrefixOf?_eq_some_iff_append_eq.2 rfl, ?_⟩
    intro earlier later cut shorter
    cases there : marker.toList.isPrefixOf? later with
    | none => rfl
    | some after =>
      obtain rfl := List.isPrefixOf?_eq_some_iff_append_eq.1 there
      have := earliest earlier after (by rw [cut, List.append_assoc])
      omega

/-- If nothing stands after the first occurrence of a marker, nothing stands after any. -/
theorem eq_nil_of_mem_textsAfter {marker : String} {line text : List Char}
    (first : (textsAfter marker line).head? = some []) (member : text ∈ textsAfter marker line) :
    text = [] := by
  rw [← after?_eq_head?, after?_eq_some_iff] at first
  obtain ⟨before, cut, earliest⟩ := first
  obtain ⟨other, here⟩ := mem_textsAfter.1 member
  have early := earliest other text here
  have lengths := congrArg List.length (cut.symm.trans here)
  simp only [List.length_append, List.length_nil] at lengths
  exact List.length_eq_zero_iff.1 (by omega)

end Conformance.Occurrence

namespace Conformance.Numeral

/-! ## Numerals -/

/-- The number that decimal digits write, if they are ASCII digits and it fits 64 bits. -/
def number? (digits : List Char) : Option Nat :=
  if digits.all Char.isDigit ∧ Nat.ofDigitChars 10 digits 0 < wordLimit then
    some (Nat.ofDigitChars 10 digits 0)
  else none

-- The equations are opened by hand: unfolding by `rw` reduces the difference of character codes.
private theorem valueFrom_cons (value : Nat) (c : Char) (digits : List Char) :
    valueFrom value (c :: digits) = valueFrom (value * 10 + (c.toNat - '0'.toNat)) digits := by
  delta valueFrom
  rfl

theorem valueFrom_eq (value : Nat) (digits : List Char) :
    valueFrom value digits = Nat.ofDigitChars 10 digits value := by
  induction digits generalizing value with
  | nil =>
    rw [Nat.ofDigitChars_nil]
    rfl
  | cons c digits ih => rw [valueFrom_cons, ih, Nat.ofDigitChars_cons, Nat.mul_comm]

theorem word?_eq_number? {digits : List Char} (some : digits ≠ []) :
    word? digits = number? digits := by
  simp [word?, number?, valueFrom_eq, some]

end Conformance.Numeral

namespace Conformance.Mark

theorem numeral?_eq_some_iff {cs digits : List Char} :
    numeral? cs = some digits ↔ cs.takeWhile Numeral.isDigit = digits ∧ digits ≠ [] := by
  rw [numeral?]
  cases taken : cs.takeWhile Numeral.isDigit with
  | nil =>
    constructor
    · intro none
      cases none
    · rintro ⟨rfl, none⟩
      exact absurd rfl none
  | cons c rest => simp +contextual [eq_comm]

end Conformance.Mark
