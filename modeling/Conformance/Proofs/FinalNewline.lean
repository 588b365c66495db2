import Conformance.Proofs.Concatenating
import Conformance.Proofs.Deciding
import Conformance.Proofs.Rendering

/-!
# The end of a test file

A last line that has no newline keeps a carriage return at its end, where all other lines lose it.
`ReturnRead` says when this return becomes part of what the file asks for. Main statement: with a
newline behind it, a file asks for what it asks for without such a return, and that is what the file
itself asks for unless the return is read.
-/

namespace Conformance

open Occurrence

/-! ## A carriage return at the end of a line -/

namespace Occurrence

theorem isPrefixOf?_append_return {front : List Char} (plain : '\r' ∉ front) (cs : List Char) :
    front.isPrefixOf? (cs ++ ['\r']) = (front.isPrefixOf? cs).map (· ++ ['\r']) := by
  induction front generalizing cs with
  | nil => rfl
  | cons f front ih =>
    obtain ⟨other, plain⟩ := not_or.1 (mt List.mem_cons.2 plain)
    cases cs with
    | nil => simp [List.isPrefixOf?, Ne.symm other]
    | cons c cs =>
      rw [List.cons_append, List.isPrefixOf?, List.isPrefixOf?, ih plain cs]
      split_ifs <;> rfl

/-- Each text behind a marker goes on to the end of the line. -/
theorem textsAfter_append_return {marker : String} (member : marker ∈ Mark.markers)
    (line : List Char) :
    textsAfter marker (line ++ ['\r']) = (textsAfter marker line).map (· ++ ['\r']) := by
  have all : ∀ marker ∈ Mark.markers, '\r' ∉ marker.toList ∧ textsAfter marker [] = [] := by decide
  obtain ⟨plain, nothing⟩ := all marker member
  induction line with
  | nil =>
    have absent : marker.toList.isPrefixOf? [] = none := by
      cases begins : marker.toList.isPrefixOf? [] with
      | none => rfl
      | some text => simp [textsAfter, begins] at nothing
    rw [nothing, List.nil_append, textsAfter_cons, nothing]
    simpa [absent] using isPrefixOf?_append_return plain []
  | cons c line ih =>
    rw [List.cons_append, textsAfter_cons, ← List.cons_append, isPrefixOf?_append_return plain, ih,
      textsAfter_cons, List.map_append]
    cases marker.toList.isPrefixOf? (c :: line) <;> rfl

theorem infix_append_return_iff {marker : String} (member : marker ∈ Mark.markers)
    {line : List Char} : marker.toList <:+: line ++ ['\r'] ↔ marker.toList <:+: line := by
  rw [← textsAfter_ne_nil_iff, ← textsAfter_ne_nil_iff, textsAfter_append_return member, ne_eq,
    List.map_eq_nil_iff]

theorem after?_append_return {marker : String} (member : marker ∈ Mark.markers)
    (line : List Char) :
    after? marker (line ++ ['\r']) = (after? marker line).map (· ++ ['\r']) := by
  rw [after?_eq_head?, after?_eq_head?, textsAfter_append_return member, List.head?_map]

end Occurrence

namespace Documented

theorem textAfter?_append_return {marker : String} (member : marker ∈ Mark.markers)
    (line : List Char) :
    textAfter? marker (line ++ ['\r']) = (textAfter? marker line).map (· ++ "\r") := by
  rw [textAfter?, textAfter?, textsAfter_append_return member, List.head?_map, Option.map_map,
    Option.map_map]
  congr 1
  funext text
  exact String.ofList_append

/-- No digit is added to a numeral. -/
theorem digits?_append_return (line : List Char) : digits? (line ++ ['\r']) = digits? line := by
  have other : Numeral.isDigit '\r' = false := by decide
  have begins : ((List.head? · |>.any Numeral.isDigit) ∘ (· ++ ['\r'])) =
      (List.head? · |>.any Numeral.isDigit) := by
    funext text
    cases text with
    | nil => simp [other]
    | cons c text => rfl
  have same (text : List Char) :
      (text ++ ['\r']).takeWhile Numeral.isDigit = text.takeWhile Numeral.isDigit := by
    rw [List.takeWhile_append]
    split_ifs with all
    · have whole := (List.takeWhile_prefix Numeral.isDigit).eq_of_length all
      simp [other, whole]
    · rfl
  rw [digits?, digits?, textsAfter_append_return (by decide), List.find?_map, Option.map_map,
    begins]
  exact congrArg (Option.map · _) (funext same)

/-- A carriage return alone is a message. -/
theorem message?_append_return (line : List Char) :
    message? (line ++ ['\r']) = (textAfter? Mark.runtimeErrorMarker line).map (· ++ "\r") := by
  rw [message?_eq_filter, textAfter?_append_return (by decide)]
  cases textAfter? Mark.runtimeErrorMarker line with
  | none => rfl
  | some text =>
    have more : text ++ "\r" ≠ "" := by simp
    simp [Option.filter, more]

end Documented

/-! ## Lines that take a return -/

namespace Directive

/-- A mark on the line takes the text up to the end of the line. A line that says that the file is
    no test takes none. -/
def TakesText (line : List Char) : Prop :=
  skipMarker.toList <:+: line ∨ ¬ nontestMarker.toList <:+: line ∧
    (Mark.outputMarker.toList <:+: line ∨ Mark.runtimeErrorMarker.toList <:+: line ∨
      Mark.stdinMarker.toList <:+: line)

/-- The file ends with a carriage return that belongs to the text of a mark: no line decides before
    the last one, and this has no newline that would end it. -/
def ReturnRead (source : String) : Prop :=
  ∃ lines line, Line.Cut source.toList (lines ++ [line ++ ['\r']]) ∧
    source.toList.getLast? = some '\r' ∧ (∀ earlier ∈ lines, ¬ Decides earlier) ∧ TakesText line

variable {line : List Char} {lines : List (List Char)}

theorem deciding?_append_return (line : List Char) :
    deciding? (line ++ ['\r']) = match after? skipMarker line with
      | some reason => some (.skip (.ofList (reason ++ ['\r'])))
      | none => deciding? line := by
  rw [deciding?, deciding?, after?_append_return (by decide), after?_append_return (by decide)]
  cases after? skipMarker line with
  | some reason => rfl
  | none => rw [Option.map_none, Option.map_map]; rfl

end Directive

namespace Expectations

open Documented

/-- Lines that add the same to what earlier ones ask for. -/
theorem parts_of_followedBy_eq {e f g : Expectations} (same : e.followedBy f = e.followedBy g) :
    f.output = g.output ∧ f.stdinLines = g.stdinLines ∧ f.count = g.count ∧
      (f.runtimeError.isSome → g.runtimeError.isSome → f.runtimeError = g.runtimeError) := by
  refine ⟨List.append_cancel_left (congrArg output same),
    List.append_cancel_left (congrArg stdinLines same),
    Nat.add_left_cancel (congrArg count same), ?_⟩
  intro here there
  have errors : f.runtimeError.or e.runtimeError = g.runtimeError.or e.runtimeError :=
    congrArg runtimeError same
  rwa [Option.or_of_isSome here, Option.or_of_isSome there] at errors

/-- A return behind a line is read where a mark takes the text. -/
theorem followedBy_append_return_iff {e : Expectations} {number : Nat} {line : List Char} :
    e.followedBy (documentedFrom number [line ++ ['\r']]) =
        e.followedBy (documentedFrom number [line]) ↔
      ¬ Mark.outputMarker.toList <:+: line ∧ ¬ Mark.runtimeErrorMarker.toList <:+: line ∧
        ¬ Mark.stdinMarker.toList <:+: line := by
  have longer (text : String) : text ++ "\r" ≠ text := by simp
  have error := @infix_append_return_iff Mark.errorMarker (by decide) line
  have output := @infix_append_return_iff Mark.outputMarker (by decide) line
  have outputText := @textAfter?_append_return Mark.outputMarker (by decide) line
  have stdinText := @textAfter?_append_return Mark.stdinMarker (by decide) line
  rw [documentedFrom_singleton, documentedFrom_singleton, Documented.errorLines,
    Documented.errorLines, exitCode?, exitCode?]
  simp only [error, output, outputText, stdinText, digits?_append_return, message?_append_return]
  constructor
  · intro same
    obtain ⟨outputs, inputs, counts, errors⟩ := parts_of_followedBy_eq same
    dsimp only at outputs inputs counts errors
    simp only [← isSome_textAfter?_iff, Bool.not_eq_true, Option.isSome_eq_false_iff,
      Option.isNone_iff_eq_none]
    refine ⟨?_, ?_, ?_⟩
    · cases found : textAfter? Mark.outputMarker line with
      | none => rfl
      | some text => simp [found] at outputs
    · cases found : textAfter? Mark.runtimeErrorMarker line with
      | none => rfl
      | some text =>
        have known : (message? line).isSome := by
          by_contra unknown
          simp [found, unknown] at counts
        obtain ⟨message, here⟩ := Option.isSome_iff_exists.1 known
        obtain rfl : text = message := by
          rw [message?_eq_filter, found] at here
          exact Option.some.inj (Option.filter_eq_some_iff.1 here).1
        simp [found, here] at errors
    · cases found : textAfter? Mark.stdinMarker line with
      | none => rfl
      | some text => simp [found] at inputs
  · rintro ⟨noOutput, noMessage, noStdin⟩
    have none {marker : String} (absent : ¬ marker.toList <:+: line) :
        textAfter? marker line = none := by
      simpa [← isSome_textAfter?_iff] using absent
    simp [message?_eq_filter, none noOutput, none noMessage, none noStdin]

end Expectations

/-! ## The last line -/

/-- A text is closed but for its last line. -/
theorem Line.exists_last (cs : List Char) :
    ∃ start last, cs = start ++ last ∧ (start = [] ∨ start.getLast? = some '\n') ∧ '\n' ∉ last := by
  induction cs using segment_induction with
  | last line whole => exact ⟨[], line, rfl, .inl rfl, whole⟩
  | ended line rest whole ih =>
    obtain ⟨start, last, rfl, closed, wholeToo⟩ := ih
    refine ⟨line ++ '\n' :: start, last, by simp, .inr ?_, wholeToo⟩
    rcases closed with rfl | ended
    · simp
    · simp [List.getLast?_append, List.getLast?_cons, ended]

namespace Directive

variable {lines : List (List Char)} {line : List Char}

/-- An empty line asks for nothing. -/
theorem ofLines_append_empty (lines : List (List Char)) :
    ofLines {} 1 (lines ++ [[]]) = ofLines {} 1 lines := by
  have undecided : deciding? [] = none := by decide
  have nothing (number : Nat) : Expectations.documentedFrom number [[]] = {} := rfl
  rw [ofLines_eq, ofLines_eq, List.findSome?_append, List.findSome?_singleton, undecided,
    Option.or_none, Expectations.documentedFrom_append, nothing, Expectations.followedBy_empty]

/-- A last line with a return is read as the line without it, unless a mark takes the return. -/
theorem ofLines_append_return_iff :
    ofLines {} 1 (lines ++ [line ++ ['\r']]) = ofLines {} 1 (lines ++ [line]) ↔
      (∀ earlier ∈ lines, ¬ Decides earlier) → ¬ TakesText line := by
  rw [ofLines_eq, ofLines_eq, List.findSome?_append, List.findSome?_append]
  cases found : lines.findSome? deciding? with
  | some directive =>
    obtain ⟨earlier, member, here⟩ := List.exists_of_findSome?_eq_some found
    have decides := deciding?_isSome_iff.1 (Option.isSome_of_eq_some here)
    exact iff_of_true rfl fun undecided => absurd decides (undecided earlier member)
  | none =>
    have undecided : ∀ earlier ∈ lines, ¬ Decides earlier := fun earlier member =>
      deciding?_eq_none_iff_not.1 (List.findSome?_eq_none_iff.1 found earlier member)
    simp only [Option.none_or, List.findSome?_singleton, deciding?_append_return, TakesText]
    by_cases skip : skipMarker.toList <:+: line
    · -- The return belongs to the reason.
      obtain ⟨reason, after⟩ := Option.isSome_iff_exists.1 (isSome_after?_iff.2 skip)
      have here : deciding? line = some (.skip (.ofList reason)) := by rw [deciding?, after]
      refine iff_of_false ?_ fun takes => takes undecided (.inl skip)
      simp [after, here]
    · by_cases nontest : nontestMarker.toList <:+: line
      · have here : deciding? line = some .nontest :=
          deciding?_of_not_skip (.inr nontest) skip
        refine iff_of_true ?_ fun _ takes => takes.elim skip fun takes => takes.1 nontest
        rw [after?_eq_none_iff.2 skip, here]
        rfl
      · have here : deciding? line = none := deciding?_eq_none_iff.2 ⟨skip, nontest⟩
        rw [after?_eq_none_iff.2 skip, here, Option.getD_none, Option.getD_none, run.injEq,
          Expectations.empty_followedBy, Expectations.empty_followedBy,
          Expectations.documentedFrom_append, Expectations.documentedFrom_append,
          Expectations.followedBy_append_return_iff]
        constructor
        · rintro ⟨noOutput, noMessage, noStdin⟩ -
          rintro (held | ⟨-, held | held | held⟩)
          · exact skip held
          · exact noOutput held
          · exact noMessage held
          · exact noStdin held
        · intro free
          have free := free undecided
          exact ⟨fun held => free (.inr ⟨nontest, .inl held⟩),
            fun held => free (.inr ⟨nontest, .inr (.inl held)⟩),
            fun held => free (.inr ⟨nontest, .inr (.inr held)⟩)⟩

/-- Behind the other lines, an empty last line makes no difference to none. -/
theorem ofLines_append_physical (whole : '\n' ∉ line) :
    ofLines {} 1 (lines ++ Line.physical line) = ofLines {} 1 (lines ++ [line]) := by
  rw [Line.physical_of_not_mem whole]
  split_ifs with empty
  · rw [empty, ofLines_append_empty, List.append_nil]
  · rfl

/-! Of the file, `last` is the last line, and `start` is what comes before it. -/

section

variable {source : String} {start last : List Char}
  (closed : start = [] ∨ start.getLast? = some '\n') (cut : source.toList = start ++ last)

include closed cut

theorem parse_of_last (whole : '\n' ∉ last) :
    parse source = ofLines {} 1 (Line.physical start ++ [last]) := by
  rw [parse, cut, Line.physical_of_closed closed, ofLines_append_physical whole]

/-- With a newline behind it, the last line loses a return as the other ones do. -/
theorem parse_of_last_ended (whole : '\n' ∉ last) :
    parse (source ++ "\n") = ofLines {} 1 (Line.physical start ++ [Line.dropReturn last]) := by
  have terminated : Line.physical (last ++ ['\n']) = [Line.dropReturn last] :=
    Line.physical_append whole []
  rw [parse, String.toList_append, cut, List.append_assoc, Line.physical_of_closed closed]
  exact congrArg (fun line => ofLines {} 1 (Line.physical start ++ line)) terminated

/-- A return at the end of the file is one of the last line, since no earlier line ends with one. -/
theorem getLast?_return_iff :
    source.toList.getLast? = some '\r' ↔ last.getLast? = some '\r' := by
  rw [cut, List.getLast?_append]
  cases last.getLast? with
  | some c => simp
  | none => rcases closed with rfl | newline <;> simp [*]

theorem returnRead_iff (ends : last = line ++ ['\r']) (whole : '\n' ∉ last) :
    ReturnRead source ↔
      (∀ earlier ∈ Line.physical start, ¬ Decides earlier) ∧ TakesText line := by
  subst ends
  have lines : Line.physical source.toList = Line.physical start ++ [line ++ ['\r']] := by
    rw [cut, Line.physical_of_closed closed, Line.physical_of_not_mem whole, if_neg (by simp)]
  constructor
  · rintro ⟨others, other, cutToo, -, undecided, takes⟩
    have same := (Line.cut_iff.1 cutToo).trans lines
    obtain ⟨rfl, here⟩ := List.append_inj' same rfl
    obtain rfl : other = line := by simpa using here
    exact ⟨undecided, takes⟩
  · rintro ⟨undecided, takes⟩
    have returned := (getLast?_return_iff closed cut).2 (by simp)
    exact ⟨_, line, Line.cut_iff.2 lines.symm, returned, undecided, takes⟩

end

/-- With a newline behind it, a file is read like the file without a carriage return at its end.
    That is how the file itself is read, unless a mark takes the return. -/
theorem parse_append_newline (source : String) :
    parse (source ++ "\n") = parse (.ofList (Line.dropReturn source.toList)) ∧
      (parse (source ++ "\n") = parse source ↔ ¬ ReturnRead source) := by
  obtain ⟨start, last, cut, closed, whole⟩ := Line.exists_last source.toList
  have own := getLast?_return_iff closed cut
  have ended := parse_of_last_ended closed cut whole
  have unended := parse_of_last closed cut whole
  by_cases returned : source.toList.getLast? = some '\r'
  · obtain ⟨line, rfl⟩ := List.getLast?_eq_some_iff.1 (own.1 returned)
    have shorter : '\n' ∉ line := fun member => whole (List.mem_append_left _ member)
    rw [Line.dropReturn_append_return] at ended
    constructor
    · have dropped : (String.ofList (Line.dropReturn source.toList)).toList = start ++ line := by
        rw [String.toList_ofList, cut, ← List.append_assoc, Line.dropReturn_append_return]
      rw [ended, parse_of_last closed dropped shorter]
    · rw [ended, unended, eq_comm, ofLines_append_return_iff, returnRead_iff closed cut rfl whole,
        not_and]
  · have kept : Line.dropReturn last = last := if_neg (mt own.2 returned)
    have same : parse (source ++ "\n") = parse source := by rw [ended, kept, unended]
    rw [Line.dropReturn, if_neg returned, String.ofList_toList]
    have free : ¬ ReturnRead source := by
      rintro ⟨_, _, _, there, -⟩
      exact returned there
    exact ⟨same, iff_of_true same free⟩

/-- The return at the end of the file is read as part of the expected output. -/
theorem parse_append_newline_ne :
    let source := "// expect: a\r"
    parse source = .run { output := [⟨"a\r", 1⟩], count := 1 } ∧
      parse (source ++ "\n") = .run { output := [⟨"a", 1⟩], count := 1 } ∧
      parse (source ++ "\n") ≠ parse source := by
  decide

end Directive

end Conformance
