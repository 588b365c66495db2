import Conformance.Proofs.Rendering
import Conformance.Proofs.Screens
import Mathlib.Data.List.Forall2

/-!
# Colours in a report

`Color.erase` takes the colour codes out of a text. `Tinted` relates what a console writes with
colours to what it writes without them. Main statement: without its colour codes a coloured report
is the plain one, and each colour that is switched on is switched off again on the same line.
-/

namespace Conformance

namespace Color

/-- The sequences that switch a colour on or all colours off. -/
def codes : List String := [green.code, pink.code, red.code, yellow.code, reset]

/-- A text without the colour codes that stand in it. -/
def erase : List Char → List Char
  | [] => []
  | c :: text =>
    match _found : codes.findSome? fun code => code.toList.isPrefixOf? (c :: text) with
    | some rest => erase rest
    | none => c :: erase text
termination_by text => text.length
decreasing_by
  · obtain ⟨code, member, begins⟩ := List.exists_of_findSome?_eq_some _found
    have lengths := congrArg List.length (List.isPrefixOf?_eq_some_iff_append_eq.1 begins)
    have more : ∀ code ∈ codes, 0 < code.toList.length := by decide
    have := more code member
    simp only [List.length_append, List.length_cons] at lengths ⊢
    omega
  · simp

/-- Behind each code that switches a colour on, the code that switches colours off comes before any
    other sequence, the next newline and the end. -/
def Balanced (text : List Char) : Prop :=
  ∀ before (color : Color) rest, text = before ++ color.code.toList ++ rest →
    ∃ painted after, rest = painted ++ reset.toList ++ after ∧ '\x1b' ∉ painted ∧ '\n' ∉ painted

variable {c : Char} {text rest : List Char}

/-! ## Codes -/

theorem code_mem (color : Color) : color.code ∈ codes := by
  cases color <;> decide

theorem reset_mem : reset ∈ codes := by decide

/-- Every code begins with an escape character, and holds no other one. -/
theorem exists_tail : ∀ code ∈ codes, ∃ tail, code.toList = '\x1b' :: tail ∧ '\x1b' ∉ tail := by
  have shaped : ∀ code ∈ codes,
      code.toList.take 1 = ['\x1b'] ∧ '\x1b' ∉ code.toList.drop 1 := by
    decide
  intro code member
  obtain ⟨front, single⟩ := shaped code member
  refine ⟨code.toList.drop 1, ?_, single⟩
  calc code.toList = code.toList.take 1 ++ code.toList.drop 1 :=
        (List.take_append_drop 1 code.toList).symm
    _ = '\x1b' :: code.toList.drop 1 := by rw [front]; rfl

/-- No code is the beginning of another one. -/
theorem eq_of_isPrefix_code {code other : String} (member : code ∈ codes) (too : other ∈ codes)
    (begins : code.toList <+: other.toList ++ rest) : code = other := by
  have apart : ∀ code ∈ codes, ∀ other ∈ codes, code.toList <+: other.toList → code = other := by
    decide
  rcases List.prefix_or_prefix_of_prefix begins (List.prefix_append _ rest) with short | long
  · exact apart code member other too short
  · exact (apart other too code member long).symm

theorem not_isPrefix_of_ne (shown : c ≠ '\x1b') :
    ∀ code ∈ codes, ¬ code.toList <+: c :: text := by
  intro code member begins
  obtain ⟨tail, shape, -⟩ := exists_tail code member
  rw [shape, List.cons_prefix_cons] at begins
  exact shown begins.1.symm

/-- The sequence that erases a line is not one for a colour. -/
theorem not_isPrefix_clearLine (text : List Char) :
    ∀ code ∈ codes, ¬ code.toList <+: Console.clearLine.toList ++ text := by
  have other : ∀ code ∈ codes, code.toList.length ≤ Console.clearLine.toList.length ∧
      ¬ code.toList <+: Console.clearLine.toList := by
    decide
  intro code member begins
  obtain ⟨short, differs⟩ := other code member
  exact differs (List.prefix_of_prefix_length_le begins (List.prefix_append _ text) short)

theorem clearLine_shape : ∃ tail, Console.clearLine.toList = '\x1b' :: tail ∧ '\x1b' ∉ tail :=
  ⟨['[', '2', 'K', '\r'], rfl, by decide⟩

/-! ## Erasing -/

theorem erase_nil : erase [] = [] := by rw [erase]

theorem erase_cons (other : ∀ code ∈ codes, ¬ code.toList <+: c :: text) :
    erase (c :: text) = c :: erase text := by
  rw [erase]
  split
  · next rest found =>
    obtain ⟨code, member, begins⟩ := List.exists_of_findSome?_eq_some found
    exact absurd ⟨rest, List.isPrefixOf?_eq_some_iff_append_eq.1 begins⟩ (other code member)
  · rfl

theorem erase_code {code : String} (member : code ∈ codes) (rest : List Char) :
    erase (code.toList ++ rest) = erase rest := by
  obtain ⟨tail, shape, -⟩ := exists_tail code member
  have whole : code.toList ++ rest = '\x1b' :: (tail ++ rest) := by rw [shape, List.cons_append]
  rw [whole, erase, ← whole]
  split
  · next other found =>
    obtain ⟨first, listed, begins⟩ := List.exists_of_findSome?_eq_some found
    have cut := List.isPrefixOf?_eq_some_iff_append_eq.1 begins
    obtain rfl := eq_of_isPrefix_code listed member ⟨other, cut⟩
    rw [List.append_cancel_left cut]
  · next none =>
    have here := List.findSome?_eq_none_iff.1 none code member
    rw [List.isPrefixOf?_eq_some_iff_append_eq.2 rfl] at here
    cases here

theorem erase_append (plain : '\x1b' ∉ text) (rest : List Char) :
    erase (text ++ rest) = text ++ erase rest := by
  induction text with
  | nil => rfl
  | cons c text ih =>
    obtain ⟨first, plain⟩ := not_or.1 (mt List.mem_cons.2 plain)
    rw [List.cons_append, erase_cons (not_isPrefix_of_ne (Ne.symm first)), ih plain,
      List.cons_append]

theorem erase_clearLine (text : List Char) :
    erase (Console.clearLine.toList ++ text) = Console.clearLine.toList ++ erase text := by
  obtain ⟨tail, shape, plain⟩ := clearLine_shape
  have other := not_isPrefix_clearLine text
  rw [shape, List.cons_append] at other
  rw [shape, List.cons_append, erase_cons other, erase_append plain, List.cons_append]

/-! ## Switching off -/

theorem balanced_nil : Balanced [] := by
  intro before color rest cut
  have length := congrArg List.length cut
  cases color <;> simp [code] at length

theorem balanced_cons (other : ∀ code ∈ codes, ¬ code.toList <+: c :: text)
    (balanced : Balanced text) : Balanced (c :: text) := by
  intro before color rest cut
  cases before with
  | nil => exact absurd ⟨rest, cut.symm⟩ (other color.code color.code_mem)
  | cons b before =>
    rw [List.cons_append, List.cons_append] at cut
    exact balanced before color rest (List.cons_eq_cons.1 cut).2

theorem balanced_append (plain : '\x1b' ∉ text) (balanced : Balanced rest) :
    Balanced (text ++ rest) := by
  induction text with
  | nil => exact balanced
  | cons c text ih =>
    obtain ⟨first, plain⟩ := not_or.1 (mt List.mem_cons.2 plain)
    exact balanced_cons (not_isPrefix_of_ne (Ne.symm first)) (ih plain)

theorem balanced_clearLine (balanced : Balanced rest) :
    Balanced (Console.clearLine.toList ++ rest) := by
  obtain ⟨tail, shape, plain⟩ := clearLine_shape
  have other := not_isPrefix_clearLine rest
  rw [shape, List.cons_append] at other ⊢
  exact balanced_cons other (balanced_append plain balanced)

theorem balanced_reset (balanced : Balanced rest) : Balanced (reset.toList ++ rest) := by
  intro before color after cut
  obtain ⟨tail, shape, plain⟩ := exists_tail reset reset_mem
  cases before with
  | nil =>
    have same := eq_of_isPrefix_code color.code_mem reset_mem ⟨after, cut.symm⟩
    exact absurd same (by cases color <;> decide)
  | cons b before =>
    rw [shape, List.cons_append, List.cons_append, List.cons_append] at cut
    exact balanced_append plain balanced before color after (List.cons_eq_cons.1 cut).2

/-- What is painted is switched off behind it. -/
theorem balanced_painted (color : Color) (plain : '\x1b' ∉ text) (single : '\n' ∉ text)
    (balanced : Balanced rest) :
    Balanced (color.code.toList ++ (text ++ (reset.toList ++ rest))) := by
  intro before other after cut
  obtain ⟨tail, shape, further⟩ := exists_tail color.code color.code_mem
  cases before with
  | nil =>
    rw [List.nil_append] at cut
    have same := eq_of_isPrefix_code other.code_mem color.code_mem ⟨after, cut.symm⟩
    rw [same] at cut
    refine ⟨text, rest, ?_, plain, single⟩
    rw [← List.append_cancel_left cut, List.append_assoc]
  | cons b before =>
    rw [shape, List.cons_append, List.cons_append, List.cons_append] at cut
    exact balanced_append further (balanced_append plain (balanced_reset balanced)) before other
      after (List.cons_eq_cons.1 cut).2

end Color

/-! ## Texts with and without colours -/

theorem Numeral.ascii_of_mem_toString {c : Char} {n : Nat} (member : c ∈ (toString n).toList) :
    c.isDigit = true := by
  rw [toList_toString] at member
  exact ascii_of_mem_toDigits member

/-- A coloured text and the same text without colours. What is painted holds no sequence of its own;
    if `single` holds, it stands on a single line. -/
inductive Tinted (single : Prop) : List Char → List Char → Prop where
  | nil : Tinted single [] []
  | shown {c : Char} {colored plain : List Char} :
      c ≠ '\x1b' → Tinted single colored plain → Tinted single (c :: colored) (c :: plain)
  | cleared {colored plain : List Char} : Tinted single colored plain →
      Tinted single (Console.clearLine.toList ++ colored) (Console.clearLine.toList ++ plain)
  | painted {colored plain : List Char} (color : Color) {text : List Char} :
      '\x1b' ∉ text → (single → '\n' ∉ text) → Tinted single colored plain →
      Tinted single (color.code.toList ++ (text ++ (Color.reset.toList ++ colored)))
        (text ++ plain)

namespace Tinted

variable {single : Prop} {colored plain : List Char} {first second third fourth text : String}

theorem erase_eq (tinted : Tinted single colored plain) : Color.erase colored = plain := by
  induction tinted with
  | nil => exact Color.erase_nil
  | shown other _ ih => rw [Color.erase_cons (Color.not_isPrefix_of_ne other), ih]
  | cleared _ ih => rw [Color.erase_clearLine, ih]
  | painted color whole _ _ ih =>
    rw [Color.erase_code color.code_mem, Color.erase_append whole, Color.erase_code Color.reset_mem,
      ih]

theorem balanced (tinted : Tinted single colored plain) (lines : single) :
    Color.Balanced colored := by
  induction tinted with
  | nil => exact Color.balanced_nil
  | shown other _ ih => exact Color.balanced_cons (Color.not_isPrefix_of_ne other) ih
  | cleared _ ih => exact Color.balanced_clearLine ih
  | painted color whole line _ ih => exact Color.balanced_painted color whole (line lines) ih

theorem followedBy {more same : List Char} (front : Tinted single colored plain)
    (back : Tinted single more same) : Tinted single (colored ++ more) (plain ++ same) := by
  induction front with
  | nil => exact back
  | shown other _ ih => exact .shown other ih
  | cleared _ ih =>
    rw [List.append_assoc, List.append_assoc]
    exact .cleared ih
  | painted color whole line _ ih =>
    simp only [List.append_assoc]
    exact .painted color whole line ih

theorem append (front : Tinted single first.toList second.toList)
    (back : Tinted single third.toList fourth.toList) :
    Tinted single (first ++ third).toList (second ++ fourth).toList := by
  rw [String.toList_append, String.toList_append]
  exact front.followedBy back

/-- A text without escape characters is the same with colours. -/
theorem of_not_mem {text : List Char} (whole : '\x1b' ∉ text) : Tinted single text text := by
  induction text with
  | nil => exact .nil
  | cons c text ih =>
    obtain ⟨first, whole⟩ := not_or.1 (mt List.mem_cons.2 whole)
    exact .shown (Ne.symm first) (ih whole)

theorem clearing : Tinted single Console.clearLine.toList Console.clearLine.toList := by
  have cleared : Tinted single (Console.clearLine.toList ++ []) (Console.clearLine.toList ++ []) :=
    .cleared .nil
  simpa using cleared

theorem paint (color : Color) (whole : '\x1b' ∉ text.toList)
    (line : single → '\n' ∉ text.toList) :
    Tinted single (color.paint true text).toList (color.paint false text).toList := by
  have painted := Tinted.painted color whole line .nil
  simpa [Color.paint] using painted

theorem number (color : Color) (n : Nat) :
    Tinted single (color.paint true (toString n)).toList (color.paint false (toString n)).toList :=
  paint color (fun escape => absurd (Numeral.ascii_of_mem_toString escape) (by decide))
    fun _ newline => absurd (Numeral.ascii_of_mem_toString newline) (by decide)

/-- Lines that are the same but for their colours make texts that are. -/
theorem lines {colored plain : List String}
    (each : List.Forall₂ (fun line plain => Tinted single line.toList plain.toList) colored plain) :
    Tinted single ("\n".intercalate colored).toList ("\n".intercalate plain).toList := by
  induction each with
  | nil => exact .nil
  | cons first others ih =>
    cases others with
    | nil => simpa using first
    | cons second others =>
      rw [String.intercalate_cons_cons, String.intercalate_cons_cons]
      exact (first.append (of_not_mem (by decide))).append ih

end Tinted

/-! ## What a console writes -/

namespace Event

/-- The lines of discrepancies that an event reports. -/
def reported : Event → List String
  | .completed _ (.failed found) => found.flatMap Discrepancy.lines
  | _ => []

/-- The texts from outside that a console shows for an event: an argument, a path and what is
    reported of its file, or reasons for skipping. -/
def shown : Event → List String
  | .launching argument => [argument]
  | .completed path (.failed found) => path :: found.flatMap Discrepancy.lines
  | .finished tally => tally.reasons.entries.map Prod.fst
  | _ => []

end Event

namespace Console

variable {single : Prop}

theorem tinted_progress (tally : Tally) :
    Tinted single (progress tally true).toList (progress tally false).toList := by
  have label (text : String) (whole : '\x1b' ∉ text.toList) :
      Tinted single text.toList text.toList := .of_not_mem whole
  refine .append (.append (.append (.append (.append ?_ ?_) ?_) ?_) ?_) ?_
  · exact label "Passed: " (by decide)
  · exact .number .green tally.passed
  · exact label " Failed: " (by decide)
  · exact .number .red tally.failed
  · exact label " Skipped: " (by decide)
  · exact .number .yellow tally.skipped

theorem tinted_failure {path : String} {found : List Discrepancy} (named : '\x1b' ∉ path.toList)
    (whole : ∀ line ∈ found.flatMap Discrepancy.lines, '\x1b' ∉ line.toList)
    (lines : single → ∀ line ∈ found.flatMap Discrepancy.lines, '\n' ∉ line.toList) :
    Tinted single (failure path found true).toList (failure path found false).toList := by
  refine .lines (.cons ?_ ?_)
  · refine .append (.append (.paint .red (by decide) fun _ => by decide) ?_) (.of_not_mem named)
    exact .of_not_mem (by decide)
  · rw [List.forall₂_map_left_iff, List.forall₂_map_right_iff, List.forall₂_same]
    intro line member
    refine .append (.of_not_mem (by decide)) ?_
    exact .paint .pink (whole line member) fun all => lines all line member

theorem tinted_verdictLine (tally : Tally) :
    Tinted single (verdictLine tally true).toList (verdictLine tally false).toList := by
  rw [verdictLine, verdictLine]
  by_cases none : tally.failed = 0
  · rw [if_pos none, if_pos none]
    refine .append (.append (.append (.append ?_ (.number .green tally.passed)) ?_) ?_) ?_
    · exact .of_not_mem (by decide)
    · exact .of_not_mem (by decide)
    · exact .of_not_mem fun escape => absurd (Numeral.ascii_of_mem_toString escape) (by decide)
    · exact .of_not_mem (by decide)
  · rw [if_neg none, if_neg none]
    refine .append (.append (.append (.number .green tally.passed) ?_) ?_) ?_
    · exact .of_not_mem (by decide)
    · exact .number .red tally.failed
    · exact .of_not_mem (by decide)

theorem tinted_summary {tally : Tally}
    (whole : ∀ reason ∈ tally.reasons.entries.map Prod.fst, '\x1b' ∉ reason.toList) :
    Tinted single (summary tally true).toList (summary tally false).toList := by
  refine .lines (.cons (tinted_verdictLine tally) ?_)
  rw [List.forall₂_map_left_iff, List.forall₂_map_right_iff, List.forall₂_same]
  intro ⟨reason, n⟩ member
  refine .append (.append (.append ?_ (.number .yellow n)) ?_) ?_
  · exact .of_not_mem (by decide)
  · exact .of_not_mem (by decide)
  · exact .of_not_mem (whole reason (List.mem_map.2 ⟨_, member, rfl⟩))

theorem tinted_clear (console : Console) :
    Tinted single console.clear.toList console.clear.toList := by
  rw [clear]
  cases console.live with
  | true => exact .clearing
  | false => exact .nil

/-- What a console writes for an event with colours and without. -/
theorem tinted_display (console : Console) {event : Event}
    (whole : ∀ text ∈ event.shown, '\x1b' ∉ text.toList)
    (lines : single → ∀ line ∈ event.reported, '\n' ∉ line.toList) :
    Tinted single ({ console with color := true }.display event).toList
      ({ console with color := false }.display event).toList := by
  have newline : Tinted single "\n".toList "\n".toList := .of_not_mem (by decide)
  obtain ⟨verbose, -, live, broken⟩ := console
  cases broken with
  | true => exact .nil
  | false =>
    cases event with
    | started path tally =>
      cases live with
      | true => exact .append .clearing (tinted_progress tally)
      | false => exact .nil
    | launching argument =>
      cases verbose with
      | true =>
        have named := whole argument List.mem_cons_self
        exact .append (.append (tinted_clear _) (.of_not_mem named)) newline
      | false => exact .nil
    | executed launch => exact .nil
    | completed path verdict =>
      cases verdict with
      | passed => exact .nil
      | skipped reason => exact .nil
      | failed found =>
        obtain ⟨named, whole⟩ := List.forall_mem_cons.1 whole
        exact .append (.append (tinted_clear _) (tinted_failure named whole lines))
          (.of_not_mem (by decide))
    | finished tally => exact .append (.append (tinted_clear _) (tinted_summary whole)) newline

theorem tinted_transcript (console : Console) {events : List Event}
    (whole : ∀ event ∈ events, ∀ text ∈ event.shown, '\x1b' ∉ text.toList)
    (lines : single → ∀ event ∈ events, ∀ line ∈ event.reported, '\n' ∉ line.toList) :
    Tinted single ({ console with color := true }.transcript events).toList
      ({ console with color := false }.transcript events).toList := by
  induction events with
  | nil => exact .nil
  | cons event events ih =>
    obtain ⟨here, whole⟩ := List.forall_mem_cons.1 whole
    rw [transcript, transcript, List.map_cons, List.map_cons, String.join_cons, String.join_cons]
    refine .append ?_ (ih whole fun all other later => ?_)
    · exact tinted_display console here fun all => lines all event List.mem_cons_self
    · exact lines all other (List.mem_cons_of_mem _ later)

/-- If nothing that a console shows from outside holds an escape character, its report with colours,
    without the colour codes, is its report without colours. If all reported lines are single lines,
    each colour is switched off behind what it paints, on the same line. -/
theorem color_transparent (console : Console) {events : List Event}
    (whole : ∀ event ∈ events, ∀ text ∈ event.shown, '\x1b' ∉ text.toList) :
    let colored := ({ console with color := true }.transcript events).toList
    Color.erase colored = ({ console with color := false }.transcript events).toList ∧
      ((∀ event ∈ events, ∀ line ∈ event.reported, '\n' ∉ line.toList) →
        Color.Balanced colored) := by
  intro colored
  constructor
  · -- For what is erased, it does not matter where lines end.
    have tinted := tinted_transcript console whole False.elim
    exact tinted.erase_eq
  · intro lines
    have tinted := tinted_transcript console whole fun _ : True => lines
    exact tinted.balanced trivial

/-- A failed file with a discrepancy that is reported in several lines, and a skipped one. -/
theorem color_transparent_failure :
    let console : Console := { verbose := true, live := true }
    let events : List Event := [
      .started "test/a.wren" {}, .launching "test/a.wren",
      .completed "test/a.wren" (.failed [.outputMismatch "[32m" 1 "b", .exitCode 0 1 "x\ny"]),
      .finished (({ failed := 1 } : Tally).skip "later")]
    let colored := ({ console with color := true }.transcript events).toList
    (∀ event ∈ events, ∀ text ∈ event.shown, '\x1b' ∉ text.toList) ∧
      (∀ event ∈ events, ∀ line ∈ event.reported, '\n' ∉ line.toList) ∧
      Color.erase colored = ({ console with color := false }.transcript events).toList ∧
      Color.Balanced colored := by
  intro console events colored
  have whole : ∀ event ∈ events, ∀ text ∈ event.shown, '\x1b' ∉ text.toList := by decide
  have lines : ∀ event ∈ events, ∀ line ∈ event.reported, '\n' ∉ line.toList := by decide
  obtain ⟨erased, balanced⟩ := color_transparent console whole
  exact ⟨whole, lines, erased, balanced lines⟩

end Console
end Conformance
