import Conformance.Proofs.ExitStatus
import Mathlib.Data.List.DropRight

/-!
# What a live console leaves on a screen

A screen shows text as it arrives; only the sequence that erases a line takes something away again.
`display_cases` says what a live console and one that is not live write for the same event. Main
statement: after any events both have left the same on the screen, except that a live console may
still show a progress line.
-/

namespace Conformance

/-! ## Screens -/

namespace Screen

/-- The sequence that erases the current line and returns to its start. -/
def erasing : List Char := ['\x1b', '[', '2', 'K', '\r']

/-- A screen without what it shows after its last newline. -/
def eraseLine (screen : List Char) : List Char := screen.rdropWhile (· ≠ '\n')

/-- A screen after more text has arrived: an erasing sequence erases the current line, and every
    other character is added. -/
def feed (screen : List Char) : List Char → List Char
  | [] => screen
  | c :: text =>
    match _erased : erasing.isPrefixOf? (c :: text) with
    | some rest => feed (eraseLine screen) rest
    | none => feed (screen ++ [c]) text
termination_by text => text.length
decreasing_by
  · have lengths := congrArg List.length (List.isPrefixOf?_eq_some_iff_append_eq.1 _erased)
    simp only [erasing, List.length_append, List.length_cons, List.length_nil] at lengths ⊢
    omega
  · simp

theorem feed_nil (screen : List Char) : feed screen [] = screen := by rw [feed]

theorem feed_erasing (screen text : List Char) :
    feed screen (erasing ++ text) = feed (eraseLine screen) text := by
  have cut : erasing ++ text = '\x1b' :: ('[' :: '2' :: 'K' :: '\r' :: text) := rfl
  have found : erasing.isPrefixOf? (erasing ++ text) = some text :=
    List.isPrefixOf?_eq_some_iff_append_eq.2 rfl
  rw [cut] at found ⊢
  rw [feed]
  split
  · next rest erased =>
    rw [found] at erased
    rw [Option.some.inj erased]
  · next erased =>
    rw [found] at erased
    cases erased

theorem feed_cons (screen : List Char) {c : Char} {text : List Char}
    (other : ¬ erasing <+: c :: text) : feed screen (c :: text) = feed (screen ++ [c]) text := by
  rw [feed]
  split
  · next rest erased => exact absurd ⟨rest, List.isPrefixOf?_eq_some_iff_append_eq.1 erased⟩ other
  · rfl

theorem eraseLine_append_newline (screen : List Char) :
    eraseLine (screen ++ ['\n']) = screen ++ ['\n'] := by
  rw [eraseLine, List.rdropWhile_concat_neg]
  simp

theorem eraseLine_append {screen text : List Char} (whole : '\n' ∉ text) :
    eraseLine (screen ++ text) = eraseLine screen := by
  have erased : ∀ c ∈ text.reverse, decide (c ≠ '\n') = true := by
    intro c member
    simpa using fun same : c = '\n' => whole (same ▸ List.mem_reverse.1 member)
  rw [eraseLine, eraseLine, List.rdropWhile, List.rdropWhile, List.reverse_append,
    List.dropWhile_append_of_pos erased]

/-! ## Texts that can be shown one by one -/

/-- No erasing sequence begins in a text and ends after it. -/
def Closed (text : List Char) : Prop :=
  ∀ screen rest, feed screen (text ++ rest) = feed (feed screen text) rest

/-- A text is shown as it is, whatever comes after it. -/
def Plain (text : List Char) : Prop :=
  ∀ screen rest, feed screen (text ++ rest) = feed (screen ++ text) rest

theorem Plain.feed_eq {text : List Char} (plain : Plain text) (screen : List Char) :
    feed screen text = screen ++ text := by
  rw [← List.append_nil text, plain, feed_nil, List.append_nil]

theorem Plain.closed {text : List Char} (plain : Plain text) : Closed text := by
  intro screen rest
  rw [plain, plain.feed_eq]

theorem Plain.append {first second : List Char} (before : Plain first) (after : Plain second) :
    Plain (first ++ second) := by
  intro screen rest
  rw [List.append_assoc, before, after, List.append_assoc]

theorem Closed.append {first second : List Char} (before : Closed first) (after : Closed second) :
    Closed (first ++ second) := by
  intro screen rest
  rw [List.append_assoc, before, after, before]

theorem closed_nil : Closed [] := fun screen rest => by rw [feed_nil, List.nil_append]

theorem closed_erasing : Closed erasing := by
  intro screen rest
  rw [feed_erasing, ← List.append_nil erasing, feed_erasing, feed_nil]

/-- Without an escape character, nothing is erased. -/
theorem plain_of_not_mem {text : List Char} (whole : '\x1b' ∉ text) : Plain text := by
  intro screen rest
  induction text generalizing screen with
  | nil => rw [List.nil_append, List.append_nil]
  | cons c text ih =>
    obtain ⟨first, others⟩ : '\x1b' ≠ c ∧ '\x1b' ∉ text := by simpa using whole
    have other : ¬ erasing <+: c :: (text ++ rest) := by
      rintro ⟨after, cut⟩
      exact first (List.cons_eq_cons.1 cut).1
    rw [List.cons_append, feed_cons screen other, ih others, List.append_assoc]
    rfl

/-- An erasing sequence holds no newline, so none reaches past the end of a line. -/
theorem feed_line (screen text rest : List Char) :
    feed screen (text ++ '\n' :: rest) = feed (feed screen text ++ ['\n']) rest := by
  fun_induction feed screen text with
  | case1 screen =>
    refine feed_cons screen ?_
    rintro ⟨after, cut⟩
    exact absurd (List.cons_eq_cons.1 cut).1 (by decide)
  | case2 screen c text after erased ih =>
    rw [← List.isPrefixOf?_eq_some_iff_append_eq.1 erased, List.append_assoc, feed_erasing, ih]
  | case3 screen c text plain ih =>
    rw [List.cons_append, feed_cons, ih]
    intro reaching
    have here : ¬ erasing <+: c :: text := by
      rintro ⟨after, cut⟩
      rw [List.isPrefixOf?_eq_some_iff_append_eq.2 cut] at plain
      cases plain
    -- The sequence would have to hold the newline after the text.
    obtain within | ⟨after, cut⟩ :=
      List.prefix_or_prefix_of_prefix reaching (List.prefix_append (c :: text) ('\n' :: rest))
    · exact here within
    · rw [← cut, ← List.cons_append, List.prefix_append_right_inj] at reaching
      cases after with
      | nil =>
        rw [List.append_nil] at cut
        exact here (cut ▸ List.prefix_rfl)
      | cons d after =>
        obtain ⟨rfl, -⟩ := List.cons_prefix_cons.1 reaching
        have member : '\n' ∈ erasing := by rw [← cut]; simp
        exact absurd member (by decide)

theorem feed_append_newline (screen text : List Char) :
    feed screen (text ++ ['\n']) = feed screen text ++ ['\n'] := by
  rw [feed_line, feed_nil]

theorem closed_append_newline (text : List Char) : Closed (text ++ ['\n']) := by
  intro screen rest
  rw [feed_append_newline, List.append_assoc, List.singleton_append, feed_line]

end Screen

/-! ## What a console writes -/

namespace Console

open Screen

theorem clearLine_eq : clearLine.toList = erasing := by decide

/-- A sequence for a colour is not one that erases. -/
theorem plain_code {third : Char} {rest : List Char} (other : third ≠ '2') (whole : '\x1b' ∉ rest)
    (visible : third ≠ '\x1b') : Plain ('\x1b' :: '[' :: third :: rest) := by
  intro screen more
  have shown : Plain ('[' :: third :: rest) := plain_of_not_mem (by simp [whole, visible.symm])
  rw [List.cons_append, feed_cons, shown, List.append_assoc]
  · rfl
  · rintro ⟨after, cut⟩
    simp only [erasing, List.cons_append, List.cons_eq_cons] at cut
    exact other cut.2.2.1.symm

/-- A number in a colour is shown as it is, and on the current line. -/
theorem plain_paint (color : Color) (enabled : Bool) (n : Nat) :
    Plain (color.paint enabled (toString n)).toList ∧
      '\n' ∉ (color.paint enabled (toString n)).toList := by
  have digits : ∀ c ∈ (toString n).toList, c.isDigit := by
    intro c member
    rw [Nat.toString_eq_repr, Nat.toList_repr] at member
    exact Nat.isDigit_of_mem_toDigits (by decide) (by decide) member
  have number : Plain (toString n).toList :=
    plain_of_not_mem fun escape => absurd (digits _ escape) (by decide)
  have line : '\n' ∉ (toString n).toList := fun newline => absurd (digits _ newline) (by decide)
  cases enabled with
  | false => exact ⟨number, line⟩
  | true =>
    have code : Plain color.code.toList ∧ '\n' ∉ color.code.toList := by
      cases color <;> exact ⟨plain_code (by decide) (by decide) (by decide), by decide⟩
    have reset : Plain Color.reset.toList ∧ '\n' ∉ Color.reset.toList :=
      ⟨plain_code (by decide) (by decide) (by decide), by decide⟩
    simp only [Color.paint, if_true, String.toList_append, List.mem_append, not_or]
    exact ⟨(code.1.append number).append reset.1, ⟨code.2, line⟩, reset.2⟩

theorem plain_progress (tally : Tally) (color : Bool) :
    Plain (progress tally color).toList ∧ '\n' ∉ (progress tally color).toList := by
  obtain ⟨passed, passedLine⟩ := plain_paint .green color tally.passed
  obtain ⟨failed, failedLine⟩ := plain_paint .red color tally.failed
  obtain ⟨skipped, skippedLine⟩ := plain_paint .yellow color tally.skipped
  have label (text : String) (whole : '\x1b' ∉ text.toList) : Plain text.toList :=
    plain_of_not_mem whole
  simp only [progress, String.toList_append, List.mem_append, not_or]
  refine ⟨?_, ⟨⟨⟨⟨by decide, passedLine⟩, by decide⟩, failedLine⟩, by decide⟩, skippedLine⟩
  refine .append (.append (.append (.append (.append ?_ passed) ?_) failed) ?_) skipped
  · exact label "Passed: " (by decide)
  · exact label " Failed: " (by decide)
  · exact label " Skipped: " (by decide)

/-- What a console that is live, and one that is not, write for the same event: nothing, a progress
    line on the live one alone, or the same lines, before which the live one erases its line. -/
theorem display_cases (console : Console) (event : Event) :
    let live := { console with live := true }
    let still := { console with live := false }
    (live.display event = "" ∧ still.display event = "") ∨
    (∃ path tally, event = .started path tally ∧ still.display event = "" ∧
      live.display event = clearLine ++ progress tally console.color) ∨
    ((∀ path tally, event ≠ .started path tally) ∧ ∃ text, still.display event = text ++ "\n" ∧
      live.display event = clearLine ++ (text ++ "\n")) := by
  obtain ⟨verbose, color, -, broken⟩ := console
  cases broken with
  | true => exact .inl ⟨rfl, rfl⟩
  | false =>
    cases event with
    | started path tally => exact .inr (.inl ⟨path, tally, rfl, rfl, rfl⟩)
    | launching argument =>
      cases verbose with
      | false => exact .inl ⟨rfl, rfl⟩
      | true =>
        refine .inr (.inr ⟨by simp, argument, ?_, ?_⟩) <;>
          simp [display, write, clear, String.append_assoc]
    | executed launch => exact .inl ⟨rfl, rfl⟩
    | completed path verdict =>
      cases verdict with
      | passed => exact .inl ⟨rfl, rfl⟩
      | skipped reason => exact .inl ⟨rfl, rfl⟩
      | failed found =>
        refine .inr (.inr ⟨by simp, failure path found color ++ "\n", ?_, ?_⟩) <;>
          simp [display, write, clear, String.append_assoc]
    | finished tally =>
      refine .inr (.inr ⟨by simp, summary tally color, ?_, ?_⟩) <;>
        simp [display, write, clear, String.append_assoc]

theorem closed_display (console : Console) (event : Event) :
    Closed (console.display event).toList := by
  have either : console = { console with live := true } ∨
      console = { console with live := false } := by
    cases live : console.live <;> simp [← live]
  have line (text : String) : Closed (text ++ "\n").toList := by
    rw [String.toList_append]
    exact closed_append_newline text.toList
  have erased : Closed clearLine.toList := clearLine_eq ▸ closed_erasing
  obtain ⟨live, still⟩ | ⟨_, tally, -, still, live⟩ | ⟨-, text, still, live⟩ :=
    display_cases console event
  all_goals rcases either with same | same
  · rw [same, live]; exact closed_nil
  · rw [same, still]; exact closed_nil
  · rw [same, live, String.toList_append]
    exact erased.append (plain_progress tally console.color).1.closed
  · rw [same, still]; exact closed_nil
  · rw [same, live, String.toList_append]; exact erased.append (line text)
  · rw [same, still]; exact line text

theorem closed_transcript (console : Console) (events : List Event) :
    Closed (console.transcript events).toList := by
  induction events with
  | nil => exact closed_nil
  | cons event events ih =>
    rw [transcript, List.map_cons, String.join_cons, String.toList_append]
    exact (closed_display console event).append ih

/-- What an empty screen shows after everything that a console writes for some events. -/
def screen (console : Console) (events : List Event) : List Char :=
  feed [] (console.transcript events).toList

theorem screen_nil (console : Console) : console.screen [] = [] := feed_nil []

theorem screen_append_singleton (console : Console) (earlier : List Event) (event : Event) :
    console.screen (earlier ++ [event]) =
      feed (console.screen earlier) (console.display event).toList := by
  have single : console.transcript [event] = console.display event := by simp [transcript]
  rw [screen, transcript_append, single, String.toList_append, closed_transcript, screen]

/-! ## What is left on the screen -/

/-- The last of some events for which a console writes something. -/
def lastWritten (console : Console) (events : List Event) : Option Event :=
  (events.filter fun event => console.display event ≠ "").getLast?

/-- The progress line, if it is what a console has written last. -/
def progressLeft (console : Console) (events : List Event) : String :=
  match console.lastWritten events with
  | some (.started _ tally) => progress tally console.color
  | _ => ""

theorem progressLeft_whole (console : Console) (events : List Event) :
    '\n' ∉ (console.progressLeft events).toList := by
  rw [progressLeft]
  split
  · next tally _ => exact (plain_progress tally console.color).2
  · decide

theorem progressLeft_of_silent {console : Console} {earlier : List Event} {event : Event}
    (silent : console.display event = "") :
    console.progressLeft (earlier ++ [event]) = console.progressLeft earlier := by
  simp [progressLeft, lastWritten, silent]

theorem progressLeft_of_started {console : Console} {earlier : List Event} {path : String}
    {tally : Tally} (written : console.display (.started path tally) ≠ "") :
    console.progressLeft (earlier ++ [.started path tally]) = progress tally console.color := by
  simp [progressLeft, lastWritten, written]

theorem progressLeft_of_other {console : Console} {earlier : List Event} {event : Event}
    (written : console.display event ≠ "") (other : ∀ path tally, event ≠ .started path tally) :
    console.progressLeft (earlier ++ [event]) = "" := by
  cases event with
  | started path tally => exact absurd rfl (other path tally)
  | _ => simp [progressLeft, lastWritten, written]

/-- The invariant of two consoles that show the same events, one live and one not: the screen of
    the one that is not live ends with a newline, and the other one has at most the progress line
    after it. -/
theorem screen_step (console : Console) (events : List Event) :
    let live := { console with live := true }
    let still := { console with live := false }
    eraseLine (still.screen events) = still.screen events ∧
      live.screen events = still.screen events ++ (live.progressLeft events).toList := by
  intro live still
  induction events using List.reverseRecOn with
  | nil =>
    rw [screen_nil, screen_nil]
    exact ⟨rfl, rfl⟩
  | append_singleton earlier event ih =>
    obtain ⟨ended, left⟩ := ih
    rw [screen_append_singleton, screen_append_singleton]
    -- A live console erases what it has left and is then where the other one is.
    have erased (text : String) : feed (live.screen earlier) (clearLine ++ text).toList =
        feed (still.screen earlier) text.toList := by
      rw [left, String.toList_append, clearLine_eq, feed_erasing,
        eraseLine_append (live.progressLeft_whole earlier), ended]
    have written (text : String) : clearLine ++ text ≠ "" := by
      intro empty
      simpa [clearLine] using congrArg String.toList empty
    obtain ⟨silent, stillSilent⟩ | ⟨path, tally, rfl, stillSilent, shown⟩ |
      ⟨other, text, lines, shown⟩ := display_cases console event
    · rw [silent, stillSilent, progressLeft_of_silent silent, String.toList_empty, feed_nil,
        feed_nil]
      exact ⟨ended, left⟩
    · rw [shown, stillSilent, erased, progressLeft_of_started (shown ▸ written _),
        String.toList_empty, feed_nil, (plain_progress tally console.color).1.feed_eq]
      exact ⟨ended, rfl⟩
    · rw [shown, lines, erased, progressLeft_of_other (shown ▸ written _) other,
        String.toList_append, String.toList_empty, List.append_nil]
      refine ⟨?_, rfl⟩
      have newline : "\n".toList = ['\n'] := rfl
      rw [newline, feed_append_newline, eraseLine_append_newline]

theorem progressLeft_finished (console : Console) (earlier : List Event) (tally : Tally) :
    console.progressLeft (earlier ++ [.finished tally]) = "" := by
  cases broken : console.broken with
  | true => simp [progressLeft, lastWritten, display, broken]
  | false =>
    refine progressLeft_of_other ?_ (by simp)
    intro silent
    simpa [display, broken, write] using congrArg (·.toList.getLast?) silent

/-- A live console leaves on a screen what one that is not live leaves there, and after it the
    progress line if that is what it has written last. After a session that ends by itself, both
    leave the same. -/
theorem live_screen_eq (console : Console) :
    let live := { console with live := true }
    let still := { console with live := false }
    (∀ events, live.screen events = still.screen events ++ (live.progressLeft events).toList) ∧
    ∀ {σ : Type} (settings : Settings) (disk : σ → Disk) (executor : Executor σ) (host : σ)
      (tally : Tally), (Session.run settings disk executor host).result = .ok tally →
        live.screen (Session.run settings disk executor host).events =
          still.screen (Session.run settings disk executor host).events := by
  refine ⟨fun events => (screen_step console events).2, ?_⟩
  intro σ settings disk executor host tally ended
  obtain ⟨-, earlier, -, events, -⟩ := Session.survey_of_ok ended
  rw [events, (screen_step console _).2, progressLeft_finished, String.toList_empty,
    List.append_nil]

/-- A console that shows arguments and colours, and a session over files of every kind. -/
theorem live_screen_eq_mixed :
    let console : Console := { verbose := true, color := true }
    let report := Session.run {} (fun _ => Session.mixed) Session.printsOne ()
    report.result = .ok Session.mixedTally ∧
      { console with live := true }.screen report.events =
        { console with live := false }.screen report.events := by
  intro console report
  have ended : report.result = .ok Session.mixedTally :=
    congrArg Session.Report.result Session.run_mixed
  exact ⟨ended, (live_screen_eq console).2 _ _ _ _ _ ended⟩

end Console
end Conformance
