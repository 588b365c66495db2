import Conformance.Proofs.BreakingOff
import Conformance.Proofs.Tallies

/-!
# What the counters tell

`Agrees` says of counters that they are those of some files, of which the events before tell. Main
statement: all counters that a session shows agree with the events before them, and from one event
to a later one none of them goes down.
-/

namespace Conformance

variable {σ : Type}

/-! ## What events tell -/

namespace Event

/-- The path of a file that is started. -/
def start? : Event → Option String
  | started path _ => some path
  | launching _ | executed _ | completed _ _ | finished _ => none

/-- The counters that are shown. -/
def tally? : Event → Option Tally
  | started _ tally | finished tally => some tally
  | launching _ | executed _ | completed _ _ => none

/-- The launch that is carried out. -/
def launch? : Event → Option Launch
  | executed launch => some launch
  | started _ _ | launching _ | completed _ _ | finished _ => none

/-- How a file came out. -/
def verdict? : Event → Option Verdict
  | completed _ verdict => some verdict
  | started _ _ | launching _ | executed _ | finished _ => none

end Event

/-- The expectations of a file that is to be run. -/
def Directive.asked? : Directive → Option Expectations
  | run e => some e
  | skip _ | nontest => none

namespace Encounter

/-- What is to be done with a file, if it can be read as text. -/
def directive? (disk : σ → Disk) (m : Encounter σ) : Option Directive :=
  ((disk m.host).readText m.path).toOption.map Directive.parse

/-- The expectations of a file that is to be run. -/
def asked? (disk : σ → Disk) (m : Encounter σ) : Option Expectations :=
  (m.directive? disk).bind Directive.asked?

/-- The number of marks that a file has if it is to be run. -/
def marks (disk : σ → Disk) (m : Encounter σ) : Nat := ((m.asked? disk).map (·.count)).getD 0

end Encounter

namespace Session

/-- The paths of the files that were started. -/
def starts (events : List Event) : List String := events.filterMap Event.start?

/-- The launches that were carried out. -/
def launches (events : List Event) : List Launch := events.filterMap Event.launch?

/-- How files came out, in order. -/
def verdicts (events : List Event) : List Verdict := events.filterMap Event.verdict?

/-- These are the counters after some selected files, of which these events tell. -/
structure Agrees (settings : Settings) (disk : σ → Disk) (files : List (Encounter σ))
    (events : List Event) (tally : Tally) : Prop where
  starts : starts events = files.map (·.path.shown)
  launches : launches events = files.filterMap fun m => (m.asked? disk).map (m.launch settings)
  /-- Files that passed, failed and were skipped are counted, the latter by reason as well. -/
  counts : tally.Counts (verdicts events)
  /-- The marks of a file count if it was launched, whatever came of it. -/
  expectations : tally.expectations = ((files.filterMap (·.asked? disk)).map (·.count)).sum
  /-- All files that were started are counted, except those that are no tests. -/
  judged : (Session.starts events).length =
    tally.passed + tally.failed + tally.skipped +
      files.countP (·.directive? disk = some .nontest)

variable {settings : Settings} {disk : σ → Disk} {executor : Executor σ} {m : Encounter σ}
  {files : List (Encounter σ)} {events more : List Event} {tally next last : Tally}

/-! ## One file -/

theorem IsStdin.unique {source : String} {stdin other : Option String} (fed : IsStdin source stdin)
    (fedToo : IsStdin source other) : stdin = other := by
  obtain ⟨lines, cut, nothing, something⟩ := fed
  obtain ⟨_, cutToo, nothingToo, somethingToo⟩ := fedToo
  obtain rfl := (Line.cut_iff.1 cutToo).trans (Line.cut_iff.1 cut).symm
  cases stdin with
  | none => exact (nothingToo.2 (nothing.1 rfl)).symm
  | some text =>
    cases other with
    | none => cases nothing.2 (nothingToo.1 rfl)
    | some other => rw [something text rfl, somethingToo other rfl]

theorem IsArgument.unique {path : Path} {argument other : String}
    (given : IsArgument settings path argument) (givenToo : IsArgument settings path other) :
    argument = other := by
  rw [IsArgument] at given givenToo
  cases kind : settings.kind with
  | api =>
    rw [kind] at given givenToo
    have same := Option.some.inj (given.2.2.symm.trans givenToo.2.2)
    simpa [← String.toList_inj] using same
  | _ =>
    rw [kind] at given givenToo
    exact given.trans givenToo.symm

/-- A file asks for one launch only. -/
theorem Asks.unique {path : Path} {source : String} {launch other : Launch}
    (asks : Asks settings path source launch) (asksToo : Asks settings path source other) :
    launch = other := by
  have argument := asks.argument.unique asksToo.argument
  have stdin := asks.stdin.unique asksToo.stdin
  have binary := asks.binary.trans asksToo.binary.symm
  have timeout := asks.timeout.trans asksToo.timeout.symm
  cases launch
  cases other
  simp_all

/-- What the events of a file tell: its start, its launch if it asks for one, and perhaps a verdict,
    which is what the counters are changed by. -/
structure Recounted (settings : Settings) (disk : σ → Disk) (m : Encounter σ) (tally : Tally)
    (verdict : Option Verdict) (more : List Event) (last : Tally) : Prop where
  head : ∃ rest, more = .started m.path.shown tally :: rest ∧
    ∀ event ∈ rest, event.start? = none ∧ event.tally? = none
  launches : launches more = ((m.asked? disk).map (m.launch settings)).toList
  verdicts : verdicts more = verdict.toList
  last : last = tally.note (m.marks disk) verdict
  nontest : verdict = none ↔ m.directive? disk = some .nontest

theorem directive?_of_parse {source : String} {found : Directive}
    (read : (disk m.host).readText m.path = .ok source) (parsed : Directive.parse source = found) :
    m.directive? disk = some found := by
  rw [Encounter.directive?, read, ← parsed]
  rfl

theorem directive?_of_unreadable {cause : Cause}
    (read : (disk m.host).readText m.path = .error cause) : m.directive? disk = none := by
  rw [Encounter.directive?, read]
  rfl

theorem recounted_of_idle (m : Encounter σ) (tally : Tally) {found : Option Directive}
    (directive : m.directive? disk = found) (idle : found.bind Directive.asked? = none)
    {verdict : Option Verdict} (nontest : verdict = none ↔ found = some .nontest) :
    Recounted settings disk m tally verdict
      (.started m.path.shown tally :: verdict.toList.map (.completed m.path.shown))
      (tally.note 0 verdict) where
  head := by
    refine ⟨_, rfl, fun event member => ?_⟩
    obtain ⟨found, -, rfl⟩ := List.mem_map.1 member
    exact ⟨rfl, rfl⟩
  launches := by
    rw [Encounter.asked?, directive, idle]
    cases verdict <;> rfl
  verdicts := by cases verdict <;> rfl
  last := by
    rw [Encounter.marks, Encounter.asked?, directive, idle, Option.map_none, Option.getD_none]
  nontest := directive ▸ nontest

theorem recounted_of_run (m : Encounter σ) (tally : Tally) {e : Expectations}
    (asked : m.directive? disk = some (.run e)) (verdict : Verdict) :
    Recounted settings disk m tally (some verdict)
      [.started m.path.shown tally, .launching (m.launch settings e).argument,
        .executed (m.launch settings e), .completed m.path.shown verdict]
      (tally.note e.count (some verdict)) where
  head := ⟨_, rfl, by simp [Event.start?, Event.tally?]⟩
  launches := by
    rw [Encounter.asked?, asked]
    rfl
  verdicts := rfl
  last := by
    rw [Encounter.marks, Encounter.asked?, asked]
    rfl
  nontest := by simp [asked]

theorem Reported.recounted (selected : settings.selects m.path = true)
    (reported : Reported settings disk executor m tally more last) :
    ∃ verdict, Recounted settings disk m tally verdict more last := by
  cases reported with
  | unreadable read =>
    exact ⟨some _, recounted_of_idle m tally (directive?_of_unreadable read) rfl (by simp)⟩
  | nontest read parsed =>
    exact ⟨none, recounted_of_idle m tally (directive?_of_parse read parsed) rfl (by simp)⟩
  | skipped read parsed =>
    exact ⟨some _, recounted_of_idle m tally (directive?_of_parse read parsed) rfl (by simp)⟩
  | passed read parsed asks =>
    obtain rfl := asks.unique (asks_launch selected parsed)
    exact ⟨_, recounted_of_run m tally (directive?_of_parse read parsed) .passed⟩
  | failed read parsed asks =>
    obtain rfl := asks.unique (asks_launch selected parsed)
    exact ⟨_, recounted_of_run m tally (directive?_of_parse read parsed) (.failed _)⟩

/-! ## Files in a row -/

theorem starts_append (events more : List Event) :
    starts (events ++ more) = starts events ++ starts more := List.filterMap_append

theorem launches_append (events more : List Event) :
    launches (events ++ more) = launches events ++ launches more := List.filterMap_append

theorem verdicts_append (events more : List Event) :
    verdicts (events ++ more) = verdicts events ++ verdicts more := List.filterMap_append

theorem Recounted.starts {verdict : Option Verdict}
    (told : Recounted settings disk m tally verdict more last) :
    starts more = [m.path.shown] := by
  obtain ⟨rest, rfl, silent⟩ := told.head
  have none : rest.filterMap Event.start? = [] :=
    List.filterMap_eq_nil_iff.2 fun event member => (silent event member).1
  rw [Session.starts, List.filterMap_cons, none]
  rfl

theorem Agrees.start : Agrees settings disk [] [] {} where
  starts := rfl
  launches := rfl
  counts := .start
  expectations := rfl
  judged := rfl

/-- Counters agree after one more file if they did before. -/
theorem Agrees.snoc (agrees : Agrees settings disk files events tally) {verdict : Option Verdict}
    (told : Recounted settings disk m tally verdict more last) :
    Agrees settings disk (files ++ [m]) (events ++ more) last where
  starts := by
    rw [starts_append, agrees.starts, told.starts, List.map_append]
    rfl
  launches := by
    rw [launches_append, agrees.launches, told.launches, List.filterMap_append]
    cases asked : m.asked? disk <;> simp [asked]
  counts := by
    rw [verdicts_append, told.verdicts, told.last]
    exact agrees.counts.note _ _
  expectations := by
    rw [told.last, Tally.expectations_note, agrees.expectations, Encounter.marks,
      List.filterMap_append]
    cases asked : m.asked? disk <;> simp [asked]
  judged := by
    have counted := tally.judged_note (m.marks disk) verdict
    rw [Tally.judged, Tally.judged] at counted
    rw [told.last, starts_append, told.starts, List.length_append, agrees.judged, counted,
      List.countP_append, List.countP_singleton]
    simp only [← told.nontest, List.length_singleton, decide_eq_true_eq]
    split_ifs <;> omega

theorem Trace.agrees (trace : Trace settings disk executor tally files events last)
    (selected : ∀ m ∈ files, m.Selected settings) {before : List (Encounter σ)}
    {earlier : List Event} (agrees : Agrees settings disk before earlier tally) :
    Agrees settings disk (before ++ files) (earlier ++ events) last := by
  induction trace generalizing before earlier with
  | nil => simpa using agrees
  | @cons m rest first later _ _ _ here _ ih =>
    obtain ⟨chosen, selected⟩ := List.forall_mem_cons.1 selected
    obtain ⟨verdict, told⟩ := here.recounted (Encounter.selected_iff.1 chosen)
    have after := ih selected (agrees.snoc told)
    rwa [List.append_assoc, List.append_assoc] at after

/-! ## Counters that are shown -/

theorem Trace.atMost (trace : Trace settings disk executor tally files events last)
    (selected : ∀ m ∈ files, m.Selected settings) : tally.AtMost last := by
  induction trace with
  | nil => exact .refl _
  | cons here _ ih =>
    obtain ⟨chosen, selected⟩ := List.forall_mem_cons.1 selected
    obtain ⟨verdict, told⟩ := here.recounted (Encounter.selected_iff.1 chosen)
    rw [told.last] at ih
    exact (Tally.AtMost.note _ _ verdict).trans (ih selected)

/-- Where a list of events starts that show no counters, a later event comes after all of them. -/
theorem cut_after {silent later before after : List Event} {event : Event}
    (quiet : ∀ event ∈ silent, event.tally? = none) (shown : event.tally? = some tally)
    (cut : silent ++ later = before ++ event :: after) :
    ∃ between, before = silent ++ between ∧ later = between ++ event :: after := by
  obtain ⟨between, rfl, rfl⟩ | ⟨rest, rfl, ends⟩ := List.append_eq_append_iff.1 cut
  · exact ⟨between, rfl, rfl⟩
  · cases rest with
    | nil => exact ⟨[], by simp, ends.symm⟩
    | cons other rest =>
      obtain ⟨rfl, -⟩ := List.cons.inj ends
      have none := quiet event (by simp)
      rw [shown] at none
      cases none

/-- Where counters are shown, a trace can be cut in two. -/
theorem Trace.split (trace : Trace settings disk executor tally files events last)
    (selected : ∀ m ∈ files, m.Selected settings) {before after : List Event} {event : Event}
    (cut : events = before ++ event :: after) (shown : event.tally? = some next) :
    Trace settings disk executor tally (files.take (starts before).length) before next ∧
      Trace settings disk executor next (files.drop (starts before).length) (event :: after)
        last := by
  induction trace generalizing before with
  | nil => simp at cut
  | @cons m rest first later tally _ last here trace ih =>
    obtain ⟨chosen, selected⟩ := List.forall_mem_cons.1 selected
    obtain ⟨verdict, told⟩ := here.recounted (Encounter.selected_iff.1 chosen)
    have started := told.starts
    obtain ⟨silent, rfl, quiet⟩ := told.head
    cases before with
    | nil =>
      obtain ⟨rfl, rfl⟩ := List.cons.inj cut
      obtain rfl := Option.some.inj shown
      exact ⟨.nil, .cons here trace⟩
    | cons start before =>
      obtain ⟨rfl, cutToo⟩ := List.cons.inj cut
      obtain ⟨between, rfl, further⟩ :=
        cut_after (fun event member => (quiet event member).2) shown cutToo
      obtain ⟨early, late⟩ := ih selected further
      rw [← List.cons_append, starts_append, started]
      exact ⟨.cons here early, late⟩

/-- After files that are reported in full, only the first event shows counters. -/
theorem Tail.shown {between after : List Event} {event : Event} (tail : Tail tally files more)
    (cut : more = between ++ event :: after) (shown : event.tally? = some next) :
    between = [] ∧ next = tally := by
  cases between with
  | nil =>
    cases tail with
    | nothing => cases cut
    | _ =>
      obtain ⟨rfl, -⟩ := List.cons.inj cut
      exact ⟨rfl, (Option.some.inj shown).symm⟩
  | cons start between =>
    have member : event ∈ more.tail := by simp [cut]
    cases tail <;> simp at member
    obtain rfl | rfl := member
    · cases shown
    · cases shown

variable {host : σ}

theorem selected_of_mem (member : m ∈ selectedFiles settings disk executor host) :
    m.Selected settings := by
  simpa using (List.mem_filter.1 member).2

/-- The events before counters are shown are a trace of the files that were started. -/
theorem run_shown {before after : List Event} {event : Event}
    (cut : (run settings disk executor host).events = before ++ event :: after)
    (shown : event.tally? = some tally) :
    Trace settings disk executor {}
      ((selectedFiles settings disk executor host).take (starts before).length) before tally := by
  obtain ⟨files, rest, events, more, last, selected, whole, trace, tail⟩ :=
    run_tail settings disk executor host
  have chosen : ∀ m ∈ files, m.Selected settings := fun m member =>
    selected_of_mem (selected ▸ List.mem_append_left rest member)
  rw [whole] at cut
  rw [selected]
  by_cases inside : ∃ later, events = before ++ event :: later
  · obtain ⟨later, split⟩ := inside
    have early := (trace.split chosen split shown).1
    have agrees := early.agrees (fun m member => chosen m (List.mem_of_mem_take member)) .start
    have few : (starts before).length ≤ files.length := by
      have many := congrArg List.length agrees.starts
      rw [List.nil_append, List.nil_append, List.length_map, List.length_take] at many
      omega
    rwa [List.take_append_of_le_length few]
  · obtain ⟨between, rfl, split⟩ : ∃ between, before = events ++ between ∧
        more = between ++ event :: after := by
      obtain both | ⟨rest, ends, split⟩ := List.append_eq_append_iff.1 cut
      · exact both
      · cases rest with
        | nil => exact ⟨[], by simpa using ends.symm, split.symm⟩
        | cons other rest =>
          obtain ⟨rfl, -⟩ := List.cons.inj split
          exact absurd ⟨rest, ends⟩ inside
    obtain ⟨rfl, rfl⟩ := tail.shown split shown
    have many := congrArg List.length (trace.agrees chosen Agrees.start).starts
    rw [List.nil_append, List.nil_append, List.length_map] at many
    rwa [List.append_nil, many, List.take_left]

/-! ## All counters -/

/-- In every session, counters that are shown agree with the events before them: they are those of
    the selected files that were started so far. From one event to a later one none of them goes
    down. -/
theorem counters_agree (settings : Settings) (disk : σ → Disk) (executor : Executor σ) (host : σ) :
    (∀ before event after tally,
      (run settings disk executor host).events = before ++ event :: after →
        event.tally? = some tally →
          Agrees settings disk
            ((selectedFiles settings disk executor host).take (starts before).length) before
            tally) ∧
    ∀ before first between second after tally later,
      (run settings disk executor host).events = before ++ first :: between ++ second :: after →
        first.tally? = some tally → second.tally? = some later → tally.AtMost later := by
  have chosen (n : Nat) : ∀ m ∈ (selectedFiles settings disk executor host).take n,
      m.Selected settings := fun m member => selected_of_mem (List.mem_of_mem_take member)
  constructor
  · intro before event after tally cut shown
    have agrees := (run_shown cut shown).agrees (chosen _) Agrees.start
    rwa [List.nil_append, List.nil_append] at agrees
  · intro before first between second after tally later cut shown shownToo
    have late := ((run_shown cut shownToo).split (chosen _) rfl shown).2
    exact late.atMost fun m member => chosen _ m (List.mem_of_mem_drop member)

/-- Over a tree with files of every kind, the counters agree with what went before when the fifth
    file is started, and at the end. -/
theorem counters_agree_mixed :
    let files : List (Encounter Unit) := mixedPaths.dropLast.map fun path => ⟨path, ()⟩
    let whole := (run {} (fun _ => mixed) printsOne ()).events
    whole = mixedEvents ++ [.finished mixedTally] ∧
      whole[12]? = some (.started "test/e.wren" { mixedTally with failed := 2 }) ∧
      Agrees {} (fun _ => mixed) (files.take 4) (mixedEvents.take 12)
        { mixedTally with failed := 2 } ∧
      Agrees {} (fun _ => mixed) files mixedEvents mixedTally ∧
      Tally.AtMost { mixedTally with failed := 2 } mixedTally := by
  intro files whole
  obtain ⟨agree, rise⟩ := counters_agree {} (fun _ => mixed) printsOne ()
  have chosen : selectedFiles {} (fun _ => mixed) printsOne () = files := by
    rw [selectedFiles, survey_mixed {} rfl rfl]
    exact selected_mixed
  have events : whole = mixedEvents ++ [.finished mixedTally] := congrArg Report.events run_mixed
  rw [chosen] at agree
  refine ⟨events, ?_, agree (mixedEvents.take 12) _ _ _ events rfl, agree _ _ [] _ events rfl,
    rise (mixedEvents.take 12) _ (mixedEvents.drop 13) _ [] _ _ events rfl rfl⟩
  rw [events]
  rfl

end Session
end Conformance
