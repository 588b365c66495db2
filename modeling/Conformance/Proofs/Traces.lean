import Conformance.Proofs.ExitStatus
import Conformance.Proofs.FileNames
import Conformance.Proofs.Gathering
import Conformance.Proofs.VisitOrder

/-!
# What a session reports

`Reported` says what a session reports of one selected file, and `Trace` of some files in a row.
Main statement: a session reports the selected files of its survey in order, one after the other,
and then that it is finished; if a directory cannot be listed, it reports the files before that and
no more. A session whose launches leave the disk alone comes to the files that the bare walk visits.
-/

namespace Conformance

variable {σ : Type}

instance (settings : Settings) (m : Encounter σ) : Decidable (m.Selected settings) :=
  decidable_of_iff _ Encounter.selected_iff.symm

namespace Session

open Conformance.Action

/-! ## Reports -/

/-- What a file feeds to its run: nothing, or the texts of all its lines that are marked for it,
    each with a newline. -/
def IsStdin (source : String) (stdin : Option String) : Prop :=
  ∃ lines, Line.Cut source.toList lines ∧
    (stdin = none ↔ ∀ line ∈ lines, ¬ Mark.stdinMarker.toList <:+: line) ∧
    ∀ text, stdin = some text → text = String.join (lines.filterMap fun line =>
      (Documented.textAfter? Mark.stdinMarker line).map (· ++ "\n"))

/-- The launch that a file with this text asks for. -/
structure Asks (settings : Settings) (path : Path) (source : String) (launch : Launch) : Prop where
  binary : launch.binary = settings.binary
  argument : IsArgument settings path launch.argument
  stdin : IsStdin source launch.stdin
  timeout : launch.timeout = settings.timeout

/-- What a session reports of a selected file, from these counters to other ones. -/
inductive Reported (settings : Settings) (disk : σ → Disk) (executor : Executor σ) (m : Encounter σ)
    (tally : Tally) : List Event → Tally → Prop
  | unreadable {cause : Cause} (read : (disk m.host).readText m.path = .error cause) :
      Reported settings disk executor m tally
        [.started m.path.shown tally,
          .completed m.path.shown (.failed [.unreadable cause.message])]
        (tally.fail 1)
  | nontest {source : String} (read : (disk m.host).readText m.path = .ok source)
      (parsed : Directive.parse source = .nontest) :
      Reported settings disk executor m tally [.started m.path.shown tally] tally
  | skipped {source reason : String} (read : (disk m.host).readText m.path = .ok source)
      (parsed : Directive.parse source = .skip reason) :
      Reported settings disk executor m tally
        [.started m.path.shown tally, .completed m.path.shown (.skipped reason)]
        (tally.skip reason)
  | passed {source : String} {e : Expectations} {launch : Launch} {outcome : Outcome}
      (read : (disk m.host).readText m.path = .ok source)
      (parsed : Directive.parse source = .run e) (asks : Asks settings m.path source launch)
      (ran : (executor launch m.host).1 = .ok outcome)
      (judged : e.judge outcome settings.kind = []) :
      Reported settings disk executor m tally
        [.started m.path.shown tally, .launching launch.argument, .executed launch,
          .completed m.path.shown .passed]
        ((tally.expect e.count).pass 1)
  | failed {source : String} {e : Expectations} {launch : Launch} {outcome : Outcome}
      (read : (disk m.host).readText m.path = .ok source)
      (parsed : Directive.parse source = .run e) (asks : Asks settings m.path source launch)
      (ran : (executor launch m.host).1 = .ok outcome)
      (judged : e.judge outcome settings.kind ≠ []) :
      Reported settings disk executor m tally
        [.started m.path.shown tally, .launching launch.argument, .executed launch,
          .completed m.path.shown (.failed (e.judge outcome settings.kind))]
        ((tally.expect e.count).fail 1)

/-- What a session reports of some files, one after the other. -/
inductive Trace (settings : Settings) (disk : σ → Disk) (executor : Executor σ) :
    Tally → List (Encounter σ) → List Event → Tally → Prop
  | nil {tally : Tally} : Trace settings disk executor tally [] [] tally
  | cons {m : Encounter σ} {rest : List (Encounter σ)} {first later : List Event}
      {tally next last : Tally} (here : Reported settings disk executor m tally first next)
      (after : Trace settings disk executor next rest later last) :
      Trace settings disk executor tally (m :: rest) (first ++ later) last

variable {settings : Settings} {disk : σ → Disk} {executor : Executor σ} {m : Encounter σ}
  {files : List (Encounter σ)} {events more : List Event} {tally next last : Tally}

/-- One more file at the end. -/
theorem Trace.snoc (trace : Trace settings disk executor tally files events next)
    (reported : Reported settings disk executor m next more last) :
    Trace settings disk executor tally (files ++ [m]) (events ++ more) last := by
  induction trace with
  | nil => simpa using Trace.cons reported .nil
  | cons here _ ih =>
    rw [List.append_assoc]
    exact .cons here (ih reported)

/-! ## One file -/

theorem isStdin_stdin {source : String} {e : Expectations}
    (parsed : Directive.parse source = .run e) : IsStdin source e.stdin := by
  have asked := Directive.eq_documented_of_parse parsed
  refine ⟨_, Line.cut_physical _, ?_, fun text fed => ?_⟩
  · have unmarked (line : List Char) : Documented.textAfter? Mark.stdinMarker line = none ↔
        ¬ Mark.stdinMarker.toList <:+: line := by
      rw [Documented.textAfter?, Option.map_eq_none_iff, List.head?_eq_none_iff,
        ← Occurrence.textsAfter_ne_nil_iff, not_not]
    have lines : e.stdin = none ↔ e.stdinLines = [] := by
      rw [Expectations.stdin]
      split_ifs with empty <;> simp [empty]
    rw [lines, asked, Expectations.documented, Expectations.documentedFrom,
      List.filterMap_eq_nil_iff]
    simp only [Option.map_eq_none_iff, unmarked]
  · rw [Expectations.stdin] at fed
    split_ifs at fed
    rw [← Option.some.inj fed, asked]
    rfl

theorem asks_launch {source : String} {e : Expectations} (selected : settings.selects m.path = true)
    (parsed : Directive.parse source = .run e) :
    Asks settings m.path source (m.launch settings e) where
  binary := rfl
  argument := isArgument_argument (Bool.and_eq_true_iff.1 selected).1
  stdin := isStdin_stdin parsed
  timeout := rfl

theorem runTest_completes (m : Encounter σ) {e : Expectations} {outcome : Outcome}
    (ran : (executor (m.launch settings e) m.host).1 = .ok outcome) (earlier : List Event)
    (tally : Tally) :
    let verdict := Verdict.ofDiscrepancies (e.judge outcome settings.kind)
    runTest settings executor m.path e ⟨earlier, tally, m.host⟩ =
      (.ok (), ⟨earlier ++ [.launching (m.launch settings e).argument,
          .executed (m.launch settings e), .completed m.path.shown verdict],
        if verdict = .passed then (tally.expect e.count).pass 1 else (tally.expect e.count).fail 1,
        (executor (m.launch settings e) m.host).2⟩) := by
  intro verdict
  rw [runTest_apply]
  dsimp only [Encounter.launch] at ran ⊢
  generalize executor _ m.host = ended at ran ⊢
  obtain ⟨answer, host⟩ := ended
  obtain rfl : answer = .ok outcome := ran
  simp [verdict]

/-- A file that is run is reported as a test that passed or failed. -/
theorem runTest_reports (m : Encounter σ) {source : String} {e : Expectations} {outcome : Outcome}
    (selected : settings.selects m.path = true)
    (read : (disk m.host).readText m.path = .ok source)
    (parsed : Directive.parse source = .run e)
    (ran : (executor (m.launch settings e) m.host).1 = .ok outcome)
    (earlier : List Event) (tally : Tally) :
    ∃ more last, Reported settings disk executor m tally more last ∧
      runTest settings executor m.path e
          ⟨earlier ++ [.started m.path.shown tally], tally, m.host⟩ =
        (.ok (), ⟨earlier ++ more, last, (executor (m.launch settings e) m.host).2⟩) := by
  have asks := asks_launch selected parsed
  rw [runTest_completes m ran, List.append_assoc]
  cases judged : e.judge outcome settings.kind with
  | nil => exact ⟨_, _, .passed read parsed asks ran judged, rfl⟩
  | cons discrepancy rest =>
    refine ⟨_, _, .failed read parsed asks ran (by simp [judged]), ?_⟩
    rw [judged]
    rfl

theorem runTest_halts (m : Encounter σ) {e : Expectations} {halt : Halt}
    (ran : (executor (m.launch settings e) m.host).1 = .error halt) (earlier : List Event)
    (tally : Tally) :
    runTest settings executor m.path e ⟨earlier, tally, m.host⟩ =
      (.error halt, ⟨earlier ++ [.launching (m.launch settings e).argument,
        .executed (m.launch settings e)], tally.expect e.count,
        (executor (m.launch settings e) m.host).2⟩) := by
  rw [runTest_apply]
  dsimp only [Encounter.launch] at ran ⊢
  generalize executor _ m.host = ended at ran ⊢
  obtain ⟨answer, host⟩ := ended
  obtain rfl : answer = .error halt := ran
  simp

/-- What a session does with a file, and how it ends: it passes over a file that is not selected,
    and reports a selected one, unless the launch halts. -/
inductive Handled (settings : Settings) (disk : σ → Disk) (executor : Executor σ) (m : Encounter σ)
    (state after : State σ) : Except Halt Unit → Prop
  | passedOver (unselected : ¬ settings.selects m.path = true) (same : after = state) :
      Handled settings disk executor m state after (.ok ())
  | reported {more : List Event} (selected : settings.selects m.path = true)
      (reported : Reported settings disk executor m state.tally more after.tally)
      (events : after.events = state.events ++ more) :
      Handled settings disk executor m state after (.ok ())
  | halted {launch : Launch} {halt : Halt} (selected : settings.selects m.path = true)
      (asked : m.launch? settings disk = some launch)
      (ran : (executor launch m.host).1 = .error halt)
      (events : after.events = state.events ++ [.started m.path.shown state.tally,
        .launching launch.argument, .executed launch]) :
      Handled settings disk executor m state after (.error halt)

theorem runTest_handles (m : Encounter σ) {source : String} {e : Expectations}
    (selected : settings.selects m.path = true)
    (read : (disk m.host).readText m.path = .ok source)
    (parsed : Directive.parse source = .run e) (earlier : List Event) (tally : Tally) :
    ∃ ended after, runTest settings executor m.path e
          ⟨earlier ++ [.started m.path.shown tally], tally, m.host⟩ = (ended, after) ∧
      Survey.carryOut executor m.host (some (m.launch settings e)) = (ended, after.host) ∧
      Handled settings disk executor m ⟨earlier, tally, m.host⟩ after ended := by
  rw [Survey.carryOut]
  cases ran : (executor (m.launch settings e) m.host).1 with
  | ok outcome =>
    obtain ⟨more, last, reported, does⟩ := runTest_reports m selected read parsed ran earlier tally
    exact ⟨_, _, does, rfl, .reported selected reported rfl⟩
  | error halt =>
    have asked := Encounter.launch?_of_parse m selected read
    rw [parsed] at asked
    refine ⟨_, _, runTest_halts m ran _ tally, rfl, ?_⟩
    exact .halted selected asked ran (List.append_assoc _ _ _)

/-- A session handles a file as its survey comes to it. -/
theorem visitFile_handles (path : Path) {state : State σ} {survey : Survey σ}
    (same : state.host = survey.host) :
    ∃ ended after, visitFile settings disk executor path state = (ended, after) ∧
      Survey.meet settings disk executor path survey = (ended, survey.record path after.host) ∧
      Handled settings disk executor (survey.here path) state after ended := by
  obtain ⟨events, tally, host⟩ := state
  obtain rfl : host = survey.host := same
  rw [visitFile_apply, Survey.meet]
  by_cases selected : settings.selects path = true
  · rw [if_pos selected]
    cases read : (disk survey.host).readText path with
    | error cause =>
      rw [Encounter.launch?_of_unreadable (survey.here path) read]
      exact ⟨_, _, rfl, rfl, .reported selected (.unreadable read) (List.append_assoc _ _ _)⟩
    | ok source =>
      rw [Encounter.launch?_of_parse (survey.here path) selected read]
      dsimp only
      cases parsed : Directive.parse source with
      | nontest => exact ⟨_, _, rfl, rfl, .reported selected (.nontest read parsed) rfl⟩
      | skip reason =>
        exact ⟨_, _, rfl, rfl, .reported selected (.skipped read parsed) (List.append_assoc _ _ _)⟩
      | run e =>
        obtain ⟨ended, after, does, carried, handled⟩ :=
          runTest_handles (survey.here path) selected read parsed events tally
        dsimp only [Survey.here] at does carried ⊢
        rw [does, carried]
        exact ⟨_, _, rfl, rfl, handled⟩
  · rw [if_neg selected, Encounter.launch?_of_not_selected (survey.here path) selected]
    exact ⟨_, _, rfl, rfl, .passedOver selected rfl⟩

/-- The session is where the survey is, and has reported the selected files of the survey. -/
structure Follows (settings : Settings) (disk : σ → Disk) (executor : Executor σ)
    (state : State σ) (survey : Survey σ) : Prop where
  host : state.host = survey.host
  trace : Trace settings disk executor {} (survey.met.filter (·.Selected settings)) state.events
    state.tally

namespace Follows

variable {state after : State σ} {survey : Survey σ} {path : Path} {host : σ}

theorem selected (follows : Follows settings disk executor state survey)
    (selected : settings.selects path = true) (moved : after.host = host)
    (reported : Reported settings disk executor (survey.here path) state.tally more after.tally)
    (events : after.events = state.events ++ more) :
    Follows settings disk executor after (survey.record path host) where
  host := moved
  trace := by
    have chosen : (survey.here path).Selected settings := Encounter.selected_iff.2 selected
    rw [Survey.record, List.filter_append, List.filter_singleton, decide_eq_true chosen, cond_true,
      events]
    exact follows.trace.snoc reported

theorem unselected (follows : Follows settings disk executor state survey)
    (unselected : ¬ settings.selects path = true) :
    Follows settings disk executor state (survey.record path survey.host) where
  host := follows.host
  trace := by
    have chosen : (survey.here path).Selected settings ↔ settings.selects path = true :=
      Encounter.selected_iff
    have left := mt chosen.1 unselected
    rw [Survey.record, List.filter_append, List.filter_singleton, decide_eq_false left, cond_false,
      List.append_nil]
    exact follows.trace

end Follows

/-- How a session ends before the end of its walk: with a directory that cannot be listed. -/
def Stops (settings : Settings) (disk : σ → Disk) (executor : Executor σ) (halt : Halt)
    (state : State σ) (survey : Survey σ) : Prop :=
  (∃ path cause, halt = .fault (.walk path cause)) ∧ Follows settings disk executor state survey

/-- A session reports a file as its survey comes to it. -/
theorem visitFile_follows
    (answers : ∀ launch host, ∃ outcome, (executor launch host).1 = .ok outcome) (path : Path) :
    Alike (Follows settings disk executor) (Stops settings disk executor)
      (visitFile settings disk executor path) (Survey.meet settings disk executor path) := by
  intro state survey follows
  obtain ⟨ended, after, does, meets, handled⟩ := visitFile_handles path follows.host
  rw [does, meets]
  cases handled with
  | passedOver unselected same =>
    rw [same, follows.host]
    exact ⟨rfl, follows.unselected unselected⟩
  | reported selected reported events =>
    exact ⟨rfl, follows.selected selected rfl reported events⟩
  | halted _ _ ran _ =>
    obtain ⟨outcome, answered⟩ := answers _ _
    cases ran.symm.trans answered

/-! ## Whole sessions -/

/-- A survey whose launches leave the disk alone comes to the files that the bare walk visits. -/
theorem visited_survey (answers : ∀ launch host, ∃ outcome, (executor launch host).1 = .ok outcome)
    (calm : ∀ launch host, disk (executor launch host).2 = disk host) (host : σ) :
    Walk.visited (disk host) settings.root settings.ignored =
      ((Survey.run settings disk executor host).1,
        (Survey.run settings disk executor host).2.met.map Encounter.path) := by
  let Along (taken : List Path) (survey : Survey σ) : Prop :=
    taken = survey.met.map Encounter.path ∧ disk survey.host = disk host
  have visits (path : Path) : Alike Along (fun _ => Along) (Walk.record path)
      (Survey.meet settings disk executor path) := by
    rintro taken survey ⟨rfl, same⟩
    rw [Survey.meet]
    cases (survey.here path).launch? settings disk with
    | none => exact ⟨rfl, by simp [Survey.record, Survey.here], same⟩
    | some launch =>
      obtain ⟨outcome, ran⟩ := answers launch survey.host
      dsimp only [Survey.carryOut]
      rw [ran]
      exact ⟨rfl, by simp [Survey.record, Survey.here], (calm launch survey.host).trans same⟩
  have disks (taken : List Path) (survey : Survey σ) (along : Along taken survey) :
      (fun _ => disk host) taken = disk survey.host := along.2.symm
  have walks := Walk.walk_alike disks (fun _ _ _ _ along => along) settings.root settings.ignored
    visits
  have start : Along [] { host } := ⟨rfl, rfl⟩
  rw [Walk.visited, Survey.run]
  obtain ⟨_, _, survey, walked, surveyed, rfl, -⟩ | ⟨_, _, survey, walked, surveyed, rfl, -⟩ :=
    walks.ends start
  · rw [walked, surveyed]
  · rw [walked, surveyed]

theorem selects_dotted (steps : Nat) :
    ({ root := Walk.dotted steps } : Settings).selects ((Walk.dotted steps).join ["z.wren"]) =
      true := by
  have named : ((Walk.dotted steps).entry "z.wren").fileName? = some "z.wren" :=
    Path.fileName?_entry (Walk.dotted_ne_empty steps) (by decide)
  have cut : Path.splitName? "z.wren" = some ("z", "wren") := by decide
  have extension : ((Walk.dotted steps).entry "z.wren").extension? = some "wren" := by
    rw [Path.extension?, named]
    dsimp only [bind, Option.bind]
    rw [cut]
    rfl
  rw [Path.join_cons, Path.join_nil, Settings.selects, Settings.isTestFile, extension]
  rfl

/-- A session whose launches all have an outcome reports the selected files that it comes to, one
    after the other. At the end of the walk it says once that it is finished, with the counters that
    it returns. If the walk stops at a directory that cannot be listed, the session returns that and
    reports no more. -/
theorem run_traces (answers : ∀ launch host, ∃ outcome, (executor launch host).1 = .ok outcome)
    (host : σ) :
    ∃ ended survey events tally, Survey.run settings disk executor host = (ended, survey) ∧
      Trace settings disk executor {} (survey.met.filter (·.Selected settings)) events tally ∧
      (ended = .ok () → (run settings disk executor host).result = .ok tally ∧
        (run settings disk executor host).events = events ++ [.finished tally]) ∧
      (∀ halt, ended = .error halt → (∃ path cause, halt = .fault (.walk path cause)) ∧
        (run settings disk executor host).result = .error halt ∧
        (run settings disk executor host).events = events) ∧
      ((∀ launch host, disk (executor launch host).2 = disk host) →
        Walk.visited (disk host) settings.root settings.ignored =
          (ended, survey.met.map Encounter.path)) := by
  have start : Follows settings disk executor { host } { host } := ⟨rfl, .nil⟩
  have walks := (Walk.walk_alike (fun _ _ follows => congrArg disk follows.host)
    (fun path cause _ _ follows => ⟨⟨path, cause, rfl⟩, follows⟩) settings.root settings.ignored
    (visitFile_follows answers)).ends start
  have bare (calm : ∀ launch host, disk (executor launch host).2 = disk host) :
      Walk.visited (disk host) settings.root settings.ignored = _ :=
    visited_survey answers calm host
  rw [run, session_apply]
  rw [Survey.run] at bare ⊢
  obtain ⟨_, state, survey, walked, surveyed, follows⟩ |
    ⟨halt, state, survey, walked, surveyed, stopped, follows⟩ := walks
  · rw [surveyed] at bare ⊢
    rw [walked]
    exact ⟨.ok (), survey, _, _, rfl, follows.trace, fun _ => ⟨rfl, rfl⟩, by simp, bare⟩
  · rw [surveyed] at bare ⊢
    rw [walked]
    refine ⟨.error halt, survey, _, _, rfl, follows.trace, by simp, ?_, bare⟩
    rintro _ ⟨⟩
    exact ⟨stopped, rfl, rfl⟩

/-- Of the tree with files of every kind, all but the last one are selected. -/
theorem selected_mixed : (mixedPaths.map fun path => (⟨path, ()⟩ : Encounter Unit)).filter
    (·.Selected {}) = mixedPaths.dropLast.map fun path => ⟨path, ()⟩ := by
  have selected : mixedPaths.filter ({} : Settings).selects = mixedPaths.dropLast := by decide
  rw [List.filter_map, ← selected]
  refine congrArg _ (List.filter_congr fun path _ => ?_)
  simp [Encounter.selected_iff]

/-- In the tree with files of every kind. -/
theorem run_traces_mixed :
    (∀ launch host, ∃ outcome, (printsOne launch host).1 = .ok outcome) ∧
      ∃ events, Trace {} (fun _ => mixed) printsOne {}
          (mixedPaths.dropLast.map fun path => ⟨path, ()⟩) events mixedTally ∧
        (run {} (fun _ => mixed) printsOne ()).result = .ok mixedTally ∧
        (run {} (fun _ => mixed) printsOne ()).events = events ++ [.finished mixedTally] := by
  have answers : ∀ launch host, ∃ outcome, (printsOne launch host).1 = .ok outcome :=
    fun _ _ => ⟨_, rfl⟩
  obtain ⟨ended, survey, events, tally, surveyed, trace, finished, -⟩ :=
    @run_traces Unit {} (fun _ => mixed) printsOne answers ()
  rw [survey_mixed {} rfl rfl] at surveyed
  obtain ⟨rfl, rfl⟩ := Prod.mk.inj surveyed
  obtain ⟨counted, whole⟩ := finished rfl
  have same : (run {} (fun _ => mixed) printsOne ()).result = .ok mixedTally := by
    rw [run_mixed]
  obtain rfl := Except.ok.inj (counted.symm.trans same)
  rw [selected_mixed] at trace
  exact ⟨answers, events, trace, counted, whole⟩

/-- The root is a directory with a test file in it, and all launches have an outcome, but nothing is
    reported: before the file, the walk comes to a directory whose path is too long to be listed. -/
theorem run_dotted :
    let settings : Settings := { root := Walk.dotted 2045 }
    let report := run settings (fun _ => Walk.nestedDisk) printsOne ()
    (∀ launch host, ∃ outcome, (printsOne launch host).1 = .ok outcome) ∧
      Walk.nestedDisk.look settings.root = .ok (.directory Walk.nested) ∧
      Walk.LeadsToFile settings.ignored (.directory Walk.nested) ["z.wren"] ∧
      settings.selects (settings.root.join ["z.wren"]) = true ∧
      report.result = .error (.fault (.walk (settings.root.entry "sub") (.system .nameTooLong))) ∧
      report.events = [] := by
  have short : 2 * 2045 + 4 < FileTree.pathLimit := by decide
  have ended := @run_of_halt Unit { root := Walk.dotted 2045 } (fun _ => Walk.nestedDisk) printsOne
    () _ _ (Walk.walk_dotted rfl (by decide) short (by decide))
  dsimp only
  rw [ended]
  refine ⟨fun _ _ => ⟨_, rfl⟩, Walk.look_dotted short, ?_, selects_dotted 2045, rfl, rfl⟩
  exact ⟨by simp, by decide, rfl⟩

end Session
end Conformance
