import Conformance.Proofs.Isolation
import Conformance.Proofs.Outlasting

/-!
# Sessions that a launch cuts short

A session asks for launches one after the other until one of them halts. Main statement: it ends
with what that launch halts with. It has told what any other session tells up to this launch, if
that one gets the same answers before and an outcome here, and it tells no more.
-/

namespace Conformance.Session

open Conformance.Action

variable {σ τ : Type}

/-! ## Launches in a row -/

/-- The answers to some launches, carried out one after the other. -/
def answers (executor : Executor σ) : List Launch → σ → List (Except Halt Outcome)
  | [], _ => []
  | launch :: calls, host =>
    (executor launch host).1 :: answers executor calls (executor launch host).2

/-- The disks before each of them. -/
def disksBefore (disk : σ → Disk) (executor : Executor σ) : List Launch → σ → List Disk
  | [], _ => []
  | launch :: calls, host => disk host :: disksBefore disk executor calls (executor launch host).2

/-- The executor's state after them. -/
def hostAfter (executor : Executor σ) (calls : List Launch) (host : σ) : σ :=
  calls.foldl (fun host launch => (executor launch host).2) host

/-- The events up to the launch of this number, counted from one. -/
def throughLaunch : Nat → List Event → List Event
  | 0, _ => []
  | _, [] => []
  | n + 1, event :: events =>
    event :: throughLaunch (if event.launch?.isSome then n else n + 1) events

theorem throughLaunch_zero (events : List Event) : throughLaunch 0 events = [] := by
  cases events <;> rfl

theorem throughLaunch_append (events more : List Event) (launch : Launch) :
    throughLaunch ((launches events).length + 1) (events ++ .executed launch :: more) =
      events ++ [.executed launch] := by
  induction events with
  | nil => exact congrArg (List.cons _) (throughLaunch_zero more)
  | cons event events ih =>
    rw [List.cons_append, throughLaunch]
    cases event <;> exact congrArg (List.cons _) ih

/-- Two executors that are in these states answer these launches alike up to the last one. There the
    first one halts, and the second one does not. They see the same disks. -/
def Parting (disk : σ → Disk) (executor : Executor σ) (disks : τ → Disk) (launcher : Executor τ)
    (halt : Halt) (calls : List Launch) (host : σ) (start : τ) : Prop :=
  ∃ (earlier : List Outcome) (outcome : Outcome),
    answers executor calls host = earlier.map .ok ++ [.error halt] ∧
    answers launcher calls start = earlier.map .ok ++ [.ok outcome] ∧
    disksBefore disks launcher calls start = disksBefore disk executor calls host

variable {settings : Settings} {disk : σ → Disk} {executor : Executor σ} {disks : τ → Disk}
  {launcher : Executor τ} {halt : Halt} {calls : List Launch} {host origin : σ} {start : τ}

/-- Executors part with the first launch, or answer it alike and part later. -/
theorem Parting.first (parting : Parting disk executor disks launcher halt calls host start) :
    ∃ launch later, calls = launch :: later ∧ disk host = disks start ∧
      (later = [] ∧ (executor launch host).1 = .error halt ∨
        ∃ outcome, (executor launch host).1 = .ok outcome ∧
          (launcher launch start).1 = .ok outcome ∧
          Parting disk executor disks launcher halt later (executor launch host).2
            (launcher launch start).2) := by
  obtain ⟨earlier, outcome, answered, answeredToo, shown⟩ := parting
  cases calls with
  | nil => simp [answers] at answered
  | cons launch later =>
    rw [answers] at answered answeredToo
    obtain ⟨here, there⟩ := List.cons.inj shown
    refine ⟨launch, later, rfl, here.symm, ?_⟩
    cases earlier with
    | nil =>
      obtain ⟨halts, none⟩ := List.cons.inj answered
      cases later with
      | nil => exact .inl ⟨rfl, halts⟩
      | cons _ _ => cases none
    | cons first earlier =>
      obtain ⟨same, rest⟩ := List.cons.inj answered
      obtain ⟨sameToo, restToo⟩ := List.cons.inj answeredToo
      exact .inr ⟨first, same, sameToo, earlier, outcome, rest, restToo, there⟩

/-! ## One file -/

/-- The launches so far are not those that are to be compared: neither list starts with the
    other. -/
def Elsewhere (calls : List Launch) (state : State σ) : Prop :=
  ¬ calls <+: launches state.events ∧ ¬ launches state.events <+: calls

/-- Two sessions have told and counted the same, and their executors part in what is left of the
    launches. -/
structure Together (disk : σ → Disk) (executor : Executor σ) (disks : τ → Disk)
    (launcher : Executor τ) (halt : Halt) (calls : List Launch) (origin : σ) (s : State σ)
    (t : State τ) : Prop where
  events : t.events = s.events
  tally : t.tally = s.tally
  host : s.host = hostAfter executor (launches s.events) origin
  left : ∃ rest, calls = launches s.events ++ rest ∧
    Parting disk executor disks launcher halt rest s.host t.host

/-- A session has been cut short by the last of these launches, and another one has told as much. -/
structure CutShort (executor : Executor σ) (halt : Halt) (calls : List Launch) (origin : σ)
    (other : Halt) (s : State σ) (t : State τ) : Prop where
  halt : other = halt
  launches : launches s.events = calls
  host : s.host = hostAfter executor calls origin
  last : ∃ told launch, s.events = told ++ [.executed launch]
  further : s.events <+: t.events

/-- How a session ends before the end of its walk: before all of these launches, or with the
    last. -/
def Ended (executor : Executor σ) (halt : Halt) (calls : List Launch) (origin : σ) (other : Halt)
    (s : State σ) (t : State τ) : Prop :=
  ¬ calls <+: launches s.events ∨ CutShort executor halt calls origin other s t

theorem Elsewhere.further {s after : State σ} (elsewhere : Elsewhere calls s)
    (further : s.events <+: after.events) : Elsewhere calls after := by
  have more : launches s.events <+: launches after.events := further.filterMap _
  refine ⟨fun reached => ?_, fun within => elsewhere.2 (more.trans within)⟩
  obtain before | beyond := List.prefix_or_prefix_of_prefix reached more
  · exact elsewhere.1 before
  · exact elsewhere.2 beyond

/-- Both sessions tell the same, and nothing of launches. -/
theorem Together.told {s : State σ} {t : State τ}
    (together : Together disk executor disks launcher halt calls origin s t) (tally : Tally)
    {more : List Event} (silent : launches more = []) :
    Together disk executor disks launcher halt calls origin
      { s with events := s.events ++ more, tally }
      { t with events := t.events ++ more, tally } := by
  have same : launches (s.events ++ more) = launches s.events := by
    rw [launches_append, silent, List.append_nil]
  obtain ⟨events, -, here, left⟩ := together
  refine ⟨congrArg (· ++ more) events, rfl, ?_, ?_⟩
  · exact here.trans (congrArg (hostAfter executor · origin) same.symm)
  · rw [same]
    exact left

theorem Together.shown {s : State σ} {t : State τ}
    (together : Together disk executor disks launcher halt calls origin s t) :
    disk s.host = disks t.host := by
  obtain ⟨rest, -, parting⟩ := together.left
  obtain ⟨_, _, -, same, -⟩ := parting.first
  exact same

/-- There are launches left. -/
theorem Together.unfinished {s : State σ} {t : State τ}
    (together : Together disk executor disks launcher halt calls origin s t) :
    ¬ calls <+: launches s.events := by
  obtain ⟨rest, rfl, parting⟩ := together.left
  obtain ⟨launch, later, rfl, -⟩ := parting.first
  intro reached
  have few := reached.length_le
  rw [List.length_append, List.length_cons] at few
  omega

/-- Whatever comes of it, a launch is told. -/
theorem runTest_tells (m : Encounter σ) (e : Expectations) (earlier : List Event) (tally : Tally) :
    let launch := m.launch settings e
    let after := (runTest settings executor m.path e ⟨earlier, tally, m.host⟩).2
    launches after.events = launches earlier ++ [launch] ∧
      earlier ++ [.launching launch.argument, .executed launch] <+: after.events := by
  intro launch after
  cases ran : (executor launch m.host).1 with
  | ok outcome =>
    have ended : after = _ := congrArg Prod.snd (runTest_completes m ran earlier tally)
    rw [ended]
    exact ⟨launches_append _ _, [.completed _ _], List.append_assoc _ [_, _] _⟩
  | error halt =>
    have ended : after = _ := congrArg Prod.snd (runTest_halts m ran earlier tally)
    rw [ended]
    exact ⟨launches_append _ _, List.prefix_rfl⟩

theorem hostAfter_snoc (executor : Executor σ) (calls : List Launch) (launch : Launch) (host : σ) :
    hostAfter executor (calls ++ [launch]) host =
      (executor launch (hostAfter executor calls host)).2 := by
  rw [hostAfter, List.foldl_append]
  rfl

/-- Sessions that are together launch something else, or stay together, or one of them is cut
    short. -/
theorem runTest_parts (m : Encounter σ) (e : Expectations) {events : List Event} {tally : Tally}
    (together : Together disk executor disks launcher halt calls origin ⟨events, tally, m.host⟩
      ⟨events, tally, start⟩) :
    Elsewhere calls (runTest settings executor m.path e ⟨events, tally, m.host⟩).2 ∨
      (∃ s' t', runTest settings executor m.path e ⟨events, tally, m.host⟩ = (.ok (), s') ∧
        runTest settings launcher m.path e ⟨events, tally, start⟩ = (.ok (), t') ∧
        Together disk executor disks launcher halt calls origin s' t') ∨
      ∃ s', runTest settings executor m.path e ⟨events, tally, m.host⟩ = (.error halt, s') ∧
        CutShort executor halt calls origin halt s'
          (runTest settings launcher m.path e ⟨events, tally, start⟩).2 := by
  obtain ⟨-, -, here, rest, rfl, parting⟩ := together
  dsimp only at here parting
  obtain ⟨launch, later, rfl, -, parts⟩ := parting.first
  have after : (executor (m.launch settings e) m.host).2 =
      hostAfter executor (launches events ++ [m.launch settings e]) origin := by
    rw [hostAfter_snoc, ← here]
  by_cases same : launch = m.launch settings e
  · subst same
    obtain ⟨rfl, halts⟩ | ⟨outcome, ran, ranToo, left⟩ := parts
    · have told := (@runTest_tells τ settings launcher ⟨m.path, start⟩ e events tally).2
      refine .inr (.inr ⟨_, runTest_halts m halts events tally, rfl, launches_append _ _, after, ?_,
        told⟩)
      exact ⟨events ++ [.launching _], _, (List.append_assoc _ [_] _).symm⟩
    · refine .inr (.inl ⟨_, _, runTest_completes m ran events tally,
        runTest_completes ⟨m.path, start⟩ ranToo events tally, rfl, rfl, ?_, later, ?_, left⟩)
      · rw [launches_append]
        exact after
      · rw [launches_append, List.append_assoc]
        rfl
  · -- With another launch than the next one, no later one brings the sessions together again.
    have told := (@runTest_tells σ settings executor m e events tally).1
    left
    rw [Elsewhere, told, List.prefix_append_right_inj, List.prefix_append_right_inj]
    exact ⟨fun reached => same (List.cons_prefix_cons.1 reached).1,
      fun within => same (List.cons_prefix_cons.1 within).1.symm⟩

theorem visitFile_tells (path : Path) (state : State σ) :
    state.events <+: (visitFile settings disk executor path state).2.events := by
  have same : state.host = (⟨[], state.host⟩ : Survey σ).host := rfl
  obtain ⟨ended, after, does, -, handled⟩ :=
    @visitFile_handles σ settings disk executor path state _ same
  rw [does]
  cases handled with
  | passedOver unselected same => rw [same]
  | reported selected reported events => exact events ▸ List.prefix_append _ _
  | halted selected asked ran events => exact events ▸ List.prefix_append _ _

/-- Where one session is cut short, the other one goes on. -/
theorem visitFile_outlasts (path : Path) :
    Outlasts (Together disk executor disks launcher halt calls origin)
      (Ended executor halt calls origin) (Elsewhere calls)
      (visitFile settings disk executor path) (visitFile settings disks launcher path) where
  along := by
    rintro ⟨_, _, host⟩ ⟨events, tally, start⟩ together
    have shown := together.shown
    obtain rfl := together.events
    obtain rfl := together.tally
    rw [visitFile_apply, visitFile_apply]
    by_cases selected : settings.selects path = true
    · have started := together.told tally (rfl : launches [.started path.shown tally] = [])
      rw [if_pos selected, if_pos selected]
      dsimp only at shown started ⊢
      rw [shown]
      cases (disks start).readText path with
      | error cause => exact .inr ⟨_, rfl, started.told _ rfl⟩
      | ok source =>
        dsimp only
        cases Directive.parse source with
        | nontest => exact .inr ⟨_, rfl, started⟩
        | skip reason => exact .inr ⟨_, rfl, started.told _ rfl⟩
        | run e =>
          obtain elsewhere | ⟨s', t', does, doesToo, after⟩ | ⟨s', does, cut⟩ :=
            @runTest_parts σ τ settings disk executor disks launcher halt calls origin start
              ⟨path, host⟩ e _ _ started
          · exact .inl elsewhere
          · dsimp only at does ⊢
            rw [does]
            exact .inr ⟨t', doesToo, after⟩
          · dsimp only at does ⊢
            rw [does]
            exact .inr (.inr cut)
    · rw [if_neg selected, if_neg selected]
      exact .inr ⟨_, rfl, together⟩
  astray s elsewhere := elsewhere.further (visitFile_tells path s)
  onward other s t ended := ended.imp_right fun cut =>
    { cut with further := cut.further.trans (visitFile_tells path t) }

/-! ## Whole sessions -/

theorem walk_tells (settings : Settings) (disk : σ → Disk) (executor : Executor σ) (host : σ) :
    (Walk.walk (fun state : State σ => disk state.host) settings.root settings.ignored
      (visitFile settings disk executor) { host }).2.events <+:
        (run settings disk executor host).events := by
  rw [run, session_apply]
  generalize Walk.walk _ _ _ _ _ = walked
  obtain ⟨answer, state⟩ := walked
  cases answer with
  | ok _ => exact List.prefix_append _ _
  | error halt => exact List.prefix_rfl

/-- A session that makes the launches in which the executors part is cut short, and the other one
    tells at least as much. -/
theorem run_parts (parting : Parting disk executor disks launcher halt calls host start)
    (made : calls <+: launches (run settings disk executor host).events) :
    let report := run settings disk executor host
    report.result = .error halt ∧ launches report.events = calls ∧
      report.host = hostAfter executor calls host ∧
      ∃ told last, report.events = told ++ [.executed last] ∧
        report.events <+: (run settings disks launcher start).events := by
  have together : Together disk executor disks launcher halt calls host { host }
      { host := start } := ⟨rfl, rfl, rfl, calls, rfl, parting⟩
  have walks := (Walk.walk_outlasts (fun _ _ together => together.shown)
    (fun _ _ _ _ together => .inl together.unfinished) settings.root settings.ignored
    (@visitFile_outlasts σ τ settings disk executor disks launcher halt calls host)).along _ _
    together
  generalize walked : Walk.walk (fun state : State σ => disk state.host) settings.root
    settings.ignored (visitFile settings disk executor) { host } = ended at walks
  obtain ⟨answer, state⟩ := ended
  cases answer with
  | ok _ =>
    have silent : launches [.finished state.tally] = [] := rfl
    rw [run_of_ok walked, launches_append, silent, List.append_nil] at made
    obtain elsewhere | ⟨_, -, together⟩ := walks
    · exact absurd made elsewhere.1
    · exact absurd made together.unfinished
  | error other =>
    rw [run_of_halt walked] at made ⊢
    obtain elsewhere | early | cut := walks
    · exact absurd made elsewhere.1
    · exact absurd made early
    · obtain ⟨rfl, launched, after, ⟨told, last, events⟩, further⟩ := cut
      have tells := walk_tells settings disks launcher start
      exact ⟨rfl, launched, after, told, last, events, further.trans tells⟩

theorem Reported.last {m : Encounter σ} {tally next : Tally} {events : List Event}
    (reported : Reported settings disk executor m tally events next) :
    ∃ earlier last, events = earlier ++ [last] ∧ last.launch? = none := by
  cases reported with
  | unreadable => exact ⟨[_], _, rfl, rfl⟩
  | nontest => exact ⟨[], _, rfl, rfl⟩
  | skipped => exact ⟨[_], _, rfl, rfl⟩
  | passed => exact ⟨[_, _, _], _, rfl, rfl⟩
  | failed => exact ⟨[_, _, _], _, rfl, rfl⟩

/-- Files that are reported in full do not end with a launch. -/
theorem Trace.getLast?_ne {files : List (Encounter σ)} {tally last : Tally} {events : List Event}
    (trace : Trace settings disk executor tally files events last) (launch : Launch) :
    events.getLast? ≠ some (.executed launch) := by
  induction trace with
  | nil => simp
  | cons here after ih =>
    intro ends
    obtain ⟨earlier, event, rfl, none⟩ := here.last
    rw [List.getLast?_append, List.getLast?_concat, Option.or_eq_some_iff] at ends
    obtain later | ⟨-, same⟩ := ends
    · exact ih later
    · obtain rfl := Option.some.inj same
      cases none

theorem Trace.not_mem_finished {files : List (Encounter σ)} {tally last : Tally}
    {events : List Event} (trace : Trace settings disk executor tally files events last)
    (counted : Tally) : .finished counted ∉ events := by
  induction trace with
  | nil => simp
  | cons here after ih =>
    cases here <;> simp [ih]

/-- A session whose last event is a launch has reported the files before in full. -/
theorem run_launched {told : List Event} {last : Launch}
    (ended : (run settings disk executor host).events = told ++ [.executed last]) :
    ∃ files m earlier tally launch, selectedFiles settings disk executor host = files ++ [m] ∧
      Trace settings disk executor {} files earlier tally ∧
      (run settings disk executor host).events = earlier ++ [.started m.path.shown tally,
        .launching launch.argument, .executed launch] := by
  obtain ⟨files, rest, earlier, more, tally, selected, whole, trace, tail⟩ :=
    run_tail settings disk executor host
  have same := congrArg List.getLast? (whole.symm.trans ended)
  rw [List.getLast?_concat] at same
  cases tail with
  | nothing =>
    rw [List.append_nil] at same
    exact absurd same (trace.getLast?_ne last)
  | finished =>
    rw [List.getLast?_concat] at same
    cases same
  | launched m launch => exact ⟨files, m, earlier, tally, launch, selected, trace, whole⟩

/-- An executor that gives an empty outcome where this one halts. -/
def patched (executor : Executor σ) : Executor σ := fun launch host =>
  (.ok ((executor launch host).1.toOption.getD {}), (executor launch host).2)

theorem answers_patched (executor : Executor σ) (calls : List Launch) (host : σ) :
    answers (patched executor) calls host =
      (answers executor calls host).map fun answer => .ok (answer.toOption.getD {}) := by
  induction calls generalizing host with
  | nil => rfl
  | cons launch calls ih => exact congrArg (List.cons _) (ih _)

theorem disksBefore_patched (disk : σ → Disk) (executor : Executor σ) (calls : List Launch)
    (host : σ) :
    disksBefore disk (patched executor) calls host = disksBefore disk executor calls host := by
  induction calls generalizing host with
  | nil => rfl
  | cons launch calls ih => exact congrArg (List.cons _) (ih _)

/-- The first launch that halts always parts an executor from another one. -/
theorem parting_patched {earlier : List Outcome}
    (halts : answers executor calls host = earlier.map .ok ++ [.error halt]) :
    Parting disk executor disk (patched executor) halt calls host host := by
  refine ⟨earlier, {}, halts, ?_, disksBefore_patched disk executor calls host⟩
  rw [answers_patched, halts, List.map_append, List.map_map]
  rfl

/-- A session whose launches have outcomes up to one that halts ends with that. It has reported the
    files before in full, and told that it starts and launches the last one. It tells what any other
    session tells up to this launch if that gets the same answers before, and an outcome from this
    one, on the same disks. If the root cannot be listed, the session tells nothing. -/
theorem run_cut_short (settings : Settings) (disk : σ → Disk) (executor : Executor σ) (host : σ) :
    let report := run settings disk executor host
    (∀ (calls : List Launch) (earlier : List Outcome) (halt : Halt),
      answers executor calls host = earlier.map .ok ++ [.error halt] →
      calls <+: launches report.events →
        report.result = .error halt ∧ launches report.events = calls ∧
        report.host = hostAfter executor calls host ∧
        (∃ files m told tally launch,
          selectedFiles settings disk executor host = files ++ [m] ∧
          Trace settings disk executor {} files told tally ∧
          report.events = told ++ [.started m.path.shown tally, .launching launch.argument,
            .executed launch]) ∧
        (∀ tally, .finished tally ∉ report.events) ∧
        ∀ {τ : Type} (disks : τ → Disk) (launcher : Executor τ) (start : τ) (outcome : Outcome),
          answers launcher calls start = earlier.map .ok ++ [.ok outcome] →
          disksBefore disks launcher calls start = disksBefore disk executor calls host →
            report.events =
              throughLaunch calls.length (run settings disks launcher start).events) ∧
    ∀ cause, (disk host).list settings.root = .error cause →
      report = ⟨[], .error (.fault (.walk settings.root cause)), host⟩ := by
  intro report
  refine ⟨fun calls earlier halt halts made => ?_, fun cause unlisted => ?_⟩
  · obtain ⟨result, launched, after, told, last, events, -⟩ :=
      run_parts (parting_patched halts) made
    obtain ⟨files, m, before, tally, launch, selected, trace, whole⟩ := run_launched events
    refine ⟨result, launched, after, ⟨files, m, before, tally, launch, selected, trace, whole⟩,
      fun counted => ?_, ?_⟩
    · have missing := trace.not_mem_finished counted
      rw [whole]
      simp [missing]
    · intro τ disks launcher start outcome succeeds shown
      obtain ⟨-, -, -, told, last, events, more, further⟩ :=
        run_parts ⟨earlier, outcome, halts, succeeds, shown⟩ made
      have counted : calls.length = (launches told).length + 1 := by
        rw [← launched, events, launches_append, List.length_append]
        rfl
      rw [counted, ← further, events, List.append_assoc]
      exact (throughLaunch_append told more last).symm
  · have walked := @Walk.walk_apply (State σ) settings.ignored
      (visitFile settings disk executor) (fun state => disk state.host) settings.root { host }
    rw [Walk.scan_of_unlisted unlisted] at walked
    exact run_of_halt walked

/-! ## Two tests, of which the second one cannot be launched -/

/-- An interpreter that prints nothing, and cannot be found from the second launch on. -/
def vanishes : Executor Nat
  | _, 0 => (.ok {}, 1)
  | _, count + 1 => (.error (.fault (.spawn ⟨"bin/wren"⟩ (.system .notFound))), count + 2)

theorem run_vanishes :
    run {} (fun _ => pairDisk) vanishes 0 = {
      events := [.started "test/a.wren" {}, .launching "test/a.wren",
        .executed ⟨⟨"bin/wren"⟩, "test/a.wren", none, none⟩, .completed "test/a.wren" .passed,
        .started "test/z.wren" { passed := 1 }, .launching "test/z.wren",
        .executed ⟨⟨"bin/wren"⟩, "test/z.wren", none, none⟩]
      result := .error (.fault (.spawn ⟨"bin/wren"⟩ (.system .notFound)))
      host := 2 } := by
  obtain ⟨first, second⟩ := readText_pair
  have empty {path : Path} (state : State Nat) (selected : ({} : Settings).selects path = true)
      (read : pairDisk.readText path = .ok "") :=
    @visitFile_empty Nat (fun _ => pairDisk) vanishes path state selected read
  have walked := @walk_pair (State Nat) (fun _ => pairDisk) { host := 0 }
    (visitFile {} (fun _ => pairDisk) vanishes) rfl
  rw [List.forM_cons, bind_apply, empty _ selects_pair.1 first, runTest_apply] at walked
  dsimp only [vanishes] at walked
  rw [judge_blank, List.forM_cons, bind_apply, empty _ selects_pair.2 second,
    runTest_apply] at walked
  exact @run_of_halt Nat {} (fun _ => pairDisk) vanishes 0 _ _ walked

/-- The session tells what it would tell if the interpreter were still there, up to the second
    launch. -/
theorem run_cut_short_pair :
    let gone : Halt := .fault (.spawn ⟨"bin/wren"⟩ (.system .notFound))
    let calls : List Launch := [⟨⟨"bin/wren"⟩, "test/a.wren", none, none⟩,
      ⟨⟨"bin/wren"⟩, "test/z.wren", none, none⟩]
    let report := run {} (fun _ => pairDisk) vanishes 0
    let missing : Cause := .system .notFound
    answers vanishes calls 0 = [.ok {}, .error gone] ∧ calls <+: launches report.events ∧
      report.result = .error gone ∧ launches report.events = calls ∧
      report.events =
        throughLaunch 2 (run {} (fun _ => pairDisk) (patched vanishes) 0).events ∧
      pairDisk.list ⟨""⟩ = .error missing ∧ run { root := ⟨""⟩ } (fun _ => pairDisk) vanishes 0 =
        ⟨[], .error (.fault (.walk ⟨""⟩ missing)), 0⟩ := by
  intro gone calls report missing
  have halts : answers vanishes calls 0 = [.ok {}, .error gone] := rfl
  have made : calls <+: launches report.events := by
    have told := congrArg Report.events run_vanishes
    rw [told]
    exact List.prefix_rfl
  have unlisted : pairDisk.list ⟨""⟩ = .error missing := rfl
  obtain ⟨result, launched, -, -, -, same⟩ :=
    (run_cut_short {} (fun _ => pairDisk) vanishes 0).1 calls [{}] gone halts made
  exact ⟨halts, made, result, launched, same (fun _ => pairDisk) (patched vanishes) 0 {} rfl rfl,
    unlisted, (run_cut_short { root := ⟨""⟩ } (fun _ => pairDisk) vanishes 0).2 missing unlisted⟩

end Conformance.Session
