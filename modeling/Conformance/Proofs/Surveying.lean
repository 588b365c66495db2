import Conformance.Proofs.FileVisits
import Conformance.Proofs.Reading
import Conformance.Proofs.VisitOrder

/-!
# What a session comes to

A survey walks the tree as a session does and carries out the same launches, but it only records
which files it comes to. `Fine` says of a file what it takes not to fail. Main statement: a session
ends as its survey does, and if it ends by itself, it has counted as failed the selected files of
the survey that are not fine.
-/

namespace Conformance

variable {σ : Type}

/-- A file that a walk comes to, and the executor's state at that moment. -/
structure Encounter (σ : Type) where
  path : Path
  host : σ

/-- The files that a walk has come to, in order, and the executor's state. -/
structure Survey (σ : Type) where
  met : List (Encounter σ) := []
  host : σ

namespace Encounter

/-- The file is a test file, and its path below the root starts with the selector, if any. -/
def Selected (settings : Settings) (m : Encounter σ) : Prop :=
  settings.isTestFile m.path ∧ ∀ selector, settings.selector = some selector →
    selector.toList <+: (m.path.relativeTo settings.root).shown.toList

/-- How a file that asks for something is launched. -/
def launch (settings : Settings) (m : Encounter σ) (e : Expectations) : Launch :=
  ⟨settings.binary, Session.argument settings.kind m.path, e.stdin, settings.timeout⟩

/-- The file can be read as text, and it is skipped, or no test, or its run meets what it asks
    for. -/
def Fine (settings : Settings) (disk : σ → Disk) (executor : Executor σ) (m : Encounter σ) : Prop :=
  ∃ source, (disk m.host).readText m.path = .ok source ∧
    ((∃ reason, Directive.parse source = .skip reason) ∨ Directive.parse source = .nontest ∨
      ∃ e outcome, Directive.parse source = .run e ∧
        (executor (m.launch settings e) m.host).1 = .ok outcome ∧
        e.judge outcome settings.kind = [])

/-- The launch that a file asks for, if it is selected, can be read and is to be run. -/
def launch? (settings : Settings) (disk : σ → Disk) (m : Encounter σ) : Option Launch :=
  if settings.selects m.path then
    match (disk m.host).readText m.path with
    | .error _ => none
    | .ok source =>
      match Directive.parse source with
      | .run e => some (m.launch settings e)
      | .skip _ | .nontest => none
  else none

end Encounter

namespace Survey

/-- What the survey comes to at a path. -/
def here (survey : Survey σ) (path : Path) : Encounter σ := ⟨path, survey.host⟩

/-- The survey with one more file, which leaves the executor in some state. -/
def record (survey : Survey σ) (path : Path) (host : σ) : Survey σ where
  met := survey.met ++ [survey.here path]
  host := host

/-- Carry out a launch, if there is one: how it ended, and the executor's state after it. -/
def carryOut (executor : Executor σ) (host : σ) : Option Launch → Except Halt Unit × σ
  | none => (.ok (), host)
  | some launch => ((executor launch host).1.map fun _ => (), (executor launch host).2)

/-- Come to a file: record it, and carry out the launch that it asks for. -/
def meet (settings : Settings) (disk : σ → Disk) (executor : Executor σ) (path : Path)
    (survey : Survey σ) : Except Halt Unit × Survey σ :=
  let ended := carryOut executor survey.host ((survey.here path).launch? settings disk)
  (ended.1, survey.record path ended.2)

/-- Survey a whole tree: how the walk ended, and what it came to. -/
def run (settings : Settings) (disk : σ → Disk) (executor : Executor σ) (host : σ) :
    Except Halt Unit × Survey σ :=
  Walk.walk (fun survey : Survey σ => disk survey.host) settings.root settings.ignored
    (meet settings disk executor) { host }

end Survey

/-! ## One file -/

namespace Encounter

variable {settings : Settings} {disk : σ → Disk} {executor : Executor σ} {m : Encounter σ}

theorem selected_iff : m.Selected settings ↔ settings.selects m.path = true := by
  rw [Selected, Settings.selects, Bool.and_eq_true]
  cases settings.selector with
  | none => simp
  | some selector => simp

theorem fine_of_parse {source : String} (read : (disk m.host).readText m.path = .ok source) :
    m.Fine settings disk executor ↔ match Directive.parse source with
      | .skip _ | .nontest => True
      | .run e => ∃ outcome, (executor (m.launch settings e) m.host).1 = .ok outcome ∧
          e.judge outcome settings.kind = [] := by
  rw [Fine, read]
  cases parsed : Directive.parse source with
  | run e =>
    constructor
    · rintro ⟨text, same, ⟨reason, skip⟩ | nontest | ⟨asked, outcome, run, ran⟩⟩
      · obtain rfl := Except.ok.inj same
        rw [parsed] at skip
        cases skip
      · obtain rfl := Except.ok.inj same
        rw [parsed] at nontest
        cases nontest
      · obtain rfl := Except.ok.inj same
        obtain rfl := Directive.run.inj (parsed.symm.trans run)
        exact ⟨outcome, ran⟩
    · rintro ⟨outcome, ran⟩
      exact ⟨source, rfl, .inr (.inr ⟨e, outcome, parsed, ran⟩)⟩
  | skip reason => exact iff_of_true ⟨source, rfl, .inl ⟨reason, parsed⟩⟩ trivial
  | nontest => exact iff_of_true ⟨source, rfl, .inr (.inl parsed)⟩ trivial

theorem not_fine_of_unreadable {cause : Cause}
    (read : (disk m.host).readText m.path = .error cause) : ¬ m.Fine settings disk executor := by
  rintro ⟨source, text, -⟩
  rw [read] at text
  cases text

theorem launch?_of_not_selected (m : Encounter σ) (unselected : ¬ settings.selects m.path = true) :
    m.launch? settings disk = none := by
  rw [launch?, if_neg unselected]

theorem launch?_of_unreadable (m : Encounter σ) {cause : Cause}
    (read : (disk m.host).readText m.path = .error cause) : m.launch? settings disk = none := by
  rw [launch?, read]
  exact ite_self none

theorem launch?_of_parse (m : Encounter σ) {source : String}
    (selected : settings.selects m.path = true)
    (read : (disk m.host).readText m.path = .ok source) :
    m.launch? settings disk = match Directive.parse source with
      | .run e => some (m.launch settings e)
      | .skip _ | .nontest => none := by
  rw [launch?, if_pos selected, read]

end Encounter

namespace Session

open Conformance.Action

variable {settings : Settings} {disk : σ → Disk} {executor : Executor σ}

open Classical in
/-- The session is where the survey is, and has counted as failed the selected files of the survey
    that are not fine. -/
structure Accounts (settings : Settings) (disk : σ → Disk) (executor : Executor σ)
    (state : State σ) (survey : Survey σ) : Prop where
  host : state.host = survey.host
  failed : state.tally.failed =
    survey.met.countP fun m => m.Selected settings ∧ ¬ m.Fine settings disk executor

/-- One more file keeps the accounts in order if it is counted as failed exactly when it should. -/
theorem Accounts.record {state after : State σ} {survey : Survey σ}
    (accounts : Accounts settings disk executor state survey) {path : Path} {host : σ}
    (moved : after.host = host)
    (counted : (survey.here path).Selected settings ∧
        ¬ (survey.here path).Fine settings disk executor ∧
        after.tally.failed = state.tally.failed + 1 ∨
      ((survey.here path).Selected settings → (survey.here path).Fine settings disk executor) ∧
        after.tally.failed = state.tally.failed) :
    Accounts settings disk executor after (survey.record path host) where
  host := moved
  failed := by
    rw [Survey.record, List.countP_append, List.countP_singleton, ← accounts.failed]
    rcases counted with ⟨selected, wrong, counted⟩ | ⟨fine, same⟩
    · simp [selected, wrong, counted]
    · by_cases selected : (survey.here path).Selected settings
      · simp [selected, fine selected, same]
      · simp [selected, same]

/-- What a session can halt with: a directory that cannot be listed, or a launch that halts. -/
def Halting (executor : Executor σ) (halt : Halt) : Prop :=
  (∃ path cause, halt = .fault (.walk path cause)) ∨
    ∃ launch host, (executor launch host).1 = .error halt

/-- A session handles a file as its survey comes to it. -/
theorem visitFile_alike (path : Path) :
    Alike (Accounts settings disk executor) (fun halt _ _ => Halting executor halt)
      (visitFile settings disk executor path) (Survey.meet settings disk executor path) := by
  intro state survey accounts
  have chosen : (survey.here path).Selected settings ↔ settings.selects path = true :=
    Encounter.selected_iff
  rw [visitFile_apply, Survey.meet, accounts.host]
  by_cases selected : settings.selects path = true
  · rw [if_pos selected]
    cases read : (disk survey.host).readText path with
    | error cause =>
      rw [Encounter.launch?_of_unreadable (survey.here path) read]
      refine ⟨rfl, accounts.record rfl (.inl ⟨chosen.2 selected, ?_, rfl⟩)⟩
      exact Encounter.not_fine_of_unreadable read
    | ok source =>
      have fine : (survey.here path).Fine settings disk executor ↔ _ :=
        Encounter.fine_of_parse read
      rw [Encounter.launch?_of_parse (survey.here path) selected read]
      dsimp only
      cases parsed : Directive.parse source with
      | nontest =>
        rw [parsed] at fine
        exact ⟨rfl, accounts.record rfl (.inr ⟨fun _ => fine.2 trivial, rfl⟩)⟩
      | skip reason =>
        rw [parsed] at fine
        exact ⟨rfl, accounts.record rfl (.inr ⟨fun _ => fine.2 trivial, rfl⟩)⟩
      | run e =>
        rw [parsed] at fine
        dsimp only [Encounter.launch, Survey.here, Survey.carryOut] at fine ⊢
        rw [runTest_apply]
        dsimp only
        generalize launched : executor _ survey.host = ran at fine ⊢
        obtain ⟨answer, host⟩ := ran
        cases answer with
        | error halt => exact ⟨rfl, .inr ⟨_, survey.host, by rw [launched]⟩⟩
        | ok outcome =>
          refine ⟨rfl, accounts.record rfl ?_⟩
          dsimp only
          cases judged : e.judge outcome settings.kind with
          | nil => exact .inr ⟨fun _ => fine.2 ⟨outcome, rfl, judged⟩, rfl⟩
          | cons discrepancy more =>
            refine .inl ⟨chosen.2 selected, ?_, rfl⟩
            intro good
            obtain ⟨other, same, clean⟩ := fine.1 good
            obtain rfl := Except.ok.inj same
            rw [judged] at clean
            cases clean
  · rw [if_neg selected, Encounter.launch?_of_not_selected (survey.here path) selected]
    have left : (survey.here path).Selected settings →
        (survey.here path).Fine settings disk executor :=
      fun taken => absurd (chosen.1 taken) selected
    exact ⟨rfl, accounts.record accounts.host (.inr ⟨left, rfl⟩)⟩

/-! ## Whole sessions -/

theorem session_apply (state : State σ) :
    session settings disk executor state =
      match Walk.walk (fun state : State σ => disk state.host) settings.root settings.ignored
        (visitFile settings disk executor) state with
      | (.ok (), walked) => (.ok walked.tally, { walked with
          events := walked.events ++ [.finished walked.tally] })
      | (.error halt, walked) => (.error halt, walked) := by
  unfold session
  rw [bind_apply]
  generalize Walk.walk _ _ _ _ _ = ended
  obtain ⟨answer, walked⟩ := ended
  cases answer <;> rfl

theorem run_of_ok {host : σ} {state : State σ}
    (walked : Walk.walk (fun state : State σ => disk state.host) settings.root settings.ignored
      (visitFile settings disk executor) { host } = (.ok (), state)) :
    run settings disk executor host =
      ⟨state.events ++ [.finished state.tally], .ok state.tally, state.host⟩ := by
  rw [run, session_apply, walked]

/-- A session ends as its walk does if that halts. -/
theorem run_of_halt {host : σ} {halt : Halt} {state : State σ}
    (walked : Walk.walk (fun state : State σ => disk state.host) settings.root settings.ignored
      (visitFile settings disk executor) { host } = (.error halt, state)) :
    run settings disk executor host =
      { events := state.events, result := .error halt, host := state.host } := by
  rw [run, session_apply, walked]

open Classical in
/-- A session ends as its survey does. If it ends by itself, the last event shows the counters, and
    the selected files that are not fine are those that have been counted as failed. -/
theorem run_survey (settings : Settings) (disk : σ → Disk) (executor : Executor σ) (host : σ) :
    (∃ survey tally earlier, Survey.run settings disk executor host = (.ok (), survey) ∧
      (run settings disk executor host).result = .ok tally ∧
      (run settings disk executor host).events = earlier ++ [.finished tally] ∧
      tally.failed =
        survey.met.countP fun m => m.Selected settings ∧ ¬ m.Fine settings disk executor) ∨
    ∃ survey halt, Survey.run settings disk executor host = (.error halt, survey) ∧
      (run settings disk executor host).result = .error halt ∧ Halting executor halt := by
  have start : Accounts settings disk executor { host } { host } := ⟨rfl, rfl⟩
  have walks := (Walk.walk_alike (fun _ _ accounts => congrArg disk accounts.host)
    (fun path cause _ _ _ => .inl ⟨path, cause, rfl⟩) settings.root settings.ignored
    visitFile_alike).ends start
  rw [run, session_apply, Survey.run]
  obtain ⟨_, state, survey, walked, surveyed, accounts⟩ |
    ⟨halt, state, survey, walked, surveyed, halting⟩ := walks
  · rw [walked, surveyed]
    exact .inl ⟨survey, state.tally, state.events, rfl, rfl, rfl, accounts.failed⟩
  · rw [walked, surveyed]
    exact .inr ⟨survey, halt, rfl, rfl, halting⟩

open Classical in
theorem survey_of_ok {host : σ} {tally : Tally}
    (ended : (run settings disk executor host).result = .ok tally) :
    ∃ survey earlier, Survey.run settings disk executor host = (.ok (), survey) ∧
      (run settings disk executor host).events = earlier ++ [.finished tally] ∧
      tally.failed =
        survey.met.countP fun m => m.Selected settings ∧ ¬ m.Fine settings disk executor := by
  obtain ⟨survey, counted, earlier, surveyed, same, events, failed⟩ | ⟨_, halt, _, halted, _⟩ :=
    run_survey settings disk executor host
  · obtain rfl := Except.ok.inj (ended.symm.trans same)
    exact ⟨survey, earlier, surveyed, events, failed⟩
  · rw [ended] at halted
    cases halted

theorem survey_of_halt {host : σ} {halt : Halt}
    (ended : (run settings disk executor host).result = .error halt) :
    Halting executor halt ∧ ∃ survey, Survey.run settings disk executor host =
      (.error halt, survey) := by
  obtain ⟨_, tally, _, _, same, _⟩ | ⟨survey, other, surveyed, same, halting⟩ :=
    run_survey settings disk executor host
  · rw [ended] at same
    cases same
  · obtain rfl := Except.error.inj (ended.symm.trans same)
    exact ⟨halting, survey, surveyed⟩

/-! ## A tree with files of every kind -/

/-- Under an interpreter that prints `1`, one of these files passes and one fails. One is skipped,
    one is no test, and three cannot be read: a link to nothing, a link to a directory, and what is
    no text. The first one is not selected. -/
def mixedEntries : List (String × FileTree) := [
  ("notes.txt", .file 4), ("b.wren", .file 1), ("a.wren", .file 0), ("e.wren", .link ⟨"."⟩),
  ("d.wren", .link ⟨"gone"⟩), ("c.wren", .file 2), ("g.wren", .file 5), ("f.wren", .file 3)]

def mixed : Disk where
  root := .directory [("test", .directory mixedEntries)]
  files := #[
    { bytes := "// expect: 1".toUTF8 }, { bytes := "// expect: 2".toUTF8 },
    { bytes := "// skip: slow".toUTF8 }, { bytes := ⟨#[0xFF]⟩ }, {},
    { bytes := "// nontest".toUTF8 }]

/-- An interpreter that prints `1` whatever it is given. -/
def printsOne : Executor Unit := fun _ state => (.ok { stdout := "1\n" }, state)

/-- The paths of the files, in the order of a walk. -/
def mixedPaths : List Path := [
  ⟨"test/a.wren"⟩, ⟨"test/b.wren"⟩, ⟨"test/c.wren"⟩, ⟨"test/d.wren"⟩, ⟨"test/e.wren"⟩,
  ⟨"test/f.wren"⟩, ⟨"test/g.wren"⟩, ⟨"test/notes.txt"⟩]

theorem look_mixed : mixed.look ⟨"test"⟩ = .ok (.directory mixedEntries) :=
  Disk.look_iff_leads.2 ⟨_, @Walk.leads_dotted mixed mixedEntries 0 rfl rfl (by decide)⟩

theorem walk_mixed {disks : σ → Disk} {s : σ} (visit : Path → Action σ Unit)
    (there : disks s = mixed) : Walk.walk disks ⟨"test"⟩ ["benchmark"] visit s =
      (forM mixedPaths visit : Action σ Unit) s := by
  have paths : (Walk.arrange (Walk.kinds mixedEntries)).map
      (fun entry => (⟨"test"⟩ : Path).entry entry.1) = mixedPaths := by
    decide
  rw [← paths]
  exact Walk.walk_flat visit (there ▸ look_mixed) (by decide)

theorem survey_mixed (settings : Settings) (root : settings.root = ⟨"test"⟩)
    (ignored : settings.ignored = ["benchmark"]) :
    Survey.run settings (fun _ => mixed) printsOne () =
      (.ok (), { met := mixedPaths.map fun path => ⟨path, ()⟩, host := () }) := by
  have meets : Survey.meet settings (fun _ => mixed) printsOne =
      fun path survey => (.ok (), survey.record path ()) := by
    funext path survey
    rw [Survey.meet]
    cases (survey.here path).launch? settings fun _ => mixed <;> rfl
  rw [Survey.run, root, ignored, meets]
  exact @walk_mixed (Survey Unit) (fun _ => mixed) { host := () } _ rfl

theorem look_mixed_links :
    mixed.look ⟨"test/d.wren"⟩ = .error (.system .notFound) ∧
      mixed.look ⟨"test/e.wren"⟩ = .ok (.directory mixedEntries) := by
  have parts : (⟨"test/d.wren"⟩ : Path).parts = ["test", "d.wren"] ∧
      (⟨"test/e.wren"⟩ : Path).parts = ["test", "e.wren"] ∧
      (⟨"gone"⟩ : Path).parts = ["gone"] ∧ (⟨"."⟩ : Path).parts = ["."] := by
    decide
  have relative : (⟨"test/d.wren"⟩ : Path).isAbsolute = false ∧
      (⟨"test/e.wren"⟩ : Path).isAbsolute = false ∧ (⟨"gone"⟩ : Path).isAbsolute = false ∧
      (⟨"."⟩ : Path).isAbsolute = false := by
    decide
  have sizes : "test".utf8ByteSize = 4 ∧ "d.wren".utf8ByteSize = 6 ∧ "e.wren".utf8ByteSize = 6 ∧
      "gone".utf8ByteSize = 4 ∧ "test/d.wren".utf8ByteSize = 11 ∧
      "test/e.wren".utf8ByteSize = 11 := by
    decide
  have listed : mixedEntries.lookup "d.wren" = some (.link ⟨"gone"⟩) ∧
      mixedEntries.lookup "e.wren" = some (.link ⟨"."⟩) ∧ mixedEntries.lookup "gone" = none :=
    ⟨rfl, rfl, rfl⟩
  constructor <;>
    simp [Disk.look, Disk.find, Disk.spot, FileTree.resolve, FileTree.follow, FileTree.trailTo,
      FileTree.pathLimit, FileTree.nameLimit, FileTree.linkLimit, mixed, parts, relative, sizes,
      listed] <;> rfl

theorem readText_mixed :
    mixed.readText ⟨"test/a.wren"⟩ = .ok "// expect: 1" ∧
      mixed.readText ⟨"test/b.wren"⟩ = .ok "// expect: 2" ∧
      mixed.readText ⟨"test/c.wren"⟩ = .ok "// skip: slow" ∧
      mixed.readText ⟨"test/d.wren"⟩ = .error (.system .notFound) ∧
      mixed.readText ⟨"test/e.wren"⟩ = .error (.system .isDirectory) ∧
      mixed.readText ⟨"test/f.wren"⟩ = .error .notText ∧
      mixed.readText ⟨"test/g.wren"⟩ = .ok "// nontest" := by
  have file {name : String} {number : Nat} (named : FileTree.IsName name)
      (listed : mixedEntries.lookup name = some (.file number))
      (short : ((⟨"test"⟩ : Path).entry name).text.utf8ByteSize < FileTree.pathLimit) :
      mixed.look ((⟨"test"⟩ : Path).entry name) = .ok (.file number) :=
    Disk.look_entry look_mixed named listed (by simp) short
  refine ⟨?_, ?_, ?_, ?_, ?_, ?_, ?_⟩
  · exact Disk.readText_file (@file "a.wren" 0 (by decide) rfl (by decide)) rfl rfl
  · exact Disk.readText_file (@file "b.wren" 1 (by decide) rfl (by decide)) rfl rfl
  · exact Disk.readText_file (@file "c.wren" 2 (by decide) rfl (by decide)) rfl rfl
  · exact Disk.readText_of_absent look_mixed_links.1
  · exact Disk.readText_of_refused look_mixed_links.2 rfl
  · have found := @file "f.wren" 3 (by decide) rfl (by decide)
    have decoded : Utf8.read? (mixed.file 3).bytes.toList = none := by
      rw [toList_eq_data_toList]
      decide
    refine (Disk.readText_of_bytes found rfl).trans ?_
    rw [decoded]
  · exact Disk.readText_file (@file "g.wren" 5 (by decide) rfl (by decide)) rfl rfl

/-- The counters after the session. -/
def mixedTally : Tally :=
  { passed := 1, failed := 4, skipped := 1, reasons := SkipCounts.empty.record "slow"
    expectations := 2 }

/-- The events of the session, up to its end. -/
def mixedEvents : List Event := [
  .started "test/a.wren" {}, .launching "test/a.wren",
  .executed ⟨⟨"bin/wren"⟩, "test/a.wren", none, none⟩, .completed "test/a.wren" .passed,
  .started "test/b.wren" { passed := 1, expectations := 1 }, .launching "test/b.wren",
  .executed ⟨⟨"bin/wren"⟩, "test/b.wren", none, none⟩,
  .completed "test/b.wren" (.failed [.outputMismatch "2" 1 "1"]),
  .started "test/c.wren" { passed := 1, failed := 1, expectations := 2 },
  .completed "test/c.wren" (.skipped "slow"),
  .started "test/d.wren" { mixedTally with failed := 1 },
  .completed "test/d.wren" (.failed [.unreadable (Cause.system .notFound).message]),
  .started "test/e.wren" { mixedTally with failed := 2 },
  .completed "test/e.wren" (.failed [.unreadable (Cause.system .isDirectory).message]),
  .started "test/f.wren" { mixedTally with failed := 3 },
  .completed "test/f.wren" (.failed [.unreadable Cause.notText.message]),
  .started "test/g.wren" mixedTally]

/-- A file of the tree that asks for something is run. -/
theorem visitFile_mixed {path : Path} {source : String} {e : Expectations} {verdict : Verdict}
    (selected : ({} : Settings).selects path = true) (read : mixed.readText path = .ok source)
    (parsed : Directive.parse source = .run e)
    (judged : Verdict.ofDiscrepancies (e.judge { stdout := "1\n" } .test) = verdict)
    (events : List Event) (tally : Tally) :
    visitFile {} (fun _ => mixed) printsOne path ⟨events, tally, ()⟩ = (.ok (), ⟨
      events ++ [.started path.shown tally, .launching path.text,
        .executed ⟨⟨"bin/wren"⟩, path.text, e.stdin, none⟩, .completed path.shown verdict],
      if verdict = .passed then (tally.expect e.count).pass 1 else (tally.expect e.count).fail 1,
      ()⟩) := by
  rw [visitFile_apply, if_pos selected, read]
  dsimp only
  rw [parsed]
  dsimp only
  rw [runTest_apply]
  dsimp only [printsOne]
  rw [judged, List.append_assoc, List.append_assoc, List.append_assoc]
  rfl

/-- A file of the tree that cannot be read is counted as failed. -/
theorem visitFile_mixed_unreadable {path : Path} {cause : Cause}
    (selected : ({} : Settings).selects path = true) (read : mixed.readText path = .error cause)
    (events : List Event) (tally : Tally) :
    visitFile {} (fun _ => mixed) printsOne path ⟨events, tally, ()⟩ = (.ok (), ⟨
      events ++ [.started path.shown tally] ++
        [.completed path.shown (.failed [.unreadable cause.message])],
      tally.fail 1, ()⟩) := by
  rw [visitFile_apply, if_pos selected, read]

/-- The session over the tree under this interpreter. -/
theorem run_mixed :
    run {} (fun _ => mixed) printsOne () =
      ⟨mixedEvents ++ [.finished mixedTally], .ok mixedTally, ()⟩ := by
  obtain ⟨a, b, c, d, e, f, g⟩ := readText_mixed
  have selected : ∀ path ∈ mixedPaths.dropLast, ({} : Settings).selects path = true := by decide
  have unselected : ({} : Settings).selects ⟨"test/notes.txt"⟩ = false := by decide
  have asks : ∀ line ∈ ["1", "2"], Directive.parse ("// expect: " ++ line) =
      .run { output := [⟨line, 1⟩], count := 1 } := by
    decide
  have skips : Directive.parse "// skip: slow" = .skip "slow" := by decide
  have nontest : Directive.parse "// nontest" = .nontest := by decide
  have passes := @visitFile_mixed ⟨"test/a.wren"⟩ _ _ .passed (selected _ (by decide)) a
    (asks "1" (by decide)) (by decide)
  have fails := @visitFile_mixed ⟨"test/b.wren"⟩ _ _ (.failed [.outputMismatch "2" 1 "1"])
    (selected _ (by decide)) b (asks "2" (by decide)) (by decide)
  have skipped (events : List Event) (tally : Tally) :
      visitFile {} (fun _ => mixed) printsOne ⟨"test/c.wren"⟩ ⟨events, tally, ()⟩ = (.ok (), ⟨
        events ++ [.started "test/c.wren" tally] ++ [.completed "test/c.wren" (.skipped "slow")],
        tally.skip "slow", ()⟩) := by
    rw [visitFile_apply, if_pos (selected _ (by decide)), c]
    dsimp only
    rw [skips]
    rfl
  have passedOver (events : List Event) (tally : Tally) :
      visitFile {} (fun _ => mixed) printsOne ⟨"test/g.wren"⟩ ⟨events, tally, ()⟩ =
        (.ok (), ⟨events ++ [.started "test/g.wren" tally], tally, ()⟩) := by
    rw [visitFile_apply, if_pos (selected _ (by decide)), g]
    dsimp only
    rw [nontest]
    rfl
  have ignored (state : State Unit) :
      visitFile {} (fun _ => mixed) printsOne ⟨"test/notes.txt"⟩ state = (.ok (), state) := by
    rw [visitFile_apply, unselected, if_neg Bool.false_ne_true]
  have walked := calc
    Walk.walk (fun _ => mixed) ⟨"test"⟩ ["benchmark"] (visitFile {} (fun _ => mixed) printsOne)
        { host := () }
      = _ := walk_mixed _ rfl
    _ = _ := forM_cons_of_ok (passes _ _)
    _ = _ := forM_cons_of_ok (fails _ _)
    _ = _ := forM_cons_of_ok (skipped _ _)
    _ = _ := forM_cons_of_ok (visitFile_mixed_unreadable (selected _ (by decide)) d _ _)
    _ = _ := forM_cons_of_ok (visitFile_mixed_unreadable (selected _ (by decide)) e _ _)
    _ = _ := forM_cons_of_ok (visitFile_mixed_unreadable (selected _ (by decide)) f _ _)
    _ = _ := forM_cons_of_ok (passedOver _ _)
    _ = _ := forM_cons_of_ok (ignored _)
    _ = (.ok (), _) := rfl
  exact @run_of_ok Unit {} (fun _ => mixed) printsOne () _ walked

end Session
end Conformance
