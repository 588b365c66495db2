import Conformance.Proofs.Evidence

/-!
# One file at a time

Main statement: in a tree without links, with launches that leave the tree alone, no file makes a
difference to another one. The counters of a session are the sums of those of the sessions that find
only one of the files, and between sessions over different trees the files with the same evidence
are completed alike.
-/

namespace Conformance.Session

open Conformance.Action
open FileTree (Linkless)
open Walk (Clear Enumerates)

variable {σ τ : Type} {settings : Settings} {disk : σ → Disk} {disks : τ → Disk}
  {executor : Executor σ} {launcher : Executor τ} {answer : Launch → Outcome} {host : σ} {start : τ}
  {location names : List String} {entries : List (String × FileTree)}

/-! ## Other sessions -/

/-- A session that finds only one of the files completes and counts it as if the others were
    there. -/
theorem run_keepOnly (clear : Clear settings.ignored settings.root (disk host) location entries)
    (picked : Picked settings entries names) (steady : Steady disks launcher answer)
    (there : disks start = (disk host).keepOnly location names) :
    let evidence := Evidence.of settings answer (disk host) (settings.root.join names)
    (run settings disks launcher start).result = .ok (evidence.tally settings) ∧
      completions (run settings disks launcher start).events =
        (evidence.completion settings).toList := by
  obtain ⟨files, listed, ended⟩ := run_evident steady (there ▸ clear.keepOnly names)
  have single : files = [names] := by
    refine (listed.congr fun others => ?_).unique (.single names)
    rw [Picked, clear.leadsToFile_keepOnly picked.1]
    exact ⟨And.left, fun same => ⟨same, same ▸ picked.2⟩⟩
  have same : Evidence.of settings answer (disks start) (settings.root.join names) =
      Evidence.of settings answer (disk host) (settings.root.join names) := by
    rw [Evidence.of, Evidence.of, there, clear.readText_keepOnly picked.1]
  rw [single, List.map_singleton, same] at ended
  obtain ⟨counted, completed⟩ := ended
  refine ⟨counted, completed.trans ?_⟩
  rw [List.filterMap_cons]
  cases Evidence.completion settings _ <;> rfl

/-- Two sessions have told and counted the same, and see the same disk. -/
structure InStep (disk : σ → Disk) (disks : τ → Disk) (shown : Disk) (s : State σ) (t : State τ) :
    Prop where
  events : s.events = t.events
  tally : s.tally = t.tally
  here : disk s.host = shown
  there : disks t.host = shown

/-- Sessions that get the same answers handle a file alike. -/
theorem visitFile_inStep (settings : Settings) (steady : Steady disk executor answer)
    (steadyToo : Steady disks launcher answer) (shown : Disk) (path : Path) :
    Alike (InStep disk disks shown) (fun _ => InStep disk disks shown)
      (visitFile settings disk executor path) (visitFile settings disks launcher path) := by
  rintro ⟨events, tally, host⟩ ⟨_, _, start⟩ ⟨rfl, rfl, here, there⟩
  dsimp only at here there
  rw [visitFile_apply, visitFile_apply]
  by_cases selected : settings.selects path = true
  · rw [if_pos selected, if_pos selected, here, there]
    dsimp only
    cases shown.readText path with
    | error cause => exact ⟨rfl, rfl, rfl, here, there⟩
    | ok source =>
      dsimp only
      cases Directive.parse source with
      | nontest => exact ⟨rfl, rfl, rfl, here, there⟩
      | skip reason => exact ⟨rfl, rfl, rfl, here, there⟩
      | run e =>
        let launch : Launch :=
          ⟨settings.binary, argument settings.kind path, e.stdin, settings.timeout⟩
        obtain ⟨after, ran, kept⟩ := steady.carried launch host
        obtain ⟨later, ranToo, keptToo⟩ := steadyToo.carried launch start
        dsimp only
        rw [runTest_apply, runTest_apply]
        dsimp only
        rw [ran, ranToo]
        exact ⟨rfl, rfl, rfl, kept.trans here, keptToo.trans there⟩
  · rw [if_neg selected, if_neg selected]
    exact ⟨rfl, rfl, rfl, here, there⟩

/-- Sessions that start with the same disk and get the same answers tell the same. -/
theorem run_repeats (settings : Settings) (steady : Steady disk executor answer)
    (steadyToo : Steady disks launcher answer) (there : disks start = disk host) :
    (run settings disks launcher start).events = (run settings disk executor host).events ∧
      (run settings disks launcher start).result = (run settings disk executor host).result := by
  have first : InStep disk disks (disk host) { host } { host := start } := ⟨rfl, rfl, rfl, there⟩
  have walks := (Walk.walk_alike (fun _ _ same => same.here.trans same.there.symm)
    (fun _ _ _ _ same => same) settings.root settings.ignored
    (visitFile_inStep settings steady steadyToo (disk host))).ends first
  rw [run, run, session_apply, session_apply]
  obtain ⟨_, state, after, walked, walkedToo, same⟩ | ⟨_, state, after, walked, walkedToo, same⟩ :=
    walks
  · rw [walked, walkedToo]
    dsimp only
    rw [same.events, same.tally]
    exact ⟨rfl, rfl⟩
  · rw [walked, walkedToo]
    exact ⟨same.events.symm, rfl⟩

/-! ## Sessions over trees that differ -/

/-- What two sessions over different trees have in common. `kept` are the files that both select
    with the same evidence; `gone` and `new` are those that one of them selects besides. -/
structure Common (settings : Settings) (here there : List String → Evidence) (report : Report σ)
    (other : Report τ) (kept gone new : List (List String)) : Prop where
  /-- No file stands in two places. -/
  once : (kept ++ gone).Nodup
  onceToo : (kept ++ new).Nodup
  /-- Files that are kept are completed alike, in the same order. -/
  completed : (kept.filterMap fun names => (here names).completion settings).Sublist
    (completions report.events)
  completedToo : (kept.filterMap fun names => (here names).completion settings).Sublist
    (completions other.events)
  /-- They add the same to the counters. -/
  counted : ∃ tally, report.result = .ok tally ∧
    tally.IsSum (kept.map (fun names => (here names).tally settings) ++
      gone.map fun names => (here names).tally settings)
  countedToo : ∃ tally, other.result = .ok tally ∧
    tally.IsSum (kept.map (fun names => (here names).tally settings) ++
      new.map fun names => (there names).tally settings)

open Classical in
/-- The files that are selected in one of two trees, and those in both with the same evidence. -/
theorem run_common (steady : Steady disk executor answer)
    (clear : Clear settings.ignored settings.root (disk host) location entries)
    {answerToo : Launch → Outcome} (steadyToo : Steady disks launcher answerToo)
    {locationToo : List String} {others : List (String × FileTree)}
    (clearToo : Clear settings.ignored settings.root (disks start) locationToo others) :
    let here names := Evidence.of settings answer (disk host) (settings.root.join names)
    let there names := Evidence.of settings answerToo (disks start) (settings.root.join names)
    ∃ kept gone new, Common settings here there (run settings disk executor host)
        (run settings disks launcher start) kept gone new ∧
      (∀ names, names ∈ kept ↔
        Picked settings entries names ∧ Picked settings others names ∧ here names = there names) ∧
      (∀ names, names ∈ kept ++ gone ↔ Picked settings entries names) ∧
      ∀ names, names ∈ kept ++ new ↔ Picked settings others names := by
  intro here there
  obtain ⟨files, listed, counted, completed⟩ := run_evident steady clear
  obtain ⟨more, listedToo, countedToo, completedToo⟩ := run_evident steadyToo clearToo
  let stays (names : List String) : Bool := Picked settings others names ∧ here names = there names
  let stayed (names : List String) : Bool :=
    Picked settings entries names ∧ here names = there names
  -- Both sessions come to the files that are kept in the same order.
  have same : more.filter stayed = files.filter stays := by
    refine ((listedToo.filter stayed).congr fun names => ?_).unique (listed.filter stays)
    simp only [stays, stayed, decide_eq_true_iff]
    exact and_left_comm
  have alike : ∀ names ∈ more.filter stayed, there names = here names := fun names member =>
    (of_decide_eq_true (List.mem_filter.1 member).2).2.symm
  have parts := List.filter_append_perm stays files
  have partsToo := List.filter_append_perm stayed more
  rw [List.filterMap_map] at completed completedToo
  refine ⟨files.filter stays, files.filter (!stays ·), more.filter (!stayed ·),
    ⟨parts.nodup_iff.2 listed.nodup, same ▸ partsToo.nodup_iff.2 listedToo.nodup, ?_, ?_, ?_, ?_⟩,
    fun names => ?_, fun names => ?_, fun names => ?_⟩
  · rw [completed]
    exact List.filter_sublist.filterMap _
  · rw [completedToo, ← same, List.filterMap_congr fun names member =>
      congrArg (Evidence.completion settings) (alike names member).symm]
    exact List.filter_sublist.filterMap _
  · refine ⟨_, counted, (Evidence.isSum_foldl settings _).perm ?_⟩
    rw [List.map_map, ← List.map_append]
    exact (parts.map _).symm
  · refine ⟨_, countedToo, (Evidence.isSum_foldl settings _).perm ?_⟩
    rw [List.map_map, ← same, List.map_congr_left fun names member =>
      congrArg (Evidence.tally settings) (alike names member).symm, ← List.map_append]
    exact (partsToo.map _).symm
  · rw [List.mem_filter, listed.mem_iff, decide_eq_true_iff]
  · rw [parts.mem_iff, listed.mem_iff]
  · rw [← same, partsToo.mem_iff, listedToo.mem_iff]

/-! ## Trees with two files -/

theorem linkless_nested : Linkless (.directory Walk.nested) := by
  have sub : Linkless (.directory [("a.wren", .file 0)]) := by
    refine .of_entries (by decide) ?_
    rw [List.forall_mem_singleton]
    exact .file 0
  refine .of_entries (by decide) ?_
  rw [Walk.nested, List.forall_mem_cons, List.forall_mem_singleton]
  exact ⟨sub, .file 1⟩

theorem clear_nested :
    Clear ["benchmark"] (Walk.dotted 0) Walk.nestedDisk ["test"] Walk.nested :=
  .of_dotted 0 rfl rfl (by decide) Walk.nested_wellNamed linkless_nested Walk.reachable_nested

/-- An empty test file. -/
def lone : List (String × FileTree) := [("z.wren", .file 1)]

/-- A disk with nothing else. -/
def loneDisk : Disk where
  root := .directory [("test", .directory lone)]
  files := #[{}, {}]

/-- A disk with another test in front of it. -/
def pairDisk : Disk where
  root := .directory [("test", .directory (("a.wren", .file 0) :: lone))]
  files := #[{}, {}]

/-- The disk after a file has been overwritten with what is no text. -/
def overwritten (disk : Disk) : Disk :=
  disk.alterFile 1 fun file => { file with bytes := ⟨#[0xFF]⟩ }

/-- An interpreter that prints nothing, and overwrites a test file. -/
def overwrites : Executor Disk := fun _ disk => (.ok {}, overwritten disk)

/-- An empty file is run as a test that asks for nothing. -/
theorem visitFile_empty {path : Path} {state : State σ}
    (selected : ({} : Settings).selects path = true)
    (read : (disk state.host).readText path = .ok "") :
    visitFile {} disk executor path state = runTest {} executor path {}
      { state with events := state.events ++ [.started path.shown state.tally] } := by
  have parsed : Directive.parse "" = .run {} := by decide
  rw [visitFile_apply, if_pos selected, read]
  dsimp only
  rw [parsed]

/-- It passes if nothing is printed. -/
theorem judge_blank : Verdict.ofDiscrepancies (Expectations.judge {} {} .test) = .passed := by
  decide

/-- An empty test passes under this interpreter. -/
theorem visitFile_blank {path : Path} {state : State Disk}
    (selected : ({} : Settings).selects path = true) (read : state.host.readText path = .ok "") :
    visitFile {} id overwrites path state = (.ok (), {
      events := state.events ++ [.started path.shown state.tally, .launching path.text,
        .executed ⟨⟨"bin/wren"⟩, path.text, none, none⟩, .completed path.shown .passed]
      tally := (state.tally.expect 0).pass 1
      host := overwritten state.host }) := by
  rw [@visitFile_empty Disk id overwrites path state selected read, runTest_apply]
  dsimp only [overwrites]
  rw [judge_blank, List.append_assoc, List.append_assoc, List.append_assoc]
  rfl

theorem look_entry_test {disk : Disk} {entries : List (String × FileTree)} {name : String}
    {number : Nat} (root : disk.root = .directory [("test", .directory entries)])
    (working : disk.working = []) (named : FileTree.IsName name)
    (listed : entries.lookup name = some (.file number))
    (short : ((⟨"test"⟩ : Path).entry name).text.utf8ByteSize < FileTree.pathLimit) :
    disk.look ⟨"test"⟩ = .ok (.directory entries) ∧
      disk.look ((⟨"test"⟩ : Path).entry name) = .ok (.file number) := by
  have found : disk.look ⟨"test"⟩ = .ok (.directory entries) :=
    Disk.look_iff_leads.2 ⟨_, @Walk.leads_dotted disk entries 0 root working (by decide)⟩
  exact ⟨found, Disk.look_entry found named listed (by simp) short⟩

theorem look_lone : loneDisk.look ⟨"test"⟩ = .ok (.directory lone) ∧
    loneDisk.look ((⟨"test"⟩ : Path).entry "z.wren") = .ok (.file 1) :=
  look_entry_test rfl rfl (by decide) rfl (by decide)

theorem look_pair {name : String} {number : Nat} (named : FileTree.IsName name)
    (listed : (("a.wren", .file 0) :: lone).lookup name = some (.file number))
    (short : ((⟨"test"⟩ : Path).entry name).text.utf8ByteSize < FileTree.pathLimit) :
    pairDisk.look ⟨"test"⟩ = .ok (.directory (("a.wren", .file 0) :: lone)) ∧
      pairDisk.look ((⟨"test"⟩ : Path).entry name) = .ok (.file number) :=
  look_entry_test rfl rfl named listed short

theorem readText_pair : pairDisk.readText ((⟨"test"⟩ : Path).entry "a.wren") = .ok "" ∧
    pairDisk.readText ((⟨"test"⟩ : Path).entry "z.wren") = .ok "" :=
  ⟨Disk.readText_file (look_pair (by decide) rfl (by decide)).2 rfl rfl,
    Disk.readText_file (look_pair (by decide) rfl (by decide)).2 rfl rfl⟩

theorem readText_lone : loneDisk.readText ((⟨"test"⟩ : Path).entry "z.wren") = .ok "" :=
  Disk.readText_file look_lone.2 rfl rfl

theorem run_lone : completions (run {} id overwrites loneDisk).events =
    [.completed "test/z.wren" .passed] := by
  have selected : ({} : Settings).selects ((⟨"test"⟩ : Path).entry "z.wren") = true := by decide
  have walked : Walk.walk (fun state : State Disk => id state.host) ⟨"test"⟩ ["benchmark"]
      (visitFile {} id overwrites) { host := loneDisk } = _ :=
    Walk.walk_single _ look_lone.1 rfl (by decide)
  rw [visitFile_blank selected readText_lone] at walked
  rw [@run_of_ok Disk {} id overwrites loneDisk _ walked]
  rfl

theorem readText_overwritten :
    (overwritten pairDisk).readText ((⟨"test"⟩ : Path).entry "z.wren") = .error .notText := by
  have found : (overwritten pairDisk).look ((⟨"test"⟩ : Path).entry "z.wren") = .ok (.file 1) :=
    (look_entry_test rfl rfl (by decide) rfl (by decide)).2
  have wrong : Utf8.read? ((overwritten pairDisk).file 1).bytes.toList = none := by
    rw [toList_eq_data_toList]
    decide
  rw [Disk.readText_of_bytes found rfl, wrong]

theorem selects_pair : ({} : Settings).selects ((⟨"test"⟩ : Path).entry "a.wren") = true ∧
    ({} : Settings).selects ((⟨"test"⟩ : Path).entry "z.wren") = true := by
  decide

theorem walk_pair {disks : τ → Disk} {s : τ} (visit : Path → Action τ Unit)
    (there : disks s = pairDisk) :
    Walk.walk disks ⟨"test"⟩ ["benchmark"] visit s =
      (forM [(⟨"test"⟩ : Path).entry "a.wren", (⟨"test"⟩ : Path).entry "z.wren"] visit :
        Action τ Unit) s := by
  have found := (@look_pair "a.wren" 0 (by decide) rfl (by decide)).1
  have paths : (Walk.arrange (Walk.kinds (("a.wren", .file 0) :: lone))).map
      (fun entry => (⟨"test"⟩ : Path).entry entry.1) =
        [(⟨"test"⟩ : Path).entry "a.wren", (⟨"test"⟩ : Path).entry "z.wren"] := by
    decide
  rw [← paths]
  exact Walk.walk_flat visit (there ▸ found) (by decide)

theorem run_pair : completions (run {} id overwrites pairDisk).events =
    [.completed "test/a.wren" .passed,
      .completed "test/z.wren" (.failed [.unreadable Cause.notText.message])] := by
  have walked := @walk_pair (State Disk) (fun state => id state.host) { host := pairDisk }
    (visitFile {} id overwrites) rfl
  rw [forM_cons_of_ok (visitFile_blank selects_pair.1 readText_pair.1), List.forM_cons, bind_apply,
    visitFile_apply, if_pos selects_pair.2, id_eq, readText_overwritten] at walked
  rw [@run_of_ok Disk {} id overwrites pairDisk _ walked]
  rfl

theorem readText_dotted (disk : Disk) {steps : Nat} (long : FileTree.pathLimit ≤ 2 * steps + 10) :
    disk.readText ((Walk.dotted steps).entry "z.wren") = .error (.system .nameTooLong) := by
  have size : "z.wren".utf8ByteSize = 6 := by decide
  have longer := Path.size_add_le_size_entry (Walk.dotted steps) "z.wren"
  rw [Walk.size_dotted, size] at longer
  exact Disk.readText_long (Disk.noNul_entry (Walk.noNul_dotted steps) (by decide)) (by omega)

theorem run_dotted_nested {steps : Nat} (short : 2 * steps + 4 < FileTree.pathLimit)
    (long : FileTree.pathLimit ≤ 2 * steps + 7) :
    completions (run { root := Walk.dotted steps } (fun _ => Walk.nestedDisk) printsOne ()).events =
      [] := by
  have kept : "sub" ∉ ["benchmark"] := by decide
  have ended := @run_of_halt Unit { root := Walk.dotted steps } (fun _ => Walk.nestedDisk) printsOne
    () _ _ (Walk.walk_dotted rfl kept short long)
  rw [ended]
  rfl

theorem run_dotted_lone {steps : Nat} (short : 2 * steps + 4 < FileTree.pathLimit)
    (long : FileTree.pathLimit ≤ 2 * steps + 10) :
    completions (run { root := Walk.dotted steps } (fun _ => loneDisk) printsOne ()).events =
      [.completed ((Walk.dotted steps).entry "z.wren").shown
        (.failed [.unreadable (Cause.system .nameTooLong).message])] := by
  have found : loneDisk.look (Walk.dotted steps) = .ok (.directory lone) :=
    Disk.look_iff_leads.2 ⟨_, Walk.leads_dotted rfl rfl short⟩
  have walked := @Walk.walk_single ["benchmark"] "z.wren" (.file 1) (State Unit)
    (fun _ => loneDisk) (Walk.dotted steps) { host := () }
    (visitFile { root := Walk.dotted steps } (fun _ => loneDisk) printsOne) found rfl (by decide)
  have selected := selects_dotted steps
  rw [Path.join_cons, Path.join_nil] at selected
  rw [visitFile_apply, if_pos selected, readText_dotted loneDisk long] at walked
  rw [@run_of_ok Unit { root := Walk.dotted steps } (fun _ => loneDisk) printsOne () _ walked]
  rfl

/-! ## Files by themselves -/

/-- In a tree without links that is walked to its end, with launches that are answered one by one
    and leave the tree alone, each selected file is completed as its path, its content and the
    answer to its launch say, and the counters are the sums of those of the sessions that find only
    one of the files. Between sessions over different trees, the files with the same evidence make
    no difference, and a session over the same tree tells the same again. -/
theorem completed_alone (steady : Steady disk executor answer)
    (clear : Clear settings.ignored settings.root (disk host) location entries) :
    let here names := Evidence.of settings answer (disk host) (settings.root.join names)
    let report := run settings disk executor host
    ∃ files tally, Enumerates (Picked settings entries) files ∧ report.result = .ok tally ∧
      completions report.events = files.filterMap (fun names => (here names).completion settings) ∧
      tally.IsSum (files.map fun names => (here names).tally settings) ∧
      (∀ names ∈ files, ∀ {τ : Type} (disks : τ → Disk) (launcher : Executor τ) (start : τ),
        Steady disks launcher answer → disks start = (disk host).keepOnly location names →
          (run settings disks launcher start).result = .ok ((here names).tally settings) ∧
          completions (run settings disks launcher start).events =
            ((here names).completion settings).toList) ∧
      (∀ {τ : Type} (disks : τ → Disk) (launcher : Executor τ) (start : τ)
          (answerToo : Launch → Outcome) (locationToo : List String)
          (others : List (String × FileTree)),
        Steady disks launcher answerToo →
        Clear settings.ignored settings.root (disks start) locationToo others →
          let there names := Evidence.of settings answerToo (disks start) (settings.root.join names)
          ∃ kept gone new,
            Common settings here there report (run settings disks launcher start) kept gone new ∧
            (∀ names, names ∈ kept ↔ Picked settings entries names ∧
              Picked settings others names ∧ here names = there names) ∧
            (∀ names, names ∈ kept ++ gone ↔ Picked settings entries names) ∧
            ∀ names, names ∈ kept ++ new ↔ Picked settings others names) ∧
      ∀ {τ : Type} (disks : τ → Disk) (launcher : Executor τ) (start : τ),
        Steady disks launcher answer → disks start = disk host →
          (run settings disks launcher start).events = report.events ∧
          (run settings disks launcher start).result = report.result := by
  intro here report
  obtain ⟨files, listed, counted, completed⟩ := run_evident steady clear
  rw [List.filterMap_map] at completed
  have sum := Evidence.isSum_foldl settings (files.map here)
  rw [List.map_map] at sum
  refine ⟨files, _, listed, counted, completed, sum, ?_, ?_, ?_⟩
  · intro names member τ disks launcher start steadyToo there
    exact run_keepOnly clear ((listed.mem_iff names).1 member) steadyToo there
  · intro τ disks launcher start answerToo locationToo others steadyToo clearToo
    exact run_common steady clear steadyToo clearToo
  · intro τ disks launcher start steadyToo there
    exact run_repeats settings steady steadyToo there

/-- In the tree with two files. -/
theorem completed_alone_nested :
    let answer (_ : Launch) : Outcome := { stdout := "1\n" }
    let here (names : List String) :=
      Evidence.of {} answer Walk.nestedDisk ((Walk.dotted 0).join names)
    let report := run {} (fun _ => Walk.nestedDisk) printsOne ()
    Steady (fun _ => Walk.nestedDisk) printsOne answer ∧
      Clear ["benchmark"] (Walk.dotted 0) Walk.nestedDisk ["test"] Walk.nested ∧
      ∃ (files : List (List String)) (tally : Tally), ["sub", "a.wren"] ∈ files ∧
        ["z.wren"] ∈ files ∧ report.result = .ok tally ∧
        completions report.events = files.filterMap (fun names => (here names).completion {}) ∧
        tally.IsSum (files.map fun names => (here names).tally {}) ∧
        completions (run {} (fun _ => Walk.nestedDisk.keepOnly ["test"] ["z.wren"]) printsOne
          ()).events = ((here ["z.wren"]).completion {}).toList := by
  intro answer here report
  have steady (disk : Disk) : Steady (fun _ : Unit => disk) printsOne answer :=
    ⟨fun _ _ => rfl, fun _ _ => rfl⟩
  obtain ⟨files, tally, listed, ended, completed, sum, single, -⟩ :=
    @completed_alone Unit {} (fun _ => Walk.nestedDisk) printsOne answer () ["test"] _
      (steady _) clear_nested
  have first : ["sub", "a.wren"] ∈ files :=
    (listed.mem_iff _).2 ⟨⟨by simp, by decide, rfl⟩, by decide⟩
  have second : ["z.wren"] ∈ files := (listed.mem_iff _).2 ⟨⟨by simp, by decide, rfl⟩, by decide⟩
  exact ⟨steady _, clear_nested, files, tally, first, second, ended, completed, sum,
    (single _ second (fun _ => Walk.nestedDisk.keepOnly ["test"] ["z.wren"]) printsOne ()
      (steady _) rfl).2⟩

/-- Two ways in which a file is completed otherwise when another one is added, although its path,
    its content at the start and the answer to its launch stay the same. Beside a directory whose
    path is too long to be listed, it is not completed at all. After a launch that overwrites it, it
    fails. -/
theorem completed_otherwise :
    (Linkless (.directory Walk.nested) ∧ Linkless (.directory lone) ∧
      Linkless (.directory (("a.wren", .file 0) :: lone))) ∧
    (let path := (Walk.dotted 2045).entry "z.wren"
     (∀ launch host, (printsOne launch host).1 = .ok { stdout := "1\n" }) ∧
      Walk.nestedDisk.readText path = loneDisk.readText path ∧
      completions
        (run { root := Walk.dotted 2045 } (fun _ => Walk.nestedDisk) printsOne ()).events = [] ∧
      completions (run { root := Walk.dotted 2045 } (fun _ => loneDisk) printsOne ()).events =
        [.completed path.shown (.failed [.unreadable (Cause.system .nameTooLong).message])]) ∧
    (let path : Path := ⟨"test/z.wren"⟩
     (∀ launch host, (overwrites launch host).1 = .ok {}) ∧
      pairDisk.readText path = loneDisk.readText path ∧
      completions (run {} id overwrites pairDisk).events = [.completed "test/a.wren" .passed,
        .completed path.shown (.failed [.unreadable Cause.notText.message])] ∧
      completions (run {} id overwrites loneDisk).events = [.completed path.shown .passed]) := by
  have short : 2 * 2045 + 4 < FileTree.pathLimit := by decide
  have long : FileTree.pathLimit ≤ 2 * 2045 + 10 := by decide
  have file (number : Nat) : Linkless (.file number) := .file number
  refine ⟨⟨linkless_nested, ?_, ?_⟩, ⟨fun _ _ => rfl, ?_, ?_, run_dotted_lone short long⟩,
    fun _ _ => rfl, ?_, run_pair, run_lone⟩
  · exact .of_entries (by decide) (by simp [lone, file])
  · exact .of_entries (by decide) (by simp [lone, file])
  · exact (readText_dotted _ long).trans (readText_dotted _ long).symm
  · exact run_dotted_nested short (by decide)
  · exact readText_pair.2.trans readText_lone.symm

end Conformance.Session
