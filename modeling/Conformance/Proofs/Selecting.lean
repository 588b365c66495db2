import Conformance.Proofs.Counting
import Conformance.Proofs.Locations

/-!
# Which files are selected

`Chosen` says of the names below the root whether they are those of a selected file. Main statement:
a session starts the chosen ones of the files that its walk comes to, in the order of the walk, and
passes over the other ones: it does not even read them.
-/

namespace Conformance

open FileTree (IsName WellNamed)

/-! ## Names below the root -/

/-- These names lead from the root to a test file that the selector, if any, lets through. -/
structure Chosen (settings : Settings) (names : List String) : Prop where
  /-- The file name is a stem, a dot and the extension, which has no dot itself. -/
  test : ∃ directories stem, stem ≠ "" ∧ '.' ∉ settings.extension.toList ∧
    names = directories ++ [stem ++ "." ++ settings.extension]
  /-- With slashes between them and for each backslash, the names start with the selector. -/
  selector : ∀ selector, settings.selector = some selector →
    selector.toList <+: (⟨"/".intercalate names⟩ : Path).shown.toList

namespace Path

variable {p : Path} {names : List String}

theorem fileName?_join (text : p.text ≠ "") (named : ∀ name ∈ names, IsName name)
    (below : names ≠ []) : (p.join names).fileName? = names.getLast? := by
  rw [fileName?, components_join text named,
    List.getLast?_append_of_ne_nil _ (by simpa using below), List.getLast?_map]
  cases names.getLast? <;> rfl

theorem relativeTo_join (text : p.text ≠ "") (named : ∀ name ∈ names, IsName name) :
    (p.join names).relativeTo p = ⟨"/".intercalate names⟩ := by
  have stripped : (p.join names).below? p = some (names.map .name) :=
    List.isPrefixOf?_eq_some_iff_append_eq.2 (components_join text named).symm
  have texts : (names.map Component.name).map Component.text = names := by
    rw [List.map_map]
    exact List.map_id names
  rw [relativeTo, stripped]
  dsimp only
  rw [texts]

end Path

variable {settings : Settings} {names : List String}

/-- The last name ends in the extension if it is cut in front of it. -/
theorem ends_iff : (∃ directories stem, stem ≠ "" ∧ '.' ∉ settings.extension.toList ∧
      names = directories ++ [stem ++ "." ++ settings.extension]) ↔
    ∃ cut ∈ names.getLast?.bind Path.splitName?, cut.2 = settings.extension := by
  constructor
  · rintro ⟨directories, stem, more, plain, rfl⟩
    have split := Path.splitName?_eq_some_iff.2 ⟨more, plain, rfl⟩
    rw [List.getLast?_concat, Option.bind_some, split]
    exact ⟨_, rfl, rfl⟩
  · rintro ⟨⟨stem, _⟩, cut, rfl⟩
    obtain ⟨name, last, split⟩ := Option.bind_eq_some_iff.1 cut
    obtain ⟨more, plain, rfl⟩ := Path.splitName?_eq_some_iff.1 split
    obtain ⟨directories, rfl⟩ := List.getLast?_eq_some_iff.1 last
    exact ⟨directories, stem, more, plain, rfl⟩

instance (settings : Settings) (names : List String) : Decidable (Chosen settings names) :=
  decidable_of_iff
    ((names.getLast?.bind Path.splitName?).any (·.2 = settings.extension) ∧
      ∀ selector ∈ settings.selector,
        selector.toList <+: (⟨"/".intercalate names⟩ : Path).shown.toList) <| by
    rw [Option.any_eq_true]
    simp only [decide_eq_true_eq]
    constructor
    · rintro ⟨⟨cut, found, same⟩, selector⟩
      exact ⟨ends_iff.2 ⟨cut, found, same⟩, selector⟩
    · rintro ⟨test, selector⟩
      obtain ⟨cut, found, same⟩ := ends_iff.1 test
      exact ⟨⟨cut, found, same⟩, selector⟩

theorem isTestFile_join (text : settings.root.text ≠ "") (named : ∀ name ∈ names, IsName name)
    (below : names ≠ []) : settings.isTestFile (settings.root.join names) = true ↔
      ∃ directories stem, stem ≠ "" ∧ '.' ∉ settings.extension.toList ∧
        names = directories ++ [stem ++ "." ++ settings.extension] := by
  rw [ends_iff, Settings.isTestFile, beq_iff_eq, Path.extension?,
    Path.fileName?_join text named below]
  cases names.getLast? with
  | none => simp
  | some name =>
    rw [Option.bind_eq_bind, Option.bind_some, Option.bind_some]
    cases Path.splitName? name <;> simp

/-- A session selects the chosen names. -/
theorem selects_join (text : settings.root.text ≠ "") (named : ∀ name ∈ names, IsName name)
    (below : names ≠ []) :
    settings.selects (settings.root.join names) = true ↔ Chosen settings names := by
  rw [Settings.selects, Bool.and_eq_true, isTestFile_join text named below,
    Path.relativeTo_join text named]
  constructor
  · rintro ⟨test, selected⟩
    refine ⟨test, fun selector asked => ?_⟩
    rw [asked] at selected
    exact List.isPrefixOf_iff_prefix.1 selected
  · rintro ⟨test, selected⟩
    refine ⟨test, ?_⟩
    cases asked : settings.selector with
    | none => rfl
    | some selector => exact List.isPrefixOf_iff_prefix.2 (selected selector asked)

namespace Session

open Conformance.Action

variable {σ τ : Type} {disk : σ → Disk} {executor : Executor σ}

/-! ## What a walk comes to -/

/-- These names can lead to something that a walk comes to. -/
def Admitted (settings : Settings) (names : List String) : Prop :=
  ∀ name ∈ names, IsName name ∧ name ∉ settings.ignored

theorem Admitted.snoc {name : String} (admitted : Admitted settings names) (named : IsName name)
    (kept : name ∉ settings.ignored) : Admitted settings (names ++ [name]) := by
  intro other member
  obtain early | late := List.mem_append.1 member
  · exact admitted other early
  · obtain rfl := List.mem_singleton.1 late
    exact ⟨named, kept⟩

/-- The path of a directory that a walk comes to. -/
def DirectoryPath (settings : Settings) (path : Path) : Prop :=
  ∃ names, path = settings.root.join names ∧ Admitted settings names ∧
    (names ≠ [] → settings.root.text ≠ "")

/-- The path of a file that a walk comes to. -/
def FilePath (settings : Settings) (path : Path) : Prop :=
  ∃ names, path = settings.root.join names ∧ Admitted settings names ∧ names ≠ [] ∧
    settings.root.text ≠ ""

theorem DirectoryPath.entry {disk : Disk} {path : Path} {listed : List (String × Bool)}
    {name : String} {isDirectory : Bool} (directory : DirectoryPath settings path)
    (named : WellNamed disk.root) (scanned : Walk.scan disk path = .ok listed)
    (member : (name, isDirectory) ∈ listed) (kept : name ∉ settings.ignored) :
    FilePath settings (path.entry name) := by
  obtain ⟨names, rfl, admitted, text⟩ := directory
  obtain ⟨more, proper⟩ := Walk.names_of_scan named scanned
  refine ⟨names ++ [name], ?_, admitted.snoc (proper _ member) kept, by simp, ?_⟩
  · rw [Path.join, Path.join, List.foldl_concat]
  · cases names with
    | nil => exact more
    | cons first rest => exact text (by simp)

theorem within {disks : τ → Disk} (named : ∀ s, WellNamed (disks s).root) :
    Walk.Within disks settings.ignored (DirectoryPath settings) (FilePath settings) where
  enters s path listed name directory scanned member kept := by
    obtain ⟨names, same, admitted, below, text⟩ := directory.entry (named s) scanned member kept
    exact ⟨names, same, admitted, fun _ => text⟩
  visits s path listed name directory scanned member kept :=
    directory.entry (named s) scanned member kept

theorem directoryPath_root : DirectoryPath settings settings.root :=
  ⟨[], rfl, by simp [Admitted], by simp⟩

/-- The survey has come to files at the ends of these chains of names. -/
def Along (settings : Settings) (walked : List (List String)) (survey : Survey σ) : Prop :=
  survey.met.map Encounter.path = walked.map settings.root.join ∧
    ∀ names ∈ walked, Admitted settings names ∧ names ≠ [] ∧ settings.root.text ≠ ""

theorem along_survey (named : ∀ s, WellNamed (disk s).root) (host : σ) :
    ∃ walked, Along settings walked (Survey.run settings disk executor host).2 := by
  have within : Walk.Within (fun survey : Survey σ => disk survey.host) settings.ignored
      (DirectoryPath settings) (FilePath settings) := within fun survey => named survey.host
  refine Walk.walk_keeps (P := fun survey => ∃ walked, Along settings walked survey) within
    directoryPath_root (fun path file survey along => ?_) ⟨[], rfl, by simp⟩
  obtain ⟨names, rfl, proper⟩ := file
  obtain ⟨walked, met, properToo⟩ := along
  refine ⟨walked ++ [names], ?_, ?_⟩
  · rw [Survey.meet, Survey.record, List.map_append, List.map_append, met]
    rfl
  · rw [List.forall_mem_append, List.forall_mem_singleton]
    exact ⟨properToo, proper⟩

/-! ## What a session starts -/

/-- A session starts the selected files of its survey. -/
theorem starts_run (settings : Settings) (disk : σ → Disk) (executor : Executor σ) (host : σ) :
    starts (run settings disk executor host).events =
      ((selectedFiles settings disk executor host).map Encounter.path).map Path.shown := by
  obtain ⟨files, rest, events, more, tally, selected, whole, trace, tail⟩ :=
    run_tail settings disk executor host
  have chosen : ∀ m ∈ files, m.Selected settings := fun m member =>
    selected_of_mem (selected ▸ List.mem_append_left rest member)
  have early := (trace.agrees chosen Agrees.start).starts
  have late : starts more = rest.map (·.path.shown) := by cases tail <;> rfl
  rw [whole, selected, starts_append, List.map_map, List.map_append, late]
  exact congrArg (· ++ _) early

/-- Whether a file is selected is a matter of its path. -/
theorem filter_selected (met : List (Encounter σ)) :
    (met.filter (·.Selected settings)).map Encounter.path =
      (met.map Encounter.path).filter settings.selects := by
  have same : met.filter (·.Selected settings) =
      met.filter (settings.selects ∘ Encounter.path) := by
    refine List.filter_congr fun m _ => ?_
    simp [Encounter.selected_iff]
  rw [List.filter_map, same]

/-- Files that are not selected are not read: a disk that shows something else in them makes no
    difference. -/
theorem run_unread (named : ∀ s, WellNamed (disk s).root) {other : σ → Disk}
    (lists : ∀ s path, (other s).list path = (disk s).list path)
    (reads : ∀ s names, Chosen settings names →
      (other s).readText (settings.root.join names) = (disk s).readText (settings.root.join names))
    (host : σ) : run settings other executor host = run settings disk executor host := by
  have within : Walk.Within (fun state : State σ => disk state.host) settings.ignored
      (DirectoryPath settings) (FilePath settings) := within fun state => named state.host
  have visits (path : Path) (file : FilePath settings path) :
      visitFile settings disk executor path = visitFile settings other executor path := by
    obtain ⟨names, rfl, admitted, below, text⟩ := file
    funext state
    rw [visitFile_apply, visitFile_apply]
    by_cases selected : settings.selects (settings.root.join names) = true
    · have chosen := (selects_join text (fun name member => (admitted name member).1) below).1
        selected
      rw [reads state.host names chosen]
    · rw [if_neg selected, if_neg selected]
  have alike (path : Path) (file : FilePath settings path) :
      Alike (fun s t => s = t ∧ True) (fun _ s t => s = t ∧ True)
        (visitFile settings disk executor path) (visitFile settings other executor path) :=
    visits path file ▸ .of_keeps fun _ _ => trivial
  have same (path : Path) (s t : State σ) (equal : s = t ∧ True)
      (_ : DirectoryPath settings path) :
      Walk.scan (disk s.host) path = Walk.scan (other t.host) path := by
    rw [equal.1, Walk.scan, Walk.scan, lists]
  have walks := Walk.walk_alike_within within directoryPath_root same (fun _ _ _ _ same => same)
    alike
  rw [run, run, session_apply, session_apply]
  obtain ⟨_, after, _, walked, walkedToo, rfl, -⟩ | ⟨_, after, _, walked, walkedToo, rfl, -⟩ :=
    walks.ends ⟨rfl, trivial⟩
  · rw [walked, walkedToo]
  · rw [walked, walkedToo]

/-! ## Launches that leave the disk alone -/

theorem meet_calm (calm : ∀ launch host, disk (executor launch host).2 = disk host) (path : Path)
    (survey : Survey σ) :
    disk (Survey.meet settings disk executor path survey).2.host = disk survey.host := by
  rw [Survey.meet]
  cases (survey.here path).launch? settings disk with
  | none => rfl
  | some launch => exact calm launch survey.host

theorem forM_meet (paths : List Path) (survey : Survey σ) :
    ∃ taken, taken <+: paths ∧
      ((forM paths (Survey.meet settings disk executor) : Action (Survey σ) Unit)
        survey).2.met.map Encounter.path = survey.met.map Encounter.path ++ taken := by
  induction paths generalizing survey with
  | nil => exact ⟨[], List.prefix_rfl, (List.append_nil _).symm⟩
  | cons path rest ih =>
    have here : (Survey.meet settings disk executor path survey).2.met.map Encounter.path =
        survey.met.map Encounter.path ++ [path] := List.map_append
    rw [List.forM_cons, bind_apply]
    generalize Survey.meet settings disk executor path survey = ended at here ⊢
    obtain ⟨answer, after⟩ := ended
    cases answer with
    | error halt => exact ⟨[path], List.prefix_append [path] rest, here⟩
    | ok _ =>
      obtain ⟨taken, first, more⟩ := ih after
      refine ⟨path :: taken, List.prefix_cons_inj path |>.2 first, more.trans ?_⟩
      rw [here, List.append_assoc]
      rfl

/-- The survey comes to the first files that the bare walk visits, and to all of them unless a
    launch halts. -/
theorem met_prefix_visited (calm : ∀ launch host, disk (executor launch host).2 = disk host)
    (host : σ) : (Survey.run settings disk executor host).2.met.map Encounter.path <+:
      (Walk.visited (disk host) settings.root settings.ignored).2 := by
  rw [Survey.run, Walk.walk_eq_visitAll (meet_calm calm), Walk.visitAll_apply]
  dsimp only
  generalize (Walk.visited (disk host) settings.root settings.ignored).2 = paths
  obtain ⟨taken, first, met⟩ := @forM_meet settings σ disk executor paths { host }
  generalize (forM paths (Survey.meet settings disk executor) : Action (Survey σ) Unit) { host } =
    ended at met ⊢
  obtain ⟨answer, after⟩ := ended
  cases answer <;> exact met ▸ first

/-! ## Sessions -/

end Session
end Conformance
