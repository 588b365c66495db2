import Conformance.Proofs.Selecting
import Conformance.Proofs.Thinning

/-!
# What a file has to show for itself

`Evidence` is what the verdict on a file rests on: its path, what it reads as, and how its launch
came out. Main statement: in a tree without links, with launches that leave the tree alone, a
session comes to its end, and completes and counts each selected file as its evidence says.
-/

namespace Conformance

open Walk (LeadsToFile Clear Enumerates)

variable {σ : Type}

/-! ## Evidence -/

/-- What a file has to show for itself. -/
structure Evidence where
  path : Path
  content : Except Cause String
  /-- How its launch came out, if it asks for one. -/
  outcome : Option Outcome

namespace Evidence

/-- What a file asks for that reads like this, if it is to be run. -/
def asked? (content : Except Cause String) : Option Expectations :=
  (content.toOption.map Directive.parse).bind Directive.asked?

/-- What a file on a disk has to show, if launches are answered like this. -/
def of (settings : Settings) (answer : Launch → Outcome) (disk : Disk) (path : Path) :
    Evidence where
  path := path
  content := disk.readText path
  outcome := (asked? (disk.readText path)).map fun e =>
    answer ⟨settings.binary, Session.argument settings.kind path, e.stdin, settings.timeout⟩

/-- The number of marks that the file has if it is to be run. -/
def marks (evidence : Evidence) : Nat := ((asked? evidence.content).map (·.count)).getD 0

/-- How the file comes out, unless it is no test. -/
def verdict (settings : Settings) (evidence : Evidence) : Option Verdict :=
  match evidence.content with
  | .error cause => some (.failed [.unreadable cause.message])
  | .ok source =>
    match Directive.parse source with
    | .nontest => none
    | .skip reason => some (.skipped reason)
    | .run e => evidence.outcome.map fun outcome =>
        .ofDiscrepancies (e.judge outcome settings.kind)

/-- How the file is reported to be completed. -/
def completion (settings : Settings) (evidence : Evidence) : Option Event :=
  (evidence.verdict settings).map (.completed evidence.path.shown)

/-- The counters after this file. -/
def add (settings : Settings) (tally : Tally) (evidence : Evidence) : Tally :=
  tally.note evidence.marks (evidence.verdict settings)

/-- The counters of the file alone. -/
def tally (settings : Settings) (evidence : Evidence) : Tally := evidence.add settings {}

variable {settings : Settings} {answer : Launch → Outcome} {disk : Disk} {path : Path}

theorem judged_of_error {cause : Cause} (read : disk.readText path = .error cause) :
    (of settings answer disk path).verdict settings =
        some (.failed [.unreadable cause.message]) ∧
      (of settings answer disk path).marks = 0 := by
  rw [verdict, marks, of, read]
  exact ⟨rfl, rfl⟩

theorem judged_of_parse {source : String} (read : disk.readText path = .ok source) :
    (of settings answer disk path).verdict settings = (match Directive.parse source with
      | .nontest => none
      | .skip reason => some (.skipped reason)
      | .run e => some (.ofDiscrepancies (e.judge (answer ⟨settings.binary,
          Session.argument settings.kind path, e.stdin, settings.timeout⟩) settings.kind))) ∧
      (of settings answer disk path).marks =
        ((Directive.parse source).asked?.map (·.count)).getD 0 := by
  rw [verdict, marks, of, read]
  refine ⟨?_, rfl⟩
  dsimp only
  cases parsed : Directive.parse source with
  | run e => simp [asked?, Except.toOption, parsed, Directive.asked?]
  | _ => rfl

theorem isSum_foldl (settings : Settings) (evidence : List Evidence) :
    (evidence.foldl (add settings) {}).IsSum (evidence.map (tally settings)) := by
  induction evidence using List.reverseRecOn with
  | nil => exact .nil
  | append_singleton evidence last ih =>
    rw [List.foldl_concat, List.map_append, List.map_singleton]
    exact ih.note _ _

end Evidence

namespace Session

open Conformance.Action

variable {settings : Settings} {disk : σ → Disk} {executor : Executor σ}
  {answer : Launch → Outcome} {m : Encounter σ} {files : List (Encounter σ)}
  {events more : List Event} {tally next last : Tally} {host : σ}

/-- What a session reports to be completed. -/
def completions (events : List Event) : List Event := events.filter (·.verdict?.isSome)

theorem completions_append (events more : List Event) :
    completions (events ++ more) = completions events ++ completions more := List.filter_append ..

/-- Launches are answered one by one, and leave the disk alone. -/
structure Steady (disk : σ → Disk) (executor : Executor σ) (answer : Launch → Outcome) : Prop where
  answers : ∀ launch host, (executor launch host).1 = .ok (answer launch)
  calm : ∀ launch host, disk (executor launch host).2 = disk host

theorem Steady.carried (steady : Steady disk executor answer) (launch : Launch) (host : σ) :
    ∃ after, executor launch host = (.ok (answer launch), after) ∧ disk after = disk host :=
  ⟨_, Prod.ext (steady.answers launch host) rfl, steady.calm launch host⟩

/-- A file is reported as its evidence says. -/
theorem Reported.evident (steady : Steady disk executor answer)
    (selected : settings.selects m.path = true)
    (reported : Reported settings disk executor m tally more last) :
    completions more =
        ((Evidence.of settings answer (disk m.host) m.path).completion settings).toList ∧
      last = (Evidence.of settings answer (disk m.host) m.path).add settings tally := by
  rw [Evidence.completion, Evidence.add]
  cases reported with
  | unreadable read =>
    obtain ⟨judged, marked⟩ := Evidence.judged_of_error read
    rw [judged, marked]
    exact ⟨rfl, rfl⟩
  | nontest read parsed =>
    obtain ⟨judged, marked⟩ := Evidence.judged_of_parse read
    rw [judged, marked, parsed]
    exact ⟨rfl, rfl⟩
  | skipped read parsed =>
    obtain ⟨judged, marked⟩ := Evidence.judged_of_parse read
    rw [judged, marked, parsed]
    exact ⟨rfl, rfl⟩
  | passed read parsed asks ran agreed =>
    obtain rfl := asks.unique (asks_launch selected parsed)
    rw [steady.answers] at ran
    obtain rfl := Except.ok.inj ran
    obtain ⟨judged, marked⟩ := Evidence.judged_of_parse read
    rw [judged, marked, parsed]
    dsimp only [Encounter.launch] at agreed ⊢
    rw [agreed]
    exact ⟨rfl, rfl⟩
  | failed read parsed asks ran agreed =>
    obtain rfl := asks.unique (asks_launch selected parsed)
    rw [steady.answers] at ran
    obtain rfl := Except.ok.inj ran
    obtain ⟨judged, marked⟩ := Evidence.judged_of_parse read
    rw [judged, marked, parsed]
    dsimp only [Encounter.launch] at agreed ⊢
    obtain ⟨discrepancy, rest, found⟩ := List.exists_cons_of_ne_nil agreed
    rw [found]
    exact ⟨rfl, rfl⟩

/-- Files are reported one by one as their evidence says. -/
theorem Trace.evident (steady : Steady disk executor answer) {shown : Disk}
    (trace : Trace settings disk executor tally files events last)
    (selected : ∀ m ∈ files, m.Selected settings) (same : ∀ m ∈ files, disk m.host = shown) :
    let evidence := (files.map Encounter.path).map (Evidence.of settings answer shown)
    completions events = evidence.filterMap (Evidence.completion settings) ∧
      last = evidence.foldl (Evidence.add settings) tally := by
  induction trace with
  | nil => exact ⟨rfl, rfl⟩
  | cons here _ ih =>
    obtain ⟨chosen, selected⟩ := List.forall_mem_cons.1 selected
    obtain ⟨there, same⟩ := List.forall_mem_cons.1 same
    obtain ⟨completed, rfl⟩ := here.evident steady (Encounter.selected_iff.1 chosen)
    obtain ⟨later, counted⟩ := ih selected same
    rw [there] at completed counted
    refine ⟨?_, counted⟩
    rw [completions_append, completed, later, List.map_cons, List.map_cons, List.filterMap_cons]
    cases Evidence.completion settings _ <;> rfl

/-- If launches leave the disk alone, it is the same for all files that the survey comes to. -/
theorem survey_calm (calm : ∀ launch host, disk (executor launch host).2 = disk host) (host : σ) :
    ∀ m ∈ (Survey.run settings disk executor host).2.met, disk m.host = disk host := by
  refine (Walk.walk_keeps (P := fun survey : Survey σ => disk survey.host = disk host ∧
    ∀ m ∈ survey.met, disk m.host = disk host) (.anywhere _ _) trivial
    (fun path _ survey before => ?_) ⟨rfl, by simp⟩).2
  obtain ⟨there, same⟩ := before
  refine ⟨(meet_calm calm path survey).trans there, ?_⟩
  rw [Survey.meet, Survey.record, List.forall_mem_append, List.forall_mem_singleton]
  exact ⟨same, there⟩

variable {location : List String} {entries : List (String × FileTree)}

/-- The names of the files that are selected in the directory of the root. -/
def Picked (settings : Settings) (entries : List (String × FileTree)) (names : List String) :
    Prop :=
  LeadsToFile settings.ignored (.directory entries) names ∧
    settings.selects (settings.root.join names) = true

/-- A session comes to its end, and reports and counts the selected files as their evidence says. -/
theorem run_evident (steady : Steady disk executor answer)
    (clear : Clear settings.ignored settings.root (disk host) location entries) :
    ∃ files, Enumerates (Picked settings entries) files ∧
      let evidence := files.map fun names =>
        Evidence.of settings answer (disk host) (settings.root.join names)
      (run settings disk executor host).result =
          .ok (evidence.foldl (Evidence.add settings) {}) ∧
        completions (run settings disk executor host).events =
          evidence.filterMap (Evidence.completion settings) := by
  obtain ⟨files, listed, walked⟩ :=
    Walk.visited_records clear.found clear.namedEntries clear.listable
  have answers (launch : Launch) (host : σ) : ∃ outcome, (executor launch host).1 = .ok outcome :=
    ⟨_, steady.answers launch host⟩
  rw [visited_survey answers steady.calm] at walked
  have same := @survey_calm _ settings disk executor steady.calm host
  refine ⟨files.filter (settings.selects ∘ settings.root.join), listed.filter .., ?_⟩
  obtain ⟨state, survey, surveyed, follows, ended⟩ | ⟨halt, _, survey, surveyed, -⟩ :=
    run_ends settings disk executor host
  · rw [surveyed] at walked same
    rw [ended]
    obtain ⟨-, met⟩ := Prod.mk.inj walked
    have evident := follows.trace.evident steady
      (fun m member => by simpa using (List.mem_filter.1 member).2)
      fun m member => same m (List.mem_filter.1 member).1
    rw [filter_selected, met, List.filter_map, List.map_map] at evident
    obtain ⟨completed, counted⟩ := evident
    refine ⟨congrArg Except.ok counted, ?_⟩
    rw [completions_append, completed]
    exact List.append_nil _
  · rw [surveyed] at walked
    cases (Prod.mk.inj walked).1

end Session
end Conformance
