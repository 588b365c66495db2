import Conformance.Proofs.Walking

/-!
# Walks whose visits leave the disk alone

A walk that only takes down the paths of its visits shows what a walk comes to. Main statement: a
walk whose visits leave the disk as it is visits these paths in a row, up to the first visit that
halts, and ends as the bare walk does if none halts.
-/

namespace Conformance.Walk

open Conformance.Action

variable {σ : Type}

/-- A visit that takes down the path. -/
def record (path : Path) : Action (List Path) Unit := modify (· ++ [path])

/-- How a walk that takes down the paths of its visits ends, and these paths. -/
def visited (disk : Disk) (root : Path) (ignored : List String) : Except Halt Unit × List Path :=
  walk (fun _ => disk) root ignored record []

/-- The visits to some paths, one after the other, and how the walk ends after them. -/
def visitAll (visit : Path → Action σ Unit) (paths : List Path) (ended : Except Halt Unit) :
    Action σ Unit := do
  forM paths visit
  match ended with
  | .ok () => pure ()
  | .error halt => throw halt

/-- On this disk, one action takes down the paths that the other one visits, and ends as that does
    after them. -/
def Replays (disk : Disk) (disks : σ → Disk) (visit : Path → Action σ Unit)
    (bare : Action (List Path) Unit) (action : Action σ Unit) : Prop :=
  ∃ paths ended, (∀ earlier, bare earlier = (ended, earlier ++ paths)) ∧
    ∀ s, disks s = disk → action s = visitAll visit paths ended s

variable {disk : Disk} {disks : σ → Disk} {visit : Path → Action σ Unit} {ignored : List String}
  {bare bareNext : Action (List Path) Unit} {action next : Action σ Unit}

theorem visitAll_apply (paths : List Path) (ended : Except Halt Unit) (s : σ) :
    visitAll visit paths ended s = match (forM paths visit : Action σ Unit) s with
      | (.ok (), after) => (ended, after)
      | (.error halt, after) => (.error halt, after) := by
  unfold visitAll
  rw [bind_apply]
  generalize (forM paths visit : Action σ Unit) s = visits
  obtain ⟨answer, after⟩ := visits
  cases answer with
  | error halt => rfl
  | ok _ => cases ended <;> rfl

theorem visitAll_single (path : Path) : visitAll visit [path] (.ok ()) = visit path := by
  funext s
  rw [visitAll_apply, List.forM_cons, bind_apply]
  generalize visit path s = visits
  obtain ⟨answer, after⟩ := visits
  cases answer <;> rfl

/-- Nothing follows visits after which a walk halts. -/
theorem visitAll_error_bind (paths : List Path) (halt : Halt) (next : Action σ Unit) :
    (visitAll visit paths (.error halt) >>= fun _ => next) =
      visitAll visit paths (.error halt) := by
  funext s
  rw [bind_apply, visitAll_apply]
  generalize (forM paths visit : Action σ Unit) s = visits
  obtain ⟨answer, after⟩ := visits
  cases answer <;> rfl

theorem visitAll_append (paths more : List Path) (last : Except Halt Unit) (s : σ) :
    visitAll visit (paths ++ more) last s = match (forM paths visit : Action σ Unit) s with
      | (.ok (), after) => visitAll visit more last after
      | (.error halt, after) => (.error halt, after) := by
  rw [visitAll_apply, List.forM_append, bind_apply]
  generalize (forM paths visit : Action σ Unit) s = visits
  obtain ⟨answer, after⟩ := visits
  cases answer with
  | error halt => rfl
  | ok _ => exact (visitAll_apply more last after).symm

theorem forM_calm (calm : ∀ path s, disks (visit path s).2 = disks s) (paths : List Path) (s : σ) :
    disks ((forM paths visit : Action σ Unit) s).2 = disks s := by
  induction paths generalizing s with
  | nil => rfl
  | cons path rest ih =>
    have first := calm path s
    rw [List.forM_cons, bind_apply]
    generalize visit path s = visits at first ⊢
    obtain ⟨answer, after⟩ := visits
    cases answer with
    | ok _ => exact (ih after).trans first
    | error halt => exact first

namespace Replays

theorem nothing : Replays disk disks visit (pure ()) (pure ()) :=
  ⟨[], .ok (), fun earlier => by rw [List.append_nil]; rfl, fun _ _ => rfl⟩

theorem throw (halt : Halt) : Replays disk disks visit (throw halt) (throw halt) :=
  ⟨[], .error halt, fun earlier => by rw [List.append_nil]; rfl, fun _ _ => rfl⟩

theorem visiting (path : Path) : Replays disk disks visit (record path) (visit path) :=
  ⟨[path], .ok (), fun _ => rfl, fun s _ => (congrFun (visitAll_single path) s).symm⟩

theorem bind (calm : ∀ path s, disks (visit path s).2 = disks s)
    (first : Replays disk disks visit bare action)
    (second : Replays disk disks visit bareNext next) :
    Replays disk disks visit (bare >>= fun _ => bareNext) (action >>= fun _ => next) := by
  obtain ⟨paths, ended, does, replays⟩ := first
  obtain ⟨more, last, doesToo, replaysToo⟩ := second
  cases ended with
  | error halt =>
    refine ⟨paths, .error halt, fun earlier => by rw [bind_apply, does], fun s same => ?_⟩
    rw [← visitAll_error_bind paths halt next, bind_apply, bind_apply, replays s same]
  | ok _ =>
    refine ⟨paths ++ more, last, fun earlier => ?_, fun s same => ?_⟩
    · rw [bind_apply, does]
      dsimp only
      rw [doesToo, List.append_assoc]
    · have kept := forM_calm calm paths s
      rw [bind_apply, replays s same, visitAll_apply, visitAll_append]
      generalize (forM paths visit : Action σ Unit) s = visits at kept ⊢
      obtain ⟨answer, after⟩ := visits
      cases answer with
      | error halt => rfl
      | ok _ => exact replaysToo after (kept.trans same)

end Replays

theorem visitEntries_replays (calm : ∀ path s, disks (visit path s).2 = disks s)
    {bareEnter : Path → Action (List Path) Unit} {enter : Path → Action σ Unit}
    (enters : ∀ path, Replays disk disks visit (bareEnter path) (enter path)) (path : Path)
    (entries : List (String × Bool)) :
    Replays disk disks visit (visitEntries ignored record bareEnter path entries)
      (visitEntries ignored visit enter path entries) := by
  induction entries with
  | nil => exact .nothing
  | cons entry rest ih =>
    obtain ⟨name, isDirectory⟩ := entry
    by_cases left : name ∈ ignored
    · rw [visitEntries_ignored left, visitEntries_ignored left]
      exact ih
    · cases isDirectory with
      | false =>
        rw [visitEntries_file left, visitEntries_file left]
        exact .bind calm (.visiting _) ih
      | true =>
        rw [visitEntries_directory left, visitEntries_directory left]
        exact .bind calm (enters _) ih

theorem walkFrom_replays (calm : ∀ path s, disks (visit path s).2 = disks s) (depth : Nat)
    (path : Path) :
    Replays disk disks visit (walkFrom (fun _ => disk) ignored record depth path)
      (walkFrom disks ignored visit depth path) := by
  induction depth generalizing path with
  | zero => exact .throw _
  | succ depth ih =>
    cases scanned : scan disk path with
    | error refused =>
      obtain ⟨place, cause⟩ := refused
      refine ⟨[], .error (.fault (.walk place cause)), fun earlier => ?_, fun s same => ?_⟩
      · rw [walkFrom_apply, scanned, List.append_nil]
      · rw [walkFrom_apply, same, scanned]
        rfl
    | ok entries =>
      obtain ⟨paths, ended, does, replays⟩ :=
        @visitEntries_replays σ disk disks visit ignored calm _ _ ih path (arrange entries)
      refine ⟨paths, ended, fun earlier => ?_, fun s same => ?_⟩
      · rw [walkFrom_apply, scanned]
        exact does earlier
      · rw [walkFrom_apply, same, scanned]
        exact replays s same

/-- A walk whose visits leave the disk as it is visits what the bare walk comes to, until a visit
    halts. -/
theorem walk_eq_visitAll (calm : ∀ path s, disks (visit path s).2 = disks s) (root : Path)
    (ignored : List String) (s : σ) :
    walk disks root ignored visit s =
      visitAll visit (visited (disks s) root ignored).2 (visited (disks s) root ignored).1 s := by
  obtain ⟨paths, ended, does, replays⟩ :=
    @walkFrom_replays σ (disks s) disks visit ignored calm FileTree.pathLimit root
  have bare : visited (disks s) root ignored = (ended, paths) := does []
  rw [bare]
  exact replays s rfl

end Conformance.Walk
