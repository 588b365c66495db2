import Conformance.Proofs.Replaying
import Conformance.Proofs.VisitOrder

/-!
# The first visit that halts

A visit can be compared with one that does the same and never halts: it shows how the walk would go
on. Main statement: a walk calls its visit for the same paths in the same order, up to and including
the first call that halts, and ends with what that halts with; if no call halts, the walk ends as
the other one does.
-/

namespace Conformance.Walk

open Conformance.Action
open FileTree (WellNamed)

variable {σ : Type} {disks : σ → Disk} {visit : Path → Action σ Unit} {root : Path}
  {ignored : List String}

/-- The visit that does the same and never halts. -/
def unhalted (visit : Path → Action σ Unit) (path : Path) : Action σ Unit :=
  fun s => (.ok (), (visit path s).2)

/-- The visit with its calls taken down. -/
def noted (visit : Path → Action σ Unit) (path : Path) : Action (σ × List Path) Unit :=
  fun (s, calls) => ((visit path s).1, (visit path s).2, calls ++ [path])

/-- How a walk ends, the state that it leaves, and the paths for which it calls its visit. -/
def calls (disks : σ → Disk) (root : Path) (ignored : List String) (visit : Path → Action σ Unit)
    (s : σ) : Except Halt Unit × σ × List Path :=
  walk (fun t => disks t.1) root ignored (noted visit) (s, [])

/-! ## Two walks side by side -/

/-- From each state, one action visits some paths without halting, and the other one visits these
    paths in a row, up to the first halt. -/
def Retraces (visit : Path → Action σ Unit) (whole action : Action σ Unit) : Prop :=
  ∀ s, ∃ paths ended, whole s = visitAll (unhalted visit) paths ended s ∧
    action s = visitAll visit paths ended s

theorem forM_unhalted (paths : List Path) (s : σ) :
    ∃ after, (forM paths (unhalted visit) : Action σ Unit) s = (.ok (), after) := by
  induction paths generalizing s with
  | nil => exact ⟨s, rfl⟩
  | cons path rest ih =>
    rw [List.forM_cons, bind_apply]
    exact ih _

/-- The visit that never halts goes the same way as long as the other one does not. -/
theorem forM_unhalted_of_ok {paths : List Path} {s after : σ}
    (visited : (forM paths visit : Action σ Unit) s = (.ok (), after)) :
    (forM paths (unhalted visit) : Action σ Unit) s = (.ok (), after) := by
  induction paths generalizing s with
  | nil => exact visited
  | cons path rest ih =>
    rw [List.forM_cons, bind_apply] at visited ⊢
    cases first : visit path s with
    | mk answer between =>
      rw [first] at visited
      cases answer with
      | error halt => cases visited
      | ok _ =>
        rw [unhalted, first]
        exact ih visited

namespace Retraces

variable {whole action wholeNext next : Action σ Unit}

theorem nothing : Retraces visit (pure ()) (pure ()) := fun _ => ⟨[], .ok (), rfl, rfl⟩

theorem throw (halt : Halt) : Retraces visit (throw halt) (throw halt) :=
  fun _ => ⟨[], .error halt, rfl, rfl⟩

theorem visiting (path : Path) : Retraces visit (unhalted visit path) (visit path) :=
  fun s => ⟨[path], .ok (), rfl, (congrFun (visitAll_single path) s).symm⟩

theorem bind (first : Retraces visit whole action) (second : Retraces visit wholeNext next) :
    Retraces visit (whole >>= fun _ => wholeNext) (action >>= fun _ => next) := by
  intro s
  obtain ⟨paths, ended, does, retraces⟩ := first s
  cases ended with
  | error halt =>
    refine ⟨paths, .error halt, ?_, ?_⟩
    · rw [← visitAll_error_bind paths halt wholeNext, bind_apply, bind_apply, does]
    · rw [← visitAll_error_bind paths halt next, bind_apply, bind_apply, retraces]
  | ok _ =>
    -- What is next starts where the visits that never halt end.
    obtain ⟨after, unbroken⟩ := @forM_unhalted σ visit paths s
    obtain ⟨more, last, doesToo, retracesToo⟩ := second after
    refine ⟨paths ++ more, last, ?_, ?_⟩
    · rw [bind_apply, does, visitAll_apply, visitAll_append, unbroken]
      exact doesToo
    · rw [bind_apply, retraces, visitAll_apply, visitAll_append]
      cases visits : (forM paths visit : Action σ Unit) s with
      | mk answer reached =>
        cases answer with
        | error halt => rfl
        | ok _ =>
          obtain rfl : reached = after :=
            congrArg Prod.snd ((forM_unhalted_of_ok visits).symm.trans unbroken)
          exact retracesToo

end Retraces

theorem visitEntries_retraces {wholeEnter enter : Path → Action σ Unit}
    (enters : ∀ path, Retraces visit (wholeEnter path) (enter path)) (path : Path)
    (entries : List (String × Bool)) :
    Retraces visit (visitEntries ignored (unhalted visit) wholeEnter path entries)
      (visitEntries ignored visit enter path entries) := by
  induction entries with
  | nil => exact .nothing
  | cons entry rest ih =>
    obtain ⟨name, isDirectory⟩ := entry
    by_cases left : name ∈ ignored
    · rw [visitEntries_ignored left, visitEntries_ignored left]
      exact ih
    · cases isDirectory with
      | false =>
        rw [visitEntries_file left, visitEntries_file left]
        exact .bind (.visiting _) ih
      | true =>
        rw [visitEntries_directory left, visitEntries_directory left]
        exact .bind (enters _) ih

theorem walkFrom_retraces (depth : Nat) (path : Path) :
    Retraces visit (walkFrom disks ignored (unhalted visit) depth path)
      (walkFrom disks ignored visit depth path) := by
  induction depth generalizing path with
  | zero => exact .throw _
  | succ depth ih =>
    intro s
    rw [walkFrom_apply, walkFrom_apply]
    cases scan (disks s) path with
    | error refused => exact Retraces.throw _ s
    | ok entries => exact visitEntries_retraces ih path (arrange entries) s

/-! ## Calls -/

theorem unhalted_noted (visit : Path → Action σ Unit) :
    unhalted (noted visit) = noted (unhalted visit) := rfl

/-- Visits that do not halt are all taken down. -/
theorem forM_noted_of_ok {paths : List Path} {s between : σ} {earlier : List Path}
    (visited : (forM paths visit : Action σ Unit) s = (.ok (), between)) :
    (forM paths (noted visit) : Action (σ × List Path) Unit) (s, earlier) =
      (.ok (), between, earlier ++ paths) := by
  induction paths generalizing s earlier with
  | nil =>
    obtain rfl : s = between := congrArg Prod.snd visited
    rw [List.append_nil]
    rfl
  | cons path rest ih =>
    rw [List.forM_cons, bind_apply] at visited ⊢
    rw [noted]
    generalize visit path s = first at visited ⊢
    obtain ⟨answer, reached⟩ := first
    cases answer with
    | error halt => cases visited
    | ok _ =>
      dsimp only
      rw [ih visited, List.append_assoc, List.singleton_append]

/-- The first visit that halts is the last one that is taken down. -/
theorem forM_noted_of_error {paths : List Path} {k : Nat} {path : Path} {s between after : σ}
    {halt : Halt} (next : paths[k]? = some path)
    (before : (forM (paths.take k) visit : Action σ Unit) s = (.ok (), between))
    (halts : visit path between = (.error halt, after)) :
    (forM paths (noted visit) : Action (σ × List Path) Unit) (s, []) =
      (.error halt, after, paths.take (k + 1)) := by
  obtain ⟨inside, rfl⟩ := List.getElem?_eq_some_iff.1 next
  have visits := @forM_noted_of_ok σ visit _ _ _ [] before
  have last : noted visit paths[k] (between, paths.take k) =
      (.error halt, after, paths.take (k + 1)) := by
    rw [noted, halts, List.take_append_getElem inside]
  conv_lhs => rw [← List.take_append_drop k paths]
  rw [List.forM_append, bind_apply, visits, List.nil_append, List.drop_eq_getElem_cons inside]
  dsimp only
  rw [List.forM_cons, bind_apply, last]

/-- Taking down the calls does not change a walk. -/
theorem walk_eq_calls (s : σ) :
    walk disks root ignored visit s =
      ((calls disks root ignored visit s).1, (calls disks root ignored visit s).2.1) := by
  have alike : Alike (fun (s : σ) (t : σ × List Path) => s = t.1) (fun _ s t => s = t.1)
      (walk disks root ignored visit)
      (walk (fun t => disks t.1) root ignored (noted visit)) := by
    refine walk_alike (fun s t same => congrArg disks same) (fun _ _ _ _ same => same) root ignored
      fun path => ?_
    rintro s ⟨_, earlier⟩ rfl
    rw [noted]
    generalize visit path s = ended
    obtain ⟨answer, after⟩ := ended
    cases answer <;> exact ⟨rfl, rfl⟩
  rw [calls]
  obtain ⟨_, after, ⟨_, earlier⟩, walked, called, rfl⟩ | ⟨halt, after, ⟨_, earlier⟩, walked, called,
    rfl⟩ := alike.ends (t := (s, [])) rfl
  · rw [walked, called]
  · rw [walked, called]

/-- A walk makes the calls of the walk that no visit halts, up to the first one that halts. -/
theorem calls_eq_visitAll (s : σ) :
    calls disks root ignored visit s =
      visitAll (noted visit) (calls disks root ignored (unhalted visit) s).2.2
        (calls disks root ignored (unhalted visit) s).1 (s, []) := by
  obtain ⟨paths, ended, does, retraces⟩ :=
    @walkFrom_retraces (σ × List Path) (fun t => disks t.1) (noted visit) ignored
      FileTree.pathLimit root (s, [])
  obtain ⟨reached, unbroken⟩ := @forM_unhalted σ visit paths s
  have whole : calls disks root ignored (unhalted visit) s = (ended, reached, paths) := by
    refine does.trans ?_
    rw [unhalted_noted, visitAll_apply, forM_noted_of_ok unbroken]
    rfl
  rw [whole]
  exact retraces

/-- Only a directory that cannot be listed ends a walk whose visits never halt. -/
theorem calls_unhalted_ends (s : σ) :
    (calls disks root ignored (unhalted visit) s).1 = .ok () ∨
      ∃ path cause, (calls disks root ignored (unhalted visit) s).1 =
        .error (.fault (.walk path cause)) := by
  have alike : Alike Eq (fun halt _ _ => ∃ path cause, halt = .fault (.walk path cause))
      (walk (fun t : σ × List Path => disks t.1) root ignored (noted (unhalted visit)))
      (walk (fun t => disks t.1) root ignored (noted (unhalted visit))) := by
    refine walk_alike (fun s t same => by rw [same]) (fun path cause _ _ _ => ⟨path, cause, rfl⟩)
      root ignored fun path => ?_
    rintro s _ rfl
    exact ⟨rfl, rfl⟩
  rw [calls]
  obtain ⟨_, _, _, ended, -⟩ | ⟨_, _, _, ended, -, path, cause, rfl⟩ :=
    alike.ends (s := (s, [])) rfl
  · exact .inl (congrArg Prod.fst ended)
  · exact .inr ⟨path, cause, congrArg Prod.fst ended⟩

/-- Visits that leave the disk as it is are for what the bare walk comes to. -/
theorem calls_unhalted_of_calm (calm : ∀ path s, disks (visit path s).2 = disks s) (s : σ) :
    (calls disks root ignored (unhalted visit) s).1 = (visited (disks s) root ignored).1 ∧
      (calls disks root ignored (unhalted visit) s).2.2 = (visited (disks s) root ignored).2 := by
  have walked := @walk_eq_visitAll (σ × List Path) (fun t => disks t.1) (noted (unhalted visit))
    (fun path t => calm path t.1) root ignored (s, [])
  obtain ⟨reached, unbroken⟩ := @forM_unhalted σ visit (visited (disks s) root ignored).2 s
  rw [visitAll_apply, forM_noted_of_ok unbroken, List.nil_append] at walked
  exact ⟨congrArg Prod.fst walked, congrArg (fun ended => ended.2.2) walked⟩

/-- Let a walk without halts visit these files. If the first call that halts is for the `k`-th of
    them, the walk ends with that halt and has called its visit for the files up to this one only,
    at whatever depth they lie. If no call halts, the walk calls its visit for all of them and ends
    as the walk without halts does, which is with success or because of a directory that cannot be
    listed. Where the visits leave the disk as it is, the files are those that every other walk of
    it comes to, and the walk ends with success if each directory that it comes to can be listed. -/
theorem walk_first_halt (disks : σ → Disk) (root : Path) (ignored : List String)
    (visit : Path → Action σ Unit) (s : σ) :
    let whole := calls disks root ignored (unhalted visit) s
    let files := whole.2.2
    walk disks root ignored visit s =
        ((calls disks root ignored visit s).1, (calls disks root ignored visit s).2.1) ∧
      (∀ k path between halt after, files[k]? = some path →
        (forM (files.take k) visit : Action σ Unit) s = (.ok (), between) →
        visit path between = (.error halt, after) →
          calls disks root ignored visit s = (.error halt, after, files.take (k + 1))) ∧
      (∀ after, (forM files visit : Action σ Unit) s = (.ok (), after) →
        calls disks root ignored visit s = (whole.1, after, files)) ∧
      (whole.1 = .ok () ∨ ∃ path cause, whole.1 = .error (.fault (.walk path cause))) ∧
      ((∀ path s, disks (visit path s).2 = disks s) →
        files = (visited (disks s) root ignored).2 ∧
          ∀ entries, (disks s).look root = .ok (.directory entries) →
            WellNamed (.directory entries) →
              Listable ignored (disks s) root (.directory entries) → whole.1 = .ok ()) := by
  intro whole files
  have retraces : calls disks root ignored visit s = visitAll (noted visit) files whole.1 (s, []) :=
    calls_eq_visitAll s
  refine ⟨walk_eq_calls s, ?_, ?_, calls_unhalted_ends s, ?_⟩
  · intro k path between halt after next before halts
    rw [retraces, visitAll_apply, forM_noted_of_error next before halts]
  · intro after visits
    rw [retraces, visitAll_apply, forM_noted_of_ok visits]
    rfl
  · intro calm
    obtain ⟨ended, walked⟩ := @calls_unhalted_of_calm σ disks visit root ignored calm s
    refine ⟨walked, fun entries found named listable => ?_⟩
    obtain ⟨_, -, listed⟩ := visited_records found named listable
    exact ended.trans (congrArg Prod.fst listed)

/-! ## Two trees -/

theorem visited_nested :
    visited nestedDisk (dotted 0) [] =
      (.ok (), [((dotted 0).entry "sub").entry "a.wren", (dotted 0).entry "z.wren"]) := by
  have found : nestedDisk.look (dotted 0) = .ok (.directory nested) := look_dotted (by decide)
  have sub : nestedDisk.look ((dotted 0).entry "sub") = .ok (.directory [("a.wren", .file 0)]) :=
    Disk.look_entry found (by decide) rfl (by simp) (by decide)
  have arranged : arrange (kinds nested) = [("sub", true), ("z.wren", false)] := by decide
  have single : arrange (kinds [("a.wren", .file 0)]) = [("a.wren", false)] := by decide
  have limit : FileTree.pathLimit - 1 = 4094 + 1 := rfl
  rw [visited, walk_apply, scan_eq found (by decide)]
  dsimp only
  rw [arranged, visitEntries_directory (by simp), bind_apply, limit, walkFrom_apply,
    scan_eq sub (by decide)]
  dsimp only
  rw [single]
  rfl

/-- A visit that halts whatever the path is. -/
def stop (_ : Path) : Action Unit Unit := throw (.fault (.io (.other "stop")))

/-- The first file lies in a directory below the root. After it, the file in the root is not
    visited. -/
theorem walk_first_halt_nested :
    (calls (fun _ => nestedDisk) (dotted 0) [] (unhalted stop) ()).2.2 =
        [((dotted 0).entry "sub").entry "a.wren", (dotted 0).entry "z.wren"] ∧
      calls (fun _ => nestedDisk) (dotted 0) [] stop () =
        (.error (.fault (.io (.other "stop"))), (), [((dotted 0).entry "sub").entry "a.wren"]) := by
  obtain ⟨-, halts, -, -, alone⟩ := walk_first_halt (fun _ => nestedDisk) (dotted 0) [] stop ()
  obtain ⟨files, -⟩ := alone fun _ _ => rfl
  rw [visited_nested] at files
  have stopped := halts 0 (((dotted 0).entry "sub").entry "a.wren") () _ () (by rw [files]; rfl) rfl
    rfl
  rw [files] at stopped
  exact ⟨files, stopped⟩

theorem visited_dotted_beside {steps : Nat} (short : 2 * steps + 4 < FileTree.pathLimit)
    (long : FileTree.pathLimit ≤ 2 * steps + 7) :
    visited besideDisk (dotted steps) [] =
      (.error (.fault (.walk ((dotted steps).entry "sub") (.system .nameTooLong))),
        [(dotted steps).entry "a.wren"]) := by
  have scanned := scan_eq (look_beside short) (by decide)
  have arranged : arrange (kinds beside) = [("a.wren", false), ("sub", true)] := by decide
  have limit : FileTree.pathLimit - 1 = 4094 + 1 := rfl
  rw [visited, walk_apply, scanned]
  dsimp only
  have first : record ((dotted steps).entry "a.wren") [] =
      (.ok (), [(dotted steps).entry "a.wren"]) := rfl
  rw [arranged, visitEntries_file (by simp), visitEntries_directory (by simp), bind_apply, first]
  dsimp only
  rw [bind_apply, limit, walkFrom_apply, scan_of_unlisted (list_dotted_sub besideDisk long)]

/-- No visit halts, but the walk does not end with success after the only file: the path of the
    directory after it is too long to be listed. -/
theorem visited_beside :
    besideDisk.look (dotted 2045) = .ok (.directory beside) ∧ WellNamed (.directory beside) ∧
      (∀ path earlier, (record path earlier).1 = .ok ()) ∧
      visited besideDisk (dotted 2045) [] =
        (.error (.fault (.walk ((dotted 2045).entry "sub") (.system .nameTooLong))),
          [(dotted 2045).entry "a.wren"]) :=
  ⟨look_beside (by decide), beside_wellNamed, fun _ _ => rfl,
    visited_dotted_beside (by decide) (by decide)⟩

end Conformance.Walk
