import Conformance.Proofs.Arranging

/-!
# Walks that go alike

Two actions go alike if from related states they give the same answer and end in related states.
States in which they halt can be related in another way, which may depend on why they halt. Main
statement: walks over the same disks go alike if their visits do, so what one walk comes to can be
told from another one whose visits do less.
-/

namespace Conformance

variable {σ τ α β : Type}

namespace Action

/-- From states related by `R`, both actions give the same answer. They end in states related by `R`
    again, or by `H` under what they halt with. -/
def Alike (R : σ → τ → Prop) (H : Halt → σ → τ → Prop) (a : Action σ α) (b : Action τ α) : Prop :=
  ∀ s t, R s t → match a s, b t with
    | (.ok x, s'), (.ok y, t') => x = y ∧ R s' t'
    | (.error halt, s'), (.error other, t') => halt = other ∧ H halt s' t'
    | _, _ => False

/-- An action that halts is not followed by another one. -/
theorem bind_apply (a : Action σ α) (next : α → Action σ β) (s : σ) :
    (a >>= next) s = match a s with
      | (.ok x, after) => next x after
      | (.error halt, after) => (.error halt, after) := by
  simp only [bind, ExceptT.bind, ExceptT.mk, StateT.bind]
  generalize a s = ended
  obtain ⟨answer, after⟩ := ended
  cases answer with
  | ok x => rfl
  | error halt => rfl

theorem get_apply (s : σ) : (get : Action σ σ) s = (.ok s, s) := rfl

theorem forM_cons_of_ok {visit : α → Action σ Unit} {x : α} {more : List α} {s after : σ}
    (here : visit x s = (.ok (), after)) :
    (forM (x :: more) visit : Action σ Unit) s = (forM more visit : Action σ Unit) after := by
  rw [List.forM_cons, bind_apply, here]

namespace Alike

variable {R : σ → τ → Prop} {H : Halt → σ → τ → Prop}

theorem pure (x : α) : Alike R H (Pure.pure x) (Pure.pure x) := fun _ _ related => ⟨rfl, related⟩

theorem throw {halt : Halt} (halted : ∀ s t, R s t → H halt s t) :
    Alike (α := α) R H (throw halt) (throw halt) :=
  fun s t related => ⟨rfl, halted s t related⟩

theorem bind {a : Action σ α} {b : Action τ α} {next : α → Action σ β} {other : α → Action τ β}
    (first : Alike R H a b) (second : ∀ x, Alike R H (next x) (other x)) :
    Alike R H (a >>= next) (b >>= other) := by
  intro s t related
  have ended := first s t related
  rw [bind_apply, bind_apply]
  generalize a s = left at ended ⊢
  generalize b t = right at ended ⊢
  obtain ⟨answer, s'⟩ := left
  obtain ⟨same, t'⟩ := right
  cases answer with
  | ok x =>
    cases same with
    | ok y =>
      obtain ⟨rfl, after⟩ := ended
      exact second x s' t' after
    | error halt => exact absurd ended id
  | error halt =>
    cases same with
    | ok y => exact absurd ended id
    | error other => exact ended

/-- Actions that go alike from related states end alike. -/
theorem ends {a : Action σ α} {b : Action τ α} (alike : Alike R H a b) {s : σ} {t : τ}
    (related : R s t) :
    (∃ x s' t', a s = (.ok x, s') ∧ b t = (.ok x, t') ∧ R s' t') ∨
      ∃ halt s' t', a s = (.error halt, s') ∧ b t = (.error halt, t') ∧ H halt s' t' := by
  have ended := alike s t related
  generalize a s = left at ended ⊢
  generalize b t = right at ended ⊢
  obtain ⟨answer, s'⟩ := left
  obtain ⟨same, t'⟩ := right
  cases answer with
  | ok x =>
    cases same with
    | ok y =>
      obtain ⟨rfl, after⟩ := ended
      exact .inl ⟨x, s', t', rfl, rfl, after⟩
    | error halt => exact absurd ended id
  | error halt =>
    cases same with
    | ok y => exact absurd ended id
    | error other =>
      obtain ⟨rfl, halted⟩ := ended
      exact .inr ⟨halt, s', t', rfl, rfl, halted⟩

/-- An action that keeps a property goes along with itself. -/
theorem of_keeps {a : Action σ α} {P : σ → Prop} (keeps : ∀ s, P s → P (a s).2) :
    Alike (fun s t => s = t ∧ P s) (fun _ s t => s = t ∧ P s) a a := by
  rintro s _ ⟨rfl, holds⟩
  have kept := keeps s holds
  generalize a s = ended at kept ⊢
  obtain ⟨answer, after⟩ := ended
  cases answer with
  | ok x => exact ⟨rfl, rfl, kept⟩
  | error halt => exact ⟨rfl, rfl, kept⟩

end Alike
end Action

namespace Walk

open Conformance.Action

variable {ignored : List String} {visit enter : Path → Action σ Unit} {path : Path} {name : String}
  {rest : List (String × Bool)}

theorem visitEntries_ignored {isDirectory : Bool} (left : name ∈ ignored) :
    visitEntries ignored visit enter path ((name, isDirectory) :: rest) =
      visitEntries ignored visit enter path rest := by
  rw [visitEntries, if_neg fun kept => kept left]

theorem visitEntries_file (kept : name ∉ ignored) :
    visitEntries ignored visit enter path ((name, false) :: rest) =
      visit (path.entry name) >>= fun _ => visitEntries ignored visit enter path rest := by
  rw [visitEntries, if_pos kept]
  rfl

theorem visitEntries_directory (kept : name ∉ ignored) :
    visitEntries ignored visit enter path ((name, true) :: rest) =
      enter (path.entry name) >>= fun _ => visitEntries ignored visit enter path rest := by
  rw [visitEntries, if_pos kept]
  rfl

theorem scan_of_unlisted {disk : Disk} {cause : Cause} (unlisted : disk.list path = .error cause) :
    scan disk path = .error (path, cause) := by
  rw [scan, unlisted]

theorem walkFrom_apply (disk : σ → Disk) (depth : Nat) (s : σ) :
    walkFrom disk ignored visit (depth + 1) path s = match scan (disk s) path with
      | .error (place, cause) => (.error (.fault (.walk place cause)), s)
      | .ok entries => visitEntries ignored visit (walkFrom disk ignored visit depth) path
          (arrange entries) s := by
  rw [walkFrom, bind_apply, get_apply]
  dsimp only
  cases scan (disk s) path <;> rfl

theorem walk_apply (disk : σ → Disk) (root : Path) (s : σ) :
    walk disk root ignored visit s = match scan (disk s) root with
      | .error (place, cause) => (.error (.fault (.walk place cause)), s)
      | .ok entries => visitEntries ignored visit
          (walkFrom disk ignored visit (FileTree.pathLimit - 1)) root (arrange entries) s := by
  have limit : FileTree.pathLimit = FileTree.pathLimit - 1 + 1 := rfl
  rw [walk, limit, walkFrom_apply]
  rfl

variable {R : σ → τ → Prop} {H : Halt → σ → τ → Prop}

theorem visitEntries_alike {visit' enter' : Path → Action τ Unit} (path : Path)
    {entries : List (String × Bool)}
    (visits : ∀ name, (name, false) ∈ entries → name ∉ ignored →
      Alike R H (visit (path.entry name)) (visit' (path.entry name)))
    (enters : ∀ name, (name, true) ∈ entries → name ∉ ignored →
      Alike R H (enter (path.entry name)) (enter' (path.entry name))) :
    Alike R H (visitEntries ignored visit enter path entries)
      (visitEntries ignored visit' enter' path entries) := by
  induction entries with
  | nil => exact .pure ()
  | cons entry rest ih =>
    obtain ⟨name, isDirectory⟩ := entry
    have later := ih (fun name member => visits name (List.mem_cons_of_mem _ member))
      (fun name member => enters name (List.mem_cons_of_mem _ member))
    by_cases left : name ∈ ignored
    · rw [visitEntries_ignored left, visitEntries_ignored left]
      exact later
    · cases isDirectory with
      | false =>
        rw [visitEntries_file left, visitEntries_file left]
        exact .bind (visits name List.mem_cons_self left) fun _ => later
      | true =>
        rw [visitEntries_directory left, visitEntries_directory left]
        exact .bind (enters name List.mem_cons_self left) fun _ => later

/-- From these directories, a walk comes to these directories and files only, whatever state the
    disk is in then. -/
structure Within (disk : σ → Disk) (ignored : List String) (Directory File : Path → Prop) :
    Prop where
  enters : ∀ s path entries name, Directory path → scan (disk s) path = .ok entries →
    (name, true) ∈ entries → name ∉ ignored → Directory (path.entry name)
  visits : ∀ s path entries name, Directory path → scan (disk s) path = .ok entries →
    (name, false) ∈ entries → name ∉ ignored → File (path.entry name)

theorem Within.anywhere (disk : σ → Disk) (ignored : List String) :
    Within disk ignored (fun _ => True) fun _ => True :=
  ⟨fun _ _ _ _ _ _ _ _ => trivial, fun _ _ _ _ _ _ _ _ => trivial⟩

variable {disk : σ → Disk} {disk' : τ → Disk} {visit' : Path → Action τ Unit}

theorem walkFrom_alike {Directory File : Path → Prop} (within : Within disk ignored Directory File)
    (scans : ∀ path s t, R s t → Directory path → scan (disk s) path = scan (disk' t) path)
    (halted : ∀ path cause s t, R s t → H (.fault (.walk path cause)) s t)
    (visits : ∀ path, File path → Alike R H (visit path) (visit' path)) (depth : Nat) {path : Path}
    (directory : Directory path) :
    Alike R H (walkFrom disk ignored visit depth path)
      (walkFrom disk' ignored visit' depth path) := by
  induction depth generalizing path with
  | zero => exact .throw (halted _ _)
  | succ depth ih =>
    intro s t related
    rw [walkFrom_apply, walkFrom_apply, ← scans path s t related directory]
    cases scanned : scan (disk s) path with
    | error refused => exact ⟨rfl, halted refused.1 refused.2 s t related⟩
    | ok entries =>
      have members {entry : String × Bool} : entry ∈ arrange entries → entry ∈ entries :=
        (arrange_perm entries).mem_iff.1
      refine visitEntries_alike path (fun name member kept => ?_) (fun name member kept => ?_) s t
        related
      · exact visits _ (within.visits s path entries name directory scanned (members member) kept)
      · exact ih (within.enters s path entries name directory scanned (members member) kept)

/-- Walks go alike if they learn the same of the directories that they come to, and their visits to
    the files that they come to go alike. -/
theorem walk_alike_within {root : Path} {Directory File : Path → Prop}
    (within : Within disk ignored Directory File) (start : Directory root)
    (scans : ∀ path s t, R s t → Directory path → scan (disk s) path = scan (disk' t) path)
    (halted : ∀ path cause s t, R s t → H (.fault (.walk path cause)) s t)
    (visits : ∀ path, File path → Alike R H (visit path) (visit' path)) :
    Alike R H (walk disk root ignored visit) (walk disk' root ignored visit') :=
  walkFrom_alike within scans halted visits FileTree.pathLimit start

/-- What the visits to the files that a walk comes to keep, the walk keeps. -/
theorem walk_keeps {root : Path} {Directory File : Path → Prop}
    (within : Within disk ignored Directory File) (start : Directory root) {P : σ → Prop}
    (keeps : ∀ path, File path → ∀ s, P s → P (visit path s).2) {s : σ} (holds : P s) :
    P (walk disk root ignored visit s).2 := by
  have scans (path : Path) (s t : σ) (same : s = t ∧ P s) (_ : Directory path) :
      scan (disk s) path = scan (disk t) path := by
    rw [same.1]
  have walks := walk_alike_within within start scans (fun _ _ _ _ same => same)
    fun path file => Alike.of_keeps (keeps path file)
  obtain ⟨_, after, _, walked, -, -, kept⟩ | ⟨_, after, _, walked, -, -, kept⟩ :=
    walks.ends ⟨rfl, holds⟩
  · rwa [walked]
  · rwa [walked]

/-- Walks over the same disks go alike if their visits do. -/
theorem walk_alike (disks : ∀ s t, R s t → disk s = disk' t)
    (halted : ∀ path cause s t, R s t → H (.fault (.walk path cause)) s t) (root : Path)
    (ignored : List String) (visits : ∀ path, Alike R H (visit path) (visit' path)) :
    Alike R H (walk disk root ignored visit) (walk disk' root ignored visit') := by
  refine walk_alike_within (.anywhere _ _) trivial (fun path s t related _ => ?_) halted
    fun path _ => visits path
  rw [disks s t related]

end Walk
end Conformance
