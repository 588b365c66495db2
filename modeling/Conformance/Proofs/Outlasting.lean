import Conformance.Proofs.Walking

/-!
# Walks that outlast others

An action can be compared with another one that does the same at first, but does not halt where it
does. Main statement: a walk outlasts another one over the same disks if its visits outlast those of
the other one. Whatever it still visits after the other one has halted, it only adds to what both
have done until then.
-/

namespace Conformance

variable {σ τ α β : Type}

namespace Action

/-- What the first action comes to and the next one keeps, both come to. -/
theorem bind_ends {P : σ → Prop} {a : Action σ α} {next : α → Action σ β} {s : σ}
    (first : P (a s).2) (keeps : ∀ x s, P s → P (next x s).2) : P ((a >>= next) s).2 := by
  rw [bind_apply]
  generalize a s = ended at first ⊢
  obtain ⟨answer, after⟩ := ended
  cases answer with
  | ok x => exact keeps x after first
  | error halt => exact first

/-- From states related by `R`, the second action does what the first one does, and goes on where
    the first one halts, unless the first one has gone astray by then. -/
structure Outlasts (R : σ → τ → Prop) (H : Halt → σ → τ → Prop) (Astray : σ → Prop)
    (a : Action σ α) (b : Action τ α) : Prop where
  /-- Either both give the same answer and end in states related by `R`, or the first one halts and
      they end in states related by `H` under what it halts with. -/
  along : ∀ s t, R s t → Astray (a s).2 ∨ match a s with
    | (.ok x, s') => ∃ t', b t = (.ok x, t') ∧ R s' t'
    | (.error halt, s') => H halt s' (b t).2
  /-- There is no way back. -/
  astray : ∀ s, Astray s → Astray (a s).2
  /-- Where an earlier action has halted, the second one keeps the states related. -/
  onward : ∀ halt s t, H halt s t → H halt s (b t).2

namespace Outlasts

variable {R : σ → τ → Prop} {H : Halt → σ → τ → Prop} {Astray : σ → Prop}

theorem pure (x : α) : Outlasts R H Astray (Pure.pure x) (Pure.pure x) where
  along _ t related := .inr ⟨t, rfl, related⟩
  astray _ lost := lost
  onward _ _ _ halted := halted

theorem throw {halt : Halt} (halted : ∀ s t, R s t → H halt s t) :
    Outlasts (α := α) R H Astray (throw halt) (throw halt) where
  along s t related := .inr (halted s t related)
  astray _ lost := lost
  onward _ _ _ halted := halted

theorem bind {a : Action σ α} {b : Action τ α} {next : α → Action σ β} {other : α → Action τ β}
    (first : Outlasts R H Astray a b) (second : ∀ x, Outlasts R H Astray (next x) (other x)) :
    Outlasts R H Astray (a >>= next) (b >>= other) where
  along s t related := by
    have ended := first.along s t related
    rw [bind_apply]
    generalize a s = left at ended ⊢
    obtain ⟨answer, s'⟩ := left
    cases answer with
    | ok x =>
      obtain lost | ⟨t', same, after⟩ := ended
      · exact .inl ((second x).astray s' lost)
      · rw [bind_apply, same]
        exact (second x).along s' t' after
    | error halt =>
      exact ended.imp_right fun halted => bind_ends halted fun x => (second x).onward halt s'
  astray s lost := bind_ends (first.astray s lost) fun x => (second x).astray
  onward halt s t halted :=
    bind_ends (first.onward halt s t halted) fun x => (second x).onward halt s

end Outlasts
end Action

namespace Walk

open Conformance.Action

variable {R : σ → τ → Prop} {H : Halt → σ → τ → Prop} {Astray : σ → Prop} {ignored : List String}
  {disk : σ → Disk} {disk' : τ → Disk} {visit : Path → Action σ Unit}
  {visit' : Path → Action τ Unit}

theorem visitEntries_outlasts {enter : Path → Action σ Unit} {enter' : Path → Action τ Unit}
    (visits : ∀ path, Outlasts R H Astray (visit path) (visit' path))
    (enters : ∀ path, Outlasts R H Astray (enter path) (enter' path)) (path : Path)
    (entries : List (String × Bool)) :
    Outlasts R H Astray (visitEntries ignored visit enter path entries)
      (visitEntries ignored visit' enter' path entries) := by
  induction entries with
  | nil => exact .pure ()
  | cons entry rest ih =>
    obtain ⟨name, isDirectory⟩ := entry
    by_cases left : name ∈ ignored
    · rw [visitEntries_ignored left, visitEntries_ignored left]
      exact ih
    · cases isDirectory with
      | false =>
        rw [visitEntries_file left, visitEntries_file left]
        exact .bind (visits _) fun _ => ih
      | true =>
        rw [visitEntries_directory left, visitEntries_directory left]
        exact .bind (enters _) fun _ => ih

theorem walkFrom_outlasts (disks : ∀ s t, R s t → disk s = disk' t)
    (halted : ∀ path cause s t, R s t → H (.fault (.walk path cause)) s t)
    (visits : ∀ path, Outlasts R H Astray (visit path) (visit' path)) (depth : Nat) (path : Path) :
    Outlasts R H Astray (walkFrom disk ignored visit depth path)
      (walkFrom disk' ignored visit' depth path) := by
  induction depth generalizing path with
  | zero => exact .throw (halted _ _)
  | succ depth ih =>
    have listing (entries : List (String × Bool)) :
        Outlasts R H Astray (visitEntries ignored visit _ path (arrange entries))
          (visitEntries ignored visit' _ path (arrange entries)) :=
      visitEntries_outlasts visits ih path (arrange entries)
    refine ⟨fun s t related => ?_, fun s lost => ?_, fun halt s t stopped => ?_⟩
    · rw [walkFrom_apply, walkFrom_apply, ← disks s t related]
      cases scan (disk s) path with
      | error refused => exact .inr (halted refused.1 refused.2 s t related)
      | ok entries => exact (listing entries).along s t related
    · rw [walkFrom_apply]
      cases scan (disk s) path with
      | error refused => exact lost
      | ok entries => exact (listing entries).astray s lost
    · rw [walkFrom_apply]
      cases scan (disk' t) path with
      | error refused => exact stopped
      | ok entries => exact (listing entries).onward halt s t stopped

/-- Walks over the same disks outlast others if their visits do. -/
theorem walk_outlasts (disks : ∀ s t, R s t → disk s = disk' t)
    (halted : ∀ path cause s t, R s t → H (.fault (.walk path cause)) s t) (root : Path)
    (ignored : List String) (visits : ∀ path, Outlasts R H Astray (visit path) (visit' path)) :
    Outlasts R H Astray (walk disk root ignored visit) (walk disk' root ignored visit') :=
  walkFrom_outlasts disks halted visits FileTree.pathLimit root

end Walk
end Conformance
