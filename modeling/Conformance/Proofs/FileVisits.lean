import Conformance.Session
import Conformance.Proofs.Walking

/-!
# What a session does with one file

Each part of a session as a function of the state: what it answers, and which events, counters and
executor's state it leaves. `visitFile_apply` is the whole handling of one file, case by case.
-/

namespace Conformance.Session

open Conformance.Action

variable {σ : Type} {settings : Settings} {disk : σ → Disk} {executor : Executor σ}

theorem emit_apply (event : Event) (state : State σ) :
    emit event state = (.ok (), { state with events := state.events ++ [event] }) := rfl

theorem count_apply (change : Tally → Tally) (state : State σ) :
    count change state = (.ok (), { state with tally := change state.tally }) := rfl

/-- The launch is recorded, whether or not it succeeds. -/
theorem execute_apply (launch : Launch) (state : State σ) :
    execute executor launch state =
      ((executor launch state.host).1, { state with
        events := state.events ++ [.executed launch]
        host := (executor launch state.host).2 }) := by
  unfold execute
  simp only [bind_apply, emit_apply, get_apply]
  generalize executor launch state.host = ran
  obtain ⟨answer, host⟩ := ran
  cases answer <;> rfl

/-- A file that is run counts its marks, and its verdict unless the launch halts. -/
theorem runTest_apply (path : Path) (e : Expectations) (state : State σ) :
    runTest settings executor path e state =
      let argument := argument settings.kind path
      let launch : Launch := ⟨settings.binary, argument, e.stdin, settings.timeout⟩
      let events := state.events ++ [.launching argument] ++ [.executed launch]
      let tally := state.tally.expect e.count
      match executor launch state.host with
      | (.error halt, host) => (.error halt, { events, tally, host })
      | (.ok outcome, host) =>
        let verdict := Verdict.ofDiscrepancies (e.judge outcome settings.kind)
        (.ok (), {
          events := events ++ [.completed path.shown verdict]
          tally := if verdict = .passed then tally.pass 1 else tally.fail 1
          host }) := by
  unfold runTest
  simp only [bind_apply, count_apply, emit_apply, execute_apply]
  generalize executor _ state.host = ran
  obtain ⟨answer, host⟩ := ran
  cases answer <;> rfl

theorem visitFile_apply (path : Path) (state : State σ) :
    visitFile settings disk executor path state =
      if settings.selects path then
        let started := { state with
          events := state.events ++ [.started path.shown state.tally] }
        match (disk state.host).readText path with
        | .error cause => (.ok (), { started with
            events := started.events ++
              [.completed path.shown (.failed [.unreadable cause.message])]
            tally := state.tally.fail 1 })
        | .ok source =>
          match Directive.parse source with
          | .nontest => (.ok (), started)
          | .skip reason => (.ok (), { started with
              events := started.events ++ [.completed path.shown (.skipped reason)]
              tally := state.tally.skip reason })
          | .run e => runTest settings executor path e started
      else (.ok (), state) := by
  unfold visitFile
  by_cases selected : settings.selects path = true
  · rw [if_pos selected, if_pos selected]
    simp only [bind_apply, emit_apply, get_apply]
    cases (disk state.host).readText path with
    | error cause => rfl
    | ok source =>
      dsimp only
      cases Directive.parse source <;> rfl
  · rw [if_neg selected, if_neg selected]
    rfl

end Conformance.Session
