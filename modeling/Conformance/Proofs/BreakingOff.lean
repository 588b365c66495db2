import Conformance.Proofs.Traces

/-!
# Sessions that break off

A session halts where a directory cannot be listed or where a launch halts. Main statement: every
session reports some selected files of its survey in full. What comes after them is nothing, or that
the session is finished, or the start and the launch of the file with which the session halts.
-/

namespace Conformance.Session

open Conformance.Action

variable {σ : Type} {settings : Settings} {disk : σ → Disk} {executor : Executor σ}

/-- A session that has halted, and its survey. Either the walk has come to a directory that cannot
    be listed, or the last file that the survey came to was launched. -/
inductive Breaks (settings : Settings) (disk : σ → Disk) (executor : Executor σ) :
    Halt → State σ → Survey σ → Prop
  | unlisted {path : Path} {cause : Cause} {state : State σ} {survey : Survey σ}
      (follows : Follows settings disk executor state survey) :
      Breaks settings disk executor (.fault (.walk path cause)) state survey
  | launched {path : Path} {halt : Halt} {state after : State σ} {survey : Survey σ}
      (follows : Follows settings disk executor state survey)
      (handled : Handled settings disk executor (survey.here path) state after (.error halt)) :
      Breaks settings disk executor halt after (survey.record path after.host)

theorem visitFile_breaks (path : Path) :
    Alike (Follows settings disk executor) (Breaks settings disk executor)
      (visitFile settings disk executor path) (Survey.meet settings disk executor path) := by
  intro state survey follows
  obtain ⟨ended, after, does, meets, handled⟩ := visitFile_handles path follows.host
  rw [does, meets]
  cases handled with
  | passedOver unselected same =>
    rw [same, follows.host]
    exact ⟨rfl, follows.unselected unselected⟩
  | reported selected reported events =>
    exact ⟨rfl, follows.selected selected rfl reported events⟩
  | halted selected asked ran events =>
    exact ⟨rfl, .launched follows (.halted selected asked ran events)⟩

/-- A session ends by itself, with all its files reported, or it breaks off. -/
theorem run_ends (settings : Settings) (disk : σ → Disk) (executor : Executor σ) (host : σ) :
    (∃ state survey, Survey.run settings disk executor host = (.ok (), survey) ∧
      Follows settings disk executor state survey ∧
      run settings disk executor host =
        ⟨state.events ++ [.finished state.tally], .ok state.tally, state.host⟩) ∨
    ∃ halt state survey, Survey.run settings disk executor host = (.error halt, survey) ∧
      Breaks settings disk executor halt state survey ∧
      run settings disk executor host = ⟨state.events, .error halt, state.host⟩ := by
  have start : Follows settings disk executor { host } { host } := ⟨rfl, .nil⟩
  have walks := (Walk.walk_alike (fun _ _ follows => congrArg disk follows.host)
    (fun _ _ _ _ follows => .unlisted follows) settings.root settings.ignored
    visitFile_breaks).ends start
  obtain ⟨_, state, survey, walked, surveyed, follows⟩ |
    ⟨halt, state, survey, walked, surveyed, breaks⟩ := walks
  · exact .inl ⟨state, survey, surveyed, follows, run_of_ok walked⟩
  · exact .inr ⟨halt, state, survey, surveyed, breaks, run_of_halt walked⟩

/-- What a session can report after some files in full, and which file it reports in part. -/
inductive Tail (tally : Tally) : List (Encounter σ) → List Event → Prop
  | nothing : Tail tally [] []
  | finished : Tail tally [] [.finished tally]
  | launched (m : Encounter σ) (launch : Launch) :
      Tail tally [m]
        [.started m.path.shown tally, .launching launch.argument, .executed launch]

/-- The selected files that the survey of a session comes to. -/
def selectedFiles (settings : Settings) (disk : σ → Disk) (executor : Executor σ) (host : σ) :
    List (Encounter σ) :=
  (Survey.run settings disk executor host).2.met.filter (·.Selected settings)

/-- Every session reports the selected files of its survey, the last one perhaps in part. -/
theorem run_tail (settings : Settings) (disk : σ → Disk) (executor : Executor σ) (host : σ) :
    ∃ files last events more tally,
      selectedFiles settings disk executor host = files ++ last ∧
      (run settings disk executor host).events = events ++ more ∧
      Trace settings disk executor {} files events tally ∧ Tail tally last more := by
  rw [selectedFiles]
  obtain ⟨state, survey, surveyed, follows, ended⟩ |
    ⟨halt, state, survey, surveyed, breaks, ended⟩ := run_ends settings disk executor host
  · rw [surveyed, ended]
    exact ⟨_, [], _, _, _, (List.append_nil _).symm, rfl, follows.trace, .finished⟩
  · rw [surveyed, ended]
    cases breaks with
    | unlisted follows =>
      exact ⟨_, [], _, [], _, (List.append_nil _).symm, (List.append_nil _).symm, follows.trace,
        .nothing⟩
    | @launched path _ _ _ seen follows handled =>
      obtain ⟨⟩ | ⟨⟩ | ⟨selected, asked, ran, events⟩ := handled
      have chosen : (seen.here path).Selected settings := Encounter.selected_iff.2 selected
      refine ⟨_, [seen.here path], _, _, _, ?_, events, follows.trace, .launched _ _⟩
      rw [Survey.record, List.filter_append, List.filter_singleton, decide_eq_true chosen]
      rfl

end Conformance.Session
