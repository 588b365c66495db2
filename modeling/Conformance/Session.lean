import Conformance.Judgement
import Conformance.Settings
import Conformance.Tally
import Conformance.Walk

/-!
# Sessions

A session is one pass over a test tree: every selected file is read, run by an executor and judged.
What happens is recorded as a list of events in order; the counters are passed along and shown in
them. A fault ends the session where it occurs, and the events up to it stand.
-/

namespace Conformance

/-- One run that a session asks for. -/
structure Launch where
  binary : Path
  argument : String
  /-- The text fed to standard input, if any. -/
  stdin : Option String
  timeout : Option Duration
  deriving DecidableEq, Repr

/-- Runs the interpreter. It may keep a state from one run to the next. -/
abbrev Executor (σ : Type) := Launch → StateM σ (Except Halt Outcome)

/-- How a test file came out. -/
inductive Verdict where
  | passed
  | failed (discrepancies : List Discrepancy)
  | skipped (reason : String)
  deriving DecidableEq, Repr

/-- The verdict on a run with these discrepancies. -/
def Verdict.ofDiscrepancies : List Discrepancy → Verdict
  | [] => .passed
  | found => .failed found

/-- Something that happens in a session. -/
inductive Event where
  /-- A selected file is about to be read; the counters are those of the files before it. -/
  | started (path : String) (tally : Tally)
  /-- The interpreter is about to be run with this argument. -/
  | launching (argument : String)
  | executed (launch : Launch)
  | completed (path : String) (verdict : Verdict)
  /-- The whole tree has been walked. -/
  | finished (tally : Tally)
  deriving DecidableEq, Repr

namespace Session

/-- A session under way: what happened, the counters, and the executor's state. -/
structure State (σ : Type) where
  events : List Event := []
  tally : Tally := {}
  host : σ

variable {σ : Type}

/-- Record one event. -/
def emit (event : Event) : Action (State σ) Unit :=
  modify fun state => { state with events := state.events ++ [event] }

/-- Change the counters. -/
def count (change : Tally → Tally) : Action (State σ) Unit :=
  modify fun state => { state with tally := change state.tally }

/-- Have a launch carried out. -/
def execute (executor : Executor σ) (launch : Launch) : Action (State σ) Outcome := do
  emit (.executed launch)
  let state ← get
  let (answer, host) := executor launch state.host
  set { state with host }
  match answer with
  | .ok outcome => return outcome
  | .error halt => throw halt

/-- The argument that the interpreter gets for a file. Suites are known by their bare name. -/
def argument (kind : Kind) (path : Path) : String :=
  match kind with
  | .api => path.stem?.getD path.text
  | .test | .example => path.text

/-- Run a file with these expectations, and judge it. -/
def runTest (settings : Settings) (executor : Executor σ) (path : Path) (e : Expectations) :
    Action (State σ) Unit := do
  count (·.expect e.count)
  let argument := argument settings.kind path
  emit (.launching argument)
  let outcome ← execute executor ⟨settings.binary, argument, e.stdin, settings.timeout⟩
  let verdict := Verdict.ofDiscrepancies (e.judge outcome settings.kind)
  count fun tally => if verdict = .passed then tally.pass 1 else tally.fail 1
  emit (.completed path.shown verdict)

/-- Handle one file of the walk, as it is on the disk then. -/
def visitFile (settings : Settings) (disk : σ → Disk) (executor : Executor σ) (path : Path) :
    Action (State σ) Unit := do
  if settings.selects path then
    emit (.started path.shown (← get).tally)
    match (disk (← get).host).readText path with
    | .error cause =>
      count (·.fail 1)
      emit (.completed path.shown (.failed [.unreadable cause.message]))
    | .ok source =>
      match Directive.parse source with
      | .nontest => pure ()
      | .skip reason =>
        count (·.skip reason)
        emit (.completed path.shown (.skipped reason))
      | .run e => runTest settings executor path e

/-- A whole session, as an action that ends in the final counters. -/
def session (settings : Settings) (disk : σ → Disk) (executor : Executor σ) :
    Action (State σ) Tally := do
  Walk.walk (fun state : State σ => disk state.host) settings.root settings.ignored
    (visitFile settings disk executor)
  let tally := (← get).tally
  emit (.finished tally)
  return tally

/-- What a session leaves behind. -/
structure Report (σ : Type) where
  events : List Event
  result : Except Halt Tally
  host : σ

/-- Run a session from the executor's state `host`, which shows the disk that is walked. -/
def run (settings : Settings) (disk : σ → Disk) (executor : Executor σ) (host : σ) : Report σ :=
  let ended := session settings disk executor { host }
  { events := ended.2.events, result := ended.1, host := ended.2.host }

end Session
end Conformance
