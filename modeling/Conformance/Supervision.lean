import Conformance.Ending
import Conformance.Fault
import Conformance.Outcome

/-!
# Supervision

How a running program is waited for. Without a limit the wait is one blocking wait. With a limit
the program is polled until it has ended or the deadline has passed, and then it is killed and
waited for. `Watch.acts` and `Run.acts` record everything that is done to the program, in order.
-/

namespace Conformance

/-- The answer to the question whether a program has ended. -/
inductive Poll where
  | running
  | ended (ending : Ending)
  | failed (cause : Cause)
  deriving DecidableEq, Repr

/-- Something done to a program under supervision. -/
inductive Act where
  | poll
  | sleep
  | kill
  /-- A wait that lasts until the program has ended. -/
  | wait
  deriving DecidableEq, Repr

namespace Supervision

/-- The least time between two polls, in nanoseconds. -/
def pollInterval : Nat := 10000000

/-- How long the streams of a killed program may stay open, in nanoseconds. -/
def drainGrace : Nat := 200000000

/-- One more than the last moment, in nanoseconds, that a clock can show. -/
def momentLimit : Nat := 0x8000000000000000 * Duration.nanosPerSecond

/-- A clock, read once at the start and once after every poll, each time at least one sleep after
    the time before, and once more after a kill. -/
structure Clock where
  start : Nat
  /-- The reading after the poll of this number. -/
  reading : Nat → Nat
  /-- The reading after a program has been killed at the poll of this number and waited for. -/
  afterKill : Nat → Nat
  start_le : ∀ n, start ≤ reading n
  advances : ∀ n, reading n + pollInterval ≤ reading (n + 1)
  reading_le : ∀ n, reading n ≤ afterKill n

/-- A running program, as its supervisor sees it. -/
structure Child where
  /-- The answer to the poll of this number. -/
  poll : Nat → Poll
  /-- The answer to a wait that was not preceded by a kill. -/
  wait : Except Cause Ending
  /-- The answer to a wait after a kill. -/
  waitKilled : Except Cause Ending

/-- A supervised run: what was done, and how the program ended. The limit stands beside the ending
    if the program was killed for running past it. -/
structure Watch where
  acts : List Act
  result : Except Halt (Ending × Option Duration)

namespace Watch

/-- Something done first. -/
def after (act : Act) (w : Watch) : Watch := { w with acts := act :: w.acts }

/-- The end of a run after some last acts. -/
def ending (acts : List Act) (limit : Option Duration) : Except Cause Ending → Watch
  | .ok ending => ⟨acts, .ok (ending, limit)⟩
  | .error cause => ⟨acts, .error (.fault (.io cause))⟩

end Watch

/-- Poll from number `n` on until the program has ended or the deadline has passed. -/
def watchFrom (child : Child) (clock : Clock) (limit : Duration) (deadline n : Nat) : Watch :=
  match child.poll n with
  | .ended ending => ⟨[.poll], .ok (ending, none)⟩
  | .failed cause => ⟨[.poll], .error (.fault (.io cause))⟩
  | .running =>
    if deadline ≤ clock.reading n then
      Watch.ending [.poll, .kill, .wait] (some limit) child.waitKilled
    else (watchFrom child clock limit deadline (n + 1)).after .sleep |>.after .poll
termination_by deadline - clock.reading n
decreasing_by
  have := clock.advances n
  have : 0 < pollInterval := by decide
  omega

/-- The last moment of a span that begins when a clock starts. -/
def Clock.deadline (clock : Clock) (limit : Duration) : Nat := clock.start + limit.toNanos

/-- Wait for a program, within a limit if there is one. A deadline that no clock can show breaks
    the runner off. -/
def watch (child : Child) (clock : Clock) : Option Duration → Watch
  | none => Watch.ending [.wait] none child.wait
  | some limit =>
    if clock.deadline limit < momentLimit then
      watchFrom child clock limit (clock.deadline limit) 0
    else ⟨[], .error .crash⟩

/-- A run that ended in a fault leaves a program that may still run: it is killed and waited for. -/
def reap (w : Watch) : Watch :=
  match w.result with
  | .error (.fault _) => { w with acts := w.acts ++ [.kill, .wait] }
  | .error .crash | .ok _ => w

/-- What the streams of a program hold after its end, as far as they can be read, and what is left
    of the state that it ran in. -/
structure Remains (σ : Type) where
  stdout : Except Cause (List UInt8)
  stderr : Except Cause (List UInt8)
  state : σ

/-- A running program together with what it leaves behind. -/
structure Process (σ : Type) where
  child : Child
  clock : Clock
  /-- The state in which it was started. -/
  started : σ
  /-- What it leaves once it has ended by itself in this way and its streams are closed. -/
  finished : Ending → Remains σ
  /-- What it leaves after a kill at this poll, as far as its streams are closed in time. -/
  killed : Nat → Remains σ

/-- The number of polls among some acts. -/
def polls (acts : List Act) : Nat := acts.count .poll

/-- The outcome of a program that ended by itself. Both streams are read to their end. -/
def collected {σ : Type} (binary : Path) (left : Remains σ) (ending : Ending) :
    Except Halt Outcome := do
  let capture (stream : Except Cause (List UInt8)) : Except Halt (List UInt8) :=
    stream.mapError fun cause => .fault (.capture binary cause)
  return Outcome.ofBytes (← capture left.stdout) (← capture left.stderr) ending.code

/-- The outcome of a program that was killed. A stream that cannot be read counts as empty. -/
def drained {σ : Type} (left : Remains σ) (ending : Ending) (limit : Duration) : Outcome :=
  let drain (stream : Except Cause (List UInt8)) : List UInt8 := stream.toOption.getD []
  { Outcome.ofBytes (drain left.stdout) (drain left.stderr) ending.code with timedOut := limit }

/-- A supervised run that is over. -/
structure Run (σ : Type) where
  answer : Except Halt Outcome
  /-- What was done to the program. -/
  acts : List Act
  state : σ

/-- Supervise a program and read its output. If no clock can show how long the streams of a killed
    program may stay open, that breaks the runner off. -/
def run {σ : Type} (binary : Path) (process : Process σ) (limit : Option Duration) : Run σ :=
  let w := reap (watch process.child process.clock limit)
  match w.result with
  | .error halt => { answer := .error halt, acts := w.acts, state := process.started }
  | .ok (ending, none) =>
    let left := process.finished ending
    { answer := collected binary left ending, acts := w.acts, state := left.state }
  | .ok (ending, some limit) =>
    let last := polls w.acts - 1
    let left := process.killed last
    let isShown := process.clock.afterKill last + drainGrace < momentLimit
    { answer := if isShown then .ok (drained left ending limit) else .error .crash
      acts := w.acts, state := left.state }

end Supervision
end Conformance
