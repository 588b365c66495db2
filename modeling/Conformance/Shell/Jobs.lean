import Conformance.Shell.State

/-!
# Jobs

The processes that a shell has started, in groups that it waits for. A job has the least number that
is free; one that has ended and has been waited for keeps its number until another job needs it.
-/

namespace Conformance.Shell.Jobs

/-! ## The table of jobs -/

def find? (jobs : List Job) (number : Nat) : Option Job := jobs.find? (·.number = number)

/-- Change a job. -/
def alter (number : Nat) (change : Job → Job) : Shell Unit :=
  modify fun s =>
    { s with jobs := s.jobs.map fun job => if job.number = number then change job else job }

/-- Take a job out of the table. -/
def remove (number : Nat) : Shell Unit :=
  modify fun s => { s with jobs := s.jobs.filter (·.number ≠ number) }

/-- Whether the number of a job can be given to another one. -/
def isSpent (job : Job) : Bool := job.isKnown && !job.isRunning

/-- Make a job without processes. The result is its number. -/
def add : Shell Nat := do
  let jobs := (← get).jobs
  let isFree (number : Nat) : Bool := (find? jobs number).all isSpent
  let number := ((List.range (jobs.length + 1)).map (· + 1)).find? isFree |>.getD 1
  modify fun s => { s with jobs := { number } :: s.jobs.filter (·.number ≠ number) }
  return number

/-- Let a process be one of a job. -/
def join (number process : Nat) : Shell Unit :=
  alter number fun job => { job with children := job.children ++ [{ process }] }

/-- Whether some job has not ended. -/
def areRunning : Shell Bool := return (← get).jobs.any (·.isRunning)

/-! ## Endings -/

/-- Whether a child is a process that has not been known to have ended. -/
def isLiving (process : Nat) (child : Child) : Bool :=
  child.process = process && child.ending.isNone

/-- Note how a process has ended. The result is the number of its job. -/
def note (process : Nat) (ending : Ending) : Shell (Option Nat) := do
  let isOf (job : Job) : Bool := job.children.any (isLiving process)
  match (← get).jobs.find? isOf with
  | none => return none
  | some job =>
    alter job.number fun job =>
      { job with
        children := job.children.map fun child =>
          if isLiving process child then { child with ending := some ending }
          else child }
    return some job.number

/-- Say that a signal has ended a process that was waited for. Nothing is said of those by which
    people and pipes end processes. -/
def report : Ending → Shell Unit
  | .exited _ => pure ()
  | .signalled signal =>
    if signal = Signal.interrupt ∨ signal = Signal.pipe then pure ()
    else Routine.put 2 (Raw.ofString (Signal.description signal) ++ ['\n'])

/-- Take note of the caught signals that have come. The result is the last of them. -/
def takeSignals : Shell (Option Nat) := do
  match ← Routine.ask .takeSignals with
  | .signals new =>
    modify fun s => { s with arrived := s.arrived ++ new.filter (· ∉ s.arrived) }
    return new.getLast?
  | _ => return none

/-- What comes of waiting for a child. -/
inductive Awaited where
  | child
  | signal (number : Nat)
  | nothing
  deriving DecidableEq

/-- Wait for a child. If it is one of a certain job, it is said how it ended. -/
def reap (blocks : Bool) (number? : Option Nat) : Shell Awaited := do
  match ← Routine.ask (.wait none blocks) with
  | .ended process ending =>
    let job? ← note process ending
    if number?.isSome ∧ job? = number? then report ending
    return .child
  | .refused .interrupted =>
    match ← takeSignals with
    | some signal => return .signal signal
    | none => return .child
  | _ => return .nothing

/-- Take note of the children that have ended. -/
def reapEnded : Nat → Shell Unit
  | 0 => pure ()
  | fuel + 1 => do
    if ← areRunning then
      match ← reap false none with
      | .child => reapEnded fuel
      | .signal _ | .nothing => pure ()

/-- Wait until a job has ended. -/
def await (number : Nat) : Nat → Shell Unit
  | 0 => pure ()
  | fuel + 1 => do
    if (find? (← get).jobs number).any (·.isRunning) then
      match ← reap true (some number) with
      | .child | .signal _ => await number fuel
      | .nothing => pure ()
    else reapEnded Routine.plenty

/-- Wait until a job has ended, and forget it. The result is its status. -/
def finish (number : Nat) : Shell Nat := do
  await number Routine.plenty
  let status := (find? (← get).jobs number).elim 0 fun job => statusOf job.ending
  remove number
  return status

/-! ## Naming jobs -/

/-- The job that a name stands for. -/
def named (name : Raw) : Shell Job := do
  let jobs := (← get).jobs
  let orFail (job? : Option Job) (message : Raw) : Shell Job :=
    match job? with
    | some job => return job
    | none => fail message
  let noSuch : Raw := "No such job: ".toList ++ name
  match name with
  | ['%'] | ['%', '+'] | ['%', '%'] => orFail jobs.head? "No current job".toList
  | ['%', '-'] => orFail jobs.tail.head? "No previous job".toList
  | '%' :: digits =>
    match Number.natural? digits with
    | some number => orFail (find? jobs number) noSuch
    | none => fail noSuch
  | _ => fail noSuch

/-! ## Showing jobs -/

/-- The mark of the job that was used last, and of the one before. -/
def markOf (jobs : List Job) (job : Job) : Char :=
  if jobs.head?.any (·.number = job.number) then '+'
  else if jobs.tail.head?.any (·.number = job.number) then '-'
  else ' '

/-- How a job is doing. -/
def progress (job : Job) : Raw :=
  if job.isRunning then "Running".toList
  else
    match job.ending with
    | .exited 0 => "Done".toList
    | .exited status => s!"Done({status})".toList
    | .signalled signal => (Signal.description signal).toList

/-- Where the command of a job would begin. -/
def commandColumn : Nat := 33

/-- How a job is shown. -/
inductive Manner where
  | briefly
  /-- With the numbers of its processes. -/
  | withProcesses
  /-- The number of its first process alone. -/
  | onlyProcess
  deriving DecidableEq

/-- Blanks up to a column, at least one. -/
def blanks (column : Nat) : Raw := List.replicate (max 1 (commandColumn - column)) ' '

/-- A line or more about a job. -/
def shown (manner : Manner) (jobs : List Job) (job : Job) : Raw :=
  let processes := job.children.map fun child => shownNat child.process
  let first := processes.headD []
  let number : Raw := '[' :: shownNat job.number ++ [']', ' ', markOf jobs job, ' ']
  match manner with
  | .onlyProcess => first ++ ['\n']
  | .briefly =>
    let line := number ++ progress job
    line ++ blanks line.length ++ processes.tail.flatMap (fun _ => " | ".toList) ++ ['\n']
  | .withProcesses =>
    let line := number ++ first ++ ' ' :: progress job
    let further (process : Raw) : Raw :=
      let start := " |\n".toList ++ List.replicate number.length ' ' ++ process ++ [' ']
      start ++ blanks (start.length - 3)
    line ++ blanks line.length ++ processes.tail.flatMap further ++ ['\n']

/-- Show a job. One that has ended is forgotten. -/
def tell (manner : Manner) (number : Nat) : Shell Unit := do
  let jobs := (← get).jobs
  match find? jobs number with
  | none => pure ()
  | some job =>
    emit (shown manner jobs job)
    if manner ≠ .onlyProcess ∧ !job.isRunning then remove number

/-- Show jobs one after the other. -/
def tellAll (manner : Manner) : List Nat → Shell Unit
  | [] => pure ()
  | number :: rest => do
    tell manner number
    tellAll manner rest

end Conformance.Shell.Jobs
