import Conformance.Shell.Builtin.Printing
import Conformance.Shell.Jobs

/-!
# Programs of the shell that deal with processes

Jobs, signals and traps.
-/

namespace Conformance.Shell.Builtin

/-! ## Jobs -/

/-- `jobs`: how jobs are doing. -/
def jobs : Builtin := fun arguments => do
  let (given, names) ← Options.take "lp" arguments
  let manner : Jobs.Manner := match given.getLast? with
    | some ('p', _) => .onlyProcess
    | some ('l', _) => .withProcesses
    | _ => .briefly
  Jobs.reapEnded Routine.plenty
  let all := (← get).jobs.map (·.number)
  if names = [] then Jobs.tellAll manner all else each manner names
  return 0
where
  /-- Show the jobs that some names stand for. -/
  each (manner : Jobs.Manner) : List Raw → Shell Unit
    | [] => pure ()
    | name :: rest => do
      Jobs.tell manner (← Jobs.named name).number
      each manner rest

/-- `fg` and `bg`, which are only for shells that people type into. -/
def control : Builtin := fun arguments => do
  let names ← Options.takeNone arguments
  discard (Jobs.named (names.headD ['%']))
  fail ("job ".toList ++ names.headD "(null)".toList ++ " not created under job control".toList)

/-- Wait until a job has ended. A caught signal that comes before gives a status. -/
def awaitJob (number : Nat) : Nat → Shell (Option Nat)
  | 0 => return none
  | fuel + 1 => do
    if !(Jobs.find? (← get).jobs number).any (·.isRunning) then return none
    match ← Jobs.reap true (some number) with
    | .child => awaitJob number fuel
    | .signal signal => return some (128 + signal)
    | .nothing => return none

/-- Wait until all jobs have ended. -/
def awaitJobs : Nat → Shell Nat
  | 0 => return 0
  | fuel + 1 => do
    if !(← Jobs.areRunning) then
      modify fun s => { s with jobs := s.jobs.map fun job => { job with isKnown := true } }
      return 0
    match ← Jobs.reap true none with
    | .child => awaitJobs fuel
    | .signal signal => return 128 + signal
    | .nothing => return 0

/-- The job that an argument of `wait` means, by its name or by its last process. -/
def jobOf? (word : Raw) : Shell (Option Job) := do
  if word.head? = some '%' then return some (← Jobs.named word)
  let process ← number word
  return (← get).jobs.find? fun job => job.children.getLast?.any (·.process = process)

/-- Wait for jobs one after the other. The result is the status of the last one. -/
def awaitEach : List Raw → Nat → Shell Nat
  | [], status => return status
  | word :: rest, status => do
    match ← jobOf? word with
    | none => awaitEach rest status
    | some job =>
      match ← awaitJob job.number Routine.plenty with
      | some status => return status
      | none =>
        Jobs.alter job.number fun job => { job with isKnown := true }
        let ended := (Jobs.find? (← get).jobs job.number).getD job
        awaitEach rest (statusOf ended.ending)

/-- `wait`. -/
def wait : Builtin := fun arguments => do
  match ← Options.takeNone arguments with
  | [] => awaitJobs Routine.plenty
  | words => awaitEach words 127

/-! ## Signals -/

/-- The signals that have no name for a shell. -/
def unnamed : List Nat := [16, 32, 33]

/-- The name of a signal; 0 stands for the end of a shell. -/
def signalName (signal : Nat) : String :=
  if signal = 0 then "EXIT"
  else if signal ∈ unnamed then toString signal
  else (Signal.name? signal).getD (toString signal)

/-- The signal that a word stands for, not below some number. -/
def signalOf? (word : Raw) (least : Nat) : Option Nat :=
  match Number.natural? word with
  | some n => if n < Signal.limit then some n else none
  | none =>
    let name := String.ofList (word.map Char.toUpper)
    (List.range Signal.limit).find? fun n => least ≤ n && signalName n == name

def killUsage : Raw :=
  ("Usage: kill [-s sigspec | -signum | -sigspec] [pid | job]... or\n" ++
    "kill -l [exitstatus]").toList

/-- Name signals: all of them, or the one of a status. -/
def listSignals (words : List Raw) : Shell Nat := do
  match words with
  | [] =>
    emitText ("0\n" ++ String.join ((List.range Signal.limit).tail.map (signalName · ++ "\n")))
  | word :: _ =>
    let n ← number word
    let signal := if 128 < n then n - 128 else n
    if 0 < signal ∧ signal < Signal.limit then emitText (signalName signal ++ "\n")
    else fail ("invalid signal number or exit status: ".toList ++ word)
  return 0

/-- The process or the group of processes that a word means. -/
def targetOf (word : Raw) : Shell Int := do
  match word with
  | '%' :: _ =>
    let job ← Jobs.named word
    return -((job.children.head?.map (·.process)).getD 0 : Nat)
  | '-' :: digits => return -((← number digits : Nat) : Int)
  | _ => return (← number word : Nat)

/-- Send a signal to some processes. The result is whether one of them could not be reached. -/
def signalAll (signal : Nat) : List Raw → Nat → Shell Nat
  | [], status => return status
  | word :: rest, status => do
    match ← Routine.perform (.signal (← targetOf word) signal) with
    | .ok () => signalAll signal rest status
    | .error error =>
      warn (error.text.toList ++ ['\n'])
      signalAll signal rest 1

/-- The options of `kill`: whether signals are listed, and the signal that is named. -/
def killOptions : List (Char × Raw) → Bool × Option Nat → Shell (Bool × Option Nat)
  | [], found => return found
  | ('s', word) :: rest, (lists, _) => do
    match signalOf? word 1 with
    | some signal => killOptions rest (lists, some signal)
    | none => fail ("invalid signal number or name: ".toList ++ word)
  | _ :: rest, (_, signal?) => killOptions rest (true, signal?)

/-- `kill`. -/
def kill : Builtin := fun arguments => do
  let (lists, signal?, words) : Bool × Option Nat × List Raw ← match arguments with
    | ('-' :: name) :: rest =>
      match signalOf? name 1 with
      | some signal => pure (false, some signal, rest)
      | none => do
        let (given, words) ← Options.take "ls:" arguments
        let (lists, signal?) ← killOptions given (false, none)
        pure (lists, signal?, words)
    | words => pure (false, none, words)
  let signal? := if lists then signal? else some (signal?.getD Signal.terminate)
  let isIncomplete : Bool := signal?.isNone || words = []
  if isIncomplete != lists then fail killUsage
  match signal? with
  | none => listSignals words
  | some signal => if lists then listSignals words else signalAll signal words 0

/-! ## Traps -/

/-- Let the host know what a signal does to the shell. What was ignored before the shell began stays
    ignored. -/
def disposeOf (signal : Nat) (before? now? : Option Raw) : Shell Unit := do
  let wasIgnored ← match ← Routine.ask (.disposition signal) with
    | .disposition .ignored => pure (before? != some [])
    | _ => pure false
  if !wasIgnored then
    let disposition : Disposition := match now? with
      | none => .default
      | some [] => .ignored
      | some _ => .caught
    discard (Routine.perform (.dispose signal disposition))

/-- Set what is done on a signal, or take it away. -/
def setTrap (signal : Nat) (action? : Option Raw) : Shell Unit := do
  let before? := (← get).traps.lookup signal
  modify fun s =>
    let others := s.traps.filter (·.1 ≠ signal)
    { s with
      traps := match action? with
        | some action => (signal, action) :: others
        | none => others }
  if signal ≠ 0 then disposeOf signal before? action?

/-- Set what is done on some signals. The result is a status. -/
def setTraps (action? : Option Raw) : List Raw → Shell Nat
  | [] => return 0
  | word :: rest => do
    match signalOf? word 0 with
    | none =>
      Routine.put 2 ("trap: ".toList ++ word ++ ": bad trap\n".toList)
      return 1
    | some signal =>
      setTrap signal action?
      setTraps action? rest

/-- `trap`. -/
def trap : Builtin := fun arguments => do
  match ← Options.takeNone arguments with
  | [] =>
    let traps := (← get).traps
    emit ((List.range Signal.limit).flatMap fun signal =>
      (traps.lookup signal).elim [] fun action =>
        "trap -- ".toList ++ quote action ++ ' ' :: (signalName signal).toList ++ ['\n'])
    return 0
  | [word] => setTraps none [word]
  | action :: words =>
    if (Number.natural? action).any (· < Signal.limit) then setTraps none (action :: words)
    else setTraps (if action = ['-'] then none else some action) words

end Conformance.Shell.Builtin
