import Conformance.Disk
import Conformance.Host.Process
import Conformance.Host.Signal

/-!
# The state of a host

A `Host` is a disk, the time, and the processes that run, with the streams that they have open.
Several descriptors, also of several processes, can lead to one stream.
-/

namespace Conformance

/-- Something that is open for reading or writing. -/
inductive Stream where
  | file (number position : Nat) (how : OpenMode)
  | directory (location : List String)
  | reader (pipe : Nat)
  | writer (pipe : Nat)
  | device (device : Device)
  deriving Repr

/-- Bytes on their way from writers to readers. -/
structure Pipe where
  bytes : ByteArray := .empty
  /-- How many of the bytes have been read. -/
  start : Nat := 0
  /-- Whether the runner itself reads from it. -/
  isCaptured : Bool := false

namespace Pipe

/-- How many bytes wait in a pipe. -/
def available (pipe : Pipe) : Nat := pipe.bytes.size - pipe.start

/-- Take the first bytes out of a pipe. -/
def take (pipe : Pipe) (limit : Nat) : ByteArray × Pipe :=
  let stop := min pipe.bytes.size (pipe.start + limit)
  let taken := pipe.bytes.extract pipe.start stop
  if stop = pipe.bytes.size then (taken, { pipe with bytes := .empty, start := 0 })
  else (taken, { pipe with start := stop })

/-- Put bytes into a pipe. -/
def put (pipe : Pipe) (bytes : ByteArray) : Pipe := { pipe with bytes := pipe.bytes ++ bytes }

end Pipe

/-- A descriptor of a process. -/
structure Descriptor where
  /-- The number of the stream it leads to. -/
  stream : Nat
  closesOnExec : Bool := false
  deriving Repr

/-- A process as its host sees it. -/
structure Running where
  parent : Nat
  /-- What it does next. -/
  next : Process
  /-- When it does that. -/
  moment : Nat
  /-- Whether it waits for something that another process does. -/
  isBlocked : Bool := false
  isStopped : Bool := false
  descriptors : List (Nat × Descriptor)
  directory : List String
  dispositions : List (Nat × Disposition) := []
  /-- The caught signals that it has not taken yet. -/
  pending : List Nat := []
  /-- The pipe that it is about to open, and whether it will write to it. -/
  opening : Option (Nat × Bool) := none
  mask : Nat := 0o022
  ending : Option Ending := none

/-- The least number from some number on that a process has no descriptor under. -/
def Running.freeDescriptor (p : Running) (least : Nat) : Nat :=
  let taken := p.descriptors.length + 1
  ((List.range taken).map (least + ·)).find? (fun n => (p.descriptors.lookup n).isNone)
    |>.getD (least + taken)

/-- Put a descriptor into the table of a process. -/
def Running.install (p : Running) (descriptor : Nat) (d : Descriptor) : Running :=
  { p with
    descriptors := (descriptor, d) :: p.descriptors.filter (·.1 ≠ descriptor) }

def Running.disposition (p : Running) (signal : Nat) : Disposition :=
  (p.dispositions.lookup signal).getD .default

/-- A process that has caught a signal, which it has to take. -/
def Running.catching (p : Running) (signal : Nat) : Running :=
  { p with pending := if signal ∈ p.pending then p.pending else p.pending ++ [signal] }

/-- A machine with a disk and processes. -/
structure Host where
  disk : Disk
  /-- The time in microseconds. -/
  now : Nat := 0
  processes : List (Nat × Running) := []
  streams : Array Stream := #[]
  pipes : Array Pipe := #[]
  /-- The number of the next process. -/
  nextProcess : Nat := 4711

namespace Host

instance : Inhabited Host := ⟨{ disk := default }⟩

def process? (host : Host) (number : Nat) : Option Running := host.processes.lookup number

/-- Change a process. -/
def alterProcess (host : Host) (number : Nat) (change : Running → Running) : Host :=
  { host with
    processes := host.processes.map fun (other, p) =>
      (other, if other = number then change p else p) }

def stream? (host : Host) (p : Running) (descriptor : Nat) : Option (Nat × Stream) := do
  let d ← p.descriptors.lookup descriptor
  return (d.stream, ← host.streams[d.stream]?)

/-- Open a new stream. -/
def addStream (host : Host) (stream : Stream) : Host × Nat :=
  ({ host with streams := host.streams.push stream }, host.streams.size)

def addPipe (host : Host) (pipe : Pipe) : Host × Nat :=
  ({ host with pipes := host.pipes.push pipe }, host.pipes.size)

/-- Whether some process that runs has a descriptor for such a stream. -/
def hasOpen (host : Host) (wanted : Stream → Bool) : Bool :=
  host.processes.any fun (_, p) =>
    p.descriptors.any fun (_, d) => (host.streams[d.stream]?).any wanted

/-- Whether some process is about to open a pipe, to write to it or to read from it. -/
def isAwaited (host : Host) (pipe : Nat) (writes : Bool) : Bool :=
  host.processes.any (·.2.opening = some (pipe, writes))

def hasWriter (host : Host) (pipe : Nat) : Bool :=
  host.isAwaited pipe true || host.hasOpen fun
    | .writer other => other == pipe
    | .file _ _ _ | .directory _ | .reader _ | .device _ => false

def hasReader (host : Host) (pipe : Nat) : Bool :=
  (host.pipes[pipe]?).any Pipe.isCaptured || host.isAwaited pipe false || host.hasOpen fun
    | .reader other => other == pipe
    | .file _ _ _ | .directory _ | .writer _ | .device _ => false

/-- Let every process that waits try again. -/
def wake (host : Host) : Host :=
  if host.processes.any (·.2.isBlocked) then
    { host with
      processes := host.processes.map fun (number, p) =>
        (number,
          if p.isBlocked then { p with isBlocked := false, moment := max p.moment host.now }
          else p) }
  else host

/-- The end of a process: what it had open is closed, its children have no parent any more, and its
    own parent hears of it. -/
def finish (host : Host) (number : Nat) (ending : Ending) : Host :=
  let closed := host.alterProcess number fun p =>
    { p with
      ending := some ending, descriptors := [], isBlocked := false, pending := []
      opening := none }
  let orphaned := closed.processes.map fun (other, p) =>
    (other, if p.parent = number then { p with parent := 1 } else p)
  let kept := orphaned.filter fun (other, p) => !(p.ending.isSome && p.parent = 1 && other ≠ number)
  let told := match host.process? number with
    | some p =>
      { closed with processes := kept }.alterProcess p.parent fun parent =>
        if parent.disposition Signal.child = Disposition.caught then parent.catching Signal.child
        else parent
    | none => { closed with processes := kept }
  told.wake

/-- Bring a signal to a process, which notices it after some microseconds. -/
def deliver (host : Host) (target signal delay : Nat) : Host :=
  let noticed (p : Running) : Running :=
    { p with isBlocked := false, moment := max p.moment (host.now + delay) }
  match host.process? target with
  | none => host
  | some p =>
    if p.ending.isSome ∨ signal = 0 then host
    else if signal = Signal.resume then
      (host.alterProcess target fun p => noticed { p with isStopped := false })
    else
      match (if Signal.isSovereign signal then .default else p.disposition signal) with
      | .ignored => host
      | .caught =>
        host.alterProcess target fun p =>
          if p.isBlocked then noticed (p.catching signal) else p.catching signal
      | .default =>
        if Signal.isHarmless signal then host
        else if Signal.isStop signal then
          host.alterProcess target fun p => { p with isStopped := true }
        else if delay = 0 then host.finish target (.signalled signal)
        else
          host.alterProcess target fun p =>
            { p with
              next := .die signal, isBlocked := false, isStopped := false
              moment := host.now + delay }

end Host
end Conformance
