import Conformance.Host.Service
import Conformance.Session
import Conformance.Supervision

/-!
# Launching programs

A host launches programs in its working directory: those on the search path by their name, any by a
path. The host goes on from one launch to the next, and so do programs that were started in the
background. A launched program is seen by its supervisor through its end and its two streams, and a
kill is worked out from the moment of the launch on.
-/

namespace Conformance.Host

/-! ## Finding the program -/

/-- The directories that programs are searched in. -/
def searchPath : List String := [
  "/usr/local/sbin", "/usr/local/bin", "/usr/sbin", "/usr/bin", "/sbin", "/bin"]

/-- The environment that programs are launched in. -/
def environment : List Raw :=
  ["PATH=" ++ ":".intercalate searchPath, "HOME=/root"].map Raw.ofString

/-- A program that is about to start in the working directory of a host. -/
def starting (host : Host) (moment : Nat) : Running where
  parent := 0
  next := .exit 0
  moment := moment
  descriptors := []
  directory := host.disk.working

/-- Start the program at a path. -/
def startAt (load : Loader) (host : Host) (path : Path) (arguments : List Raw) :
    Except SystemError Process :=
  start load host (host.starting host.now) environment interpreterDepth path arguments

/-- Start the first program that some directories hold under a name. A file that cannot be run is
    the reason for the refusal if none can. -/
def search (load : Loader) (host : Host) (name : String) (arguments : List Raw)
    (reason : SystemError) : List String → Except SystemError Process
  | [] => .error reason
  | directory :: rest =>
    match startAt load host ⟨directory ++ "/" ++ name⟩ arguments with
    | .ok process => .ok process
    | .error .permissionDenied => search load host name arguments .permissionDenied rest
    | .error .notFound | .error .notDirectory => search load host name arguments reason rest
    | .error error => .error error

/-- Start the program that a path stands for. A name without a slash is searched for. -/
def startProgram (load : Loader) (host : Host) (binary : Path) (arguments : List Raw) :
    Except SystemError Process :=
  if '/' ∈ binary.text.toList then startAt load host binary arguments
  else if binary.text = "" then .error .notFound
  else if FileTree.nameLimit < binary.text.utf8ByteSize then .error .nameTooLong
  else search load host binary.text arguments .notFound searchPath

/-! ## Running it -/

/-- How long it takes until a launched program does something, in microseconds. -/
def launchSpan : Nat := 1000

/-- How long after its time a poll is, in microseconds. -/
def pollDelay : Nat := 100

/-- How long the streams of a killed program may stay open before they are given up. -/
def drainGrace : Nat := 205000

def nanosPerMicro : Nat := 1000

/-- The span between two polls, in microseconds. -/
def pollSpan : Nat := Supervision.pollInterval / nanosPerMicro

/-- The moment of a poll after a launch. -/
def pollMoment (launched n : Nat) : Nat := launched + pollSpan * n + pollDelay

/-- The clock of a supervisor, whose readings are a little later than its polls. -/
def clock : Supervision.Clock where
  start := 0
  reading n := Supervision.pollInterval * n + 2 * pollDelay * nanosPerMicro
  afterKill n := Supervision.pollInterval * n + 2 * pollDelay * nanosPerMicro
  start_le _ := Nat.zero_le _
  advances n := by rw [Nat.mul_succ]; omega
  reading_le _ := Nat.le_refl _

/-- A program that has been launched. -/
structure Launched where
  host : Host
  /-- The number of its process. -/
  process : Nat
  /-- The pipes that its output goes to. -/
  stdout : Nat
  stderr : Nat

/-- Launch a process with some input. -/
def begin (host : Host) (process : Process) (input : ByteArray) : Launched :=
  let (host, stdin) := host.addPipe { bytes := input }
  let (host, stdout) := host.addPipe { isCaptured := true }
  let (host, stderr) := host.addPipe { isCaptured := true }
  let (host, reader) := host.addStream (.reader stdin)
  let (host, writer) := host.addStream (.writer stdout)
  let (host, errorWriter) := host.addStream (.writer stderr)
  let running := { host.starting (host.now + launchSpan) with
    next := process
    descriptors := [
      (0, { stream := reader }), (1, { stream := writer }), (2, { stream := errorWriter })] }
  { host := { host with
      processes := host.processes ++ [(host.nextProcess, running)]
      nextProcess := host.nextProcess + 1 }
    process := host.nextProcess, stdout, stderr }

namespace Launched

/-- How the program has ended, if it has. -/
def ending? (l : Launched) (host : Host) : Option Ending :=
  (host.process? l.process).elim (some (.signalled Signal.kill)) Running.ending

/-- Whether nothing more can come out of one of the program's streams. -/
def isClosed (host : Host) (pipe : Nat) : Bool := !host.hasWriter pipe

/-- Run the host until both streams of the program are closed. -/
def runUntilClosed (l : Launched) (load : Loader) (moment? : Option Nat) (host : Host) : Host :=
  runUntil load (fun host => isClosed host l.stdout && isClosed host l.stderr) moment? stepLimit
    host

/-- What has come out of a stream. -/
def captured (host : Host) (pipe : Nat) : List UInt8 :=
  ((host.pipes[pipe]?).getD {}).bytes.toList

/-- The host without the ended process and what came out of it. -/
def leave (l : Launched) (host : Host) : Host :=
  { host with
    processes := host.processes.filter (·.1 ≠ l.process)
    pipes := (host.pipes.modify l.stdout fun p => { p with bytes := .empty }).modify l.stderr
      fun p => { p with bytes := .empty } }

/-- What the program leaves if it has ended by itself. -/
def finished (l : Launched) (load : Loader) (ended : Host) : Supervision.Remains Host :=
  let host := l.runUntilClosed load none ended
  { stdout := .ok (captured host l.stdout), stderr := .ok (captured host l.stderr)
    state := l.leave host }

/-- What the program leaves if it is killed at a poll. -/
def killed (l : Launched) (load : Loader) (n : Nat) : Supervision.Remains Host :=
  let moment := pollMoment l.host.now n
  let ready := runUntil load (fun _ => false) (some moment) stepLimit l.host
  let dead := ready.finish l.process (.signalled Signal.kill)
  let host := l.runUntilClosed load (some (moment + drainGrace)) dead
  let drained (pipe : Nat) : List UInt8 :=
    if isClosed host pipe then captured host pipe else []
  { stdout := .ok (drained l.stdout), stderr := .ok (drained l.stderr), state := l.leave host }

/-- The program as its supervisor sees it, who gives it some time. -/
def supervised (l : Launched) (load : Loader) (timeout : Option Duration) :
    Supervision.Process Host :=
  let horizon? := timeout.map fun limit =>
    pollMoment l.host.now (limit.toNanos / Supervision.pollInterval + 2)
  let host := runUntil load (fun host => (l.ending? host).isSome) horizon? stepLimit l.host
  let ending? := l.ending? host
  { child := {
      poll := fun n =>
        match ending? with
        | some ending => if host.now ≤ pollMoment l.host.now n then .ended ending else .running
        | none => .running
      wait := .ok (ending?.getD (.signalled Signal.kill))
      waitKilled := .ok (.signalled Signal.kill) }
    clock := clock
    started := l.host
    finished := fun _ => l.finished load host
    killed := l.killed load }

end Launched

/-- Launch `binary argument`, feed it some input and wait for it. -/
def launch (load : Loader) (host : Host) (binary : Path) (argument : String) (input : ByteArray)
    (timeout : Option Duration) : Except Halt Outcome × Host :=
  let nul := Char.ofNat 0
  if nul ∈ binary.text.toList ∨ nul ∈ argument.toList then
    (.error (.fault (.spawn binary .nulInCommand)), host)
  else
    match startProgram load host binary [.ofString binary.text, .ofString argument] with
    | .error error => (.error (.fault (.spawn binary (.system error))), host)
    | .ok process =>
      let run := Supervision.run binary ((host.begin process input).supervised load timeout) timeout
      (run.answer, run.state)

/-- The executor that launches programs on this host. -/
def executor (load : Loader) : Executor Host := fun l => do
  let (result, host) := launch load (← get) l.binary l.argument
    ((l.stdin.map String.toUTF8).getD .empty) l.timeout
  set host
  return result

end Conformance.Host
