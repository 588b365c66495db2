import Conformance.Host.State

/-!
# What a host does for its processes

`serve` carries out a request of a process: the host changes, and the process gets an answer after
some time, waits for another process, or is gone.
-/

namespace Conformance.Host

/-- How a program that is installed starts, given its name, its arguments and its environment. -/
abbrev Loader := String → List Raw → List Raw → Option Process

/-- What comes of a request. -/
inductive Service where
  /-- An answer after some microseconds. -/
  | answer (host : Host) (answer : Answer) (span : Nat)
  /-- Nothing yet; the process asks again, for what is left to do. -/
  | later (host : Host) (request : Request)
  /-- The process has ended. -/
  | gone (host : Host)

/-! ## Spans, in microseconds -/

/-- How long a request takes. -/
def briefly : Nat := 1

/-- How long it takes to start a process, and until it does something. -/
def forkSpan : Nat := 150
def startSpan : Nat := 300

/-- How long it takes until a process notices a signal of another one. -/
def noticeSpan : Nat := 60

/-- How long it takes to become another program. -/
def executeSpan : Nat := 500

/-- Answer a request. -/
def reply (host : Host) (a : Answer) : Service := .answer host a briefly

def refuse (host : Host) (error : SystemError) : Service := host.reply (.refused error)

/-- Answer a request that may have changed the disk. -/
def settle (host : Host) : Except SystemError Disk → Service
  | .ok disk => { host with disk }.reply .done
  | .error error => host.refuse error

/-! ## Pipes -/

/-- The most bytes that a pipe holds, and the most that are written to it in one piece. -/
def pipeCapacity : Nat := 65536
def pieceLimit : Nat := 4096

def readPipe (host : Host) (p : Running) (descriptor pipe limit : Nat) : Service :=
  match host.pipes[pipe]? with
  | none => host.refuse .badDescriptor
  | some contents =>
    if 0 < contents.available then
      let (bytes, left) := contents.take limit
      { host with pipes := host.pipes.modify pipe fun _ => left }.wake.reply (.bytes bytes)
    else if !host.hasWriter pipe then host.reply (.bytes .empty)
    else if p.pending ≠ [] then host.refuse .interrupted
    else .later host (.read descriptor limit)

def writePipe (host : Host) (number : Nat) (p : Running) (descriptor pipe : Nat)
    (bytes : ByteArray) : Service :=
  let put (bytes : ByteArray) : Host :=
    { host with pipes := host.pipes.modify pipe fun contents => contents.put bytes }.wake
  match host.pipes[pipe]? with
  | none => host.refuse .badDescriptor
  | some contents =>
    let room := pipeCapacity - contents.available
    if contents.isCaptured then (put bytes).reply .done
    else if !host.hasReader pipe then
      if p.disposition Signal.pipe = .default then
        .gone (host.finish number (.signalled Signal.pipe))
      else host.refuse .brokenPipe
    else if bytes.size ≤ room then (put bytes).reply .done
    else if bytes.size ≤ pieceLimit ∨ room = 0 then .later host (.write descriptor bytes)
    else .later (put (bytes.extract 0 room)) (.write descriptor (bytes.extract room bytes.size))

/-! ## Reading and writing -/

/-- The bytes of a file with new ones written over some of them. Zeros fill a gap. -/
def overwrite (old : ByteArray) (position : Nat) (new : ByteArray) : ByteArray :=
  let start := old.extract 0 position
  let padded := start ++ ⟨.replicate (position - start.size) 0⟩
  padded ++ new ++ old.extract (position + new.size) old.size

def readStream (host : Host) (p : Running) (descriptor limit : Nat) : Service :=
  match host.stream? p descriptor with
  | none => host.refuse .badDescriptor
  | some (stream, .file file position how) =>
    if !how.reads then host.refuse .badDescriptor
    else
      let bytes := (host.disk.file file).bytes.extract position (position + limit)
      let moved : Stream := .file file (position + bytes.size) how
      { host with streams := host.streams.modify stream fun _ => moved }.reply (.bytes bytes)
  | some (_, .directory _) => host.refuse .isDirectory
  | some (_, .reader pipe) => host.readPipe p descriptor pipe limit
  | some (_, .writer _) => host.refuse .badDescriptor
  | some (_, .device .null) => host.reply (.bytes .empty)
  | some (_, .device .zero) | some (_, .device .full) =>
    host.reply (.bytes ⟨.replicate limit 0⟩)
  | some (_, .device _) => host.refuse .inputOutput

def writeStream (host : Host) (number : Nat) (p : Running) (descriptor : Nat)
    (bytes : ByteArray) : Service :=
  match host.stream? p descriptor with
  | none => host.refuse .badDescriptor
  | some (stream, .file file position how) =>
    if !how.writes then host.refuse .badDescriptor
    else
      let old := (host.disk.file file).bytes
      let position := if how.appends then old.size else position
      let written := host.disk.alterFile file fun f =>
        { f with bytes := overwrite f.bytes position bytes, changed := host.now }
      let moved : Stream := .file file (position + bytes.size) how
      { host with
        disk := written
        streams := host.streams.modify stream fun _ => moved }.reply .done
  | some (_, .directory _) | some (_, .reader _) => host.refuse .badDescriptor
  | some (_, .writer pipe) => host.writePipe number p descriptor pipe bytes
  | some (_, .device .full) => host.refuse .noSpace
  | some (_, .device _) => host.reply .done

/-! ## Opening and closing -/

/-- Give a process a descriptor for a stream. -/
def give (host : Host) (number : Nat) (p : Running) (least stream : Nat) (closesOnExec : Bool) :
    Service :=
  let descriptor := p.freeDescriptor least
  (host.alterProcess number (·.install descriptor { stream, closesOnExec })).reply
    (.number descriptor)

/-- Open a new stream for a process. -/
def opened (host : Host) (number : Nat) (p : Running) (stream : Stream) : Service :=
  let (host, s) := host.addStream stream
  host.give number p 0 s false

/-- Open what a descriptor of the process leads to once more. -/
def reopen (host : Host) (number : Nat) (p : Running) (descriptor : Nat) (how : OpenMode) :
    Service :=
  match host.stream? p descriptor with
  | none => host.refuse .notFound
  | some (_, .file file _ _) =>
    if host.disk.permits (host.disk.file file) how.bits then
      host.opened number p (.file file 0 how)
    else host.refuse .permissionDenied
  | some (_, stream) => host.opened number p stream

/-- Open a pipe that has a name. This waits until it is opened at the other end too. -/
def openPipe (host : Host) (number : Nat) (p : Running) (pipe : Nat) (path : Path)
    (how : OpenMode) : Service :=
  let ready (stream : Stream) : Service :=
    (host.alterProcess number fun p => { p with opening := none }).wake.opened number p stream
  let wait : Service :=
    .later (host.alterProcess number fun p => { p with opening := some (pipe, how.writes) }).wake
      (.open path how)
  if how.reads ∧ how.writes then ready (.writer pipe)
  else if how.writes then if host.hasReader pipe then ready (.writer pipe) else wait
  else if host.hasWriter pipe then ready (.reader pipe) else wait

def openPath (host : Host) (number : Nat) (p : Running) (path : Path) (how : OpenMode) : Service :=
  let emptied (host : Host) (file : Nat) : Host :=
    if how.empties then
      { host with disk := host.disk.alterFile file fun f =>
          { f with bytes := .empty, changed := host.now } }
    else host
  match host.disk.spot p.directory path true with
  | .error error => host.refuse error
  | .ok (.absent parent name slashed) =>
    if !how.creates then host.refuse .notFound
    else if slashed then host.refuse .isDirectory
    else
      let mode := how.mode - (how.mode &&& p.mask)
      let (disk, file) := host.disk.addFile { mode, changed := host.now }
      { host with disk := disk.put parent name (.file file) }.opened number p (.file file 0 how)
  | .ok (.present location tree) =>
    if how.isNew ∧ how.creates then host.refuse .exists
    else
      match tree with
      | .file file =>
        if host.disk.permits (host.disk.file file) how.bits then
          (emptied host file).opened number p (.file file 0 how)
        else host.refuse .permissionDenied
      | .program _ =>
        if how.writes then host.refuse .textBusy
        else
          let (disk, file) := host.disk.addFile { bytes := Disk.programBytes }
          { host with disk }.opened number p (.file file 0 how)
      | .device (.descriptor n) => host.reopen number p n how
      | .device .terminal => host.refuse .noDevice
      | .device device => host.opened number p (.device device)
      | .pipe pipe => host.openPipe number p pipe path how
      | .link _ => host.refuse .tooManyLinks
      | .closed error _ => host.refuse error
      | .directory _ =>
        if how.writes ∨ how.creates then host.refuse .isDirectory
        else host.opened number p (.directory location)

def closeDescriptor (host : Host) (number : Nat) (p : Running) (descriptor : Nat) : Service :=
  if (p.descriptors.lookup descriptor).isNone then host.refuse .badDescriptor
  else
    (host.alterProcess number fun p =>
      { p with descriptors := p.descriptors.filter (·.1 ≠ descriptor) }).wake.reply .done

def seekStream (host : Host) (p : Running) (descriptor : Nat) (origin : Origin) (offset : Int) :
    Service :=
  match host.stream? p descriptor with
  | none => host.refuse .badDescriptor
  | some (stream, .file file position how) =>
    let base : Nat := match origin with
      | .start => 0
      | .current => position
      | .finish => (host.disk.file file).bytes.size
    let position := (base + offset).toNat
    { host with streams := host.streams.modify stream fun _ => .file file position how }.reply
      (.number position)
  | some _ => host.refuse .illegalSeek

/-! ## Children and signals -/

def awaitChild (host : Host) (number : Nat) (p : Running) (child : Option Nat) (blocks : Bool) :
    Service :=
  let children := host.processes.filter fun (other, c) =>
    c.parent = number && child.all (· = other)
  match children.findSome? fun (other, c) => c.ending.map (other, ·) with
  | some (other, ending) =>
    { host with processes := host.processes.filter (·.1 ≠ other) }.reply (.ended other ending)
  | none =>
    if children = [] then host.refuse .noChild
    else if !blocks then host.reply .done
    else if p.pending ≠ [] then host.refuse .interrupted
    else .later host (.wait child blocks)

def sendSignal (host : Host) (sender : Nat) (target : Int) (signal : Nat) : Service :=
  let bring (host : Host) (other : Nat) : Host :=
    host.deliver other signal (if other = sender then 0 else noticeSpan)
  let done (host : Host) : Service :=
    if (host.process? sender).all (·.ending.isSome) then .gone host else host.reply .done
  if Signal.limit ≤ signal then host.refuse .invalid
  else if target = 0 ∨ target = -1 then done ((host.processes.map Prod.fst).foldl bring host)
  else if target = 1 then host.reply .done
  else if target < 0 ∨ (host.process? target.toNat).isNone then host.refuse .noProcess
  else done (bring host target.toNat)

/-! ## Files -/

/-- How many names a file has in a tree. -/
def nameCount (number : Nat) : FileTree → Nat
  | .file other => if other = number then 1 else 0
  | .directory entries => countEntries entries
  | .program _ | .device _ | .pipe _ | .link _ | .closed _ _ => 0
where
  /-- How many names a file has among some entries. -/
  countEntries : List (String × FileTree) → Nat
    | [] => 0
    | (_, child) :: rest => nameCount number child + countEntries rest

/-- What is known of something in the file tree. -/
def infoOf (host : Host) (location : List String) (tree : FileTree) : FileInfo :=
  match tree with
  | .file number =>
    let file := host.disk.file number
    { tree, location, size := file.bytes.size, mode := file.mode, changed := file.changed
      names := nameCount number host.disk.root }
  | .program _ =>
    { tree, location, size := Disk.programBytes.size, mode := 0o755, changed := 0, names := 1 }
  | .device _ => { tree, location, size := 0, mode := 0o666, changed := 0, names := 1 }
  | .pipe _ => { tree, location, size := 0, mode := 0o644, changed := 0, names := 1 }
  | .link target =>
    { tree, location, size := target.text.utf8ByteSize, mode := 0o777, changed := 0, names := 1 }
  | .closed _ _ => { tree, location, size := 0, mode := 0, changed := 0, names := 1 }
  | .directory entries =>
    { tree, location, size := 4096, mode := 0o755, changed := 0
      names := 2 + entries.countP fun (_, child) => child.isDirectory }

def lookPath (host : Host) (p : Running) (path : Path) (through : Bool) : Service :=
  match host.disk.find p.directory path through with
  | .ok (_, .device (.descriptor n)) =>
    match host.stream? p n with
    | some (_, .file number _ _) => host.reply (.info (host.infoOf [] (.file number)))
    | some (_, .reader pipe) | some (_, .writer pipe) =>
      host.reply (.info (host.infoOf [] (.pipe pipe)))
    | some (_, .device device) => host.reply (.info (host.infoOf [] (.device device)))
    | some (_, .directory location) => host.reply (.info (host.infoOf location (.directory [])))
    | none => host.refuse .notFound
  | .ok (_, .closed error none) => host.refuse error
  | .ok (location, tree) => host.reply (.info (host.infoOf location tree))
  | .error error => host.refuse error

def lookStream (host : Host) (p : Running) (descriptor : Nat) : Service :=
  match host.stream? p descriptor with
  | none => host.refuse .badDescriptor
  | some (_, .file number _ _) => host.reply (.info (host.infoOf [] (.file number)))
  | some (_, .reader pipe) | some (_, .writer pipe) =>
    host.reply (.info (host.infoOf [] (.pipe pipe)))
  | some (_, .device device) => host.reply (.info (host.infoOf [] (.device device)))
  | some (_, .directory location) => host.reply (.info (host.infoOf location (.directory [])))

def listPath (host : Host) (p : Running) (path : Path) : Service :=
  match host.disk.find p.directory path true with
  | .ok (_, .directory entries) => host.reply (.entries entries)
  | .ok (_, .closed error told) => host.refuse (if told = some false then .notDirectory else error)
  | .ok _ => host.refuse .notDirectory
  | .error error => host.refuse error

/-- Change what is known of a file. -/
def changeFile (host : Host) (p : Running) (path : Path) (change : File → File) : Service :=
  match host.disk.find p.directory path true with
  | .ok (_, .file number) => { host with disk := host.disk.alterFile number change }.reply .done
  | .ok _ => host.reply .done
  | .error error => host.refuse error

def enterDirectory (host : Host) (number : Nat) (p : Running) (path : Path) : Service :=
  match host.disk.find p.directory path true with
  | .ok (location, .directory _) =>
    (host.alterProcess number fun p => { p with directory := location }).reply .done
  | .ok (_, .closed error told) => host.refuse (if told = some false then .notDirectory else error)
  | .ok _ => host.refuse .notDirectory
  | .error error => host.refuse error

/-! ## Programs -/

/-- The interpreter that the first line of a script names, and an argument for it. -/
def interpreterOf (bytes : ByteArray) : Option (Raw × Option Raw) :=
  match Raw.ofArray (bytes.extract 0 256) with
  | '#' :: '!' :: rest =>
    let line := (rest.takeWhile (· ≠ '\n')).dropWhile (· = ' ')
    let path := line.takeWhile (· ≠ ' ')
    let argument := ((line.dropWhile (· ≠ ' ')).dropWhile (· = ' ')).reverse.dropWhile (· = ' ')
    some (path, if argument = [] then none else some argument.reverse)
  | _ => none

/-- The process that a program at a path starts as. An interpreter of a script may be a script
    itself, but not more often than `depth` says. -/
def start (load : Loader) (host : Host) (p : Running) (environment : List Raw) :
    Nat → Path → List Raw → Except SystemError Process
  | 0, _, _ => .error .tooManyLinks
  | depth + 1, path, arguments => do
    match ← host.disk.find p.directory path true with
    | (_, .program name) =>
      match load name arguments environment with
      | some process => return process
      | none => throw .notExecutable
    | (_, .file number) =>
      let file := host.disk.file number
      let bits := if host.disk.superuser then 0o111 else 0o100
      if file.mode &&& bits = 0 then throw .permissionDenied
      match interpreterOf file.bytes with
      | some (interpreter, argument) =>
        start load host p environment depth ⟨interpreter.text⟩
          (interpreter :: argument.toList ++ Raw.ofString path.text :: arguments.tail)
      | none => throw .notExecutable
    | _ => throw .permissionDenied

/-- How deep interpreters of scripts may nest. -/
def interpreterDepth : Nat := 5

def execute (load : Loader) (host : Host) (number : Nat) (p : Running) (path : Path)
    (arguments environment : List Raw) : Service :=
  match start load host p environment interpreterDepth path arguments with
  | .error error => host.refuse error
  | .ok process =>
    let changed := host.alterProcess number fun p =>
      { p with
        next := process, moment := host.now + executeSpan, pending := []
        descriptors := p.descriptors.filter fun (_, d) => !d.closesOnExec
        dispositions := p.dispositions.filter (·.2 = .ignored) }
    .gone changed.wake

/-! ## Requests -/

/-- Carry out a request of a process. -/
def serve (load : Loader) (host : Host) (number : Nat) (p : Running) : Request → Service
  | .spend span => .answer host .done span
  | .read descriptor limit => host.readStream p descriptor limit
  | .write descriptor bytes => host.writeStream number p descriptor bytes
  | .open path how => host.openPath number p path how
  | .close descriptor => host.closeDescriptor number p descriptor
  | .copy descriptor least closesOnExec =>
    match p.descriptors.lookup descriptor with
    | some d => host.give number p least d.stream closesOnExec
    | none => host.refuse .badDescriptor
  | .replace descriptor target =>
    match p.descriptors.lookup descriptor with
    | some d =>
      (host.alterProcess number (·.install target { stream := d.stream })).wake.reply .done
    | none => host.refuse .badDescriptor
  | .pipe =>
    let (host, pipe) := host.addPipe {}
    let (host, reader) := host.addStream (.reader pipe)
    let (host, writer) := host.addStream (.writer pipe)
    let a := p.freeDescriptor 0
    let withReader := p.install a { stream := reader }
    let b := withReader.freeDescriptor 0
    (host.alterProcess number fun p =>
      (p.install a { stream := reader }).install b { stream := writer }).reply (.numbers a b)
  | .seek descriptor origin offset => host.seekStream p descriptor origin offset
  | .wait child blocks => host.awaitChild number p child blocks
  | .signal target signal => host.sendSignal number target signal
  | .dispose signal disposition =>
    if Signal.isSovereign signal then host.refuse .invalid
    else
      (host.alterProcess number fun p =>
        { p with
          dispositions := (signal, disposition) :: p.dispositions.filter (·.1 ≠ signal) }).reply
        .done
  | .disposition signal => host.reply (.disposition (p.disposition signal))
  | .takeSignals =>
    if p.pending = [] then host.reply (.signals [])
    else (host.alterProcess number fun p => { p with pending := [] }).reply (.signals p.pending)
  | .look path through => host.lookPath p path through
  | .lookAt descriptor => host.lookStream p descriptor
  | .list path => host.listPath p path
  | .makeDirectory path => host.settle (host.disk.makeDirectory p.directory path)
  | .makePipe path =>
    let (host, pipe) := host.addPipe {}
    host.settle (host.disk.place p.directory path (.pipe pipe))
  | .unlink path => host.settle (host.disk.unlink p.directory path)
  | .removeDirectory path => host.settle (host.disk.removeDirectory p.directory path)
  | .rename old new => host.settle (host.disk.rename p.directory old new)
  | .link target path => host.settle (host.disk.place p.directory path (.link target))
  | .addName old new =>
    match host.disk.find p.directory old false with
    | .error error => host.refuse error
    | .ok (_, tree) =>
      if tree.isDirectory then host.refuse .notPermitted
      else host.settle (host.disk.place p.directory new tree)
  | .changeMode path mode => host.changeFile p path fun f => { f with mode }
  | .touch path => host.changeFile p path fun f => { f with changed := host.now }
  | .cut path size => host.changeFile p path fun f =>
    { f with
      bytes := (overwrite f.bytes size .empty).extract 0 size
      changed := host.now }
  | .enter path => host.enterDirectory number p path
  | .location => host.reply (.names p.directory)
  | .execute path arguments environment =>
    host.execute load number p path arguments environment
  | .self => host.reply (.numbers number p.parent)
  | .now => host.reply (.number host.now)
  | .mask new =>
    (host.alterProcess number fun p => { p with mask := new.getD p.mask }).reply (.number p.mask)

/-! ## Running -/

/-- Let a process do its next step. -/
def step (load : Loader) (host : Host) (number : Nat) (p : Running) : Host :=
  let host := { host with now := max host.now p.moment }
  match p.next with
  | .exit status => host.finish number (.exited (status % 256))
  | .die signal => host.finish number (.signalled signal)
  | .fork child next =>
    let fresh := host.nextProcess
    let running : Running :=
      { p with
        parent := number, next := child, moment := host.now + startSpan, pending := [] }
    let started := { host with
      nextProcess := fresh + 1, processes := host.processes ++ [(fresh, running)] }
    started.alterProcess number fun p =>
      { p with next := next fresh, moment := host.now + forkSpan }
  | .ask request next =>
    match host.serve load number p request with
    | .answer host a span =>
      host.alterProcess number fun p => { p with next := next a, moment := host.now + span }
    | .later host request =>
      host.alterProcess number fun p => { p with next := .ask request next, isBlocked := true }
    | .gone host => host

/-- The process that does something next. -/
def nextToRun? (host : Host) : Option (Nat × Running) :=
  let earlier (best : Option (Nat × Running)) : Nat × Running → Option (Nat × Running)
    | (number, p) =>
      if p.isBlocked || p.isStopped || p.ending.isSome then best
      else
        match best with
        | some (_, q) => if p.moment < q.moment then some (number, p) else best
        | none => some (number, p)
  host.processes.foldl earlier none

/-- Let processes run until a condition holds, until a moment, or until none of them can do
    anything. The fuel bounds the number of steps. -/
def runUntil (load : Loader) (isDone : Host → Bool) (moment? : Option Nat) : Nat → Host → Host
  | 0, host => host
  | fuel + 1, host =>
    if isDone host then host
    else
      match host.nextToRun? with
      | none => { host with now := max host.now (moment?.getD host.now) }
      | some (number, p) =>
        match moment? with
        | some moment =>
          if moment < p.moment then { host with now := max host.now moment }
          else runUntil load isDone moment? fuel (host.step load number p)
        | none => runUntil load isDone moment? fuel (host.step load number p)

/-- How many steps processes may take in one run. -/
def stepLimit : Nat := 50000000

end Conformance.Host
