import Conformance.Ending
import Conformance.FileTree
import Conformance.Raw

/-!
# Processes

A `Process` is a running program: it asks its host for something and goes on with the answer, starts
a copy of itself that does something else, or ends. A `Routine` is a part of a process that yields
a value; routines follow each other as in any other monad.
-/

namespace Conformance

/-- What a process does when it gets a signal. -/
inductive Disposition where
  | default
  | ignored
  | caught
  deriving DecidableEq, Repr

/-- How a file is opened. -/
structure OpenMode where
  reads : Bool := false
  writes : Bool := false
  creates : Bool := false
  empties : Bool := false
  appends : Bool := false
  /-- Whether the file must be new. -/
  isNew : Bool := false
  mode : Nat := 0o666
  deriving DecidableEq, Repr

/-- The bits that let the owner of a file open it so. -/
def OpenMode.bits (how : OpenMode) : Nat :=
  (if how.reads then 0o400 else 0) ||| (if how.writes then 0o200 else 0)

/-- From where a position in a file is counted. -/
inductive Origin where
  | start
  | current
  | finish
  deriving DecidableEq, Repr

/-- What is known of something in the file tree. -/
structure FileInfo where
  tree : FileTree
  size : Nat
  mode : Nat
  /-- How many names it has. -/
  names : Nat
  changed : Nat
  /-- The names that lead to it. -/
  location : List String
  deriving Repr

/-- What a process asks of its host. -/
inductive Request where
  /-- Let some microseconds pass. -/
  | spend (span : Nat)
  | read (descriptor limit : Nat)
  | write (descriptor : Nat) (bytes : ByteArray)
  | open (path : Path) (how : OpenMode)
  | close (descriptor : Nat)
  /-- Another name of a descriptor, not below some number. -/
  | copy (descriptor least : Nat) (closesOnExec : Bool)
  /-- Make a descriptor another name of a first one. -/
  | replace (descriptor target : Nat)
  | pipe
  | seek (descriptor : Nat) (origin : Origin) (offset : Int)
  /-- The ending of a child, or of one of them. -/
  | wait (child : Option Nat) (blocks : Bool)
  /-- Send a signal to a process, or to all processes of a group. -/
  | signal (target : Int) (number : Nat)
  | dispose (signal : Nat) (disposition : Disposition)
  | disposition (signal : Nat)
  /-- The caught signals that have come since the last time. -/
  | takeSignals
  | look (path : Path) (through : Bool)
  | lookAt (descriptor : Nat)
  | list (path : Path)
  | makeDirectory (path : Path)
  | makePipe (path : Path)
  | unlink (path : Path)
  | removeDirectory (path : Path)
  | rename (old new : Path)
  | link (target path : Path)
  /-- Another name for a file. -/
  | addName (old new : Path)
  | changeMode (path : Path) (mode : Nat)
  | touch (path : Path)
  | cut (path : Path) (size : Nat)
  | enter (path : Path)
  | location
  /-- Become another program. -/
  | execute (path : Path) (arguments : List Raw) (environment : List Raw)
  /-- The number of the process and of its parent. -/
  | self
  | now
  /-- The mode bits that new files are made without, changed if there is a new value. -/
  | mask (new : Option Nat)

/-- What a host answers. -/
inductive Answer where
  | done
  | refused (error : SystemError)
  | bytes (bytes : ByteArray)
  | number (n : Nat)
  | numbers (a b : Nat)
  | entries (entries : List (String × FileTree))
  | info (info : FileInfo)
  | names (names : List String)
  | ended (process : Nat) (ending : Ending)
  | disposition (disposition : Disposition)
  | signals (numbers : List Nat)

/-- A running program. -/
inductive Process where
  | exit (status : Nat)
  /-- End as if a signal had come. -/
  | die (signal : Nat)
  /-- Start a child, and go on with its number. -/
  | fork (child : Process) (next : Nat → Process)
  | ask (request : Request) (next : Answer → Process)

instance : Inhabited Process := ⟨.exit 0⟩

/-- A part of a process that yields a value: given what is done with the value, a process. -/
def Routine (α : Type) := (α → Process) → Process

namespace Routine

instance : Monad Routine where
  pure a := fun next => next a
  bind routine f := fun next => routine fun a => f a next

/-- The process that carries out a routine and ends with its status. -/
def toProcess (routine : Routine Nat) : Process := routine fun status => .exit status

/-- Ask the host for something. -/
def ask (request : Request) : Routine Answer := fun next => .ask request next

/-- End the process as if a signal had come. -/
def die {α : Type} (signal : Nat) : Routine α := fun _ => .die signal

/-- Start a child process; the result is its number. -/
def fork (child : Process) : Routine Nat := fun next => .fork child next

/-- Ask for something that is done or refused. -/
def perform (request : Request) : Routine (Except SystemError Unit) := do
  match ← ask request with
  | .refused error => return .error error
  | _ => return .ok ()

/-- Ask for something that is answered with a number. -/
def askNumber (request : Request) : Routine (Except SystemError Nat) := do
  match ← ask request with
  | .number n => return .ok n
  | .refused error => return .error error
  | _ => return .ok 0

def spend (span : Nat) : Routine Unit := discard (ask (.spend span))

/-- Read at most so many bytes. There are none at the end. -/
def read (descriptor limit : Nat) : Routine (Except SystemError ByteArray) := do
  match ← ask (.read descriptor limit) with
  | .bytes bytes => return .ok bytes
  | .refused error => return .error error
  | _ => return .ok .empty

def writeBytes (descriptor : Nat) (bytes : ByteArray) : Routine (Except SystemError Unit) :=
  perform (.write descriptor bytes)

def write (descriptor : Nat) (text : Raw) : Routine (Except SystemError Unit) :=
  if text = [] then pure (.ok ()) else writeBytes descriptor (Raw.toArray text)

/-- Write, whatever comes of it. -/
def put (descriptor : Nat) (text : Raw) : Routine Unit := discard (write descriptor text)

def openFile (path : Path) (how : OpenMode) : Routine (Except SystemError Nat) :=
  askNumber (.open path how)

def close (descriptor : Nat) : Routine Unit := discard (ask (.close descriptor))

/-- What a path leads to, or what is known of a link at its end. -/
def look (path : Path) (through : Bool) : Routine (Except SystemError FileInfo) := do
  match ← ask (.look path through) with
  | .info info => return .ok info
  | .refused error => return .error error
  | _ => return .error .inputOutput

/-- The entries of a directory. -/
def list (path : Path) : Routine (Except SystemError (List (String × FileTree))) := do
  match ← ask (.list path) with
  | .entries entries => return .ok entries
  | .refused error => return .error error
  | _ => return .ok []

/-- The names that lead from the root to the working directory. -/
def location : Routine (List String) := do
  match ← ask .location with
  | .names names => return names
  | _ => return []

/-- The time in microseconds. -/
def now : Routine Nat := do
  match ← ask .now with
  | .number n => return n
  | _ => return 0

/-- How much is read at a time. -/
def blockSize : Nat := 65536

/-- Read to the end. The fuel bounds the number of blocks. -/
def readAllFrom (descriptor : Nat) (found : ByteArray) :
    Nat → Routine (Except SystemError ByteArray)
  | 0 => pure (.ok found)
  | fuel + 1 => do
    match ← read descriptor blockSize with
    | .error error => return .error error
    | .ok bytes =>
      if bytes.isEmpty then return .ok found else readAllFrom descriptor (found ++ bytes) fuel

/-- More than any process does. -/
def plenty : Nat := 0x100000000

/-- Everything that can be read. -/
def readAll (descriptor : Nat) : Routine (Except SystemError ByteArray) :=
  readAllFrom descriptor .empty plenty

end Routine
end Conformance
