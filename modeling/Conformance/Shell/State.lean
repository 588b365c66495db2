import Conformance.Ending
import Conformance.Host.Process
import Conformance.Host.Signal
import Conformance.Shell.Command
import Conformance.Text.Number

/-!
# The state of a shell

What a shell keeps while it carries out commands: variables, functions, options, jobs and traps. A
part of a shell can stop it, because of an error or because it is told to.
-/

namespace Conformance.Shell

structure Variable where
  /-- There is none if the variable is only marked. -/
  value : Option Raw
  isExported : Bool := false
  isReadOnly : Bool := false
  deriving Repr, Inhabited

/-- What a function call, or a command with variables of its own, brings back at its end. -/
inductive Saved where
  | variable (name : Raw) (before : Option Variable)
  | options (letters : List Char)

/-- What is passed over until something ends. -/
inductive Skip where
  /-- The rest of so many loops. -/
  | leave (loops : Nat)
  /-- The rest of so many loops, the last of which goes on. -/
  | goOn (loops : Nat)
  /-- The rest of a function or of a script that was read in place, which has a status. -/
  | call
  /-- The same, where the status stays what it is. -/
  | callAsIs
  deriving DecidableEq, Repr

/-- A process that a shell has started. -/
structure Child where
  process : Nat
  ending : Option Ending := none
  deriving Repr

/-- Processes that were started together. -/
structure Job where
  number : Nat
  children : List Child := []
  /-- Whether somebody has waited for it. -/
  isKnown : Bool := false
  deriving Repr

/-- Where a program was found. -/
structure Tracked where
  /-- The place of its directory on the search path. -/
  place : Nat
  /-- Whether it may be elsewhere, because the working directory has changed since. -/
  isStale : Bool := false
  deriving Repr

namespace Job

def isRunning (job : Job) : Bool := job.children.any (·.ending.isNone)

/-- How the last process of a job ended. -/
def ending (job : Job) : Ending := ((job.children.getLast?).bind (·.ending)).getD (.exited 0)

end Job

/-- The status that an ending is reported with. -/
def statusOf : Ending → Nat
  | .exited code => code
  | .signalled signal => 128 + signal

/-- What a shell keeps. -/
structure State where
  /-- The name that the script goes by, and its arguments. -/
  name : Raw
  arguments : List Raw := []
  /-- In the order in which they were made. -/
  store : List (Raw × Variable) := []
  functions : List (Raw × Command) := []
  aliases : List (Raw × Raw) := []
  /-- The letters of the options that are set. -/
  options : List Char := []
  /-- The texts that scripts hold, by their numbers. -/
  documents : List (Nat × Word) := []
  nextDocument : Nat := 0
  status : Nat := 0
  /-- The status of the last command whose output was taken. -/
  outputStatus : Nat := 0
  /-- The status to end with, while a trap is carried out. -/
  kept : Option Nat := none
  /-- The line that complaints name, and the one that is read next. -/
  line : Nat := 0
  nextLine : Nat := 1
  /-- The program of the shell's own that is running. -/
  program : Option Raw := none
  skip : Option Skip := none
  loops : Nat := 0
  /-- How many functions have been called and have not ended. -/
  calls : Nat := 0
  /-- What is brought back when calls end, for each call, the innermost first. -/
  frames : List (List Saved) := []
  /-- What is done on a signal; 0 stands for the end of the shell. -/
  traps : List (Nat × Raw) := []
  /-- The signals that have come and whose traps are still to be carried out. -/
  arrived : List Nat := []
  /-- The one that was used last comes first. -/
  jobs : List Job := []
  /-- The last process that was started in the background. -/
  background : Option Nat := none
  /-- The process of the first shell. -/
  root : Nat := 0
  /-- Whether the shell is a copy of another one. -/
  isCopy : Bool := false
  /-- The working directory as it was entered. -/
  directory : Raw := []
  /-- How far the options among the arguments have been read: words, and letters in the last of
      them. -/
  optionWord : Nat := 1
  optionLetter : Option Nat := none
  /-- What the shell's own programs have not written yet. -/
  pending : ByteArray := .empty
  /-- How redirections are undone, the last ones first: each descriptor with where it has been put
      aside, if it was open. -/
  undo : List (List (Nat × Option Nat)) := []
  /-- Whether a trace of a command is being written. -/
  isTracing : Bool := false
  /-- The programs that were found on the search path, each with the number of its directory. -/
  tracked : List (Raw × Tracked) := []
  /-- The limits that were set, by their letters. -/
  limits : List (Char × Raw) := []

/-- Why a shell stops. -/
inductive Stop where
  /-- Something is wrong, and has been said. -/
  | error
  /-- It was told to end. -/
  | exit
  /-- Nothing is left to do. -/
  | finish
  deriving DecidableEq, Repr

end Shell

/-- A part of a shell. -/
abbrev Shell (α : Type) := ExceptT Shell.Stop (StateT Shell.State Routine) α

namespace Shell

/-! ## Complaints -/

/-- A number as it is written. -/
def shownNat (n : Nat) : Raw := Number.shown n

/-- Complain, and go on. -/
def warn (message : Raw) : Shell Unit := do
  let s ← get
  let program := match s.program with
    | some name => name ++ ": ".toList
    | none => []
  Routine.put 2 (s.name ++ ": ".toList ++ shownNat s.line ++ ": ".toList ++ program ++ message ++
    ['\n'])

/-! ## Output of the shell's own programs -/

def emit (text : Raw) : Shell Unit :=
  modify fun s => { s with pending := s.pending ++ text.toArray }

def emitText (text : String) : Shell Unit := emit (.ofString text)

/-- Write what has not been written yet. The result is whether that could be done. -/
def flush : Shell Bool := do
  let bytes := (← get).pending
  if bytes.isEmpty then return true
  modify fun s => { s with pending := .empty }
  match ← Routine.writeBytes 1 bytes with
  | .ok () => return true
  | .error _ => return false

/-! ## Stopping -/

/-- Complain, and stop. -/
def fail {α : Type} (message : Raw) : Shell α := do
  modify fun s => { s with status := 2 }
  warn message
  discard flush
  throw .error

/-- Complain about a text, and stop. -/
def failOf {α : Type} (subject : Raw) (problem : String) : Shell α :=
  fail (subject ++ ": ".toList ++ problem.toList)

def wrongNumber {α : Type} (text : Raw) : Shell α := fail ("Illegal number: ".toList ++ text)

/-- The greatest number that the shell's own programs take. -/
def numberLimit : Nat := 0x7fffffff

/-- The number that a text writes. -/
def number (text : Raw) : Shell Nat := do
  let n := Number.whole false text
  if n.found ∧ n.rest.all Number.isSpace ∧ 0 ≤ n.value ∧ n.value ≤ numberLimit then
    return n.value.toNat
  else wrongNumber text

/-! ## Options -/

def State.has (s : State) (letter : Char) : Bool := letter ∈ s.options

/-! ## Variables -/

def State.stored? (s : State) (name : Raw) : Option Variable := s.store.lookup name

/-- The value of a variable. -/
def State.value? (s : State) (name : Raw) : Option Raw := (s.stored? name).bind (·.value)

/-- Change a variable, or take it away. A new one comes last. -/
def State.alter (s : State) (name : Raw) (new : Option Variable) : State :=
  { s with
    store :=
      match new with
      | none => s.store.filter (·.1 ≠ name)
      | some v =>
        if s.store.any (·.1 = name) then
          s.store.map fun (other, w) => (other, if other = name then v else w)
        else s.store ++ [(name, v)] }

/-- The variables that stay, without a value, when they are unset. -/
def fixedVariables : List String := ["IFS", "OPTIND", "PATH", "PS1", "PS2", "PS4"]

/-- The name of the place where the next option is looked for. -/
def optionVariable : Raw := "OPTIND".toList

/-- The name of the search path. -/
def pathVariable : Raw := "PATH".toList

/-- Give a variable a value, or none, and marks beside those that it has. -/
def assign (name : Raw) (value : Option Raw) (exports marksReadOnly : Bool) : Shell Unit := do
  let s ← get
  let before := s.stored? name
  if before.any (·.isReadOnly) then failOf name "is read only"
  let old := before.getD { value := none }
  let new : Variable := {
    value, isExported := old.isExported || exports || (s.has 'a' && value.isSome)
    isReadOnly := marksReadOnly }
  if name = optionVariable then
    let n ← match value with
      | some text => if text = [] then pure 1 else number text
      | none => pure 1
    modify fun s => { s with optionWord := max n 1, optionLetter := none }
  if name = pathVariable then modify fun s => { s with tracked := [] }
  let isGone := value.isNone && !exports && !marksReadOnly && String.ofList name ∉ fixedVariables
  modify fun s => s.alter name (if isGone then none else some new)

/-- Give a variable a value. -/
def setVariable (name value : Raw) : Shell Unit := assign name (some value) false false

/-- A word as a name and a value, if it has an equals sign. -/
def split (word : Raw) : Raw × Option Raw :=
  let name := word.takeWhile (· ≠ '=')
  match word.drop name.length with
  | _ :: value => (name, some value)
  | [] => (name, none)

/-- The variable that a word names. An equals sign and what is after it are no part of the name. -/
def nameIn (word : Raw) : Shell Raw :=
  let (name, _) := split word
  if isName name then pure name else failOf name "bad variable name"

/-- Take a variable away. -/
def unset (word : Raw) : Shell Unit := do
  assign (← nameIn word) none false false

/-- Where a program keeps a variable among those that it hands on: variables come by this number,
    and those of one number in the order in which they were made. -/
def bucket (name : Raw) : Nat :=
  let first := (name.head?.map Char.toNat).getD 0
  (name.foldl (fun n c => n + c.toNat) (first * 16)) % 39

/-- The variables that programs started from here can see. -/
def State.environment (s : State) : List Raw :=
  let exported := s.store.filterMap fun (name, v) =>
    if v.isExported then v.value.map (name, ·) else none
  let inBucket (n : Nat) := exported.filter fun (name, _) => bucket name = n
  (List.range 39).flatMap fun n => (inBucket n).map fun (name, value) => name ++ '=' :: value

/-! ## Variables of a call -/

/-- Begin a call with variables of its own. -/
def pushFrame : Shell Unit := modify fun s => { s with frames := [] :: s.frames }

/-- Bring back what a call has saved. -/
def popFrame : Shell Unit := do
  match (← get).frames with
  | [] => pure ()
  | frame :: rest =>
    let restore (s : State) : Saved → State
      | .variable name before =>
        let s := s.alter name before
        if name = pathVariable then { s with tracked := [] } else s
      | .options letters => { s with options := letters }
    modify fun s => frame.foldl restore { s with frames := rest }
    for saved in frame do
      if let .variable name _ := saved then discard (nameIn name)

/-- Save something for the end of the call. -/
def save (saved : Saved) : Shell Unit :=
  modify fun s =>
    match s.frames with
    | [] => s
    | frame :: rest => { s with frames := (saved :: frame) :: rest }

/-- Make a variable one of the call's own. The name of one that gets a value is only looked at when
    the call ends. -/
def makeLocal (name : Raw) (value : Option Raw) (exports : Bool) : Shell Unit := do
  if name = ['-'] ∧ value.isNone then save (.options (← get).options)
  else
    let before := (← get).stored? name
    if value.isNone then discard (nameIn name)
    if value.isSome ∨ before.isNone then
      if before.any (·.isReadOnly) then failOf name "is read only"
    save (.variable name before)
    match value with
    | some _ => assign name value exports false
    | none => if before.isNone then modify fun s => s.alter name (some { value := none })

/-! ## Texts for people -/

/-- A text between single quotes, in which single quotes stand between double ones. -/
def quote (text : Raw) : Raw :=
  let single := Char.ofNat 39
  go single (text.length + 1) text
where
  go (single : Char) : Nat → Raw → Raw
    | 0, _ => []
    | fuel + 1, text =>
      let plain := text.takeWhile (· ≠ single)
      let quotes := (text.drop plain.length).takeWhile (· = single)
      let rest := text.drop (plain.length + quotes.length)
      single :: plain ++ [single] ++
        (if quotes = [] then [] else '"' :: quotes ++ ['"']) ++
        (if rest = [] then [] else go single fuel rest)

/-- Texts in the order of their bytes. -/
def sorted (texts : List Raw) : List Raw := texts.mergeSort fun a b => !decide (b < a)

end Shell
end Conformance
