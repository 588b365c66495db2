import Conformance.Shell.State

/-!
# Finding programs

The first word of a command names a function, a program of the shell's own, or a program that lies
in a directory of the search path. Where such a program lies is kept, and looked for again when the
working directory or the path has changed.
-/

namespace Conformance.Shell.Search

/-- The names of the shell's own programs, those apart that no function can have. -/
def ownNames : List String := [
  "[", "alias", "bg", "cd", "chdir", "command", "echo", "false", "fg", "getopts", "hash", "jobs",
  "kill", "printf", "pwd", "read", "test", "true", "type", "ulimit", "umask", "unalias", "wait"]

/-- The names of the shell's own programs whose arguments may be assignments. -/
def assigningNames : List String := ["alias", "export", "local", "readonly"]

def isSpecial (name : Raw) : Bool := String.ofList name ∈ specialNames

def isOwn (name : Raw) : Bool := isSpecial name || String.ofList name ∈ ownNames

/-- What a name stands for. -/
inductive Found where
  | nothing
  | function (body : Command)
  | own
  /-- A program in the directory with a number on the search path, or at the path that the name
      is. -/
  | program (place : Option Nat)

/-- The search path, when nothing else is said. -/
def standardPath : Raw :=
  "/usr/local/sbin:/usr/local/bin:/usr/sbin:/usr/bin:/sbin:/bin".toList

/-- The search path. -/
def searchPath : Shell Raw := return ((← get).value? pathVariable).getD []

/-- The paths that a name may stand for. -/
def candidates (path name : Raw) : List Raw :=
  (path.splitOn ':').map fun directory =>
    if directory = [] then name else directory ++ '/' :: name

/-- What is said of a program that cannot be run. -/
def refusal : SystemError → String
  | .notFound | .notDirectory => "not found"
  | other => other.text

/-- Whether a program may lie at a path. -/
def isProgram (info : FileInfo) : Bool :=
  match info.tree with
  | .program _ => true
  | .file _ => info.mode &&& 0o111 != 0
  | .directory _ | .device _ | .pipe _ | .link _ | .closed _ _ => false

/-- The first of some numbered paths at which a program lies. Where it was found before is good
    enough if the path does not depend on the working directory. -/
def firstProgram (before? : Option Nat) (reason : SystemError) :
    List (Raw × Nat) → Shell (Except SystemError Nat)
  | [] => return .error reason
  | (candidate, place) :: rest => do
    let isFixed : Bool := candidate.head? = some '/'
    match before? with
    | some before =>
      if isFixed ∧ place < before then return (← firstProgram before? reason rest)
      if isFixed ∧ place = before then return .ok place
    | none => pure ()
    match ← Routine.look ⟨Raw.text candidate⟩ true with
    | .error .notFound | .error .notDirectory => firstProgram before? reason rest
    | .error error => firstProgram before? error rest
    | .ok info =>
      if isProgram info then return .ok place
      firstProgram before? .permissionDenied rest

/-- Keep where a program was found. -/
def track (name : Raw) (place : Nat) : Shell Unit :=
  modify fun s =>
    let entry : Tracked := { place }
    { s with
      tracked :=
        if s.tracked.any (·.1 = name) then
          s.tracked.map fun (other, t) => (other, if other = name then entry else t)
        else s.tracked ++ [(name, entry)] }

def untrack (name : Raw) : Shell Unit :=
  modify fun s => { s with tracked := s.tracked.filter (·.1 ≠ name) }

/-- Look for a program in the directories of a path, which may be the one that is searched
    usually. -/
def program (name path : Raw) (isUsual : Bool) : Shell (Except SystemError Nat) := do
  let tracked := (← get).tracked
  let before? : Option Tracked := if isUsual then tracked.lookup name else none
  match before? with
  | some { place, isStale := false } => return .ok place
  | _ =>
    let found ← firstProgram (before?.map (·.place)) .notFound (candidates path name).zipIdx
    if isUsual then
      match found with
      | .ok place => track name place
      | .error _ => untrack name
    return found

/-- What a name stands for that is looked up without the search path. -/
def known (name : Raw) (skipsFunctions : Bool) : Shell Found := do
  if '/' ∈ name then return .program none
  let functions := (← get).functions
  match if skipsFunctions then none else functions.lookup name with
  | some body => return .function body
  | none => return if isOwn name then .own else .nothing

/-- What a name stands for. If it stands for nothing, that is said, unless it need not be. -/
def find (name : Raw) (path? : Option Raw) (skipsFunctions complains : Bool) : Shell Found := do
  match ← known name skipsFunctions with
  | .nothing =>
    let usual ← searchPath
    let path := path?.getD usual
    match ← program name path (path = usual) with
    | .ok place => return .program (some place)
    | .error error =>
      if complains then warn (name ++ s!": {refusal error}".toList)
      return .nothing
  | other => return other

/-- The path of a program that was found. -/
def pathOf (name path : Raw) : Option Nat → Raw
  | none => name
  | some place => ((candidates path name)[place]?).getD name

/-! ## Becoming a program -/

/-- The program that runs scripts. -/
def interpreter : Raw := "/bin/sh".toList

/-- Become the program at a path. A file that is no program is run as a script. The result is why
    that cannot be done. -/
def become (path : Raw) (words : List Raw) : Shell SystemError := do
  let environment := (← get).environment
  let execute (path : Raw) (words : List Raw) : Shell SystemError := do
    match ← Routine.ask (.execute ⟨Raw.text path⟩ words environment) with
    | .refused error => return error
    | _ => return .inputOutput
  match ← execute path words with
  | .notExecutable => execute interpreter (interpreter :: path :: words.tail)
  | error => return error

/-- Become the first program at some paths. -/
def becomeFirst (words : List Raw) (reason : SystemError) : List Raw → Shell SystemError
  | [] => return reason
  | path :: rest => do
    match ← become path words with
    | .notFound | .notDirectory => becomeFirst words reason rest
    | error => becomeFirst words error rest

/-- The status of a shell that cannot become a program. -/
def refusedStatus : SystemError → Nat
  | .notFound | .notDirectory | .tooManyLinks | .nameTooLong => 127
  | _ => 126

/-- Become the program that some words call, which lies in one of the directories of a path from
    some place on. The shell ends if that cannot be done. -/
def execute {α : Type} (words : List Raw) (path : Raw) (place : Nat) : Shell α := do
  let name := words.headD []
  let error ←
    if '/' ∈ name then become name words
    else becomeFirst words .notFound ((candidates path name).drop place)
  modify fun s => { s with status := refusedStatus error }
  warn (name ++ s!": {refusal error}".toList)
  discard flush
  throw .finish

end Conformance.Shell.Search
