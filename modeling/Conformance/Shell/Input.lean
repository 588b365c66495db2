import Conformance.Shell.Grammar
import Conformance.Shell.State

/-!
# Input of a shell

A shell reads its script from a file or from a text, as far as it needs for the next command, and
carries that out before it reads on. So a command can change what is read after it.
-/

namespace Conformance.Shell

/-- How a command is carried out. -/
structure Mode where
  /-- Whether it is asked how the command comes out, so that a failure does not end the shell. -/
  isTested : Bool := false
  /-- Whether nothing is left to do after it. -/
  isLast : Bool := false
  deriving DecidableEq, Repr

/-- What a script is read from, as far as it has been read. -/
structure Input where
  source : Source
  /-- The descriptor that more of it comes from, if it is a file. -/
  descriptor : Option Nat := none

namespace Input

def ofText (text : Raw) : Input := { source := { rest := text } }

def ofDescriptor (descriptor : Nat) : Input :=
  { source := { rest := [], isWhole := false }, descriptor := some descriptor }

/-- How much of a file is read at a time. -/
def blockSize : Nat := 8192

/-- Read more of a file. Bytes that are zero are passed over. -/
def readMore (input : Input) : Shell Input := do
  let whole : Input := { input with source := { input.source with isWhole := true } }
  match input.descriptor with
  | none => return whole
  | some descriptor =>
    match ← Routine.read descriptor blockSize with
    | .error _ => return whole
    | .ok bytes =>
      if bytes.isEmpty then return whole
      let new := (Raw.ofArray bytes).filter (· ≠ Char.ofNat 0)
      return { input with source := { input.source with rest := input.source.rest ++ new } }

/-- Show the lines of a file that a command has been read from, if an option says so. -/
def echo (input : Input) (left : Nat) : Shell Unit := do
  if input.descriptor.isSome ∧ (← get).has 'v' then
    let text := input.source.rest
    let taken := text.take (text.length - left)
    let isComplete : Bool := taken = [] || taken.getLast? = some '\n'
    let left := text.drop taken.length
    let restOfLine := left.take ((left.takeWhile (· ≠ '\n')).length + 1)
    Routine.put 2 (if isComplete then taken else taken ++ restOfLine)

/-- Whether a script has been read to its end. -/
def isOver (input : Input) : Bool := input.source.ahead matches some .endOfFile

/-- Read the next command, unless there is none. The fuel bounds how often more of a file is
    read. -/
def next : Nat → Input → Shell (Option Command × Input)
  | 0, input => return (none, input)
  | fuel + 1, input => do
    let s ← get
    let source := { input.source with
      documents := s.documents, nextDocument := s.nextDocument, aliases := s.aliases
      announced := [], ahead := none }
    match StateT.run Reader.commandLine source with
    | .ok (command?, after) =>
      modify fun s => { s with
        documents := after.documents, nextDocument := after.nextDocument, nextLine := after.line }
      echo input after.rest.length
      return (command?, { input with source := { after with documents := [], aliases := [] } })
    | .error .incomplete => next fuel (← readMore input)
    | .error (.malformed line error rest) =>
      modify fun s => { s with line, nextLine := line }
      echo input rest.length
      fail ("Syntax error: ".toList ++ Raw.ofString error.message)

end Input

/-- Carries out a command, which leaves a status. -/
abbrev Evaluator := Command → Mode → Shell Unit

/-- Carry out the commands of a script that come next. What passes over the rest of the script goes
    on after it. The result is the status of the last command. -/
def runInput (evaluate : Evaluator) (mode : Mode) : Nat → Input → Nat → Shell Nat
  | 0, _, status => return status
  | fuel + 1, input, status => do
    let (command?, input) ← input.next Routine.plenty
    match command? with
    | none => return status
    | some command =>
      evaluate command (if input.isOver then mode else { mode with isLast := false })
      let s ← get
      let status := if command matches .nothing then status else s.status
      if s.skip.isSome then return status
      runInput evaluate mode fuel input status

/-- Carry out a text as a script of its own. -/
def runText (evaluate : Evaluator) (mode : Mode) (text : Raw) : Shell Nat := do
  let line := (← get).nextLine
  let status ← runInput evaluate mode Routine.plenty (.ofText text) 0
  modify fun s => { s with nextLine := line }
  return status

/-- Carry out a file as a script of its own. A command that leaves the script does not leave more
    than that. -/
def runFile (evaluate : Evaluator) (descriptor : Nat) : Shell Nat := do
  let line := (← get).nextLine
  let status ← runInput evaluate {} Routine.plenty (.ofDescriptor descriptor) 0
  modify fun s => { s with
    nextLine := line
    skip := match s.skip with
      | some .call | some .callAsIs => none
      | other => other }
  return status

/-! ## Opening scripts -/

/-- Open a file to read a script from it, under a number that no script uses. -/
def openScript (name : Raw) : Shell Nat := do
  match ← Routine.openFile ⟨Raw.text name⟩ { reads := true } with
  | .error error =>
    let reason := match error with
      | .notFound | .notDirectory => "No such file"
      | other => other.text
    fail ("cannot open ".toList ++ name ++ ": ".toList ++ reason.toList)
  | .ok descriptor =>
    match ← Routine.askNumber (.copy descriptor 10 true) with
    | .ok high =>
      Routine.close descriptor
      return high
    | .error _ => return descriptor

end Conformance.Shell
