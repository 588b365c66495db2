import Conformance.Path
import Conformance.SystemError

/-!
# Faults

A fault stops a session outright: the interpreter cannot be launched, a directory cannot be listed,
or captured output is lost. `Cause` is what the system said, `Fault` what it meant for the session.
-/

namespace Conformance

/-- Why an operation failed. -/
inductive Cause where
  /-- The system refused it. -/
  | system (error : SystemError)
  /-- A file's bytes are not UTF-8. -/
  | notText
  /-- A path holds a NUL character. -/
  | nulInPath
  /-- A program's name or argument holds a NUL character. -/
  | nulInCommand
  | other (message : String)
  deriving DecidableEq, Repr

/-- The text of a cause. An error of the system is shown with its number. -/
def Cause.message : Cause → String
  | system error => s!"{error.text} (os error {error.number})"
  | notText => "stream did not contain valid UTF-8"
  | nulInPath => "file name contained an unexpected NUL byte"
  | nulInCommand => "nul byte found in provided data"
  | other message => message

/-- What stops a session. -/
inductive Fault where
  /-- The interpreter could not be launched. -/
  | spawn (binary : Path) (cause : Cause)
  /-- A directory of the test tree could not be listed. -/
  | walk (path : Path) (cause : Cause)
  /-- The output of the interpreter could not be read to its end. -/
  | capture (binary : Path) (cause : Cause)
  | io (cause : Cause)
  deriving DecidableEq, Repr

namespace Fault

def cause : Fault → Cause
  | spawn _ cause | walk _ cause | capture _ cause | io cause => cause

/-- The text of a fault, which names the path and ends in the cause. -/
def message : Fault → String
  | spawn binary cause => s!"failed to launch \x60{binary.text}\x60: {cause.message}"
  | walk path cause => s!"failed to list \x60{path.text}\x60: {cause.message}"
  | capture binary cause => s!"lost output of \x60{binary.text}\x60: {cause.message}"
  | io cause => s!"I/O error: {cause.message}"

/-- The code under which a fault is reported. -/
def code : Fault → String
  | spawn _ _ => "wrenconform::spawn"
  | walk _ _ => "wrenconform::walk"
  | capture _ _ => "wrenconform::capture"
  | io _ => "wrenconform::io"

/-- What to do about a fault. -/
def help? : Fault → Option String
  | spawn _ _ => some "pass --binary or set WRENCONFORM_BIN to the interpreter under test"
  | walk _ _ | capture _ _ | io _ => none

/-- Whether the interpreter never started. -/
def isLaunchFailure : Fault → Bool
  | spawn _ _ => true
  | walk _ _ | capture _ _ | io _ => false

end Fault

/-- Why something ends early: a fault, which is reported, or the runner itself breaking off. -/
inductive Halt where
  | fault (fault : Fault)
  | crash
  deriving DecidableEq, Repr

/-- Something done on a state, which may end early and keeps the state it ended in. -/
abbrev Action (σ α : Type) := ExceptT Halt (StateM σ) α

end Conformance
