import Conformance.Shell.Builtin.Names
import Conformance.Shell.Builtin.Places
import Conformance.Shell.Builtin.Processes
import Conformance.Shell.Builtin.Variables

/-!
# The shell's own programs

Those that say what is passed over and how a shell ends, and a table of all programs that need
nothing but the state of the shell.
-/

namespace Conformance.Shell.Builtin

/-! ## What is passed over -/

/-- `break` and `continue`. Out of loops they do nothing. -/
def leaveLoops (skip : Nat → Skip) : Builtin := fun arguments => do
  let count ← match arguments with
    | [] => pure 1
    | word :: _ =>
      let n ← number word
      if n = 0 then wrongNumber word else pure n
  let s ← get
  let count := min count s.loops
  if 0 < count then modify fun s => { s with skip := some (skip count) }
  return 0

/-- `return`: ends a function or a script that was read in place. -/
def back : Builtin := fun arguments => do
  match arguments with
  | word :: _ =>
    let status ← number word
    modify fun s => { s with skip := some .call }
    return status
  | [] =>
    let s ← get
    modify fun s => { s with skip := some .callAsIs }
    return s.status

/-- `exit`. -/
def exit : Builtin := fun arguments => do
  match arguments with
  | word :: _ =>
    let status ← number word
    modify fun s => { s with kept := some status }
  | [] => pure ()
  throw .exit

/-- `true` and `false`. -/
def give (status : Nat) : Builtin := fun _ => return status

/-! ## All of them -/

/-- The program of the shell's own with a name. -/
def find? (name : String) : Option Builtin :=
  match name with
  | ":" | "true" => some (give 0)
  | "false" => some (give 1)
  | "[" => some bracket
  | "alias" => some makeAliases
  | "bg" | "fg" => some control
  | "break" => some (leaveLoops .leave)
  | "cd" | "chdir" => some changeDirectory
  | "command" => some command
  | "continue" => some (leaveLoops .goOn)
  | "echo" => some echo
  | "exit" => some exit
  | "export" => some (mark name true)
  | "getopts" => some getopts
  | "hash" => some hash
  | "jobs" => some jobs
  | "kill" => some kill
  | "local" => some localVariables
  | "printf" => some printf
  | "pwd" => some printDirectory
  | "read" => some readLine
  | "readonly" => some (mark name false)
  | "return" => some back
  | "set" => some set
  | "shift" => some shift
  | "test" => some test
  | "times" => some times
  | "trap" => some trap
  | "type" => some type
  | "ulimit" => some ulimit
  | "umask" => some umask
  | "unalias" => some unalias
  | "unset" => some unset
  | "wait" => some wait
  | _ => none

end Conformance.Shell.Builtin
