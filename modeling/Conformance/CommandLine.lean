import Conformance.Console
import Conformance.Diagnostic
import Conformance.Usage

/-!
# The command line

`CommandLine.run` is the whole program: from the words of the command line, through a session with
some executor, to an exit code and the text on both output streams.
-/

namespace Conformance

/-- How the program ends. -/
inductive ExitStatus where
  /-- No test failed. -/
  | success
  /-- Some test failed, or the tree could not be walked. -/
  | failure
  /-- The interpreter could not be launched, or the command line could not be used. -/
  | unusable
  /-- The runner itself broke off. -/
  | crashed
  deriving DecidableEq, Repr

/-- The exit code of a status. -/
def ExitStatus.code : ExitStatus → Nat
  | success => 0
  | failure => 1
  | unusable => 2
  | crashed => 101

namespace CommandLine

/-- What the program leaves behind. -/
structure Result where
  status : ExitStatus
  stdout : String := ""
  stderr : String := ""
  deriving DecidableEq, Repr

/-- The result of a command line that asks for no session. -/
def stopped : Arguments.Stop → Result
  | .usage error => { status := .unusable, stderr := Usage.complaint error }
  | .help true => { status := .success, stdout := Usage.full }
  | .help false => { status := .success, stdout := Usage.brief }
  | .version => { status := .success, stdout := Usage.version }

/-- The status that a session ends the program with. -/
def status : Except Halt Tally → ExitStatus
  | .ok tally => if tally.isSuccess then .success else .failure
  | .error (.fault fault) => if fault.isLaunchFailure then .unusable else .failure
  | .error .crash => .crashed

/-- What is said on standard error at the end of a session. -/
def complaint : Except Halt Tally → String
  | .error (.fault fault) => "\n" ++ Diagnostic.text fault ++ "\n"
  | .error .crash | .ok _ => ""

/-- The console of a session with these settings. -/
def console (settings : Settings) (environment : Environment) : Console where
  verbose := settings.verbose
  color := settings.color
  live := environment.terminal

variable {σ : Type}

/-- Run the session that some settings describe. -/
def runSession (settings : Settings) (environment : Environment) (disk : σ → Disk)
    (executor : Executor σ) (host : σ) : Result :=
  if (disk host).isDirectory settings.root then
    let report := Session.run settings disk executor host
    { status := status report.result
      stdout := (console settings environment).transcript report.events
      stderr := complaint report.result }
  else
    { status := .failure
      stderr := s!"Test root '{settings.root.text}' is not a directory\n" }

/-- Run the program with some words. -/
def run (words : List String) (environment : Environment) (disk : σ → Disk)
    (executor : Executor σ) (host : σ) : Result :=
  match Arguments.read words with
  | .ok arguments => runSession (arguments.settings environment) environment disk executor host
  | .error stop => stopped stop

end CommandLine
end Conformance
