/-!
# Signals

The signals that processes send each other: their numbers and names, what is said of a process that
one has ended, and which of them end nothing unless they are caught.
-/

namespace Conformance.Signal

/-- The names of the signals from number 1 on. -/
def names : List String := [
  "HUP", "INT", "QUIT", "ILL", "TRAP", "ABRT", "BUS", "FPE", "KILL", "USR1", "SEGV", "USR2",
  "PIPE", "ALRM", "TERM", "STKFLT", "CHLD", "CONT", "STOP", "TSTP", "TTIN", "TTOU", "URG", "XCPU",
  "XFSZ", "VTALRM", "PROF", "WINCH", "IO", "PWR", "SYS"]

/-- What is said of a process that a signal has ended, from signal number 1 on. -/
def descriptions : List String := [
  "Hangup", "Interrupt", "Quit", "Illegal instruction", "Trace/breakpoint trap", "Aborted",
  "Bus error", "Floating point exception", "Killed", "User defined signal 1",
  "Segmentation fault", "User defined signal 2", "Broken pipe", "Alarm clock", "Terminated",
  "Stack fault", "Child exited", "Continued", "Stopped (signal)", "Stopped",
  "Stopped (tty input)", "Stopped (tty output)", "Urgent I/O condition",
  "CPU time limit exceeded", "File size limit exceeded", "Virtual timer expired",
  "Profiling timer expired", "Window changed", "I/O possible", "Power failure",
  "Bad system call"]

/-- One more than the greatest number of a signal. -/
def limit : Nat := 65

/-- The first signal without a fixed meaning, and the last one. -/
def firstFree : Nat := 34
def lastFree : Nat := 64

/-- What is said of a process that a signal has ended. -/
def description (number : Nat) : String :=
  if firstFree ≤ number ∧ number ≤ lastFree then
    s!"Real-time signal {number - firstFree}"
  else if number = 0 then "Unknown signal 0"
  else (descriptions[number - 1]?).getD s!"Unknown signal {number}"

/-- The name of a signal, without the letters that all of them begin with. -/
def name? (number : Nat) : Option String :=
  let middle := (firstFree + lastFree) / 2
  if number = firstFree then some "RTMIN"
  else if number = lastFree then some "RTMAX"
  else if firstFree < number ∧ number ≤ middle then some s!"RTMIN+{number - firstFree}"
  else if middle < number ∧ number < lastFree then some s!"RTMAX-{lastFree - number}"
  else if number = 0 then none
  else names[number - 1]?

def hangup : Nat := 1
def interrupt : Nat := 2
def quit : Nat := 3
def kill : Nat := 9
def segmentation : Nat := 11
def pipe : Nat := 13
def terminate : Nat := 15
def child : Nat := 17
def resume : Nat := 18
def stop : Nat := 19

/-- Whether a signal that is not caught does nothing. -/
def isHarmless (number : Nat) : Bool := number ∈ [child, resume, 23, 28]

/-- Whether a signal that is not caught stops a process, which then waits to be continued. -/
def isStop (number : Nat) : Bool := number ∈ [stop, 20, 21, 22]

/-- Whether a signal can be neither caught nor ignored. -/
def isSovereign (number : Nat) : Bool := number = kill || number = stop

end Conformance.Signal
