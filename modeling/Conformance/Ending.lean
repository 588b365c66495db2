/-!
# Endings

How a running program ends: by itself, with a code, or by a signal.
-/

namespace Conformance

/-- How a program ended. -/
inductive Ending where
  | exited (code : Nat)
  | signalled (signal : Nat)
  deriving DecidableEq, Repr

/-- The exit code recorded for an ending; a signal leaves none. -/
def Ending.code : Ending → Int
  | exited code => code
  | signalled _ => -1

end Conformance
