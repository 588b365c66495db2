import Conformance.SkipCounts

/-!
# Tallies

The running counters of one session.
-/

namespace Conformance

/-- The running counters of one session. -/
structure Tally where
  passed : Nat := 0
  failed : Nat := 0
  /-- The number of skipped files. -/
  skipped : Nat := 0
  /-- The same, by reason. -/
  reasons : SkipCounts := .empty
  /-- The number of counted marks in the files that were run. -/
  expectations : Nat := 0
  deriving DecidableEq, Repr

namespace Tally

def pass (t : Tally) (n : Nat) : Tally := { t with passed := t.passed + n }

def fail (t : Tally) (n : Nat) : Tally := { t with failed := t.failed + n }

def expect (t : Tally) (n : Nat) : Tally := { t with expectations := t.expectations + n }

/-- Count one skipped file. -/
def skip (t : Tally) (reason : String) : Tally :=
  { t with skipped := t.skipped + 1, reasons := t.reasons.record reason }

/-- Whether no file failed. -/
def isSuccess (t : Tally) : Bool := t.failed == 0

end Tally
end Conformance
