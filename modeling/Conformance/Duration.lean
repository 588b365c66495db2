import Conformance.Ratio

/-!
# Durations

A span of time in seconds and nanoseconds. `secondsText` prints it in seconds with one decimal: the
span is first taken to double precision, as a sum of its two parts, and that value is rounded.
-/

namespace Conformance

/-- A span of time. -/
structure Duration where
  secs : Nat := 0
  nanos : Nat := 0
  deriving DecidableEq, Repr, Inhabited

namespace Duration

/-- The number of nanoseconds in a second. -/
def nanosPerSecond : Nat := 1000000000

def ofSecs (secs : Nat) : Duration := ⟨secs, 0⟩

/-- The whole span in nanoseconds. -/
def toNanos (d : Duration) : Nat := d.secs * nanosPerSecond + d.nanos

/-- The span in seconds, in double precision. -/
def seconds (d : Duration) : Ratio :=
  let whole := Ratio.toDouble ⟨d.secs, 1⟩
  let part := Ratio.toDouble ⟨d.nanos, nanosPerSecond⟩
  (Ratio.add whole part).toDouble

/-- The number of tenths of a second, a tie going to the even one. -/
def tenths (d : Duration) : Nat := Ratio.round ⟨10 * d.seconds.num, d.seconds.den⟩

/-- The span in seconds with one decimal. -/
def secondsText (d : Duration) : String := s!"{d.tenths / 10}.{d.tenths % 10}"

end Duration
end Conformance
