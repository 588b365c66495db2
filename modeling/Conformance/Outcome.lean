import Conformance.Duration
import Conformance.Line
import Conformance.Utf8

/-!
# Outcomes

An `Outcome` is what one run of the interpreter left behind. Captured bytes are decoded as UTF-8
with every carriage return before a newline dropped; bytes that encode nothing are replaced, and
the outcome says so.
-/

namespace Conformance

/-- Captured bytes as text, and whether all of them could be decoded. -/
structure Decoded where
  text : String
  clean : Bool
  deriving DecidableEq, Repr

/-- Decode captured bytes. -/
def Decoded.ofBytes (bytes : List UInt8) : Decoded where
  text := .ofList (Line.unixNewlines (Utf8.chars bytes))
  clean := Utf8.valid bytes

/-- What one run left behind. -/
structure Outcome where
  stdout : String := ""
  stderr : String := ""
  exitCode : Int := 0
  /-- One of the streams was not valid UTF-8. -/
  decodeFailed : Bool := false
  /-- The time limit, if the program was killed for running past it. -/
  timedOut : Option Duration := none
  deriving DecidableEq, Repr, Inhabited

/-- The outcome of a run that ended by itself, from the bytes of its two streams. -/
def Outcome.ofBytes (stdout stderr : List UInt8) (exitCode : Int) : Outcome :=
  let out := Decoded.ofBytes stdout
  let err := Decoded.ofBytes stderr
  { stdout := out.text, stderr := err.text, exitCode, decodeFailed := !(out.clean && err.clean) }

end Conformance
