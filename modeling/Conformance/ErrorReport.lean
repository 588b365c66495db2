import Conformance.Mark

/-!
# Error reports

An interpreter reports a compile error as a line such as `[main line 6] Error: ...`. A line is a
report if, after its first opening bracket, ` line D] Error` occurs with a non-empty run of digits
`D`; the last such occurrence gives the number.
-/

namespace Conformance.ErrorReport

/-- The digits between ` line ` and `] Error` at the front of a text. -/
def digitsHere? (cs : List Char) : Option (List Char) := do
  let rest ← " line ".toList.isPrefixOf? cs
  let digits ← Mark.numeral? rest
  let _ ← "] Error".toList.isPrefixOf? (rest.dropWhile Numeral.isDigit)
  return digits

/-- The digits of the line number that a report names; `none` if the line is no report. -/
def digits? (line : List Char) : Option (List Char) :=
  match line.dropWhile (· ≠ '[') with
  | [] => none
  | _ :: rest => Occurrence.last? digitsHere? rest

end Conformance.ErrorReport
