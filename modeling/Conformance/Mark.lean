import Conformance.Numeral
import Conformance.Occurrence

/-!
# Marks

A test file states what running it should produce in comments of its own text, its marks. `onLine`
finds the marks of one line: every kind is looked for, anywhere in the line, and all that are found
count. `render` writes a mark the way it is documented.
-/

namespace Conformance

/-- One thing that a line of a test file asks for. -/
inductive Mark where
  /-- A line of standard output. -/
  | output (text : String)
  /-- A compile error on the mark's own line. -/
  | error
  /-- A compile error on the line that is named; `none` when the numeral has no value. -/
  | errorLine (number : Option Nat)
  /-- A runtime error, reported on the first line of standard error. -/
  | runtimeError (message : String)
  /-- A line of standard input. -/
  | stdin (text : String)
  deriving DecidableEq, Repr

namespace Mark

def outputMarker : String := "// expect: "
def errorMarker : String := "// expect error"
def errorLineMarker : String := "// expect error line "
def runtimeErrorMarker : String := "// expect runtime error: "
def stdinMarker : String := "// stdin: "

/-- The non-empty run of digits at the front of a text. -/
def numeral? (cs : List Char) : Option (List Char) :=
  match cs.takeWhile Numeral.isDigit with
  | [] => none
  | digits => some digits

/-- The numeral of a mark that names a line: the first marker directly before a digit. -/
def namedLine? (line : List Char) : Option (List Char) :=
  Occurrence.first? (fun cs => (errorLineMarker.toList.isPrefixOf? cs).bind numeral?) line

/-- The message of a runtime error: the text after the first marker that is not at the end. -/
def message? (line : List Char) : Option (List Char) :=
  Occurrence.first?
    (fun cs => (runtimeErrorMarker.toList.isPrefixOf? cs).filter (· ≠ [])) line

/-- Every mark of one line, in the order in which they take effect. -/
def onLine (line : List Char) : List Mark :=
  ((Occurrence.after? outputMarker line).map fun text => output (.ofList text)).toList ++
  ((Occurrence.after? errorMarker line).map fun _ => error).toList ++
  ((namedLine? line).map fun digits => errorLine (Numeral.word? digits)).toList ++
  ((message? line).map fun text => runtimeError (.ofList text)).toList ++
  ((Occurrence.after? stdinMarker line).map fun text => stdin (.ofList text)).toList

/-- The documented form of a mark. A line number without a value has no form of its own, so
    only the marker is written. -/
def render : Mark → String
  | output text => outputMarker ++ text
  | error => errorMarker
  | errorLine number => errorLineMarker ++ (number.map toString).getD ""
  | runtimeError message => runtimeErrorMarker ++ message
  | stdin text => stdinMarker ++ text

end Mark
end Conformance
