import Conformance.Session

/-!
# The console

A `Console` shows events as they happen: a progress line that is redrawn in place when the console
is live, the argument of each run when it is verbose, a block for every failed file and a summary
at the end.
-/

namespace Conformance

/-- The colours of a report. -/
inductive Color where
  | green
  | pink
  | red
  | yellow
  deriving DecidableEq, Repr

/-- The sequence that switches a colour on. -/
def Color.code : Color → String
  | green => "\x1b[32m"
  | pink => "\x1b[91m"
  | red => "\x1b[31m"
  | yellow => "\x1b[33m"

/-- The sequence that switches colours off. -/
def Color.reset : String := "\x1b[0m"

/-- A text in a colour, if colours are on. -/
def Color.paint (color : Color) (enabled : Bool) (text : String) : String :=
  if enabled then color.code ++ text ++ reset else text

/-- How a session is shown. -/
structure Console where
  verbose : Bool := false
  color : Bool := false
  /-- Whether a progress line is redrawn in place. -/
  live : Bool := false
  /-- Whether what is written is lost. The session goes on all the same. -/
  broken : Bool := false
  deriving DecidableEq, Repr

namespace Console

/-- Erases the current line and returns to its start. -/
def clearLine : String := "\x1b[2K\r"

/-- The indentation of a failure's lines. -/
def indent : String := "      "

/-- The progress line. -/
def progress (tally : Tally) (color : Bool) : String :=
  "Passed: " ++ Color.green.paint color (toString tally.passed) ++
  " Failed: " ++ Color.red.paint color (toString tally.failed) ++
  " Skipped: " ++ Color.yellow.paint color (toString tally.skipped)

/-- The lines of a failure block: a header, then every line of every discrepancy, indented. -/
def failureLines (path : String) (found : List Discrepancy) (color : Bool) : List String :=
  (Color.red.paint color "FAIL" ++ ": " ++ path) ::
    (found.flatMap Discrepancy.lines).map fun line => indent ++ Color.pink.paint color line

/-- A failure block. -/
def failure (path : String) (found : List Discrepancy) (color : Bool) : String :=
  "\n".intercalate (failureLines path found color)

/-- The first line of a summary. -/
def verdictLine (tally : Tally) (color : Bool) : String :=
  if tally.failed = 0 then
    "All " ++ Color.green.paint color (toString tally.passed) ++ " tests passed (" ++
      toString tally.expectations ++ " expectations)."
  else
    Color.green.paint color (toString tally.passed) ++ " tests passed. " ++
      Color.red.paint color (toString tally.failed) ++ " tests failed."

/-- The line of a summary about one reason for skipping. -/
def skipLine (color : Bool) (reason : String) (n : Nat) : String :=
  "Skipped " ++ Color.yellow.paint color (toString n) ++ " tests: " ++ reason

/-- The summary: the verdict, then a line for each reason for skipping. -/
def summary (tally : Tally) (color : Bool) : String :=
  "\n".intercalate (verdictLine tally color ::
    tally.reasons.entries.map fun (reason, n) => skipLine color reason n)

/-- What goes before a text that starts a fresh line. -/
def clear (console : Console) : String := if console.live then clearLine else ""

/-- The text written for an event. -/
def write (console : Console) : Event → String
  | .started _ tally =>
    if console.live then clearLine ++ progress tally console.color else ""
  | .launching argument => if console.verbose then console.clear ++ argument ++ "\n" else ""
  | .executed _ => ""
  | .completed path (.failed found) =>
    console.clear ++ failure path found console.color ++ "\n\n"
  | .completed _ .passed => ""
  | .completed _ (.skipped _) => ""
  | .finished tally => console.clear ++ summary tally console.color ++ "\n"

/-- The text that arrives where the console writes to. -/
def display (console : Console) (event : Event) : String :=
  if console.broken then "" else console.write event

/-- Everything shown for a sequence of events. -/
def transcript (console : Console) (events : List Event) : String :=
  String.join (events.map console.display)

end Console
end Conformance
