import Conformance.Fault
import Conformance.Paragraph

/-!
# Diagnostics

The report of a fault: its code, its message, its cause and what to do about it, filled into lines.
-/

namespace Conformance.Diagnostic

/-- The width of a report. -/
def width : Nat := 78

/-- The report of a fault. -/
def text (fault : Fault) : String :=
  let paragraph (first others body : String) : String :=
    Paragraph.fill width first others body ++ "\n"
  fault.code ++ "\n\n" ++
    paragraph "  × " "  │ " fault.message ++
    paragraph "  ╰─▶ " "      " fault.cause.message ++
    ((fault.help?.map (paragraph "  help: " "        ")).getD "")

end Conformance.Diagnostic
