import Conformance.Shell.Options
import Conformance.Text.Format
import Conformance.Tools.Condition

/-!
# Programs of the shell that print and ask

`echo`, `printf` and `test` as the shell has them itself. Each gives a status, and what it prints is
written when it ends.
-/

namespace Conformance.Shell

/-- A program of the shell's own: given its arguments, it gives a status. -/
abbrev Builtin := List Raw → Shell Nat

namespace Builtin

/-- The backslash sequences in what is printed. -/
def escapes : Format.Escapes := { leadingZero := true, stops := true }

/-- `echo`: its arguments with their backslash sequences carried out. -/
def echo : Builtin := fun arguments => do
  let (endsLine, words) := match arguments with
    | ['-', 'n'] :: words => (false, words)
    | words => (true, words)
  let (text, stopped) := Format.unescape escapes ([' '].intercalate words)
  emit (if endsLine && !stopped then text ++ ['\n'] else text)
  return 0

def printfDialect : Format.Dialect where
  format := {}
  argument := escapes
  notNumber argument := Raw.text argument ++ ": expected numeric value"
  notWhole argument := Raw.text argument ++ ": not completely converted"
  outOfRange argument := Raw.text argument ++ ": Numerical result out of range"
  badDirective directive := Raw.text directive ++ ": invalid directive"
  rounded := Ratio.toDouble

/-- Complain about each of some things. -/
def warnAll : List String → Shell Unit
  | [] => pure ()
  | first :: rest => do
    warn (.ofString first)
    warnAll rest

/-- `printf`: arguments in a format. -/
def printf : Builtin := fun arguments => do
  match ← Options.takeNone arguments with
  | [] => fail "usage: printf format [arg ...]".toList
  | format :: values =>
    let printed := Format.print printfDialect format values
    emit printed.text
    match printed.refused, printed.complaints with
    | true, last :: before =>
      warnAll before.reverse
      fail (.ofString last)
    | _, complaints =>
      warnAll complaints.reverse
      return if complaints = [] then 0 else 1

/-- `test`: whether a condition holds. -/
def test : Builtin := fun arguments => do
  match ← (Condition.evaluate arguments).run with
  | .ok holds => return if holds then 0 else 1
  | .error message => fail (.ofString message)

/-- `[`: the same, with a bracket after the condition. -/
def bracket : Builtin := fun arguments =>
  if arguments.getLast? = some [']'] then test arguments.dropLast else fail "missing ]".toList

end Builtin
end Conformance.Shell
