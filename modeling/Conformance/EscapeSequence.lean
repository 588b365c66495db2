/-!
# Escape sequences

A text for a terminal may hold sequences that are obeyed and not shown. A sequence begins with the
escape character. A bracket after it opens a control sequence, which ends with a letter or sign;
a closing bracket opens a command, which ends with a bell or with an escaped backslash; any other
character ends the sequence.
-/

namespace Conformance.EscapeSequence

def escape : Char := Char.ofNat 0x1B
def bell : Char := Char.ofNat 0x07

/-- Where in an escape sequence a text stands. -/
inductive State where
  | outside
  /-- After the escape character. -/
  | begun
  /-- In a control sequence. -/
  | control
  /-- In a command, after an escape character or not. -/
  | command (escaped : Bool)
  deriving DecidableEq, Repr

/-- Whether a character ends a control sequence. -/
def isFinal (c : Char) : Bool := 0x40 ≤ c.toNat && c.toNat ≤ 0x7E

/-- Where a text stands after one more character. -/
def State.next (state : State) (c : Char) : State :=
  match state with
  | outside => if c = escape then begun else outside
  | begun => if c = '[' then control else if c = ']' then command false else outside
  | control => if isFinal c then outside else control
  | command escaped =>
    if c = bell ∨ (escaped ∧ c = '\\') then outside else command (c = escape)

/-- Whether a character is shown where a text stands. -/
def State.shows (state : State) (c : Char) : Bool := state = outside && c ≠ escape

/-- The characters of a text, each with whether it is shown, from some state on. -/
def markFrom (state : State) : List Char → List (Char × Bool)
  | [] => []
  | c :: rest => (c, state.shows c) :: markFrom (state.next c) rest

/-- The characters of a text, each with whether it is shown. -/
def mark (text : List Char) : List (Char × Bool) := markFrom .outside text

/-- The characters of a text that are shown. -/
def visible (text : List Char) : List Char := ((mark text).filter Prod.snd).map Prod.fst

end Conformance.EscapeSequence
