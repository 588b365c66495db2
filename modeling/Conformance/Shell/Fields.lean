import Conformance.Shell.Pattern

/-!
# Fields

What a word stands for is split into fields: a part that comes from an expansion out of quotes at
the separators in it, which the variable `IFS` holds. Blanks among the separators count as one,
other separators each end a field.
-/

namespace Conformance.Shell

/-- How a part of an expanded word is split. -/
inductive Splitting where
  | never
  | atSeparators
  /-- Only between arguments. -/
  | betweenArguments
  deriving DecidableEq, Repr

/-- A part of an expanded word. -/
structure Part where
  glyphs : List Glyph
  splitting : Splitting
  deriving Repr

/-- The glyphs of some parts. -/
def glyphsOf (parts : List Part) : List Glyph := parts.flatMap (·.glyphs)

/-- The separator between arguments, which no argument contains. -/
def argumentEnd : Char := Char.ofNat 0

/-- The separators when nothing else is said. -/
def defaultSeparators : Raw := [' ', '\t', '\n']

/-- Whether a separator counts together with those beside it. -/
def isBlankSeparator (c : Char) : Bool := c == argumentEnd || c ∈ defaultSeparators

/-- The splitting of a word under way. -/
structure Splitter where
  /-- The fields that are complete, the last one first. -/
  fields : List (List Glyph) := []
  /-- The glyphs of the next field, the last one first. -/
  current : List Glyph := []
  /-- How many fields may still come, if there is a bound. -/
  room : Option Nat
  /-- Whether the last separator was a blank one. -/
  afterBlank : Bool := false
  /-- Whether a field has just ended. -/
  skips : Bool := false
  /-- Where the last field ends if nothing but separators follows. -/
  cut : Option Nat := none
  /-- Whether the last part that is split was split between arguments. -/
  separate : Bool := false

namespace Splitter

def push (s : Splitter) (glyph : Glyph) : Splitter := { s with current := glyph :: s.current }

/-- Take a glyph when no further field may begin. What can be cut from the end is noted. -/
def pushLast (s : Splitter) (glyph : Glyph) (isSeparator isBlank : Bool) : Splitter :=
  let length := s.current.length
  if isSeparator && isBlank then { s.push glyph with cut := some (s.cut.getD length) }
  else if isSeparator && s.afterBlank then { s.push glyph with afterBlank := false }
  else { s.push glyph with cut := none, afterBlank := false }

/-- End a field at a separator. -/
def separateAt (s : Splitter) (glyph : Glyph) (skips : Bool) : Splitter :=
  match s.room with
  | some 1 => { s.push glyph with room := some 0, cut := some s.current.length }
  | room =>
    { s with
      fields := s.current.reverse :: s.fields, current := [], room := room.map (· - 1), skips }

/-- Take a glyph of a part that is split. -/
def step (separators : Raw) (splitting : Splitting) (afterArguments : Bool) (s : Splitter)
    (glyph : Glyph) : Splitter :=
  match glyph.char? with
  | none => { s.push glyph with skips := false }
  | some c =>
    let between : Bool := splitting = .betweenArguments
    let isSeparator := c == argumentEnd || (!between && c ∈ separators)
    let isBlank := isBlankSeparator c
    if s.room = some 0 then s.pushLast glyph isSeparator isBlank
    else if s.skips && isSeparator && isBlank then s
    else if s.skips && isSeparator && s.afterBlank then { s with afterBlank := false }
    else if !isSeparator then { s.push glyph with skips := false }
    else
      let afterBlank := if afterArguments || between then s.afterBlank else isBlank
      if s.current.isEmpty && afterBlank then { s with afterBlank := false, skips := false }
      else { s with afterBlank }.separateAt glyph (!between)

/-- Take a part. -/
def part (separators : Raw) (s : Splitter) (p : Part) : Splitter :=
  match p.splitting with
  | .never => p.glyphs.foldl push { s with skips := false }
  | splitting =>
    p.glyphs.foldl (step separators splitting s.separate)
      { s with separate := splitting = .betweenArguments, afterBlank := false, skips := false }

/-- The fields in their order, with the last one if there is one. -/
def finish (s : Splitter) : List (List Glyph) :=
  let last := s.current.reverse.take (s.cut.getD s.current.length)
  (if s.separate || !last.isEmpty then last :: s.fields else s.fields).reverse

end Splitter

/-- The fields of some parts, at most so many if there is a bound. -/
def fields (separators : Raw) (room : Option Nat) (parts : List Part) : List (List Glyph) :=
  (parts.foldl (Splitter.part separators) { room }).finish

end Conformance.Shell
