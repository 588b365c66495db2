import Conformance.Text.CharClass

/-!
# Patterns

Patterns of texts: a star matches any text, a question mark any character, and brackets one of the
characters in them. A pattern is made of glyphs, of which the quoted ones match only themselves.
-/

namespace Conformance.Shell

/-- A character of a word, quoted or not, or a quotation mark, which is no part of its text. -/
inductive Glyph where
  | mark
  | bare (c : Char)
  | quoted (c : Char)
  deriving DecidableEq, Repr

namespace Glyph

/-- The character of a glyph. -/
def char? : Glyph → Option Char
  | mark => none
  | bare c | quoted c => some c

/-- The characters of a text, all of them quoted or none. -/
def ofRaw (isQuoted : Bool) (text : Raw) : List Glyph :=
  text.map (if isQuoted then quoted else bare)

end Glyph

/-- The text of some glyphs. -/
def textOf (glyphs : List Glyph) : Raw := glyphs.filterMap Glyph.char?

/-- A member of a set of characters. -/
inductive SetMember where
  | range (first last : Char)
  /-- The characters of a class with a name. -/
  | class (name : String)
  deriving DecidableEq, Repr

/-- A part of a pattern. -/
inductive PatternPart where
  | char (c : Char)
  | anyChar
  | anyText
  /-- One of some characters, or none of them. -/
  | oneOf (negated : Bool) (members : List SetMember)
  deriving DecidableEq, Repr

abbrev Pattern := List PatternPart

namespace Pattern

/-- The class of characters that starts after an opening bracket, and what comes after it. -/
def class? (glyphs : List Glyph) : Option (String × List Glyph) :=
  let bare := (glyphs.takeWhile fun
    | .bare _ => true
    | .quoted _ | .mark => false)
  match CharClass.read? (textOf bare) with
  | some (name, _) =>
    if (CharClass.named? name).isSome then some (name, glyphs.drop (name.length + 3)) else none
  | none => none

/-- The members of a set up to its closing bracket, of which the first one may be a bracket itself,
    and what comes after it. -/
def members : Nat → List Glyph → Option (List SetMember × List Glyph)
  | 0, _ | _, [] => none
  | fuel + 1, first :: rest => do
    let ended (member : SetMember) (rest : List Glyph) : Option (List SetMember × List Glyph) := do
      match rest with
      | .bare ']' :: after => return ([member], after)
      | _ =>
        let (more, after) ← members fuel rest
        return (member :: more, after)
    let one (c : Char) (rest : List Glyph) : Option (List SetMember × List Glyph) :=
      match rest with
      | .bare '-' :: .bare ']' :: _ => ended (.range c c) rest
      | .bare '-' :: .bare '\\' :: last :: after => ended (.range c (last.char?.getD c)) after
      | .bare '-' :: last :: after => ended (.range c (last.char?.getD c)) after
      | _ => ended (.range c c) rest
    match first, rest with
    | .bare '\\', next :: rest => one (next.char?.getD '\\') rest
    | .bare '[', _ =>
      match class? rest with
      | some (name, after) => ended (.class name) after
      | none => one '[' rest
    | _, _ => one (first.char?.getD '[') rest

/-- The set after an opening bracket, and what comes after it. -/
def set? (glyphs : List Glyph) : Option (PatternPart × List Glyph) := do
  let (negated, glyphs) := match glyphs with
    | .bare '!' :: rest => (true, rest)
    | _ => (false, glyphs)
  let (found, after) ← members (glyphs.length + 1) glyphs
  return (.oneOf negated found, after)

/-- The pattern that glyphs make up. -/
def ofGlyphs (glyphs : List Glyph) : Pattern :=
  let glyphs := glyphs.filter (· ≠ .mark)
  go (glyphs.length + 1) glyphs
where
  go : Nat → List Glyph → Pattern
    | 0, _ | _, [] => []
    | fuel + 1, .bare '*' :: rest => .anyText :: go fuel rest
    | fuel + 1, .bare '?' :: rest => .anyChar :: go fuel rest
    | fuel + 1, .bare '\\' :: next :: rest => .char (next.char?.getD '\\') :: go fuel rest
    | fuel + 1, .bare '[' :: rest =>
      match set? rest with
      | some (part, after) => part :: go fuel after
      | none => .char '[' :: go fuel rest
    | fuel + 1, glyph :: rest => .char (glyph.char?.getD '\\') :: go fuel rest

/-- Whether a member of a set stands for a character. -/
def contains (c : Char) : SetMember → Bool
  | .range first last => first ≤ c && c ≤ last
  | .class name => ((CharClass.named? name).map (· c)).getD false

/-- Whether a part matches a character. -/
def accepts (part : PatternPart) (c : Char) : Bool :=
  match part with
  | .char d => c == d
  | .anyChar | .anyText => true
  | .oneOf negated members => members.any (contains c) != negated

/-- Whether a pattern matches a whole text. -/
def fits : Pattern → Raw → Bool
  | [], text => text.isEmpty
  | [.anyText], _ => true
  | .anyText :: p, [] => fits p []
  | .anyText :: p, c :: text => fits p (c :: text) || fits (.anyText :: p) text
  | part :: p, c :: text => accepts part c && fits p text
  | _ :: _, [] => false
termination_by p text => (p.length, text.length)

/-- Whether a pattern matches more than one text. -/
def isOpen (p : Pattern) : Bool := p.any fun
  | .char _ => false
  | .anyChar | .anyText | .oneOf _ _ => true

/-- The text that a pattern matches if it matches only one. -/
def fixed (p : Pattern) : Raw := p.filterMap fun
  | .char c => some c
  | .anyChar | .anyText | .oneOf _ _ => none

/-- How many characters the pattern matches at the start or end of a text: as many or as few as it
    can, and none if it does not match there. What begins at some place is matched only up to the
    next `stop`, after which the text counts as a part of what was matched. -/
def matched (p : Pattern) (atEnd longest : Bool) (stop : Char) (text : Raw) : Nat :=
  let upToStop (part : Raw) : Raw := part.takeWhile (· ≠ stop)
  let part (n : Nat) : Raw :=
    upToStop (if atEnd then text.drop (text.length - n) else text.take n)
  let least := if atEnd ∧ longest then text.length - (upToStop text).length else 0
  let lengths := (List.range (text.length + 1)).drop least
  ((if longest then lengths.reverse else lengths).find? fun n => fits p (part n)).getD 0

end Pattern
end Conformance.Shell
