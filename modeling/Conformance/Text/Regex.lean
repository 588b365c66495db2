import Conformance.Text.CharClass

/-!
# Regular expressions

Basic and extended regular expressions over bytes, with groups that can be referred to. A match is
looked for by trying all ways in order, and the longest one counts.
-/

namespace Conformance.Regex

/-- A regular expression. -/
inductive Expr where
  | empty
  | char (c : Char)
  | any
  | oneOf (negated : Bool) (chars : List (Char × Char))
  | start
  | finish
  /-- The border of a word: its start, its end, either, or neither. -/
  | border (atStart atEnd : Bool) (negated : Bool)
  | group (number : Nat) (inner : Expr)
  | reference (number : Nat)
  | sequence (first second : Expr)
  | choice (first second : Expr)
  | repeat (least : Nat) (most : Option Nat) (inner : Expr)
  deriving Inhabited

/-- What is wrong with an expression. -/
abbrev Parsed := Except String

/-- How an expression is written. -/
structure Syntax where
  isExtended : Bool
  foldsCase : Bool := false

/-! ## Reading -/

/-- The ranges in brackets up to the closing one, and what comes after it. -/
def bracketItems : Nat → Raw → Parsed (List (Char × Char) × Raw)
  | 0, _ | _, [] => .error "Unmatched [, [^, [:, [., or [="
  | fuel + 1, text =>
    match text with
    | '[' :: rest =>
      match CharClass.read? rest with
      | some (name, after) =>
        match CharClass.named? name with
        | some accepts => do
          let (more, after) ← items fuel after
          return ((CharClass.members accepts).map (fun c => (c, c)) ++ more, after)
        | none => .error "Invalid character class name"
      | none => item fuel text
    | _ => item fuel text
where
  items (fuel : Nat) (text : Raw) : Parsed (List (Char × Char) × Raw) :=
    match text with
    | ']' :: rest => .ok ([], rest)
    | _ => bracketItems fuel text
  item (fuel : Nat) (text : Raw) : Parsed (List (Char × Char) × Raw) :=
    match text with
    | a :: '-' :: b :: rest =>
      if b = ']' then do
        let (more, after) ← items fuel ('-' :: b :: rest)
        return ((a, a) :: more, after)
      else if b < a then .error "Invalid range end"
      else do
        let (more, after) ← items fuel rest
        return ((a, b) :: more, after)
    | a :: rest => do
      let (more, after) ← items fuel rest
      return ((a, a) :: more, after)
    | [] => .error "Unmatched [, [^, [:, [., or [="

/-- What an opening bracket stands for, from after it. -/
def bracket (fuel : Nat) (text : Raw) : Parsed (Expr × Raw) := do
  let (negated, text) := match text with
    | '^' :: rest => (true, rest)
    | _ => (false, text)
  let (ranges, after) ← bracketItems fuel text
  return (.oneOf negated ranges, after)

/-- The bounds of a repetition, from after the opening brace, and what comes after them. -/
def bounds? (isExtended : Bool) (text : Raw) : Option (Nat × Option Nat × Raw) :=
  let number (digits : Raw) : Nat := digits.foldl (fun n c => n * 10 + (c.toNat - 48)) 0
  let first := text.takeWhile Char.isDigit
  let rest := text.drop first.length
  let (most, rest) : Option Nat × Raw := match rest with
    | ',' :: rest =>
      let last := rest.takeWhile Char.isDigit
      (if last = [] then none else some (number last), rest.drop last.length)
    | _ => (some (number first), rest)
  let closing : Raw := if isExtended then [Char.ofNat 0x7d] else ['\\', Char.ofNat 0x7d]
  if (first ≠ [] ∨ most.isSome ∨ text.head? = some ',') ∧ closing.isPrefixOf rest ∧
      !(first = [] ∧ text.head? ≠ some ',') then
    some (number first, most, rest.drop closing.length)
  else none

/-- The repetitions after a part. -/
def repeats (s : Syntax) : Nat → Expr → Raw → Parsed (Expr × Raw)
  | 0, e, text => .ok (e, text)
  | fuel + 1, e, text =>
    let brace := Char.ofNat 0x7b
    let bounded (rest : Raw) : Parsed (Expr × Raw) :=
      match bounds? s.isExtended rest with
      | some (least, most, rest) =>
        if most.any (· < least) then .error "Invalid content of \\\x7b\\\x7d"
        else repeats s fuel (.repeat least most e) rest
      | none => .error "Invalid content of \\\x7b\\\x7d"
    match text with
    | '*' :: rest => repeats s fuel (.repeat 0 none e) rest
    | '\\' :: c :: rest =>
      if s.isExtended then .ok (e, text)
      else if c = '+' then repeats s fuel (.repeat 1 none e) rest
      else if c = '?' then repeats s fuel (.repeat 0 (some 1) e) rest
      else if c = brace then bounded rest
      else .ok (e, text)
    | c :: rest =>
      if !s.isExtended then .ok (e, text)
      else if c = '+' then repeats s fuel (.repeat 1 none e) rest
      else if c = '?' then repeats s fuel (.repeat 0 (some 1) e) rest
      else if c = brace ∧ (bounds? true rest).isSome then bounded rest
      else .ok (e, text)
    | [] => .ok (e, text)

/-- What a letter after a backslash stands for, if it is no group. -/
def escaped (c : Char) : Expr :=
  let word : List (Char × Char) := [('a', 'z'), ('A', 'Z'), ('0', '9'), ('_', '_')]
  let space : List (Char × Char) := [(' ', ' '), (Char.ofNat 9, Char.ofNat 13)]
  match c with
  | 'w' => .oneOf false word
  | 'W' => .oneOf true word
  | 's' => .oneOf false space
  | 'S' => .oneOf true space
  | '<' => .border true false false
  | '>' => .border false true false
  | 'b' => .border true true false
  | 'B' => .border true true true
  | 'n' => .char '\n'
  | 't' => .char '\t'
  | _ => if '1' ≤ c ∧ c ≤ '9' then .reference (c.toNat - 48) else .char c

mutual

/-- Sequences with bars between them. The number of groups so far is passed along. -/
def choices (s : Syntax) : Nat → Nat → Bool → Raw → Parsed (Expr × Nat × Raw)
  | 0, n, _, text => .ok (.empty, n, text)
  | fuel + 1, n, inGroup, text => do
    let (first, n, text) ← parts s fuel n inGroup true .empty text
    let bar : Raw := if s.isExtended then ['|'] else ['\\', '|']
    if bar.isPrefixOf text then
      let (second, n, text) ← choices s fuel n inGroup (text.drop bar.length)
      return (.choice first second, n, text)
    return (first, n, text)

/-- Parts one after the other, after those read so far. -/
def parts (s : Syntax) :
    Nat → Nat → Bool → Bool → Expr → Raw → Parsed (Expr × Nat × Raw)
  | 0, n, _, _, before, text => .ok (before, n, text)
  | fuel + 1, n, inGroup, isFirst, before, text =>
    let go (e : Expr) (n : Nat) (rest : Raw) : Parsed (Expr × Nat × Raw) := do
      let (e, rest) ← repeats s fuel e rest
      parts s fuel n inGroup false (.sequence before e) rest
    let group (rest : Raw) (closing : Raw) : Parsed (Expr × Nat × Raw) := do
      let (inner, m, rest) ← choices s fuel (n + 1) true rest
      if closing.isPrefixOf rest then go (.group (n + 1) inner) m (rest.drop closing.length)
      else throw "Unmatched ( or \\("
    match text with
    | [] => .ok (before, n, [])
    | '[' :: rest => do
      let (e, rest) ← bracket (rest.length + 1) rest
      go e n rest
    | '.' :: rest => go .any n rest
    | '\\' :: [] => .error "Trailing backslash"
    | '\\' :: c :: rest =>
      if s.isExtended then go (escaped c) n rest
      else if c = '(' then group rest ['\\', ')']
      else if c = ')' then
        if inGroup then .ok (before, n, text) else .error "Unmatched ) or \\)"
      else if c = '|' then .ok (before, n, text)
      else go (escaped c) n rest
    | '*' :: rest =>
      if isFirst then
        if s.isExtended then parts s fuel n inGroup true before rest else go (.char '*') n rest
      else go (.char '*') n rest
    | '^' :: rest =>
      if s.isExtended then parts s fuel n inGroup true (.sequence before .start) rest
      else if isFirst then parts s fuel n inGroup true (.sequence before .start) rest
      else go (.char '^') n rest
    | '$' :: rest =>
      let ends := rest = [] ∨ (!s.isExtended ∧
        (['\\', ')'].isPrefixOf rest ∨ ['\\', '|'].isPrefixOf rest))
      if s.isExtended ∨ ends then parts s fuel n inGroup false (.sequence before .finish) rest
      else go (.char '$') n rest
    | '(' :: rest => if s.isExtended then group rest [')'] else go (.char '(') n rest
    | ')' :: rest =>
      if s.isExtended then
        if inGroup then .ok (before, n, text) else .error "Unmatched ) or \\)"
      else go (.char ')') n rest
    | '|' :: rest => if s.isExtended then .ok (before, n, text) else go (.char '|') n rest
    | c :: rest =>
      if s.isExtended ∧ isFirst ∧ (c = '+' ∨ c = '?') then parts s fuel n inGroup true before rest
      else go (.char c) n rest

end

/-- Read an expression. -/
def read (s : Syntax) (text : Raw) : Parsed Expr := do
  let (e, _, _) ← choices s (4 * text.length + 8) 0 false text
  return e

/-! ## Matching -/

/-- The texts of groups, each with where it starts. -/
abbrev Groups := List (Nat × Nat × Nat)

/-- A text to match in. -/
structure Subject where
  text : Array Char
  /-- Whether it starts at the start of a line. -/
  fromStart : Bool := true
  foldsCase : Bool := false

def isWordChar (c : Char) : Bool := c.isAlphanum || c == '_'

def Subject.isWordAt (s : Subject) (i : Nat) : Bool := (s.text[i]?).any isWordChar

def Subject.equals (s : Subject) (a b : Char) : Bool :=
  a == b || (s.foldsCase && a.toLower == b.toLower)

/-- Whether a set holds a character. -/
def Subject.holds (s : Subject) (ranges : List (Char × Char)) (c : Char) : Bool :=
  let among (c : Char) : Bool := ranges.any fun (a, b) => a ≤ c && c ≤ b
  among c || (s.foldsCase && (among c.toLower || among c.toUpper))

/-- Whether two parts of a text are equal. -/
def Subject.repeatsAt (s : Subject) (a b n : Nat) : Bool :=
  b + n ≤ s.text.size && (List.range n).all fun i =>
    match s.text[a + i]?, s.text[b + i]? with
    | some c, some d => s.equals c d
    | _, _ => false

/-- All ways to match an expression from a place on: where each ends, and the groups. The fuel
    bounds the number of steps in one way. -/
def ways (s : Subject) : Nat → Expr → Nat → Groups → List (Nat × Groups)
  | 0, _, _, _ => []
  | fuel + 1, e, i, groups =>
    let one (accepts : Char → Bool) : List (Nat × Groups) :=
      if (s.text[i]?).any accepts then [(i + 1, groups)] else []
    let here (holds : Bool) : List (Nat × Groups) := if holds then [(i, groups)] else []
    match e with
    | .empty => [(i, groups)]
    | .char c => one (s.equals c)
    | .any => one fun _ => true
    | .oneOf negated ranges => one fun c => s.holds ranges c != negated
    | .start => here (i = 0 && s.fromStart)
    | .finish => here (i = s.text.size)
    | .border atStart atEnd negated =>
      let before : Bool := 0 < i && s.isWordAt (i - 1)
      let after := s.isWordAt i
      here (((atStart && !before && after) || (atEnd && before && !after)) != negated)
    | .group n inner =>
      (ways s fuel inner i groups).map fun (j, groups) => (j, (n, i, j) :: groups)
    | .reference n =>
      match groups.lookup n with
      | some (a, b) => if s.repeatsAt a i (b - a) then [(i + (b - a), groups)] else []
      | none => []
    | .sequence first second =>
      (ways s fuel first i groups).flatMap fun (j, groups) => ways s fuel second j groups
    | .choice first second => ways s fuel first i groups ++ ways s fuel second i groups
    | .repeat least most inner =>
      let more : List (Nat × Groups) :=
        if most = some 0 then []
        else
          (ways s fuel inner i groups).flatMap fun (j, groups) =>
            if j = i ∧ least = 0 then []
            else ways s fuel (.repeat (least - 1) (most.map (· - 1)) inner) j groups
      more ++ (if least = 0 then [(i, groups)] else [])

/-- A match: where it starts and ends, and its groups. -/
structure Match where
  start : Nat
  stop : Nat
  groups : Groups := []

/-- The longest match that starts at a place. -/
def matchAt? (s : Subject) (e : Expr) (i : Nat) : Option Match :=
  let found := ways s (64 * (s.text.size + 16)) e i []
  found.foldl (fun (best : Option Match) (j, groups) =>
    if best.all (·.stop < j) then some ⟨i, j, groups⟩ else best) none

/-- The first match from a place on, the longest one there. -/
def find? (s : Subject) (e : Expr) (i : Nat) : Option Match :=
  ((List.range (s.text.size + 1 - i)).map (i + ·)).findSome? (matchAt? s e)

end Conformance.Regex
