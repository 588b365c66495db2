import Conformance.Shell.State

/-!
# Arithmetic

The expressions between doubled brackets. Binary operators bind in levels, those of one level from
left to right; a variable that is not set counts as zero, and numbers wrap at 64 bits. What an
operator leaves out, such as the branch that a condition does not choose, is read but not carried
out.
-/

namespace Conformance.Shell.Arithmetic

inductive Lexeme where
  | number (value : Int)
  | name (name : Raw)
  | sign (text : String)
  /-- A character that means nothing. -/
  | stray
  deriving DecidableEq, Repr

/-- The signs, each before those that are a part of it. -/
def signs : List String := [
  "<<=", ">>=", "<<", ">>", "<=", ">=", "==", "!=", "&&", "||", "+=", "-=", "*=", "/=", "%=",
  "&=", "^=", "|=", "=", "<", ">", "&", "^", "|", "~", "!", "+", "-", "*", "/", "%", "(", ")", "?",
  ":"]

/-- The lexemes of an expression. -/
def lexemes (text : Raw) : List Lexeme :=
  go (text.length + 1) text
where
  go : Nat → Raw → List Lexeme
    | 0, _ | _, [] => []
    | fuel + 1, c :: rest =>
      if Number.isSpace c then go fuel rest
      else if c.isDigit then
        let n := Number.whole true (c :: rest)
        .number (Number.clamp n.value) :: go fuel n.rest
      else if isNameStart c then
        let name := (c :: rest).takeWhile isNameChar
        .name name :: go fuel ((c :: rest).drop name.length)
      else
        match signs.find? fun sign => sign.toList.isPrefixOf (c :: rest) with
        | some sign => .sign sign :: go fuel ((c :: rest).drop sign.length)
        | none => .stray :: go fuel rest

/-- The binary operators of each level, those that bind least first. -/
def levels : List (List String) := [
  ["|"], ["^"], ["&"], ["==", "!="], ["<=", ">=", "<", ">"], ["<<", ">>"], ["+", "-"],
  ["*", "/", "%"]]

/-- The operators that assign, each with the operator that it applies before. -/
def assignments : List (String × String) := [
  ("=", ""), ("+=", "+"), ("-=", "-"), ("*=", "*"), ("/=", "/"), ("%=", "%"), ("<<=", "<<"),
  (">>=", ">>"), ("&=", "&"), ("^=", "^"), ("|=", "|")]

/-- The number among those of 64 bits with a sign that differs by a multiple of 2^64. -/
def wrap (n : Int) : Int := n.bmod 0x10000000000000000

def ofBool (b : Bool) : Int := if b then 1 else 0

/-- The number whose bits some operation on bits gives. -/
def bitwise (f : Nat → Nat → Nat) (a b : Int) : Int :=
  wrap (f (Number.unsigned a) (Number.unsigned b))

/-- Complain about an expression. -/
def refuse {α : Type} (text : Raw) (problem : String) : Shell α :=
  fail ("arithmetic expression: ".toList ++ problem.toList ++ ": \"".toList ++ text ++ ['"'])

/-- The signal that a division without a result brings. -/
def divisionSignal : Nat := 8

/-- The value of a binary operator. -/
def combine (text : Raw) (operator : String) (a b : Int) : Shell Int := do
  let shift := Number.unsigned b % 64
  match operator with
  | "|" => return bitwise (· ||| ·) a b
  | "^" => return bitwise (· ^^^ ·) a b
  | "&" => return bitwise (· &&& ·) a b
  | "==" => return ofBool (a == b)
  | "!=" => return ofBool (a != b)
  | "<=" => return ofBool (a ≤ b)
  | ">=" => return ofBool (b ≤ a)
  | "<" => return ofBool (a < b)
  | ">" => return ofBool (b < a)
  | "<<" => return wrap (a * Int.pow 2 shift)
  | ">>" => return a / Int.pow 2 shift
  | "+" => return wrap (a + b)
  | "-" => return wrap (a - b)
  | "*" => return wrap (a * b)
  | "/" | "%" =>
    if b = 0 then refuse text "division by zero"
    if b = -1 ∧ a = -Number.signedLimit then Routine.die divisionSignal
    return if operator = "/" then a.tdiv b else a.tmod b
  | _ => return b

/-- The number that a variable holds. -/
def variableNumber (name : Raw) : Shell Int := do
  let value := ((← get).value? name).getD []
  let n := Number.whole true value
  let rest := if n.found then n.rest else value
  if rest.all Number.isSpace ∧ Number.clamp n.value = n.value then return n.value
  wrongNumber value

mutual

/-- The value of an expression that may assign, and what comes after it. Nothing is carried out
    unless `live` says so. -/
def assignment (text : Raw) (live : Bool) : Nat → List Lexeme → Shell (Int × List Lexeme)
  | 0, _ => refuse text "expecting primary"
  | fuel + 1, tokens => do
    match tokens with
    | .name name :: .sign sign :: rest =>
      match assignments.lookup sign with
      | some operator =>
        let (value, rest) ← assignment text live fuel rest
        if !live then return (value, rest)
        let result ← if operator = "" then pure value
          else combine text operator (← variableNumber name) value
        setVariable name (Number.shownInt result)
        return (result, rest)
      | none => choice text live fuel tokens
    | _ => choice text live fuel tokens

/-- The value of an expression that may choose between two others. -/
def choice (text : Raw) (live : Bool) : Nat → List Lexeme → Shell (Int × List Lexeme)
  | 0, _ => refuse text "expecting primary"
  | fuel + 1, tokens => do
    let (a, rest) ← either text live fuel tokens
    match rest with
    | .sign "?" :: rest =>
      let (b, rest) ← assignment text (live && a != 0) fuel rest
      match rest with
      | .sign ":" :: rest =>
        let (c, rest) ← choice text (live && a == 0) fuel rest
        return (if a ≠ 0 then b else c, rest)
      | _ => refuse text "expecting ':'"
    | _ => return (a, rest)

/-- The value of expressions of which one has to hold. -/
def either (text : Raw) (live : Bool) : Nat → List Lexeme → Shell (Int × List Lexeme)
  | 0, _ => refuse text "expecting primary"
  | fuel + 1, tokens => do
    let (a, rest) ← both text live fuel tokens
    match rest with
    | .sign "||" :: rest =>
      let (b, rest) ← either text (live && a == 0) fuel rest
      return (ofBool (a != 0 || b != 0), rest)
    | _ => return (a, rest)

/-- The value of expressions that all have to hold. -/
def both (text : Raw) (live : Bool) : Nat → List Lexeme → Shell (Int × List Lexeme)
  | 0, _ => refuse text "expecting primary"
  | fuel + 1, tokens => do
    let (a, rest) ← level text live levels fuel tokens
    match rest with
    | .sign "&&" :: rest =>
      let (b, rest) ← both text (live && a != 0) fuel rest
      return (ofBool (a != 0 && b != 0), rest)
    | _ => return (a, rest)

/-- The value of an expression whose operators are those of some levels. -/
def level (text : Raw) (live : Bool) :
    List (List String) → Nat → List Lexeme → Shell (Int × List Lexeme)
  | _, 0, _ => refuse text "expecting primary"
  | [], fuel + 1, tokens => operand text live fuel tokens
  | operators :: tighter, fuel + 1, tokens => do
    let (first, rest) ← level text live tighter fuel tokens
    further text live operators tighter first fuel rest

/-- The value of the rest of an expression, from after its first part. -/
def further (text : Raw) (live : Bool) (operators : List String) (tighter : List (List String))
    (first : Int) : Nat → List Lexeme → Shell (Int × List Lexeme)
  | 0, _ => refuse text "expecting primary"
  | fuel + 1, tokens => do
    match tokens with
    | .sign operator :: rest =>
      if operator ∈ operators then
        let (second, rest) ← level text live tighter fuel rest
        let value ← if live then combine text operator first second else pure second
        further text live operators tighter value fuel rest
      else return (first, tokens)
    | _ => return (first, tokens)

/-- The value of a number, a variable, an operand with a sign, or an expression in brackets. -/
def operand (text : Raw) (live : Bool) : Nat → List Lexeme → Shell (Int × List Lexeme)
  | 0, _ => refuse text "expecting primary"
  | fuel + 1, tokens => do
    match tokens with
    | .number n :: rest => return (n, rest)
    | .name name :: rest =>
      if !live then return (0, rest)
      return (← variableNumber name, rest)
    | .sign "(" :: rest =>
      let (value, rest) ← assignment text live fuel rest
      match rest with
      | .sign ")" :: rest => return (value, rest)
      | _ => refuse text "expecting ')'"
    | .sign "+" :: rest => operand text live fuel rest
    | .sign "-" :: rest =>
      let (value, rest) ← operand text live fuel rest
      return (wrap (-value), rest)
    | .sign "!" :: rest =>
      let (value, rest) ← operand text live fuel rest
      return (ofBool (value == 0), rest)
    | .sign "~" :: rest =>
      let (value, rest) ← operand text live fuel rest
      return (-value - 1, rest)
    | _ => refuse text "expecting primary"

end

/-- The value of an expression. -/
def evaluate (text : Raw) : Shell Int := do
  let tokens := lexemes text
  let (value, rest) ← assignment text true (32 * tokens.length + 32) tokens
  if rest = [] then return value
  refuse text "expecting EOF"

end Conformance.Shell.Arithmetic
