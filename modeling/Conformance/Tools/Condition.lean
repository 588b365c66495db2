import Conformance.Text.Number
import Conformance.Tool

/-!
# Conditions

The conditions of `test`: what is asked of texts, numbers and files, and how such questions are put
together. A condition is read from left to right, one word ahead.
-/

namespace Conformance.Condition

/-- Operators with one operand. -/
def unaryOperators : List String := [
  "-r", "-w", "-x", "-e", "-f", "-d", "-c", "-b", "-p", "-u", "-g", "-k", "-s", "-t", "-z", "-n",
  "-h", "-O", "-G", "-L", "-S"]

/-- Operators with two operands, those apart that join conditions. -/
def binaryOperators : List String := [
  "=", "==", "!=", "<", ">", "-eq", "-ne", "-ge", "-gt", "-le", "-lt", "-nt", "-ot", "-ef"]

def isUnary (word : Raw) : Bool := unaryOperators.any (·.toList = word)

def isBinary (word : Raw) : Bool := binaryOperators.any (·.toList = word)

/-- A condition that may turn out to be wrongly put, which is said. -/
abbrev Test := ExceptT String Routine

def refuse {α : Type} (subject : Raw) (problem : String) : Test α :=
  throw (if subject = [] then problem else s!"{Raw.text subject}: {problem}")

/-! ## Operands -/

/-- The number that an operand writes. -/
def number (word : Raw) : Test Int :=
  let n := Number.whole false word
  if n.found ∧ n.rest.all Number.isSpace ∧ Number.clamp n.value = n.value then return n.value
  else throw s!"Illegal number: {Raw.text word}"

def info? (word : Raw) (through : Bool) : Routine (Option FileInfo) := do
  return (← Routine.look ⟨Raw.text word⟩ through).toOption

/-- Whether a file can be run by somebody. -/
def isExecutable (info : FileInfo) : Bool := info.tree.isDirectory || info.mode &&& 0o111 != 0

/-- Whether a question about a file is answered with yes. -/
def holdsOfFile (operator : String) (info : FileInfo) : Bool :=
  match operator, info.tree with
  | "-f", .file _ | "-f", .program _ | "-d", .directory _ | "-c", .device _ | "-p", .pipe _ => true
  | "-f", .closed _ (some false) | "-d", .closed _ (some true) => true
  | "-r", .closed _ _ | "-w", .closed _ _ => false
  | "-h", .link _ | "-L", .link _ => true
  | "-x", _ => isExecutable info
  | "-s", _ => 0 < info.size
  | "-u", _ => info.mode &&& 0o4000 != 0
  | "-g", _ => info.mode &&& 0o2000 != 0
  | "-k", _ => info.mode &&& 0o1000 != 0
  | "-e", _ | "-r", _ | "-w", _ | "-O", _ | "-G", _ => true
  | _, _ => false

/-- Whether an operator holds of its operand. -/
def unary (operator : String) (word : Raw) : Test Bool := do
  match operator with
  | "-z" => return word = []
  | "-n" => return word ≠ []
  | "-t" =>
    discard (number word)
    return false
  | _ =>
    match ← info? word (operator ≠ "-h" ∧ operator ≠ "-L") with
    | some info => return holdsOfFile operator info
    | none => return false

/-- Whether an operator holds of its two operands. -/
def binary (operator : String) (a b : Raw) : Test Bool := do
  let compare (f : Int → Int → Bool) : Test Bool := return f (← number a) (← number b)
  match operator with
  | "=" | "==" => return a = b
  | "!=" => return a ≠ b
  | "<" => return a < b
  | ">" => return b < a
  | "-eq" => compare (· == ·)
  | "-ne" => compare (· != ·)
  | "-lt" => compare (· < ·)
  | "-le" => compare (· ≤ ·)
  | "-gt" => compare (· > ·)
  | "-ge" => compare (· ≥ ·)
  | _ =>
    match operator, ← info? a true, ← info? b true with
    | "-nt", some x, some y => return y.changed < x.changed
    | "-ot", some x, some y => return x.changed < y.changed
    | "-nt", some _, none => return true
    | "-ot", none, some _ => return true
    | "-ef", some x, some y =>
      match x.tree, y.tree with
      | .file m, .file n => return m = n
      | _, _ => return x.location = y.location
    | _, _, _ => return false

/-! ## Reading a condition -/

/-- What a word is where a condition may begin, given the words after it. -/
inductive Lexeme where
  | finish
  | operand
  | negation
  | opening
  | closing
  | both
  | either
  | unary
  | binary
  deriving DecidableEq

/-- What the first of some words is. An operator with one operand counts as an operand itself if
    nothing follows, or an operator with two operands. -/
def lexeme (words : List Raw) : Lexeme :=
  match words with
  | [] => .finish
  | ['!'] :: _ => .negation
  | ['('] :: rest => if rest = [] then .operand else .opening
  | [')'] :: _ => .closing
  | ['-', 'a'] :: _ => .both
  | ['-', 'o'] :: _ => .either
  | word :: rest =>
    if isBinary word then .binary
    else if isUnary word then
      match rest with
      | [] => .operand
      | [_] => .unary
      | next :: _ => if isBinary next then .operand else .unary
    else .operand

mutual

/-- Conditions of which one holds, and the words from the last one read on. -/
def alternatives : Nat → Lexeme → List Raw → Test (Bool × List Raw)
  | 0, _, words => return (false, words)
  | fuel + 1, first, words => do
    let (holds, words) ← conjunction fuel first words
    if lexeme words.tail = .either then
      let rest := words.drop 2
      let (others, words) ← alternatives fuel (lexeme rest) rest
      return (holds || others, words)
    return (holds, words)

/-- Conditions which all hold, and the words from the last one read on. -/
def conjunction : Nat → Lexeme → List Raw → Test (Bool × List Raw)
  | 0, _, words => return (false, words)
  | fuel + 1, first, words => do
    let (holds, words) ← negated fuel first words
    if lexeme words.tail = .both then
      let rest := words.drop 2
      let (others, words) ← conjunction fuel (lexeme rest) rest
      return (holds && others, words)
    return (holds, words)

/-- A condition, negated or not, and the words from the last one read on. -/
def negated : Nat → Lexeme → List Raw → Test (Bool × List Raw)
  | 0, _, words => return (false, words)
  | fuel + 1, .negation, words => do
    let next := lexeme words.tail
    let (holds, words) ← negated fuel next (if next = .finish then words else words.tail)
    return (!holds, words)
  | fuel + 1, first, words => primary fuel first words

/-- A single condition, and the words from the last one read on. -/
def primary : Nat → Lexeme → List Raw → Test (Bool × List Raw)
  | 0, _, words => return (false, words)
  | _ + 1, .finish, words => return (false, words)
  | fuel + 1, .opening, words => do
    let inner := words.tail
    match lexeme inner with
    | .closing => return (false, inner)
    | first =>
      let (holds, words) ← alternatives fuel first inner
      match lexeme words.tail with
      | .closing => return (holds, words.tail)
      | _ => throw "closing paren expected"
  | _ + 1, .unary, words => do
    let operator := words.headD []
    match words.tail with
    | [] => refuse operator "argument expected"
    | word :: _ => return (← unary (Raw.text operator) word, words.tail)
  | _ + 1, _, words => do
    let a := words.headD []
    match lexeme words.tail, words.tail with
    | .binary, operator :: b :: rest => return (← binary (Raw.text operator) a b, b :: rest)
    | .binary, operator :: _ => refuse operator "argument expected"
    | _, _ => return (a ≠ [], words)

end

/-- Whether the condition that some words make up holds. -/
def evaluate (words : List Raw) : Test Bool := do
  let fuel := 4 * words.length + 8
  let bracketed : Bool := words.head? = some ['('] && words.getLast? = some [')']
  let (first, words) : Lexeme × List Raw := match words with
    | [_, operator, _] =>
      if isBinary operator then (.operand, words)
      else if bracketed then (lexeme words.tail.dropLast, words.tail.dropLast)
      else (lexeme words, words)
    | [_, _, _, _] =>
      if bracketed then (lexeme words.tail.dropLast, words.tail.dropLast)
      else (lexeme words, words)
    | _ => (lexeme words, words)
  let (holds, left) ← alternatives fuel first words
  match left with
  | next :: _ :: _ => refuse next "unexpected operator"
  | _ => return holds

/-- `test`, or `[` if a closing bracket has to follow. -/
def tool (isBracket : Bool) : Tool Unit := do
  let words := (← read).arguments
  if isBracket ∧ words.getLast? ≠ some [']'] then Tool.fail "missing ']'" 2
  match ← (evaluate (if isBracket then words.dropLast else words)).run with
  | .ok true => return
  | .ok false => Tool.note 1
  | .error message => Tool.fail message 2

end Conformance.Condition
