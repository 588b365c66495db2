import Conformance.Text.CharClass
import Conformance.Text.Format
import Conformance.Tool

/-!
# Translation of characters

`tr`: characters of a set are replaced, deleted or squeezed. A set is written with ranges, classes,
repetitions and backslash sequences.
-/

namespace Conformance.Tools

open Tool

/-- A part of a set. -/
inductive SetPart where
  | chars (chars : List Char)
  | named (name : String) (chars : List Char)
  /-- A character as often as it takes to make the set long enough. -/
  | filler (char : Char)
  deriving Repr

/-- The next character of a set, with a backslash carried out, and what comes after it. -/
def setChar? (text : Raw) : Option (Char × Raw) :=
  match text with
  | [] => none
  | '\\' :: rest =>
    match Format.sequence {} rest with
    | (.text [c], after) => some (c, after)
    | (.text (_ :: c :: _), after) => some (c, after)
    | _ => some ('\\', rest)
  | c :: rest => some (c, rest)

/-- A repetition such as `x*3]`, and what comes after it. -/
def repetition? (text : Raw) : Option (SetPart × Raw) := do
  let (c, rest) ← setChar? text
  match rest with
  | '*' :: rest =>
    let digits := rest.takeWhile Char.isDigit
    match rest.drop digits.length with
    | ']' :: after =>
      let base := if digits.head? = some '0' then 8 else 10
      let n := Number.value base digits
      return (if n = 0 then .filler c else .chars (List.replicate n c), after)
    | _ => none
  | _ => none

/-- The parts of a set. -/
def setParts : Nat → Raw → Tool (List SetPart)
  | 0, _ | _, [] => return []
  | fuel + 1, '[' :: rest =>
    match CharClass.read? rest, repetition? rest with
    | some (name, after), _ =>
      match CharClass.named? name with
      | some accepts =>
        return .named name (CharClass.members accepts) :: (← setParts fuel after)
      | none => fail s!"invalid character class '{name}'" 1
    | none, some (part, after) => return part :: (← setParts fuel after)
    | none, none => range fuel ('[' :: rest)
  | fuel + 1, text => range fuel text
where
  range (fuel : Nat) (text : Raw) : Tool (List SetPart) := do
    match setChar? text with
    | none => return []
    | some (a, '-' :: rest) =>
      match setChar? rest with
      | none => return [.chars [a, '-']]
      | some (b, after) =>
        if b < a then
          fail s!"range-endpoints of '{a}-{b}' are in reverse collating sequence order" 1
        let chars := (List.range (b.toNat + 1 - a.toNat)).map fun i => Char.ofNat (a.toNat + i)
        return .chars chars :: (← setParts fuel after)
    | some (a, rest) => return .chars [a] :: (← setParts fuel rest)

/-- The characters of a set that has to have so many of them. -/
def setChars (parts : List SetPart) (length : Nat) : List Char :=
  let own := (parts.map fun
    | .chars cs | .named _ cs => cs.length
    | .filler _ => 0).foldl (· + ·) 0
  parts.flatMap fun
    | .chars cs | .named _ cs => cs
    | .filler c => List.replicate (length - own) c

/-- A table with what becomes of each byte; nothing, if it is deleted. -/
abbrev Table := Array (Option UInt8)

/-- The table that sends characters of one list to those of another, whose last one is used again
    if it is too short. -/
def replacing (old new : List Char) : Table :=
  let last := new.getLastD ' '
  let identity : Table := ((List.range 256).map fun n => some (UInt8.ofNat n)).toArray
  (old.zipIdx).foldl (fun table (c, i) =>
    table.set! c.toNat (some (UInt8.ofNat (new.getD i last).toNat))) identity

def deleting (gone : Char → Bool) : Table :=
  ((List.range 256).map fun n =>
    if gone (Char.ofNat n) then none else some (UInt8.ofNat n)).toArray

/-- Bytes changed by a table and squeezed, given the last byte written. -/
def translated (table : Table) (squeezes : Array Bool) (last : Option UInt8) (bytes : ByteArray) :
    ByteArray × Option UInt8 :=
  bytes.foldl (fun (out, last) b =>
    match table.getD b.toNat none with
    | none => (out, last)
    | some c =>
      if squeezes.getD c.toNat false && last == some c then (out, last)
      else (out.push c, some c)) (.empty, last)

/-- `tr`. -/
def tr : Tool Unit := do
  let o ← options {
    letters := "cCdst", endsEarly := true
    names := [
      ("complement", 'c'), ("delete", 'd'), ("squeeze-repeats", 's'), ("truncate-set1", 't')] }
  let deletes := o.has 'd'
  let squeezes := o.has 's'
  let complements := o.has 'c' || o.has 'C'
  let set (word : Raw) : Tool (List SetPart) := setParts (word.length + 1) word
  let (first, second?) ← match o.operands with
    | [] => misuse "missing operand" 1
    | [a] =>
      if deletes = squeezes then
        complain s!"missing operand after {cited a}"
        let what := if deletes then "both deleting and squeezing repeats" else "translating"
        warn s!"Two strings must be given when {what}.\n"
        hint
        exit 1
      pure (a, none)
    | [a, b] =>
      if deletes && !squeezes then
        complain s!"extra operand {cited b}"
        warn "Only one string may be given when deleting without squeezing repeats.\n"
        hint
        exit 1
      pure (a, some b)
    | _ :: _ :: extra :: _ => misuse s!"extra operand {cited extra}" 1
  let parts ← set first
  let own := setChars parts 0
  let old := if complements then CharClass.members (· ∉ own) else own
  let member (chars : List Char) : Array Bool :=
    (CharClass.bytes.map fun c => decide (c ∈ chars)).toArray
  let secondParts ← match second? with
    | some word => set word
    | none => pure []
  let new := setChars secondParts old.length
  let translates := second?.isSome && !deletes
  if translates && new = [] && !o.has 't' then
    fail "when not truncating set1, string2 must be non-empty" 1
  let old := if o.has 't' && translates then old.take new.length else old
  let new := match parts, secondParts with
    | [.named "lower" _], [.named "upper" _] | [.named "upper" _], [.named "lower" _] => new
    | _, _ => if complements && translates then List.replicate old.length (new.getLastD ' ')
      else new
  let table := if deletes then deleting (· ∈ old)
    else if translates then replacing old new
    else replacing [] []
  let squeezed := if !squeezes then #[]
    else member (if second?.isSome then new else old)
  iterate (fun (last : Option UInt8) => do
    match ← Routine.read 0 blockSize with
    | .error error => fail s!"read error: {error.text}" 1
    | .ok bytes =>
      if bytes.isEmpty then return none
      let (out, last) := translated table squeezed last bytes
      emitBytes out
      return some last) Routine.plenty none

end Conformance.Tools
