import Conformance.Text.Number

/-!
# Formatted output

Backslash sequences, and formats with conversions as `printf` takes them. A conversion takes the
next argument, and the format is used again while arguments are left. The shell and the tool of that
name differ in which sequences they know and in what they say about wrong arguments.
-/

namespace Conformance.Format

/-! ## Backslash sequences -/

/-- Which sequences have a meaning. -/
structure Escapes where
  /-- Octal digits stand for a byte. -/
  octal : Bool := true
  /-- A zero may stand before three octal digits. -/
  leadingZero : Bool := false
  /-- Hexadecimal digits after an x stand for a byte. -/
  hexadecimal : Bool := false
  /-- A quotation mark may be escaped. -/
  quote : Bool := false
  /-- A c stops all output. -/
  stops : Bool := false

/-- What a piece of formatted text gives: characters, or the order to stop all output. -/
inductive Chunk where
  | text (raw : Raw)
  | stop
  deriving DecidableEq, Repr

def byte (n : Nat) : Char := Char.ofNat (n % 256)

/-- The character of a letter after a backslash. -/
def letter? : Char → Option Char
  | 'a' => some (byte 7)
  | 'b' => some (byte 8)
  | 'e' => some (byte 27)
  | 'f' => some (byte 12)
  | 'n' => some '\n'
  | 'r' => some '\r'
  | 't' => some '\t'
  | 'v' => some (byte 11)
  | '\\' => some '\\'
  | _ => none

/-- The byte that at most three octal digits name, and what comes after them. -/
def octalByte (digits : Raw) : Chunk × Raw :=
  let run := (digits.take 3).takeWhile Number.isOctal
  (.text [byte (Number.value 8 run)], digits.drop run.length)

/-- The sequence after a backslash, and what comes after it. -/
def sequence (escapes : Escapes) : Raw → Chunk × Raw
  | [] => (.text ['\\'], [])
  | c :: rest =>
    let digits := (rest.take 2).takeWhile Number.isHex
    if c = 'c' ∧ escapes.stops then (.stop, rest)
    else if c = '"' ∧ escapes.quote then (.text ['"'], rest)
    else if c = 'x' ∧ escapes.hexadecimal ∧ digits ≠ [] then
      (.text [byte (Number.value 16 digits)], rest.drop digits.length)
    else
      match letter? c with
      | some d => (.text [d], rest)
      | none =>
        if escapes.leadingZero ∧ c = '0' then octalByte rest
        else if escapes.octal ∧ Number.isOctal c then octalByte (c :: rest)
        else (.text ['\\', c], rest)

/-- A text with its backslash sequences carried out, up to an order to stop, and whether there was
    one. -/
def unescape (escapes : Escapes) (text : Raw) : Raw × Bool :=
  go (text.length + 1) text
where
  go : Nat → Raw → Raw × Bool
    | 0, _ | _, [] => ([], false)
    | fuel + 1, '\\' :: rest =>
      match sequence escapes rest with
      | (.stop, _) => ([], true)
      | (.text raw, rest) =>
        let (more, stopped) := go fuel rest
        (raw ++ more, stopped)
    | fuel + 1, c :: rest =>
      let (more, stopped) := go fuel rest
      (c :: more, stopped)

/-! ## Conversions -/

/-- A conversion with its width and precision. -/
structure Conversion where
  flags : List Char := []
  width : Nat := 0
  precision : Option Nat := none
  letter : Char

namespace Conversion

def has (c : Conversion) (flag : Char) : Bool := flag ∈ c.flags

/-- Bring a text to the width of the conversion. The zeros that fill a number come after its
    `sign`. -/
def fill (c : Conversion) (zeros : Bool) (sign digits : Raw) : Raw :=
  let missing := c.width - (sign.length + digits.length)
  if c.has '-' then sign ++ digits ++ List.replicate missing ' '
  else if zeros then sign ++ List.replicate missing '0' ++ digits
  else List.replicate missing ' ' ++ sign ++ digits

/-- A text cut to the precision. -/
def text (c : Conversion) (raw : Raw) : Raw :=
  c.fill false [] (raw.take (c.precision.getD raw.length))

/-- The sign in front of a number. -/
def sign (c : Conversion) (negative : Bool) : Raw :=
  if negative then ['-'] else if c.has '+' then ['+'] else if c.has ' ' then [' '] else []

/-- The digits of a whole number in some base, at least as many as the precision says. -/
def digits (c : Conversion) (base n : Nat) : Raw :=
  if n = 0 ∧ c.precision = some 0 then []
  else Number.zeroPad (c.precision.getD 0) (Nat.toDigits base n)

/-- A whole number with a sign. -/
def signed (c : Conversion) (n : Int) : Raw :=
  c.fill (c.has '0' && c.precision.isNone) (c.sign (n < 0)) (c.digits 10 n.natAbs)

/-- A whole number without a sign. -/
def unsigned (c : Conversion) (n : Nat) : Raw :=
  let zeros := c.has '0' && c.precision.isNone
  match c.letter with
  | 'o' =>
    let digits := c.digits 8 n
    c.fill zeros [] (if c.has '#' && digits.head? != some '0' then '0' :: digits else digits)
  | 'x' => c.fill zeros (if c.has '#' && n != 0 then "0x".toList else []) (c.digits 16 n)
  | 'X' =>
    c.fill zeros (if c.has '#' && n != 0 then "0X".toList else [])
      ((c.digits 16 n).map Char.toUpper)
  | _ => c.fill zeros [] (c.digits 10 n)

/-- A real number. -/
def real (c : Conversion) (x : Number.Real) : Raw :=
  let keeps := c.has '#'
  let precision := c.precision.getD 6
  let body (r : Ratio) : Raw :=
    match c.letter.toLower with
    | 'e' => Number.scientific keeps precision r
    | 'g' => Number.general keeps precision r
    | 'a' => Number.hexadecimal c.precision r
    | _ => Number.fixed keeps precision r
  let cased (raw : Raw) : Raw := if c.letter.isUpper then raw.map Char.toUpper else raw
  let sign := c.sign x.isNegative
  match x with
  | .finite _ r => c.fill (c.has '0') sign (cased (body r))
  | .infinite _ => c.fill false sign (cased "inf".toList)
  | .undefined _ => c.fill false sign (cased "nan".toList)

end Conversion

/-! ## Formats -/

/-- Who prints: which sequences are known, and what is said about wrong arguments. -/
structure Dialect where
  /-- The sequences in the format, and in arguments of `%b`. -/
  format : Escapes
  argument : Escapes
  /-- What is said of an argument that is no number, and of one that only starts with one. -/
  notNumber : Raw → String
  notWhole : Raw → String
  outOfRange : Raw → String
  /-- What is said of a conversion that does not exist. -/
  badDirective : Raw → String
  /-- Real numbers as they are kept: rounded or not. -/
  rounded : Ratio → Ratio

/-- What has been printed so far. -/
structure Printed where
  /-- The text, last piece first. -/
  pieces : List Raw := []
  /-- The arguments that are left. -/
  arguments : List Raw
  /-- What is said about arguments, last first. -/
  complaints : List String := []
  /-- Whether a conversion took an argument, or would have. -/
  consumes : Bool := false
  stopped : Bool := false
  /-- Whether the format itself was refused. -/
  refused : Bool := false

namespace Printed

def text (p : Printed) : Raw := p.pieces.reverse.flatten

def add (p : Printed) (raw : Raw) : Printed := { p with pieces := raw :: p.pieces }

def complain (p : Printed) (message : String) : Printed :=
  { p with complaints := message :: p.complaints }

/-- Refuse the format. -/
def refuse (p : Printed) (message : String) : Printed :=
  { p.complain message with stopped := true, refused := true }

/-- The next argument. -/
def next (p : Printed) : Option Raw × Printed :=
  (p.arguments.head?, { p with arguments := p.arguments.tail, consumes := true })

end Printed

/-- The code of the character after a quotation mark. -/
def quotedCode? (argument : Raw) : Option Nat :=
  match argument with
  | c :: rest =>
    if c = '"' ∨ c = Char.ofNat 39 then some ((rest.head?.map Char.toNat).getD 0) else none
  | [] => none

/-- What is said about a number that does not reach to the end of an argument. -/
def judge (dialect : Dialect) (p : Printed) (argument rest : Raw) (found : Bool) : Printed :=
  if rest = [] ∨ argument = [] then p
  else if found then p.complain (dialect.notWhole argument)
  else p.complain (dialect.notNumber argument)

/-- The next argument as a whole number. -/
def nextWhole (dialect : Dialect) (isSigned : Bool) (p : Printed) : Int × Printed :=
  let (argument?, p) := p.next
  let argument := argument?.getD []
  match quotedCode? argument with
  | some code => (code, p)
  | none =>
    let n := Number.whole true argument
    let p := judge dialect p argument n.rest n.found
    let inRange := if isSigned then Number.clamp n.value = n.value
      else -Number.unsignedLimit < n.value ∧ n.value < Number.unsignedLimit
    if inRange then (n.value, p)
    else
      let nearest := if isSigned then Number.clamp n.value else Number.unsignedLimit - 1
      (nearest, p.complain (dialect.outOfRange argument))

/-- The next argument as a real number. -/
def nextReal (dialect : Dialect) (p : Printed) : Number.Real × Printed :=
  let (argument?, p) := p.next
  let argument := argument?.getD []
  match quotedCode? argument with
  | some code => (.finite false ⟨code, 1⟩, p)
  | none =>
    let (x, rest, found) := Number.real argument
    let x := match x with
      | .finite negative r => .finite negative (dialect.rounded r)
      | other => other
    (x, judge dialect p argument rest found)

/-- Carry out a conversion. -/
def convert (dialect : Dialect) (directive : Raw) (c : Conversion) (p : Printed) : Printed :=
  if c.letter ∈ ['d', 'i'] then
    let (n, p) := nextWhole dialect true p
    p.add (c.signed n)
  else if c.letter ∈ ['o', 'u', 'x', 'X'] then
    let (n, p) := nextWhole dialect false p
    p.add (c.unsigned (Number.unsigned n))
  else if c.letter ∈ ['a', 'A', 'e', 'E', 'f', 'F', 'g', 'G'] then
    let (x, p) := nextReal dialect p
    p.add (c.real x)
  else
    match c.letter with
    | 's' =>
      let (argument?, p) := p.next
      p.add (c.text (argument?.getD []))
    | 'b' =>
      let (argument?, p) := p.next
      let (text, stopped) := unescape dialect.argument (argument?.getD [])
      { p.add (c.text text) with stopped }
    | 'c' =>
      let (argument?, p) := p.next
      p.add (c.fill false [] [((argument?.getD []).head?).getD (byte 0)])
    | _ => p.refuse (dialect.badDirective directive)

/-- A number in a directive, which a star takes from the arguments. -/
def bound (dialect : Dialect) (rest : Raw) (p : Printed) : Int × Raw × Printed :=
  match rest with
  | '*' :: rest =>
    let (n, p) := nextWhole dialect true p
    (n, rest, p)
  | _ =>
    let digits := rest.takeWhile Char.isDigit
    (Number.value 10 digits, rest.drop digits.length, p)

/-- Carry out the directive after a percent sign; the rest of the format comes back with it. -/
def directive (dialect : Dialect) (rest : Raw) (p : Printed) : Raw × Printed :=
  let flags := rest.takeWhile (· ∈ ['-', '0', '+', ' ', '#'])
  let (width, after, p) := bound dialect (rest.drop flags.length) p
  let (precision, after, p) := match after with
    | '.' :: digits =>
      let (n, after, p) := bound dialect digits p
      (if n < 0 then none else some n.toNat, after, p)
    | _ => (none, after, p)
  let written := '%' :: rest.take (rest.length - after.length + 1)
  match after with
  | [] => ([], p.refuse (dialect.badDirective written))
  | letter :: after =>
    let flags := if width < 0 then '-' :: flags else flags
    (after, convert dialect written { flags, width := width.natAbs, precision, letter } p)

/-- Go through a format once. -/
def pass (dialect : Dialect) : Nat → Raw → Printed → Printed
  | 0, _, p | _, [], p => p
  | fuel + 1, '\\' :: rest, p =>
    match sequence dialect.format rest with
    | (.stop, _) => { p with stopped := true }
    | (.text raw, rest) => pass dialect fuel rest (p.add raw)
  | fuel + 1, '%' :: '%' :: rest, p => pass dialect fuel rest (p.add ['%'])
  | fuel + 1, '%' :: rest, p =>
    let (rest, p) := directive dialect rest p
    if p.stopped then p else pass dialect fuel rest p
  | fuel + 1, c :: rest, p => pass dialect fuel rest (p.add [c])

/-- Go through a format as long as it takes arguments that are left. -/
def passes (dialect : Dialect) (format : Raw) : Nat → Printed → Printed
  | 0, p => p
  | fuel + 1, p =>
    let p := pass dialect (format.length + 1) format p
    if p.stopped ∨ p.arguments = [] ∨ !p.consumes then p else passes dialect format fuel p

/-- What a format prints with some arguments. -/
def print (dialect : Dialect) (format : Raw) (arguments : List Raw) : Printed :=
  passes dialect format (arguments.length + 1) { arguments }

end Conformance.Format
