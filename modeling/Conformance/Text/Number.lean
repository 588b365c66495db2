import Conformance.Ratio
import Conformance.Raw

/-!
# Numbers in byte texts

Numbers as programs read them from their arguments and print them: whole numbers in several bases,
and real numbers, which are kept as exact ratios until they are printed.
-/

namespace Conformance.Number

/-- Whether a character counts as blank before a number. -/
def isSpace (c : Char) : Bool := c == ' ' || (9 ≤ c.toNat && c.toNat ≤ 13)

/-- The value of a digit in some base, if it is one. -/
def digit? (base : Nat) (c : Char) : Option Nat :=
  let value? : Option Nat :=
    if c.isDigit then some (c.toNat - '0'.toNat)
    else if 'a' ≤ c ∧ c ≤ 'z' then some (c.toNat - 'a'.toNat + 10)
    else if 'A' ≤ c ∧ c ≤ 'Z' then some (c.toNat - 'A'.toNat + 10)
    else none
  value?.filter (· < base)

/-- The value of digits in some base. -/
def value (base : Nat) (digits : Raw) : Nat :=
  digits.foldl (fun n c => n * base + (digit? base c).getD 0) 0

def isHex (c : Char) : Bool := (digit? 16 c).isSome

def isOctal (c : Char) : Bool := (digit? 8 c).isSome

/-- A sign, and what comes after it. -/
def sign (raw : Raw) : Bool × Raw :=
  match raw with
  | '-' :: rest => (true, rest)
  | '+' :: rest => (false, rest)
  | _ => (false, raw)

/-! ## Whole numbers -/

/-- A whole number at the start of a text, what comes after it, and whether there is one. -/
structure Whole where
  value : Int
  rest : Raw
  found : Bool
  deriving Repr

/-- The whole number that a text starts with, in base eight or sixteen if it is written so and
    `anyBase` holds. -/
def whole (anyBase : Bool) (raw : Raw) : Whole :=
  let (negative, digits) := sign (raw.dropWhile isSpace)
  let (base, digits) := match digits with
    | '0' :: x :: c :: rest =>
      if anyBase && (x == 'x' || x == 'X') && isHex c then (16, c :: rest)
      else (if anyBase then 8 else 10, digits)
    | '0' :: _ => (if anyBase then 8 else 10, digits)
    | _ => (10, digits)
  let run := digits.takeWhile fun c => (digit? base c).isSome
  if run = [] then ⟨0, raw, false⟩
  else
    let n : Int := value base run
    ⟨if negative then -n else n, digits.drop run.length, true⟩

/-- The decimal number that makes up a whole text. -/
def decimal? (raw : Raw) : Option Int :=
  match whole false raw with
  | ⟨n, [], true⟩ => some n
  | _ => none

/-- The number that makes up a whole text of digits. -/
def natural? (raw : Raw) : Option Nat :=
  if raw ≠ [] ∧ raw.all Char.isDigit then some (value 10 raw) else none

/-- Bounds of numbers of 64 bits. -/
def signedLimit : Int := 0x8000000000000000

def unsignedLimit : Int := 0x10000000000000000

/-- The number among those of 64 bits with a sign that is next to another one. -/
def clamp (n : Int) : Int := max (-signedLimit) (min (signedLimit - 1) n)

/-- A number as 64 bits without a sign. -/
def unsigned (n : Int) : Nat := (n % unsignedLimit).toNat

/-- The digits of a number. -/
def shown (n : Nat) : Raw := (toString n).toList

def shownInt (n : Int) : Raw := (toString n).toList

/-! ## Real numbers -/

/-- A real number, or what stands for none. -/
inductive Real where
  | finite (negative : Bool) (size : Ratio)
  | infinite (negative : Bool)
  | undefined (negative : Bool)
  deriving Repr

namespace Real

def zero : Real := .finite false ⟨0, 1⟩

def isNegative : Real → Bool
  | finite negative _ | infinite negative | undefined negative => negative

end Real

/-- The greatest exponent that is worked out; what is beyond it is zero or infinite anyway. -/
def exponentLimit : Int := 20000

/-- A ratio times a power of a base. -/
def scale (base : Nat) (exponent : Int) (r : Ratio) : Ratio :=
  let exponent := max (-exponentLimit) (min exponentLimit exponent)
  ⟨r.num * base.pow exponent.toNat, r.den * base.pow (-exponent).toNat⟩

/-- An exponent after one of some letters, and what comes after it. -/
def exponent (letters : List Char) (raw : Raw) : Int × Raw :=
  match raw with
  | c :: rest =>
    if c ∈ letters then
      let (negative, digits) := sign rest
      let run := digits.takeWhile Char.isDigit
      if run = [] then (0, raw)
      else
        let n : Int := value 10 run
        (if negative then -n else n, digits.drop run.length)
    else (0, raw)
  | [] => (0, raw)

/-- The digits before and after a point, and what comes after them. -/
def pointed (isDigit : Char → Bool) (raw : Raw) : Raw × Raw × Raw :=
  let before := raw.takeWhile isDigit
  match raw.drop before.length with
  | '.' :: rest =>
    let after := rest.takeWhile isDigit
    if before = [] ∧ after = [] then ([], [], raw) else (before, after, rest.drop after.length)
  | rest => (before, [], rest)

/-- Whether a text starts with a word, in whatever case. -/
def startsWith (word : String) (raw : Raw) : Bool :=
  (raw.take word.length).map Char.toLower = word.toList

/-- The real number that a text starts with, what comes after it, and whether there is one. -/
def real (raw : Raw) : Real × Raw × Bool :=
  let (negative, text) := sign (raw.dropWhile isSpace)
  let hexadecimal? : Option Raw := match text with
    | '0' :: x :: rest => if x = 'x' ∨ x = 'X' then some rest else none
    | _ => none
  let (hexBefore, hexAfter, hexRest) := pointed isHex (hexadecimal?.getD [])
  let (before, after, rest) := pointed Char.isDigit text
  if startsWith "infinity" text then (.infinite negative, text.drop 8, true)
  else if startsWith "inf" text then (.infinite negative, text.drop 3, true)
  else if startsWith "nan" text then (.undefined negative, text.drop 3, true)
  else if hexBefore ≠ [] ∨ hexAfter ≠ [] then
    let (e, rest) := exponent ['p', 'P'] hexRest
    let digits : Ratio := ⟨value 16 (hexBefore ++ hexAfter), Nat.pow 16 hexAfter.length⟩
    (.finite negative (scale 2 e digits), rest, true)
  else if before ≠ [] ∨ after ≠ [] then
    let (e, rest) := exponent ['e', 'E'] rest
    let digits : Ratio := ⟨value 10 (before ++ after), Nat.pow 10 after.length⟩
    (.finite negative (scale 10 e digits), rest, true)
  else (.zero, raw, false)

/-- Zeros in front of digits up to a number of them. -/
def zeroPad (width : Nat) (digits : Raw) : Raw :=
  List.replicate (width - digits.length) '0' ++ digits

/-- A ratio with so many digits after the point. The point is left out before no digits, unless
    `keeps` says otherwise. -/
def fixed (keeps : Bool) (precision : Nat) (r : Ratio) : Raw :=
  let scaled := Ratio.round ⟨r.num * Nat.pow 10 precision, r.den⟩
  let digits := zeroPad (precision + 1) (shown scaled)
  let before := digits.take (digits.length - precision)
  let after := digits.drop (digits.length - precision)
  before ++ (if after ≠ [] || keeps then ['.'] else []) ++ after

/-- The exponent of ten of the first digit of a ratio. -/
def leadingExponent (r : Ratio) : Int :=
  if r.num = 0 then 0
  else
    let guess : Int := ((shown r.num).length : Int) - (shown r.den).length
    let scaled := scale 10 (-guess) r
    if scaled.num < scaled.den then guess - 1 else guess

/-- The digits of a ratio, one before the point and so many after it, and the exponent. -/
def significant (precision : Nat) (r : Ratio) : Nat × Int :=
  let e := leadingExponent r
  let n := Ratio.round (scale 10 (precision - e) r)
  if n = Nat.pow 10 (precision + 1) then (Nat.pow 10 precision, e + 1) else (n, e)

/-- An exponent as it is printed. -/
def shownExponent (e : Int) : Raw :=
  ['e', if e < 0 then '-' else '+'] ++ zeroPad 2 (shown e.natAbs)

/-- Digits with a point after the first one. -/
def withPoint (keeps : Bool) (digits : Raw) : Raw :=
  digits.take 1 ++ (if 1 < digits.length || keeps then ['.'] else []) ++ digits.drop 1

/-- A ratio with an exponent and so many digits after the point. -/
def scientific (keeps : Bool) (precision : Nat) (r : Ratio) : Raw :=
  let (n, e) := significant precision r
  withPoint keeps (zeroPad (precision + 1) (shown n)) ++ shownExponent e

/-- Digits without the zeros at their end. -/
def trimmed (digits : Raw) : Raw :=
  if '.' ∈ digits then
    match digits.reverse.dropWhile (· = '0') with
    | '.' :: rest => rest.reverse
    | rest => rest.reverse
  else digits

/-- A ratio with so many significant digits, with an exponent if that is shorter. -/
def general (keeps : Bool) (precision : Nat) (r : Ratio) : Raw :=
  let precision := max precision 1
  let (n, e) := significant (precision - 1) r
  if e < -4 ∨ (precision : Int) ≤ e then
    let digits := withPoint keeps (zeroPad precision (shown n))
    (if keeps then digits else trimmed digits) ++ shownExponent e
  else
    let digits := fixed keeps (precision - 1 - e).toNat r
    if keeps then digits else trimmed digits

/-- A ratio as the nearest number of 53 binary digits, in base sixteen with an exponent of two. -/
def hexadecimal (precision? : Option Nat) (r : Ratio) : Raw :=
  let e : Int := if r.num = 0 then 0 else r.lastExponent + 52
  let mantissa := (r.scaleDown (e - 52)).round
  let (mantissa, digits) := match precision? with
    | some p =>
      if p < 13 then (Ratio.round ⟨mantissa, Nat.pow 16 (13 - p)⟩, p)
      else (mantissa * Nat.pow 16 (p - 13), p)
    | none => (mantissa, 13)
  let first := mantissa / Nat.pow 16 digits
  let after := zeroPad digits (Nat.toDigits 16 (mantissa % Nat.pow 16 digits))
  let after := if precision?.isSome then after.take digits
    else ((after.take digits).reverse.dropWhile (· = '0')).reverse
  "0x".toList ++ shown first ++ (if after = [] then [] else '.' :: after) ++
    ['p', if e < 0 then '-' else '+'] ++ shown e.natAbs

end Conformance.Number
