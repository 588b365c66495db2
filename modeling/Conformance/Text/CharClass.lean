import Conformance.Raw

/-!
# Classes of characters

The named classes of bytes that patterns and sets of characters can hold, such as the letters.
-/

namespace Conformance.CharClass

def isPunctuation (c : Char) : Bool := 33 ≤ c.toNat && c.toNat ≤ 126 && !c.isAlphanum

def isSpace (c : Char) : Bool := c == ' ' || (9 ≤ c.toNat && c.toNat ≤ 13)

/-- The class of a name. -/
def named? (name : String) : Option (Char → Bool) :=
  match name with
  | "alpha" => some Char.isAlpha
  | "digit" => some Char.isDigit
  | "alnum" => some Char.isAlphanum
  | "upper" => some Char.isUpper
  | "lower" => some Char.isLower
  | "space" => some isSpace
  | "blank" => some fun c => c == ' ' || c == '\t'
  | "punct" => some isPunctuation
  | "print" => some fun c => 32 ≤ c.toNat && c.toNat ≤ 126
  | "graph" => some fun c => 33 ≤ c.toNat && c.toNat ≤ 126
  | "cntrl" => some fun c => c.toNat < 32 || c.toNat = 127
  | "xdigit" => some fun c => c.isDigit || ('a' ≤ c && c ≤ 'f') || ('A' ≤ c && c ≤ 'F')
  | _ => none

/-- All bytes, as characters. -/
def bytes : List Char := (List.range 256).map Char.ofNat

/-- The characters of a class, in order. -/
def members (accepts : Char → Bool) : List Char := bytes.filter accepts

/-- A class at the start of a text, as in `[:alpha:]` after its first bracket: its name, and what
    comes after it. -/
def read? (text : Raw) : Option (String × Raw) :=
  match text with
  | ':' :: rest =>
    let name := rest.takeWhile Char.isAlpha
    match rest.drop name.length with
    | ':' :: ']' :: after => some (String.ofList name, after)
    | _ => none
  | _ => none

end Conformance.CharClass
