import Conformance.Utf8

/-!
# Byte texts

Scripts and what they handle are bytes, and mostly text. A `Raw` is a text with one character below
U+0100 for each byte.
-/

namespace Conformance

/-- A text with one character for each byte. -/
abbrev Raw := List Char

namespace Raw

def ofBytes (bytes : List UInt8) : Raw := bytes.map fun b => Char.ofNat b.toNat

def toBytes (raw : Raw) : List UInt8 := raw.map fun c => UInt8.ofNat c.toNat

def ofArray (bytes : ByteArray) : Raw := ofBytes bytes.toList

def toArray (raw : Raw) : ByteArray := ⟨(toBytes raw).toArray⟩

/-- The bytes of a text. -/
def ofString (text : String) : Raw := ofArray text.toUTF8

/-- The text that the bytes encode, with what encodes nothing replaced. -/
def text (raw : Raw) : String := .ofList (Utf8.chars (toBytes raw))

/-- The text without the newlines at its end. -/
def dropFinalNewlines (raw : Raw) : Raw := (raw.reverse.dropWhile (· == '\n')).reverse

/-- The lines of a text. A last line that has no newline counts if it is not empty. -/
def lines (raw : Raw) : List Raw :=
  match raw.splitOn '\n' with
  | [] => []
  | parts => if parts.getLast? = some [] then parts.dropLast else parts

/-- Whether a text is the other one or comes before it, in the order of their bytes. -/
def isAtMost : Raw → Raw → Bool
  | [], _ => true
  | _ :: _, [] => false
  | c :: cs, d :: ds => c.toNat < d.toNat || (c == d && isAtMost cs ds)

end Raw
end Conformance
