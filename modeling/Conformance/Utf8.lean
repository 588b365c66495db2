/-!
# UTF-8 with replacement

Captured bytes become text one byte at a time. `State` says what the decoder still expects;
a byte that cannot continue the character begun before it ends that character as undecodable and
is read again as a first byte, so each longest undecodable piece is replaced once.
-/

namespace Conformance.Utf8

/-- A character begun: the payload so far, how many bytes follow the next one, and the range of
    the next one. -/
structure Begun where
  payload : Nat
  later : Nat
  low : UInt8
  high : UInt8
  deriving DecidableEq, Repr

/-- Where the decoder stands between two bytes: between characters, or inside one. -/
abbrev State := Option Begun

/-- One decoded piece: a character, or `none` for bytes that encode nothing. -/
abbrev Piece := Option Char

/-- What a first byte starts. The ranges of the second byte leave out overlong forms, surrogates
    and values above U+10FFFF. -/
def first (b : UInt8) : List Piece × State :=
  if b < 0x80 then ([some (Char.ofNat b.toNat)], none)
  else if b < 0xC2 then ([none], none)
  else if b < 0xE0 then ([], some ⟨b.toNat - 0xC0, 0, 0x80, 0xBF⟩)
  else if b = 0xE0 then ([], some ⟨0, 1, 0xA0, 0xBF⟩)
  else if b = 0xED then ([], some ⟨0xD, 1, 0x80, 0x9F⟩)
  else if b < 0xF0 then ([], some ⟨b.toNat - 0xE0, 1, 0x80, 0xBF⟩)
  else if b = 0xF0 then ([], some ⟨0, 2, 0x90, 0xBF⟩)
  else if b < 0xF4 then ([], some ⟨b.toNat - 0xF0, 2, 0x80, 0xBF⟩)
  else if b = 0xF4 then ([], some ⟨4, 2, 0x80, 0x8F⟩)
  else ([none], none)

/-- The payload after a continuation byte, which carries six bits. -/
def Begun.payloadWith (begun : Begun) (b : UInt8) : Nat :=
  begun.payload * 64 + (b.toNat - 0x80)

/-- What one byte adds, and where it leaves the decoder. -/
def step (state : State) (b : UInt8) : List Piece × State :=
  match state with
  | none => first b
  | some begun =>
    if begun.low ≤ b ∧ b ≤ begun.high then
      match begun.later with
      | 0 => ([some (Char.ofNat (begun.payloadWith b))], none)
      | later + 1 => ([], some ⟨begun.payloadWith b, later, 0x80, 0xBF⟩)
    else (none :: (first b).1, (first b).2)

/-- The pieces of the remaining bytes. A character that the end cuts off is undecodable. -/
def piecesFrom (state : State) : List UInt8 → List Piece
  | [] => if state.isSome then [none] else []
  | b :: bytes => (step state b).1 ++ piecesFrom (step state b).2 bytes

/-- The pieces of a byte sequence. -/
def pieces (bytes : List UInt8) : List Piece := piecesFrom none bytes

/-- The replacement character stands for an undecodable piece. -/
def replacement : Char := Char.ofNat 0xFFFD

/-- The characters of a byte sequence, with undecodable pieces replaced. -/
def chars (bytes : List UInt8) : List Char :=
  (pieces bytes).map (·.getD replacement)

/-- Whether every byte belongs to a character. -/
def valid (bytes : List UInt8) : Bool :=
  (pieces bytes).all (·.isSome)

/-- The text that the bytes encode, if they encode one. -/
def read? (bytes : List UInt8) : Option String :=
  if valid bytes then some (String.ofList (chars bytes)) else none

/-- The bytes that encode a text. -/
def encode (text : String) : List UInt8 := text.toUTF8.data.toList

end Conformance.Utf8
