import Conformance.Utf8
import Mathlib.Data.UInt

/-!
# Decoding what encodes a text

The bytes that encode a character start it with the first byte and go on with continuation bytes of
six bits each, which are in the range that the decoder asks for. So the decoder reads every
character back, and with it every text.
-/

namespace Conformance.Utf8

/-! ## First bytes -/

theorem first_ascii {n : Nat} (small : n < 128) :
    first (UInt8.ofNat n) = ([some (Char.ofNat n)], none) := by
  have all : ∀ n : Fin 128, first (UInt8.ofNat n) = ([some (Char.ofNat n)], none) := by decide
  exact all ⟨n, small⟩

/-- The first of two bytes. Overlong forms would have a payload of zero or one. -/
theorem first_two {n : Nat} (low : 2 ≤ n) (high : n < 32) :
    first (UInt8.ofNat (n + 192)) = ([], some ⟨n, 0, 0x80, 0xBF⟩) := by
  have all : ∀ n : Fin 32, 2 ≤ n.val →
      first (UInt8.ofNat (n + 192)) = ([], some ⟨n, 0, 0x80, 0xBF⟩) := by
    decide
  exact all ⟨n, high⟩ low

/-- The first of three bytes. The range of the next one leaves out overlong forms and surrogates. -/
theorem first_three {n : Nat} (high : n < 16) :
    first (UInt8.ofNat (n + 224)) = ([], some ⟨n, 1, if n = 0 then 0xA0 else 0x80,
      if n = 13 then 0x9F else 0xBF⟩) := by
  have all : ∀ n : Fin 16, first (UInt8.ofNat (n + 224)) = ([], some ⟨n, 1,
      if n.val = 0 then 0xA0 else 0x80, if n.val = 13 then 0x9F else 0xBF⟩) := by
    decide
  exact all ⟨n, high⟩

/-- The first of four bytes. The range of the next one leaves out overlong forms and values above
    U+10FFFF. -/
theorem first_four {n : Nat} (high : n < 5) :
    first (UInt8.ofNat (n + 240)) = ([], some ⟨n, 2, if n = 0 then 0x90 else 0x80,
      if n = 4 then 0x8F else 0xBF⟩) := by
  have all : ∀ n : Fin 5, first (UInt8.ofNat (n + 240)) = ([], some ⟨n, 2,
      if n.val = 0 then 0x90 else 0x80, if n.val = 4 then 0x8F else 0xBF⟩) := by
    decide
  exact all ⟨n, high⟩

/-! ## Continuation bytes -/

variable {payload bits : Nat} {low high : UInt8}

theorem toNat_continuation (six : bits < 64) : (UInt8.ofNat (bits + 128)).toNat = bits + 128 := by
  rw [UInt8.toNat_ofNat', Nat.mod_eq_of_lt (by omega)]

theorem step_continuation (later : Nat) (six : bits < 64) (above : low.toNat ≤ bits + 128)
    (below : bits + 128 ≤ high.toNat) :
    step (some ⟨payload, later, low, high⟩) (UInt8.ofNat (bits + 128)) =
      match later with
      | 0 => ([some (Char.ofNat (payload * 64 + bits))], none)
      | later + 1 => ([], some ⟨payload * 64 + bits, later, 0x80, 0xBF⟩) := by
  have byte := toNat_continuation six
  have within : low ≤ UInt8.ofNat (bits + 128) ∧ UInt8.ofNat (bits + 128) ≤ high := by
    rw [UInt8.le_iff_toNat_le, UInt8.le_iff_toNat_le, byte]
    exact ⟨above, below⟩
  have added (begun : Begun) :
      begun.payloadWith (UInt8.ofNat (bits + 128)) = begun.payload * 64 + bits := by
    show begun.payload * 64 + ((UInt8.ofNat (bits + 128)).toNat - 0x80) = _
    rw [byte]
    omega
  rw [step, if_pos within]
  cases later with
  | zero => simp only [added]
  | succ later => simp only [added]

/-- The last byte of a character. -/
theorem piecesFrom_last (six : bits < 64) (above : low.toNat ≤ bits + 128)
    (below : bits + 128 ≤ high.toNat) (bytes : List UInt8) :
    piecesFrom (some ⟨payload, 0, low, high⟩) (UInt8.ofNat (bits + 128) :: bytes) =
      some (Char.ofNat (payload * 64 + bits)) :: piecesFrom none bytes := by
  rw [piecesFrom, step_continuation 0 six above below]
  rfl

/-- A byte in the middle of a character. -/
theorem piecesFrom_middle (later : Nat) (six : bits < 64) (above : low.toNat ≤ bits + 128)
    (below : bits + 128 ≤ high.toNat) (bytes : List UInt8) :
    piecesFrom (some ⟨payload, later + 1, low, high⟩) (UInt8.ofNat (bits + 128) :: bytes) =
      piecesFrom (some ⟨payload * 64 + bits, later, 0x80, 0xBF⟩) bytes := by
  rw [piecesFrom, step_continuation (later + 1) six above below]
  rfl

/-! ## Characters and texts -/

theorem piecesFrom_first {b : UInt8} {begun : Begun} (begins : first b = ([], some begun))
    (bytes : List UInt8) : piecesFrom none (b :: bytes) = piecesFrom (some begun) bytes := by
  rw [piecesFrom, step, begins]
  rfl

/-- The bytes of a character are read as that character. -/
theorem piecesFrom_utf8EncodeChar (c : Char) (bytes : List UInt8) :
    piecesFrom none (String.utf8EncodeChar c ++ bytes) = some c :: piecesFrom none bytes := by
  have valid : c.val.toNat < 0xD800 ∨ 0xDFFF < c.val.toNat ∧ c.val.toNat < 0x110000 := c.valid
  have same : Char.ofNat c.val.toNat = c := Char.ofNat_toNat c
  have plain : (0x80 : UInt8).toNat = 128 ∧ (0xBF : UInt8).toNat = 191 := by decide
  unfold String.utf8EncodeChar
  dsimp only
  generalize c.val.toNat = v at valid same
  split_ifs with one two three
  · rw [List.singleton_append, piecesFrom, step, first_ascii (by omega), same]
    rfl
  · have value : v / 64 % 32 * 64 + v % 64 = v := by omega
    rw [List.cons_append, piecesFrom_first (first_two (by omega) (by omega)), List.singleton_append,
      piecesFrom_last (by omega) (by omega) (by omega), value, same]
  · have value : (v / 4096 % 16 * 64 + v / 64 % 64) * 64 + v % 64 = v := by omega
    rw [List.cons_append, piecesFrom_first (first_three (by omega)), List.cons_append,
      piecesFrom_middle 0 (by omega), List.singleton_append,
      piecesFrom_last (by omega) (by omega) (by omega), value, same]
    · simp only [apply_ite UInt8.toNat, UInt8.reduceToNat]
      split_ifs <;> omega
    · simp only [apply_ite UInt8.toNat, UInt8.reduceToNat]
      split_ifs <;> omega
  · have value : ((v / 262144 % 8 * 64 + v / 4096 % 64) * 64 + v / 64 % 64) * 64 + v % 64 = v := by
      omega
    rw [List.cons_append, piecesFrom_first (first_four (by omega)), List.cons_append,
      piecesFrom_middle 1 (by omega), List.cons_append,
      piecesFrom_middle 0 (by omega) (by omega) (by omega), List.singleton_append,
      piecesFrom_last (by omega) (by omega) (by omega), value, same]
    · simp only [apply_ite UInt8.toNat, UInt8.reduceToNat]
      split_ifs <;> omega
    · simp only [apply_ite UInt8.toNat, UInt8.reduceToNat]
      split_ifs <;> omega

theorem encode_eq (text : String) : encode text = text.toList.flatMap String.utf8EncodeChar := by
  have bytes : text.toByteArray = (text.toList.flatMap String.utf8EncodeChar).toByteArray := by
    conv_lhs => rw [← String.ofList_toList (s := text)]
    exact String.toByteArray_ofList
  rw [encode, String.toUTF8_eq_toByteArray, bytes, List.data_toByteArray]

/-- The bytes of a text are read as its characters. -/
theorem pieces_encode (text : String) : pieces (encode text) = text.toList.map some := by
  rw [encode_eq, pieces]
  induction text.toList with
  | nil => rfl
  | cons c cs ih => rw [List.flatMap_cons, piecesFrom_utf8EncodeChar, ih, List.map_cons]

theorem chars_encode (text : String) : chars (encode text) = text.toList := by
  rw [chars, pieces_encode, List.map_map]
  exact List.map_id _

theorem valid_encode (text : String) : valid (encode text) = true := by
  rw [valid, pieces_encode]
  simp

end Conformance.Utf8
