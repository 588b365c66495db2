import Conformance.Proofs.Completing

/-!
# ASCII characters in decoded bytes

An ASCII byte belongs to no other character. It cuts off a character that is begun before it, and
nothing before it bears on the bytes after it; nor is any other byte read as an ASCII character. So
an ASCII text stands in the decoded text where its bytes stand.
-/

namespace Conformance.Utf8

variable {state : State} {sofar : List UInt8} {b : UInt8} {c : Char} {bytes : List UInt8}

/-! ## One byte -/

/-- An ASCII byte cuts off what is begun, and is a character of its own. -/
theorem step_ascii (reads : Reads state sofar) (ascii : b.toNat < 128) :
    step state b = (piecesFrom state [] ++ [some (Char.ofNat b.toNat)], none) := by
  have here := first_ascii ascii
  rw [UInt8.ofNat_toNat] at here
  cases state with
  | none => exact here
  | some begun =>
    have above := UInt8.le_iff_toNat_le.1 reads.above
    have outside : ¬ (begun.low ≤ b ∧ b ≤ begun.high) := by
      rintro ⟨low, -⟩
      have low := UInt8.le_iff_toNat_le.1 low
      have : (0x80 : UInt8).toNat = 128 := rfl
      omega
    rw [step, if_neg outside, here]
    rfl

/-- The byte of an ASCII character. -/
theorem toNat_byte (ascii : c.toNat < 128) : (UInt8.ofNat c.toNat).toNat = c.toNat := by
  rw [UInt8.toNat_ofNat', Nat.mod_eq_of_lt (by omega)]

theorem utf8EncodeChar_of_ascii (ascii : c.toNat < 128) :
    String.utf8EncodeChar c = [UInt8.ofNat c.toNat] := by
  have byte := toNat_byte ascii
  have alone := @utf8EncodeChar_ascii (UInt8.ofNat c.toNat) (by omega)
  rwa [byte, Char.ofNat_toNat] at alone

/-- A character of several bytes is not ASCII. -/
theorem not_ascii_of_utf8EncodeChar (encodes : String.utf8EncodeChar c = sofar ++ [b])
    (other : 128 ≤ b.toNat) : 128 ≤ c.toNat := by
  by_contra ascii
  have byte := toNat_byte (not_le.1 ascii)
  rw [utf8EncodeChar_of_ascii (not_le.1 ascii), ← List.nil_append [UInt8.ofNat c.toNat]] at encodes
  obtain ⟨-, same⟩ := List.append_inj' encodes rfl
  obtain rfl : UInt8.ofNat c.toNat = b := by simpa using same
  omega

/-- Other bytes are read as no ASCII character. -/
theorem not_ascii_of_mem_step (reads : Reads state sofar) (other : 128 ≤ b.toNat)
    (member : some c ∈ (step state b).1) : 128 ≤ c.toNat := by
  rcases step_cases reads b with ⟨next, here, -⟩ | ⟨d, here, encodes⟩ | here | here
  · simp [here] at member
  · obtain rfl : c = d := by simpa [here] using member
    exact not_ascii_of_utf8EncodeChar encodes other
  · simp [here] at member
  · rcases first_cases b with ⟨ascii, -⟩ | ⟨-, first⟩ | ⟨next, first, -⟩
    · omega
    · simp [here, first] at member
    · simp [here, first] at member

theorem reads_step (reads : Reads state sofar) (b : UInt8) :
    ∃ further, Reads (step state b).2 further := by
  rcases step_cases reads b with ⟨next, here, follows⟩ | ⟨d, here, -⟩ | here | here
  · exact ⟨_, by rw [here]; exact follows⟩
  · exact ⟨[], by rw [here]; rfl⟩
  · exact ⟨[], by rw [here]; rfl⟩
  · rcases first_cases b with ⟨-, first⟩ | ⟨-, first⟩ | ⟨next, first, follows⟩
    · exact ⟨[], by rw [here, first]; rfl⟩
    · exact ⟨[], by rw [here, first]; rfl⟩
    · exact ⟨[b], by rw [here, first]; exact follows⟩

/-! ## All bytes -/

theorem piecesFrom_append_ascii (reads : Reads state sofar) (ascii : b.toNat < 128)
    (before after : List UInt8) :
    piecesFrom state (before ++ b :: after) =
      piecesFrom state before ++ some (Char.ofNat b.toNat) :: pieces after := by
  induction before generalizing state sofar with
  | nil =>
    show (step state b).1 ++ piecesFrom (step state b).2 after = _
    rw [step_ascii reads ascii, List.append_assoc]
    rfl
  | cons first before ih =>
    obtain ⟨further, rest⟩ := reads_step reads first
    rw [List.cons_append, piecesFrom, piecesFrom, ih rest, List.append_assoc]

/-- What does not stand in the first part of a list stands behind it. -/
theorem cut_behind {α : Type} {front rest before after : List α} {x : α} (absent : x ∉ front)
    (cut : front ++ rest = before ++ x :: after) :
    ∃ between, before = front ++ between ∧ rest = between ++ x :: after := by
  rcases List.append_eq_append_iff.1 cut with ⟨between, rfl, rfl⟩ | ⟨more, rfl, same⟩
  · exact ⟨between, rfl, rfl⟩
  · cases more with
    | nil => exact ⟨[], by simp, same.symm⟩
    | cons y more =>
      obtain ⟨rfl, -⟩ := List.cons_eq_cons.1 same
      simp at absent

/-- An ASCII character is read from its byte alone. -/
theorem exists_byte (reads : Reads state sofar) (ascii : c.toNat < 128) {before after : List Piece}
    (cut : piecesFrom state bytes = before ++ some c :: after) :
    ∃ earlier later, bytes = earlier ++ UInt8.ofNat c.toNat :: later ∧
      piecesFrom state earlier = before ∧ pieces later = after := by
  have nothing (state : State) : some c ∉ piecesFrom state [] := by
    cases state <;> simp [piecesFrom]
  induction bytes generalizing state sofar before with
  | nil => exact absurd (by rw [cut]; simp) (nothing state)
  | cons b bytes ih =>
    by_cases plain : b.toNat < 128
    · have here (bytes : List UInt8) := piecesFrom_append_ascii reads plain [] bytes
      rw [← List.nil_append (b :: bytes), here] at cut
      obtain ⟨between, rfl, rest⟩ := cut_behind (nothing state) cut
      cases between with
      | nil =>
        obtain ⟨same, rfl⟩ := List.cons_eq_cons.1 rest
        obtain rfl := Option.some.inj same
        have byte : UInt8.ofNat (Char.ofNat b.toNat).toNat = b :=
          ofNat_eq (toNat_val_ofNat (by omega))
        exact ⟨[], bytes, by rw [byte]; rfl, by simp, rfl⟩
      | cons piece between =>
        rw [List.cons_append] at rest
        obtain ⟨rfl, behind⟩ := List.cons_eq_cons.1 rest
        obtain ⟨earlier, later, rfl, rfl, rfl⟩ := ih reads_none behind
        exact ⟨b :: earlier, later, rfl, here earlier, rfl⟩
    · have absent : some c ∉ (step state b).1 := fun member => by
        have := not_ascii_of_mem_step reads (by omega) member
        omega
      obtain ⟨further, readsOn⟩ := reads_step reads b
      obtain ⟨between, rfl, rest⟩ := cut_behind absent cut
      obtain ⟨earlier, later, rfl, rfl, rfl⟩ := ih readsOn rest
      exact ⟨b :: earlier, later, rfl, rfl, rfl⟩

/-! ## Texts -/

theorem chars_append_ascii (ascii : b.toNat < 128) (before after : List UInt8) :
    chars (before ++ b :: after) = chars before ++ Char.ofNat b.toNat :: chars after := by
  rw [chars, pieces, piecesFrom_append_ascii reads_none ascii, List.map_append]
  rfl

theorem valid_append_ascii (ascii : b.toNat < 128) (before after : List UInt8) :
    valid (before ++ b :: after) = (valid before && valid after) := by
  rw [valid, pieces, piecesFrom_append_ascii reads_none ascii, List.all_append]
  rfl

/-- An ASCII character stands in the text where its byte stands. -/
theorem chars_eq_append_iff (ascii : c.toNat < 128) {before after : List Char} :
    chars bytes = before ++ c :: after ↔
      ∃ earlier later, bytes = earlier ++ UInt8.ofNat c.toNat :: later ∧
        chars earlier = before ∧ chars later = after := by
  have byte := toNat_byte ascii
  constructor
  · intro cut
    obtain ⟨front, rest, cut, rfl, behind⟩ := List.map_eq_append_iff.1 cut
    obtain ⟨piece, rest, rfl, same, rfl⟩ := List.map_eq_cons_iff.1 behind
    obtain rfl : piece = some c := by
      cases piece with
      | some d => exact congrArg some same
      | none =>
        have : replacement.toNat = 0xFFFD := rfl
        obtain rfl : replacement = c := same
        omega
    obtain ⟨earlier, later, rfl, rfl, rfl⟩ := exists_byte reads_none ascii cut
    exact ⟨earlier, later, rfl, rfl, rfl⟩
  · rintro ⟨earlier, later, rfl, rfl, rfl⟩
    rw [chars_append_ascii (by omega), byte, Char.ofNat_toNat]

theorem mem_chars_iff (ascii : c.toNat < 128) :
    c ∈ chars bytes ↔ UInt8.ofNat c.toNat ∈ bytes := by
  constructor
  · intro member
    obtain ⟨before, after, cut⟩ := List.append_of_mem member
    obtain ⟨earlier, later, rfl, -, -⟩ := (chars_eq_append_iff ascii).1 cut
    simp
  · intro member
    obtain ⟨earlier, later, rfl⟩ := List.append_of_mem member
    rw [(chars_eq_append_iff ascii).2 ⟨earlier, later, rfl, rfl, rfl⟩]
    simp

/-! ## ASCII words -/

/-- Every byte is part of a piece. -/
theorem eq_nil_of_piecesFrom (reads : Reads state sofar) (nothing : piecesFrom state bytes = []) :
    bytes = [] := by
  induction bytes generalizing state sofar with
  | nil => rfl
  | cons b bytes ih =>
    obtain ⟨none, rest⟩ := List.append_eq_nil_iff.1 nothing
    rcases step_cases reads b with ⟨next, here, follows⟩ | ⟨c, here, -⟩ | here | here
    · have further : Reads (some next) (sofar ++ [b]) := follows
      rw [here] at rest
      obtain rfl := ih further rest
      simp [piecesFrom] at rest
    · simp [here] at none
    · simp [here] at none
    · simp [here] at none

theorem chars_eq_nil_iff : chars bytes = [] ↔ bytes = [] := by
  constructor
  · intro nothing
    exact eq_nil_of_piecesFrom reads_none (List.map_eq_nil_iff.1 nothing)
  · rintro rfl
    rfl

variable {word : List Char}

theorem chars_eq_word_append_iff (ascii : ∀ c ∈ word, c.toNat < 128) {after : List Char} :
    chars bytes = word ++ after ↔
      ∃ later, bytes = word.map (UInt8.ofNat ·.toNat) ++ later ∧ chars later = after := by
  induction word generalizing bytes with
  | nil => simp
  | cons c word ih =>
    obtain ⟨first, others⟩ := List.forall_mem_cons.1 ascii
    rw [List.cons_append, ← List.nil_append (c :: _), chars_eq_append_iff first]
    constructor
    · rintro ⟨earlier, behind, rfl, nothing, rest⟩
      obtain rfl := chars_eq_nil_iff.1 nothing
      obtain ⟨later, rfl, here⟩ := (ih others).1 rest
      exact ⟨later, rfl, here⟩
    · rintro ⟨later, rfl, here⟩
      exact ⟨[], _, rfl, rfl, (ih others).2 ⟨later, rfl, here⟩⟩

/-- An ASCII word stands in the text where its bytes stand. -/
theorem infix_chars_iff (ascii : ∀ c ∈ word, c.toNat < 128) :
    word <:+: chars bytes ↔ word.map (UInt8.ofNat ·.toNat) <:+: bytes := by
  cases word with
  | nil => simp
  | cons c word =>
    obtain ⟨first, others⟩ := List.forall_mem_cons.1 ascii
    constructor
    · rintro ⟨before, after, cut⟩
      rw [List.append_assoc, List.cons_append] at cut
      obtain ⟨earlier, behind, rfl, -, rest⟩ := (chars_eq_append_iff first).1 cut.symm
      obtain ⟨later, rfl, -⟩ := (chars_eq_word_append_iff others).1 rest
      exact ⟨earlier, later, by simp⟩
    · rintro ⟨earlier, later, rfl⟩
      have rest := (chars_eq_word_append_iff others).2 ⟨later, rfl, rfl⟩
      have cut := (chars_eq_append_iff first).2 ⟨earlier, _, rfl, rfl, rest⟩
      refine ⟨chars earlier, chars later, ?_⟩
      rw [List.map_cons, List.append_assoc, List.append_assoc, List.cons_append, List.cons_append]
      exact cut.symm

end Conformance.Utf8
