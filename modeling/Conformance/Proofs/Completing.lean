import Conformance.Proofs.Decoding

/-!
# What completes a begun character

`Begun.Awaits` says which bytes may follow a begun character, and `Begun.Follows` that these would
complete the bytes read so far to the bytes of a character. `step_cases` says all that a byte can
do in such a state. Main statement: exactly the bytes that encode a text are valid.
-/

namespace Conformance.Utf8

/-! ## Bytes of a character -/

theorem toNat_val_ofNat {v : Nat} (valid : v < 0xD800 ∨ 0xDFFF < v ∧ v < 0x110000) :
    (Char.ofNat v).val.toNat = v := by
  have isValid : v.isValidChar := valid
  rw [Char.ofNat, dif_pos isValid]
  rfl

theorem ofNat_eq {n : Nat} {b : UInt8} (same : n = b.toNat) : UInt8.ofNat n = b := by
  rw [same, UInt8.ofNat_toNat]

variable {a x y z : UInt8}

theorem utf8EncodeChar_two (first : 194 ≤ a.toNat ∧ a.toNat < 224)
    (second : 128 ≤ x.toNat ∧ x.toNat ≤ 191) :
    String.utf8EncodeChar (Char.ofNat ((a.toNat - 192) * 64 + (x.toNat - 128))) = [a, x] := by
  have value := @toNat_val_ofNat ((a.toNat - 192) * 64 + (x.toNat - 128)) (by omega)
  unfold String.utf8EncodeChar
  dsimp only
  rw [value, if_neg (by omega), if_pos (by omega), List.cons_eq_cons, List.cons_eq_cons]
  exact ⟨ofNat_eq (by omega), ofNat_eq (by omega), rfl⟩

theorem utf8EncodeChar_ascii (ascii : a.toNat < 128) :
    String.utf8EncodeChar (Char.ofNat a.toNat) = [a] := by
  have value := @toNat_val_ofNat a.toNat (by omega)
  unfold String.utf8EncodeChar
  dsimp only
  rw [value, if_pos (by omega), UInt8.ofNat_toNat]

/-- Three bytes are no overlong form and no surrogate. -/
theorem utf8EncodeChar_three (first : 224 ≤ a.toNat ∧ a.toNat < 240)
    (second : 128 ≤ x.toNat ∧ x.toNat ≤ 191) (third : 128 ≤ y.toNat ∧ y.toNat ≤ 191)
    (long : a.toNat = 224 → 160 ≤ x.toNat) (scalar : a.toNat = 237 → x.toNat ≤ 159) :
    String.utf8EncodeChar (Char.ofNat (((a.toNat - 224) * 64 + (x.toNat - 128)) * 64 +
      (y.toNat - 128))) = [a, x, y] := by
  have value := @toNat_val_ofNat (((a.toNat - 224) * 64 + (x.toNat - 128)) * 64 + (y.toNat - 128))
    (by omega)
  unfold String.utf8EncodeChar
  dsimp only
  rw [value, if_neg (by omega), if_neg (by omega), if_pos (by omega), List.cons_eq_cons,
    List.cons_eq_cons, List.cons_eq_cons]
  exact ⟨ofNat_eq (by omega), ofNat_eq (by omega), ofNat_eq (by omega), rfl⟩

/-- Four bytes are no overlong form and no value above U+10FFFF. -/
theorem utf8EncodeChar_four (first : 240 ≤ a.toNat ∧ a.toNat < 245)
    (second : 128 ≤ x.toNat ∧ x.toNat ≤ 191) (third : 128 ≤ y.toNat ∧ y.toNat ≤ 191)
    (fourth : 128 ≤ z.toNat ∧ z.toNat ≤ 191) (long : a.toNat = 240 → 144 ≤ x.toNat)
    (bounded : a.toNat = 244 → x.toNat ≤ 143) :
    String.utf8EncodeChar (Char.ofNat ((((a.toNat - 240) * 64 + (x.toNat - 128)) * 64 +
      (y.toNat - 128)) * 64 + (z.toNat - 128))) = [a, x, y, z] := by
  have value := @toNat_val_ofNat ((((a.toNat - 240) * 64 + (x.toNat - 128)) * 64 +
    (y.toNat - 128)) * 64 + (z.toNat - 128)) (by omega)
  unfold String.utf8EncodeChar
  dsimp only
  rw [value, if_neg (by omega), if_neg (by omega), if_neg (by omega), List.cons_eq_cons,
    List.cons_eq_cons, List.cons_eq_cons, List.cons_eq_cons]
  exact ⟨ofNat_eq (by omega), ofNat_eq (by omega), ofNat_eq (by omega), ofNat_eq (by omega), rfl⟩

/-! ## Begun characters -/

/-- The bytes that may follow a begun character up to its end: one in the range of the next one, and
    as many continuation bytes as there are to come after it. -/
def Begun.Awaits (begun : Begun) : List UInt8 → Prop
  | [] => False
  | b :: more => begun.low ≤ b ∧ b ≤ begun.high ∧ more.length = begun.later ∧
      ∀ c ∈ more, 0x80 ≤ c ∧ c ≤ 0xBF

/-- The payload after one more byte. -/
def extend (payload : Nat) (b : UInt8) : Nat := payload * 64 + (b.toNat - 0x80)

theorem payloadWith_eq (begun : Begun) (b : UInt8) :
    begun.payloadWith b = extend begun.payload b := rfl

/-- The payload after further bytes. -/
def Begun.payloadAfter (begun : Begun) (bytes : List UInt8) : Nat :=
  bytes.foldl extend begun.payload

theorem payloadAfter_cons (begun : Begun) (b : UInt8) (bytes : List UInt8) (later : Nat)
    (low high : UInt8) : begun.payloadAfter (b :: bytes) =
      Begun.payloadAfter ⟨begun.payloadWith b, later, low, high⟩ bytes := by
  rw [Begun.payloadAfter, Begun.payloadAfter, List.foldl_cons, payloadWith_eq]

/-- The bytes `sofar` have begun a character: with any bytes that are awaited they are the bytes of
    a character. No ASCII byte is awaited. -/
structure Begun.Follows (begun : Begun) (sofar : List UInt8) : Prop where
  begins : sofar ≠ []
  above : 0x80 ≤ begun.low
  completes : ∀ rest, begun.Awaits rest →
    String.utf8EncodeChar (Char.ofNat (begun.payloadAfter rest)) = sofar ++ rest

theorem continuation_iff {b : UInt8} : 0x80 ≤ b ∧ b ≤ 0xBF ↔ 128 ≤ b.toNat ∧ b.toNat ≤ 191 := by
  rw [UInt8.le_iff_toNat_le, UInt8.le_iff_toNat_le]
  rfl

theorem follows_first_two {b : UInt8} (range : 194 ≤ b.toNat ∧ b.toNat < 224) :
    ∃ begun, first b = ([], some begun) ∧ begun.Follows [b] := by
  have here := @first_two (b.toNat - 192) (by omega) (by omega)
  rw [ofNat_eq (show b.toNat - 192 + 192 = b.toNat by omega)] at here
  refine ⟨_, here, by simp, UInt8.le_refl 0x80, ?_⟩
  intro rest awaited
  cases rest with
  | nil => exact awaited.elim
  | cons x more =>
    obtain ⟨low, high, none, -⟩ := awaited
    obtain rfl := List.length_eq_zero_iff.1 none
    exact utf8EncodeChar_two range (continuation_iff.1 ⟨low, high⟩)

theorem follows_first_three {b : UInt8} (range : 224 ≤ b.toNat ∧ b.toNat < 240) :
    ∃ begun, first b = ([], some begun) ∧ begun.Follows [b] := by
  have here := @first_three (b.toNat - 224) (by omega)
  rw [ofNat_eq (show b.toNat - 224 + 224 = b.toNat by omega)] at here
  refine ⟨_, here, by simp, ?_, ?_⟩
  · dsimp only
    split_ifs <;> decide
  intro rest awaited
  cases rest with
  | nil => exact awaited.elim
  | cons x more =>
    obtain ⟨low, high, one, continued⟩ := awaited
    obtain ⟨y, rfl⟩ := List.length_eq_one_iff.1 one
    have third := continuation_iff.1 (continued y (List.mem_singleton_self y))
    simp only [UInt8.le_iff_toNat_le, apply_ite UInt8.toNat, UInt8.reduceToNat] at low high
    refine utf8EncodeChar_three range ?_ third ?_ ?_ <;> split_ifs at low high <;> omega

theorem follows_first_four {b : UInt8} (range : 240 ≤ b.toNat ∧ b.toNat < 245) :
    ∃ begun, first b = ([], some begun) ∧ begun.Follows [b] := by
  have here := @first_four (b.toNat - 240) (by omega)
  rw [ofNat_eq (show b.toNat - 240 + 240 = b.toNat by omega)] at here
  refine ⟨_, here, by simp, ?_, ?_⟩
  · dsimp only
    split_ifs <;> decide
  intro rest awaited
  cases rest with
  | nil => exact awaited.elim
  | cons x more =>
    obtain ⟨low, high, two, continued⟩ := awaited
    obtain ⟨y, z, rfl⟩ := List.length_eq_two.1 two
    have third := continuation_iff.1 (continued y List.mem_cons_self)
    have fourth := continuation_iff.1 (continued z (by simp))
    simp only [UInt8.le_iff_toNat_le, apply_ite UInt8.toNat, UInt8.reduceToNat] at low high
    refine utf8EncodeChar_four range ?_ third fourth ?_ ?_ <;> split_ifs at low high <;> omega

/-- Neither a continuation byte, nor one that would begin an overlong form, nor one above all that
    begin a character is a first byte. -/
theorem first_refused {b : UInt8} (range : 128 ≤ b.toNat ∧ b.toNat < 194 ∨ 245 ≤ b.toNat) :
    first b = ([none], none) := by
  have lower : ∀ n : Fin 66, first (UInt8.ofNat (n + 128)) = ([none], none) := by decide
  have upper : ∀ n : Fin 11, first (UInt8.ofNat (n + 245)) = ([none], none) := by decide
  have bound := b.toNat_lt
  rcases range with low | high
  · have here := lower ⟨b.toNat - 128, by omega⟩
    rwa [ofNat_eq (show b.toNat - 128 + 128 = b.toNat by omega)] at here
  · have here := upper ⟨b.toNat - 245, by omega⟩
    rwa [ofNat_eq (show b.toNat - 245 + 245 = b.toNat by omega)] at here

/-- A first byte is an ASCII character, begins a character, or is undecodable. -/
theorem first_cases (b : UInt8) :
    (b.toNat < 128 ∧ first b = ([some (Char.ofNat b.toNat)], none)) ∨
    (128 ≤ b.toNat ∧ first b = ([none], none)) ∨
    ∃ begun, first b = ([], some begun) ∧ begun.Follows [b] := by
  by_cases ascii : b.toNat < 128
  · have here := first_ascii ascii
    rw [UInt8.ofNat_toNat] at here
    exact .inl ⟨ascii, here⟩
  by_cases two : 194 ≤ b.toNat ∧ b.toNat < 224
  · exact .inr (.inr (follows_first_two two))
  by_cases three : 224 ≤ b.toNat ∧ b.toNat < 240
  · exact .inr (.inr (follows_first_three three))
  by_cases four : 240 ≤ b.toNat ∧ b.toNat < 245
  · exact .inr (.inr (follows_first_four four))
  · exact .inr (.inl ⟨by omega, first_refused (by omega)⟩)

/-! ## One byte after another -/

/-- The decoder stands behind the bytes `sofar`, which belong to no piece yet. -/
def Reads (state : State) (sofar : List UInt8) : Prop :=
  match state with
  | none => sofar = []
  | some begun => begun.Follows sofar

theorem reads_none : Reads none [] := rfl

variable {state : State} {sofar : List UInt8} {begun : Begun} {b : UInt8}

/-- With one of the awaited bytes, a character is begun further or complete. -/
theorem Begun.Follows.step (follows : begun.Follows sofar)
    (within : begun.low ≤ b ∧ b ≤ begun.high) :
    (∃ next, Utf8.step (some begun) b = ([], some next) ∧ next.Follows (sofar ++ [b])) ∨
    ∃ c, Utf8.step (some begun) b = ([some c], none) ∧
      String.utf8EncodeChar c = sofar ++ [b] := by
  rw [Utf8.step, if_pos within]
  cases later : begun.later with
  | zero =>
    exact .inr ⟨_, rfl, follows.completes [b] ⟨within.1, within.2, later.symm, by simp⟩⟩
  | succ n =>
    refine .inl ⟨_, rfl, by simp, UInt8.le_refl 0x80, ?_⟩
    intro rest awaited
    cases rest with
    | nil => exact awaited.elim
    | cons x more =>
      obtain ⟨low, high, number, continued⟩ := awaited
      have all : ∀ c ∈ x :: more, 0x80 ≤ c ∧ c ≤ 0xBF :=
        List.forall_mem_cons.2 ⟨⟨low, high⟩, continued⟩
      have length : (x :: more).length = begun.later := by
        rw [later, List.length_cons, number]
      rw [List.append_assoc, List.singleton_append, ← payloadAfter_cons]
      exact follows.completes (b :: x :: more) ⟨within.1, within.2, length, all⟩

/-- A byte goes on with a character or begins one, completes one, is undecodable itself, or leaves
    one cut off that was begun before it. -/
theorem step_cases (reads : Reads state sofar) (b : UInt8) :
    (∃ next, step state b = ([], some next) ∧ next.Follows (sofar ++ [b])) ∨
    (∃ c, step state b = ([some c], none) ∧ String.utf8EncodeChar c = sofar ++ [b]) ∨
    step state b = ([none], none) ∨ step state b = (none :: (first b).1, (first b).2) := by
  cases state with
  | none =>
    obtain rfl : sofar = [] := reads
    rcases first_cases b with ⟨ascii, here⟩ | ⟨-, here⟩ | begins
    · exact .inr (.inl ⟨_, here, utf8EncodeChar_ascii ascii⟩)
    · exact .inr (.inr (.inl here))
    · exact .inl begins
  | some begun =>
    by_cases within : begun.low ≤ b ∧ b ≤ begun.high
    · rcases Begun.Follows.step reads within with further | complete
      · exact .inl further
      · exact .inr (.inl complete)
    · exact .inr (.inr (.inr (by rw [step, if_neg within])))

/-- Pieces that are all characters are written with the bytes that they were read from. -/
theorem flatMap_piecesFrom (reads : Reads state sofar) {bytes : List UInt8}
    (all : (piecesFrom state bytes).all (·.isSome)) :
    ((piecesFrom state bytes).map (·.getD replacement)).flatMap String.utf8EncodeChar =
      sofar ++ bytes := by
  induction bytes generalizing state sofar with
  | nil =>
    cases state with
    | none =>
      obtain rfl : sofar = [] := reads
      rfl
    | some begun => simp [piecesFrom] at all
  | cons b bytes ih =>
    rw [piecesFrom] at all ⊢
    rcases step_cases reads b with ⟨next, here, follows⟩ | ⟨c, here, encodes⟩ | here | here
    · rw [here] at all ⊢
      have rest : Reads (some next) (sofar ++ [b]) := follows
      simpa using ih rest all
    · rw [here] at all ⊢
      simp only [List.singleton_append, List.all_cons, Option.isSome_some, Bool.true_and] at all
      rw [List.singleton_append, List.map_cons, List.flatMap_cons, ih reads_none all,
        Option.getD_some, encodes, List.nil_append, List.append_assoc, List.singleton_append]
    · simp [here] at all
    · simp [here] at all

/-- Valid bytes are those that encode a text. -/
theorem valid_iff {bytes : List UInt8} : valid bytes = true ↔ ∃ text, bytes = encode text := by
  constructor
  · intro clean
    refine ⟨.ofList (chars bytes), ?_⟩
    rw [encode_eq, String.toList_ofList]
    exact (flatMap_piecesFrom reads_none clean).symm
  · rintro ⟨text, rfl⟩
    exact valid_encode text

end Conformance.Utf8
