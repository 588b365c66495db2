import Conformance.Proofs.AsciiText
import Conformance.Proofs.Newlines

/-!
# Text of captured output

`PairsReplaced` says by occurrences what it is to replace each pair of carriage return and newline
by a newline, and `pairsReplaced_iff` that captured text is treated so. A pair can still be left
over, behind two carriage returns. Main statement: what the bytes of a capture say about its text.
-/

namespace Conformance

namespace Line

/-! ## Pairs -/

/-- The second text is the first one with a newline for each pair of carriage return and newline. No
    pair lies in the pieces around the replaced ones. -/
inductive PairsReplaced : List Char → List Char → Prop
  | rest {piece} : ¬ ['\r', '\n'] <:+: piece → PairsReplaced piece piece
  | pair {piece before after} : ¬ ['\r', '\n'] <:+: piece → PairsReplaced before after →
      PairsReplaced (piece ++ '\r' :: '\n' :: before) (piece ++ '\n' :: after)

variable {cs before after : List Char} {c : Char}

theorem not_pair_cons (single : c ≠ '\r' ∨ cs.head? ≠ some '\n') (plain : ¬ ['\r', '\n'] <:+: cs) :
    ¬ ['\r', '\n'] <:+: c :: cs := by
  intro pair
  rcases List.infix_cons_iff.1 pair with ⟨more, cut⟩ | later
  · obtain ⟨rfl, rfl⟩ := List.cons_eq_cons.1 cut
    simp at single
  · exact plain later

/-- A character that begins no pair is kept. -/
theorem PairsReplaced.cons (replaced : PairsReplaced before after)
    (single : c ≠ '\r' ∨ before.head? ≠ some '\n') : PairsReplaced (c :: before) (c :: after) := by
  cases replaced with
  | rest plain => exact .rest (not_pair_cons single plain)
  | @pair piece _ _ plain replaced =>
    have alone : c ≠ '\r' ∨ piece.head? ≠ some '\n' := by
      cases piece with
      | nil => exact .inr (by simp)
      | cons d piece => exact single
    rw [← List.cons_append, ← List.cons_append]
    exact .pair (not_pair_cons alone plain) replaced

theorem pairsReplaced_unixNewlines (cs : List Char) : PairsReplaced cs (unixNewlines cs) := by
  induction cs using pair_induction with
  | nil => exact .rest (by simp)
  | pair rest ih =>
    rw [unixNewlines]
    exact @PairsReplaced.pair [] _ _ (by simp) ih
  | single c rest alone ih =>
    rw [unixNewlines_cons alone]
    exact ih.cons alone

theorem unixNewlines_of_plain (plain : ¬ ['\r', '\n'] <:+: cs) : unixNewlines cs = cs := by
  induction cs using pair_induction with
  | nil => rfl
  | pair rest ih => exact absurd ⟨[], rest, rfl⟩ plain
  | single c rest alone ih =>
    rw [unixNewlines_cons alone, ih fun pair => plain (List.infix_cons pair)]

/-- Replacing pairs leaves no choice. -/
theorem pairsReplaced_iff : PairsReplaced before after ↔ after = unixNewlines before := by
  constructor
  · intro replaced
    induction replaced with
    | rest plain => exact (unixNewlines_of_plain plain).symm
    | @pair piece before after plain _ ih =>
      rw [unixNewlines_append (.inr (by simp)), unixNewlines_of_plain plain, unixNewlines, ih]
  · rintro rfl
    exact pairsReplaced_unixNewlines before

theorem starts_of_unixNewlines (starts : (unixNewlines cs).head? = some '\n') :
    cs.head? = some '\n' ∨ ['\r', '\n'] <+: cs := by
  induction cs using pair_induction with
  | nil => exact .inl starts
  | pair rest _ => exact .inr ⟨rest, rfl⟩
  | single c rest alone _ =>
    rw [unixNewlines_cons alone] at starts
    exact .inl starts

/-- A pair is left over where there were two carriage returns. -/
theorem pair_infix_unixNewlines_iff :
    ['\r', '\n'] <:+: unixNewlines cs ↔ ['\r', '\r', '\n'] <:+: cs := by
  constructor
  · intro pair
    induction cs using pair_induction with
    | nil => simp [unixNewlines] at pair
    | pair rest ih =>
      rw [unixNewlines] at pair
      rcases List.infix_cons_iff.1 pair with ⟨more, cut⟩ | later
      · simp at cut
      · exact List.infix_cons (List.infix_cons (ih later))
    | single c rest alone ih =>
      rw [unixNewlines_cons alone] at pair
      rcases List.infix_cons_iff.1 pair with ⟨more, cut⟩ | later
      · obtain ⟨rfl, behind⟩ := List.cons_eq_cons.1 cut
        rcases starts_of_unixNewlines (by rw [← behind]; rfl) with newline | ⟨further, rfl⟩
        · simp [newline] at alone
        · exact ⟨[], further, rfl⟩
      · exact List.infix_cons (ih later)
  · rintro ⟨before, after, rfl⟩
    have left : unixNewlines (before ++ '\r' :: '\r' :: '\n' :: after) =
        unixNewlines before ++ '\r' :: '\n' :: unixNewlines after :=
      unixNewlines_append (.inr (by simp))
    exact ⟨unixNewlines before, unixNewlines after, by simp [left]⟩

end Line

open Line (PairsReplaced)

namespace Decoded

variable {bytes : List UInt8}

theorem clean_iff : (ofBytes bytes).clean = true ↔ ∃ text, bytes = Utf8.encode text :=
  Utf8.valid_iff

theorem pairsReplaced_encode (text : String) :
    PairsReplaced text.toList (ofBytes (Utf8.encode text)).text.toList := by
  rw [Line.pairsReplaced_iff, toList_text, Utf8.chars_encode]

/-- What cannot be decoded leaves a replacement character. -/
theorem replacement_mem (unclean : (ofBytes bytes).clean = false) :
    '\uFFFD' ∈ (ofBytes bytes).text.toList := by
  have broken : ∃ piece ∈ Utf8.pieces bytes, ¬ piece.isSome = true := by
    simpa [ofBytes, Utf8.valid] using unclean
  obtain ⟨piece, member, nothing⟩ := broken
  obtain rfl : piece = none := by simpa using nothing
  have here : '\uFFFD' ∈ Utf8.chars bytes := List.mem_map.2 ⟨none, member, rfl⟩
  rw [toList_text]
  exact (Line.mem_unixNewlines (by decide)).2 here

theorem pair_infix_iff :
    ['\r', '\n'] <:+: (ofBytes bytes).text.toList ↔ [0x0D, 0x0D, 0x0A] <:+: bytes := by
  have ascii : ∀ c ∈ ['\r', '\r', '\n'], c.toNat < 128 := by simp
  rw [toList_text, Line.pair_infix_unixNewlines_iff]
  exact Utf8.infix_chars_iff ascii

end Decoded

/-- Captured bytes decode cleanly if they encode a text, and then that text is shown with its pairs
    replaced; otherwise a replacement character is. Either way a pair is left over just where the
    bytes have two carriage returns before a newline. -/
theorem Outcome.ofBytes_decoded (stdout stderr : List UInt8) (exitCode : Int) :
    (∀ bytes : List UInt8,
      ((Decoded.ofBytes bytes).clean = true ↔ ∃ text, bytes = Utf8.encode text) ∧
      (∀ text, bytes = Utf8.encode text →
        PairsReplaced text.toList (Decoded.ofBytes bytes).text.toList) ∧
      ((Decoded.ofBytes bytes).clean = false →
        '\uFFFD' ∈ (Decoded.ofBytes bytes).text.toList) ∧
      (['\r', '\n'] <:+: (Decoded.ofBytes bytes).text.toList ↔ [0x0D, 0x0D, 0x0A] <:+: bytes)) ∧
    ((Outcome.ofBytes stdout stderr exitCode).decodeFailed = true ↔
      (¬ ∃ text, stdout = Utf8.encode text) ∨ ¬ ∃ text, stderr = Utf8.encode text) := by
  constructor
  · intro bytes
    refine ⟨Decoded.clean_iff, ?_, Decoded.replacement_mem, Decoded.pair_infix_iff⟩
    rintro text rfl
    exact Decoded.pairsReplaced_encode text
  · rw [← Decoded.clean_iff, ← Decoded.clean_iff, Outcome.ofBytes]
    simp only [Bool.not_eq_true', Bool.and_eq_false_iff, Bool.not_eq_true]

/-- Two carriage returns after a letter of two bytes, whose first byte alone ends the other
    stream. -/
theorem Outcome.ofBytes_decoded_returns :
    let stdout := [0xC3, 0xA9, 0x0D, 0x0D, 0x0A]
    let stderr := [0x0D, 0x0A, 0xC3]
    PairsReplaced "é\r\r\n".toList (Decoded.ofBytes stdout).text.toList ∧
      ['\r', '\n'] <:+: (Decoded.ofBytes stdout).text.toList ∧
      '\uFFFD' ∈ (Decoded.ofBytes stderr).text.toList ∧
      ¬ ['\r', '\n'] <:+: (Decoded.ofBytes stderr).text.toList ∧
      (Outcome.ofBytes stdout stderr 0).decodeFailed = true := by
  intro stdout stderr
  obtain ⟨each, failed⟩ := Outcome.ofBytes_decoded stdout stderr 0
  obtain ⟨-, replaced, -, twice⟩ := each stdout
  obtain ⟨clean, -, undecodable, once⟩ := each stderr
  have unclean : (Decoded.ofBytes stderr).clean = false := by decide
  have invalid : ¬ ∃ text, stderr = Utf8.encode text := fun valid => by
    simp [clean.2 valid] at unclean
  exact ⟨replaced _ (by decide), twice.2 (by decide), undecodable unclean, mt once.1 (by decide),
    failed.2 (.inr invalid)⟩

end Conformance
