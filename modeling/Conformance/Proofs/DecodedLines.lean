import Conformance.Proofs.AsciiText
import Conformance.Proofs.Newlines

/-!
# Lines of captured output

A newline is one byte that belongs to no other character, so captured bytes are decoded line by
line. A carriage return before the newline goes with it: what a line becomes is said for the line
together with the newline that ends it. Main statement: the lines of the text are those of the
bytes, each decoded by itself.
-/

namespace Conformance

namespace Line

variable {α : Type} [DecidableEq α] {newline : α}

/-- The lines of a list, each with the newline that ends it. Only the last one has none. -/
def withNewlines (newline : α) : List α → List (List α)
  | [] => [[]]
  | x :: xs =>
    if x = newline then [x] :: withNewlines newline xs
    else (withNewlines newline xs).modifyHead (x :: ·)

theorem withNewlines_of_not_mem {line : List α} (whole : newline ∉ line) :
    withNewlines newline line = [line] := by
  induction line with
  | nil => rfl
  | cons x line ih =>
    have rest := List.not_mem_of_not_mem_cons whole
    rw [withNewlines, if_neg (List.ne_of_not_mem_cons whole).symm, ih rest]
    rfl

theorem withNewlines_append {line : List α} (whole : newline ∉ line) (rest : List α) :
    withNewlines newline (line ++ newline :: rest) =
      (line ++ [newline]) :: withNewlines newline rest := by
  induction line with
  | nil => rw [List.nil_append, withNewlines, if_pos rfl]; rfl
  | cons x line ih =>
    have further := List.not_mem_of_not_mem_cons whole
    rw [List.cons_append, withNewlines, if_neg (List.ne_of_not_mem_cons whole).symm, ih further]
    rfl

/-- Without the newlines, these are the pieces between them. -/
theorem splitOn_eq_map (newline : α) (xs : List α) :
    xs.splitOn newline = (withNewlines newline xs).map (·.filter (· ≠ newline)) := by
  have kept {line : List α} (whole : newline ∉ line) : line.filter (· ≠ newline) = line :=
    List.filter_eq_self.2 fun x member => by simpa using ne_of_mem_of_not_mem member whole
  induction xs using cut_induction newline with
  | last line whole =>
    rw [List.splitOn_eq_singleton whole, withNewlines_of_not_mem whole, List.map_singleton,
      kept whole]
  | ended line rest whole ih =>
    rw [List.splitOn_append_cons_self_of_not_mem whole, withNewlines_append whole, List.map_cons,
      List.filter_append, kept whole, ih]
    simp

end Line

namespace Decoded

open Line (dropReturn split segments withNewlines)

/-! ## Around a newline -/

theorem toList_text_append_newline (before after : List UInt8) :
    (ofBytes (before ++ 0x0A :: after)).text.toList =
      dropReturn (ofBytes before).text.toList ++ '\n' :: (ofBytes after).text.toList := by
  have apart : Utf8.chars (before ++ 0x0A :: after) =
      Utf8.chars before ++ '\n' :: Utf8.chars after :=
    Utf8.chars_append_ascii (by decide) before after
  rw [toList_text, apart, Line.unixNewlines_append_newline, ← toList_text, ← toList_text]

theorem text_append_newline (before after : List UInt8) :
    (ofBytes (before ++ 0x0A :: after)).text =
      .ofList (dropReturn (ofBytes before).text.toList) ++ "\n" ++ (ofBytes after).text := by
  apply String.toList_injective
  rw [toList_text_append_newline]
  simp

theorem clean_append_newline (before after : List UInt8) :
    (ofBytes (before ++ 0x0A :: after)).clean =
      ((ofBytes before).clean && (ofBytes after).clean) :=
  Utf8.valid_append_ascii (by decide) before after

theorem newline_mem_iff {bytes : List UInt8} :
    '\n' ∈ (ofBytes bytes).text.toList ↔ 0x0A ∈ bytes := by
  rw [toList_text, Line.mem_unixNewlines (by decide)]
  exact Utf8.mem_chars_iff (by decide)

/-! ## Line by line -/

/-- The lines of the text are the lines of the bytes, each decoded by itself. -/
theorem withNewlines_text (bytes : List UInt8) :
    withNewlines '\n' (ofBytes bytes).text.toList =
      (withNewlines 0x0A bytes).map fun line => (ofBytes line).text.toList := by
  induction bytes using Line.cut_induction (0x0A : UInt8) with
  | last line whole =>
    rw [Line.withNewlines_of_not_mem whole,
      Line.withNewlines_of_not_mem (newline_mem_iff.not.2 whole), List.map_singleton]
  | ended line rest whole ih =>
    have kept : '\n' ∉ dropReturn (ofBytes line).text.toList := fun member =>
      newline_mem_iff.not.2 whole (Line.mem_of_mem_dropReturn member)
    have alone : (ofBytes (line ++ [0x0A])).text.toList =
        dropReturn (ofBytes line).text.toList ++ ['\n'] := toList_text_append_newline line []
    rw [Line.withNewlines_append whole, List.map_cons, alone, ← ih, toList_text_append_newline,
      Line.withNewlines_append kept]

theorem split_text (bytes : List UInt8) :
    split (ofBytes bytes).text = (withNewlines 0x0A bytes).map fun line =>
      .ofList ((ofBytes line).text.toList.filter (· ≠ '\n')) := by
  rw [split, segments, Line.splitOn_eq_map, withNewlines_text, List.map_map, List.map_map]
  rfl

/-- What captured bytes hold before a newline and what they hold after it are decoded apart, with
    whatever cannot be decoded on either side. So the text has the lines of the bytes, each decoded
    by itself, and two captures that have a line in common show the same there. -/
theorem decoded_by_lines (before after bytes other : List UInt8) :
    (ofBytes (before ++ [0x0A] ++ after)).text =
      .ofList (dropReturn (ofBytes before).text.toList) ++ "\n" ++ (ofBytes after).text ∧
    ((ofBytes (before ++ [0x0A] ++ after)).clean = true ↔
      (ofBytes before).clean = true ∧ (ofBytes after).clean = true) ∧
    (withNewlines '\n' (ofBytes bytes).text.toList =
      (withNewlines 0x0A bytes).map fun line => (ofBytes line).text.toList) ∧
    (split (ofBytes bytes).text).length = (bytes.splitOn 0x0A).length ∧
    ∀ k : Nat, (withNewlines 0x0A bytes)[k]? = (withNewlines 0x0A other)[k]? →
      (split (ofBytes bytes).text)[k]? = (split (ofBytes other).text)[k]? := by
  rw [List.append_assoc, List.singleton_append]
  refine ⟨text_append_newline before after, ?_, withNewlines_text bytes, ?_, ?_⟩
  · rw [clean_append_newline, Bool.and_eq_true]
  · rw [split_text, Line.splitOn_eq_map, List.length_map, List.length_map]
  · intro k same
    rw [split_text, split_text, List.getElem?_map, List.getElem?_map, same]

/-- One capture has a character cut off by a newline, the other one a surrogate before it. -/
theorem decoded_by_lines_undecodable :
    let before := [0x61, 0xE2, 0x82, 0x0D]
    let bytes := before ++ [0x0A] ++ [0x62, 0x0D]
    let other := [0xED, 0xA0, 0x80, 0x0A, 0x62, 0x0D]
    (ofBytes bytes).text = "a\uFFFD\nb\r" ∧ ¬ (ofBytes bytes).clean = true ∧
      (split (ofBytes other).text).length = 2 ∧
      (withNewlines 0x0A bytes)[1]? = (withNewlines 0x0A other)[1]? ∧
      (split (ofBytes bytes).text)[1]? = (split (ofBytes other).text)[1]? := by
  intro before bytes other
  obtain ⟨text, clean, -, -, same⟩ := decoded_by_lines before [0x62, 0x0D] bytes other
  obtain ⟨-, -, -, number, -⟩ := decoded_by_lines [] [] other bytes
  have last : (withNewlines 0x0A bytes)[1]? = (withNewlines 0x0A other)[1]? := by decide
  exact ⟨text.trans (by decide), mt clean.1 (by decide), number.trans (by decide), last,
    same 1 last⟩

end Decoded

end Conformance
