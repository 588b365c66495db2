import Conformance.Line
import Mathlib.Data.List.Basic
import Mathlib.Data.List.TakeWhile

/-!
# Lines of a text

`Cut` says what the lines of a source file are, newline by newline, and `cut_iff` that these are
the physical lines. Captured output is cut at every newline; `output_eq_iff` says which texts show
some given lines.
-/

namespace Conformance.Line

/-! ## Segments -/

theorem segments_of_not_mem {cs : List Char} (whole : '\n' ∉ cs) : segments cs = [cs] :=
  List.splitOn_eq_singleton whole

theorem segments_append {line : List Char} (whole : '\n' ∉ line) (rest : List Char) :
    segments (line ++ '\n' :: rest) = line :: segments rest :=
  List.splitOn_append_cons_self_of_not_mem whole rest

theorem segments_ne_nil (cs : List Char) : segments cs ≠ [] :=
  List.splitOn_ne_nil '\n' cs

/-- A list is without `x`, or is a part without it, `x`, and a shorter list behind that. -/
theorem cut_induction {α : Type} (x : α) {motive : List α → Prop}
    (last : ∀ part, x ∉ part → motive part)
    (ended : ∀ part rest, x ∉ part → motive rest → motive (part ++ x :: rest))
    (xs : List α) : motive xs := by
  by_cases broken : x ∈ xs
  · obtain ⟨part, rest, cut, whole⟩ := List.eq_append_cons_of_mem broken
    rw [cut]
    exact ended part rest whole (cut_induction x last ended rest)
  · exact last xs broken
termination_by xs.length
decreasing_by
  rw [cut]
  simp only [List.length_append, List.length_cons]
  omega

/-- A text is one segment, or a segment with a newline and a shorter text after it. -/
theorem segment_induction {motive : List Char → Prop}
    (last : ∀ line, '\n' ∉ line → motive line)
    (ended : ∀ line rest, '\n' ∉ line → motive rest → motive (line ++ '\n' :: rest))
    (cs : List Char) : motive cs :=
  cut_induction '\n' last ended cs

/-- No piece of a text holds the character at which the text is cut. -/
theorem not_mem_of_mem_splitOn {c : Char} {cs part : List Char} (member : part ∈ cs.splitOn c) :
    c ∉ part := by
  induction cs using cut_induction c with
  | last first whole =>
    rw [List.splitOn_eq_singleton whole, List.mem_singleton] at member
    exact member ▸ whole
  | ended first rest whole ih =>
    rw [List.splitOn_append_cons_self_of_not_mem whole] at member
    rcases List.mem_cons.1 member with rfl | later
    · exact whole
    · exact ih later

theorem not_mem_of_mem_segments {cs line : List Char} (member : line ∈ segments cs) :
    '\n' ∉ line :=
  not_mem_of_mem_splitOn member

/-- Segments joined by newlines give the text back, and no other ones do. -/
theorem segments_eq_iff {cs : List Char} {lines : List (List Char)} :
    segments cs = lines ↔
      lines ≠ [] ∧ (∀ line ∈ lines, '\n' ∉ line) ∧ ['\n'].intercalate lines = cs := by
  constructor
  · rintro rfl
    exact ⟨segments_ne_nil cs, fun line => not_mem_of_mem_segments, List.intercalate_splitOn '\n'⟩
  · rintro ⟨more, whole, rfl⟩
    exact List.splitOn_intercalate '\n' whole more

/-- The first segment ends before the first newline. -/
theorem head?_segments (cs : List Char) : (segments cs).head? = some (cs.takeWhile (· ≠ '\n')) := by
  by_cases broken : '\n' ∈ cs
  · obtain ⟨line, rest, rfl, whole⟩ := List.eq_append_cons_of_mem broken
    have kept : ∀ c ∈ line, decide (c ≠ '\n') = true := by
      intro c member
      simpa using fun same : c = '\n' => whole (same ▸ member)
    rw [segments_append whole, List.head?_cons, List.takeWhile_append_of_pos kept]
    simp
  · have kept : cs.takeWhile (· ≠ '\n') = cs := by
      refine List.takeWhile_eq_self_iff.2 fun c member => ?_
      simpa using fun same : c = '\n' => broken (same ▸ member)
    rw [segments_of_not_mem broken, List.head?_cons, kept]

/-! ## Physical lines -/

/-- The lines that a source text is cut into. A line ends at a newline and loses one carriage
    return before it; the text after the last newline is a line if it is not empty. -/
inductive Cut : List Char → List (List Char) → Prop
  | empty : Cut [] []
  | last {line} : line ≠ [] → '\n' ∉ line → Cut line [line]
  | ended {line rest lines} : '\n' ∉ line → line.getLast? ≠ some '\r' → Cut rest lines →
      Cut (line ++ '\n' :: rest) (line :: lines)
  | returned {line rest lines} : '\n' ∉ line → Cut rest lines →
      Cut (line ++ '\r' :: '\n' :: rest) (line :: lines)

theorem physical_of_not_mem {line : List Char} (whole : '\n' ∉ line) :
    physical line = if line = [] then [] else [line] := by
  rw [physical, segments_of_not_mem whole, ofSegments]

theorem physical_append {line : List Char} (whole : '\n' ∉ line) (rest : List Char) :
    physical (line ++ '\n' :: rest) = dropReturn line :: physical rest := by
  rw [physical, segments_append whole, physical]
  cases more : segments rest with
  | nil => exact absurd more (segments_ne_nil rest)
  | cons segment segments => rfl

theorem dropReturn_append_return (line : List Char) : dropReturn (line ++ ['\r']) = line := by
  simp [dropReturn]

theorem mem_of_mem_dropReturn {line : List Char} {c : Char} (member : c ∈ dropReturn line) :
    c ∈ line := by
  rw [dropReturn] at member
  split_ifs at member
  · exact List.dropLast_subset line member
  · exact member

/-- The physical lines of a text are those that it is cut into. -/
theorem cut_physical (cs : List Char) : Cut cs (physical cs) := by
  induction cs using segment_induction with
  | last line whole =>
    rw [physical_of_not_mem whole]
    by_cases empty : line = []
    · rw [if_pos empty, empty]
      exact .empty
    · rw [if_neg empty]
      exact .last empty whole
  | ended line rest whole ih =>
    rw [physical_append whole]
    by_cases returned : line.getLast? = some '\r'
    · obtain ⟨start, rfl⟩ := List.getLast?_eq_some_iff.1 returned
      rw [dropReturn_append_return, List.append_assoc]
      exact .returned (fun member => whole (List.mem_append_left _ member)) ih
    · rw [dropReturn, if_neg returned]
      exact .ended whole returned ih

theorem cut_iff {cs : List Char} {lines : List (List Char)} :
    Cut cs lines ↔ lines = physical cs := by
  constructor
  · intro cut
    induction cut with
    | empty => rfl
    | @last line more whole => rw [physical_of_not_mem whole, if_neg more]
    | @ended line rest lines whole plain _ ih =>
      rw [physical_append whole, dropReturn, if_neg plain, ih]
    | @returned line rest lines whole _ ih =>
      have cut : line ++ '\r' :: '\n' :: rest = (line ++ ['\r']) ++ '\n' :: rest := by simp
      rw [cut, physical_append (by simp [whole]), dropReturn_append_return, ih]
  · rintro rfl
    exact cut_physical cs

theorem Cut.whole {cs : List Char} {lines : List (List Char)} (cut : Cut cs lines) :
    ∀ line ∈ lines, '\n' ∉ line := by
  induction cut with
  | empty => simp
  | last _ whole => simpa using whole
  | ended whole _ _ ih => simpa using And.intro whole ih
  | returned whole _ ih => simpa using And.intro whole ih

/-! ## Captured output -/

/-- Texts as lines, each ended by a newline. -/
def terminated (texts : List String) : String := String.join (texts.map (· ++ "\n"))

theorem toList_terminated (texts : List String) :
    (terminated texts).toList = ['\n'].intercalate (texts.map String.toList ++ [[]]) := by
  rw [terminated, String.toList_join]
  induction texts with
  | nil => rfl
  | cons text texts ih =>
    rw [List.map_cons, List.flatMap_cons, ih, List.map_cons, List.cons_append,
      List.intercalate_cons_of_ne_nil (by simp)]
    simp

/-- The last line of some texts that are joined by newlines has none of its own. -/
theorem intercalate_append_newline {texts : List String} (more : texts ≠ []) :
    ['\n'].intercalate (texts.map String.toList) ++ ['\n'] = (terminated texts).toList := by
  rw [toList_terminated]
  induction texts with
  | nil => exact absurd rfl more
  | cons text texts ih =>
    by_cases only : texts = []
    · subst only
      simp [List.intercalate_cons_of_ne_nil]
    · have others : texts.map String.toList ≠ [] := by simpa using only
      rw [List.map_cons, List.cons_append, List.intercalate_cons_of_ne_nil others,
        List.intercalate_cons_of_ne_nil (by simp), ← ih only]
      simp

theorem split_eq_iff {text : String} {texts : List String} :
    split text = texts ↔ segments text.toList = texts.map String.toList := by
  constructor
  · rintro rfl
    simp [split]
  · intro same
    simp [split, same]

theorem not_mem_of_mem_split {text line : String} (member : line ∈ split text) :
    '\n' ∉ line.toList := by
  obtain ⟨segment, cut, rfl⟩ := List.mem_map.1 member
  rw [String.toList_ofList]
  exact not_mem_of_mem_segments cut

theorem split_eq_terminated_iff {text : String} {texts : List String}
    (whole : ∀ line ∈ texts, '\n' ∉ line.toList) :
    split text = texts ++ [""] ↔ text = terminated texts := by
  rw [split_eq_iff, segments_eq_iff, ← String.toList_inj, toList_terminated]
  have parts : (texts ++ [""]).map String.toList = texts.map String.toList ++ [[]] := by simp
  rw [parts]
  constructor
  · rintro ⟨-, -, joined⟩
    exact joined.symm
  · intro joined
    refine ⟨by simp, ?_, joined.symm⟩
    intro line member
    simp only [List.mem_append, List.mem_map, List.mem_singleton] at member
    rcases member with ⟨line, member, rfl⟩ | rfl
    · exact whole line member
    · simp

theorem split_eq_unterminated_iff {text : String} {texts : List String}
    (whole : ∀ line ∈ texts, '\n' ∉ line.toList) :
    split text = texts ↔ texts ≠ [] ∧ text ++ "\n" = terminated texts := by
  rw [split_eq_iff, segments_eq_iff, ← String.toList_inj, String.toList_append]
  constructor
  · rintro ⟨more, -, joined⟩
    have more : texts ≠ [] := by simpa using more
    exact ⟨more, by rw [← joined, ← intercalate_append_newline more]; rfl⟩
  · rintro ⟨more, ended⟩
    refine ⟨by simpa using more, ?_, ?_⟩
    · intro _ member
      obtain ⟨line, listed, rfl⟩ := List.mem_map.1 member
      exact whole line listed
    · rw [← intercalate_append_newline more] at ended
      exact (List.append_cancel_right ended).symm

/-- Without one final piece of a kind. -/
theorem dropFinal_eq_iff {α : Type} [DecidableEq α] {xs ys : List α} {x : α} :
    (if xs.getLast? = some x then xs.dropLast else xs) = ys ↔
      xs = ys ++ [x] ∨ (xs = ys ∧ ys.getLast? ≠ some x) := by
  by_cases final : xs.getLast? = some x
  · obtain ⟨start, rfl⟩ := List.getLast?_eq_some_iff.1 final
    rw [if_pos final, List.dropLast_concat]
    constructor
    · rintro rfl
      exact .inl rfl
    · rintro (same | ⟨rfl, other⟩)
      · exact List.append_cancel_right same
      · exact absurd final other
  · rw [if_neg final]
    constructor
    · rintro rfl
      exact .inr ⟨rfl, final⟩
    · rintro (rfl | ⟨same, -⟩)
      · exact absurd List.getLast?_concat final
      · exact same

/-- The texts that show some given lines: each line has its newline, but the last one may lack it
    if it is not empty. -/
theorem output_eq_iff {text : String} {texts : List String}
    (whole : ∀ line ∈ texts, '\n' ∉ line.toList) :
    output text = texts ↔ text = terminated texts ∨
      ∃ last, texts.getLast? = some last ∧ last ≠ "" ∧ text ++ "\n" = terminated texts := by
  rw [output, dropFinal_eq_iff, split_eq_terminated_iff whole, split_eq_unterminated_iff whole]
  refine or_congr Iff.rfl ?_
  constructor
  · rintro ⟨⟨more, ended⟩, full⟩
    obtain ⟨last, final⟩ := Option.isSome_iff_exists.1 (List.getLast?_isSome.2 more)
    exact ⟨last, final, fun empty => full (by rw [final, empty]), ended⟩
  · rintro ⟨last, final, full, ended⟩
    have more : texts ≠ [] := by
      rintro rfl
      cases final
    refine ⟨⟨more, ended⟩, ?_⟩
    rw [final]
    simpa using full

end Conformance.Line
