import Conformance.Judgement
import Conformance.Proofs.Decoding
import Conformance.Proofs.Gathering

/-!
# Newline conventions

`Line.dosNewlines` writes a text with a carriage return before each newline. A test file loses these
carriage returns when it is cut into lines, and captured output when it is decoded. Main statement:
a test file and the output of its run are judged alike under both conventions.
-/

namespace Conformance

namespace Line

/-- A carriage return is put before each newline. -/
def dosNewlines (cs : List Char) : List Char :=
  cs.flatMap fun c => if c = '\n' then ['\r', '\n'] else [c]

@[simp] theorem dosNewlines_nil : dosNewlines [] = [] := rfl

@[simp] theorem dosNewlines_newline (cs : List Char) :
    dosNewlines ('\n' :: cs) = '\r' :: '\n' :: dosNewlines cs := rfl

theorem dosNewlines_cons {c : Char} (other : c ≠ '\n') (cs : List Char) :
    dosNewlines (c :: cs) = c :: dosNewlines cs := by
  rw [dosNewlines, List.flatMap_cons, if_neg other]
  rfl

theorem dosNewlines_append (before after : List Char) :
    dosNewlines (before ++ after) = dosNewlines before ++ dosNewlines after :=
  List.flatMap_append

theorem dosNewlines_of_not_mem {line : List Char} (whole : '\n' ∉ line) :
    dosNewlines line = line := by
  induction line with
  | nil => rfl
  | cons c line ih =>
    obtain ⟨other, rest⟩ : '\n' ≠ c ∧ '\n' ∉ line := by simpa using whole
    rw [dosNewlines_cons other.symm, ih rest]

/-! ## Captured output -/

/-- A character that begins no pair is kept. -/
theorem unixNewlines_cons {c : Char} {cs : List Char}
    (single : c ≠ '\r' ∨ cs.head? ≠ some '\n') : unixNewlines (c :: cs) = c :: unixNewlines cs := by
  rw [unixNewlines]
  rintro rest rfl rfl
  simp at single

/-- A text is empty, begins with a pair of carriage return and newline, or begins with a character
    that begins no pair. -/
theorem pair_induction {motive : List Char → Prop} (nil : motive [])
    (pair : ∀ rest, motive rest → motive ('\r' :: '\n' :: rest))
    (single : ∀ c rest, c ≠ '\r' ∨ rest.head? ≠ some '\n' → motive rest → motive (c :: rest))
    (cs : List Char) : motive cs := by
  fun_induction unixNewlines cs with
  | case1 => exact nil
  | case2 rest ih => exact pair rest ih
  | case3 c rest alone ih =>
    refine single c rest ?_ ih
    by_contra both
    obtain ⟨rfl, newline⟩ := not_or.1 both |>.imp not_not.1 not_not.1
    obtain ⟨more, rfl⟩ := List.head?_eq_some_iff.1 newline
    exact alone more rfl rfl

theorem getLast?_unixNewlines (cs : List Char) : (unixNewlines cs).getLast? = cs.getLast? := by
  induction cs using pair_induction with
  | nil => rfl
  | pair rest ih =>
    rw [unixNewlines, List.getLast?_cons, ih, List.getLast?_cons_cons, List.getLast?_cons]
  | single c rest alone ih =>
    rw [unixNewlines_cons alone, List.getLast?_cons, ih, List.getLast?_cons]

theorem mem_unixNewlines {c : Char} (kept : c ≠ '\r') {cs : List Char} :
    c ∈ unixNewlines cs ↔ c ∈ cs := by
  induction cs using pair_induction with
  | nil => rfl
  | pair rest ih => simp [unixNewlines, ih, kept]
  | single d rest alone ih => simp [unixNewlines_cons alone, ih]

/-- Pairs are found on each side alone unless one lies across. -/
theorem unixNewlines_append {before after : List Char}
    (apart : before.getLast? ≠ some '\r' ∨ after.head? ≠ some '\n') :
    unixNewlines (before ++ after) = unixNewlines before ++ unixNewlines after := by
  have shorter {c : Char} {rest : List Char} (last : (c :: rest).getLast? ≠ some '\r') :
      rest.getLast? ≠ some '\r' := by
    intro returned
    rw [List.getLast?_cons, returned] at last
    exact last rfl
  induction before using pair_induction with
  | nil => rfl
  | pair rest ih =>
    have rest := ih (apart.imp_left fun last => shorter (shorter last))
    rw [List.cons_append, List.cons_append, unixNewlines, unixNewlines, rest, List.cons_append]
  | single c rest alone ih =>
    have still : c ≠ '\r' ∨ (rest ++ after).head? ≠ some '\n' := by
      cases rest with
      | nil => simpa using apart
      | cons d rest => exact alone
    have rest := ih (apart.imp_left shorter)
    rw [List.cons_append, unixNewlines_cons still, unixNewlines_cons alone, rest, List.cons_append]

/-- A newline ends what is before it, and with it a carriage return at its end. -/
theorem unixNewlines_append_newline (before after : List Char) :
    unixNewlines (before ++ '\n' :: after) =
      dropReturn (unixNewlines before) ++ '\n' :: unixNewlines after := by
  by_cases returned : before.getLast? = some '\r'
  · obtain ⟨start, rfl⟩ := List.getLast?_eq_some_iff.1 returned
    have kept : unixNewlines (start ++ ['\r']) = unixNewlines start ++ ['\r'] :=
      unixNewlines_append (.inr (by simp))
    have joined : unixNewlines (start ++ '\r' :: '\n' :: after) =
        unixNewlines start ++ '\n' :: unixNewlines after := unixNewlines_append (.inr (by simp))
    rw [kept, dropReturn_append_return, ← joined, List.append_assoc, List.singleton_append]
  · have newline : unixNewlines ('\n' :: after) = '\n' :: unixNewlines after :=
      unixNewlines_cons (.inl (by decide))
    rw [unixNewlines_append (.inl returned), newline, dropReturn, getLast?_unixNewlines,
      if_neg returned]

/-- Carriage returns of a text stay as they are: only those put before newlines are dropped. -/
theorem unixNewlines_dosNewlines (cs : List Char) : unixNewlines (dosNewlines cs) = cs := by
  have starts (cs : List Char) : (dosNewlines cs).head? ≠ some '\n' := by
    cases cs with
    | nil => simp
    | cons c cs =>
      by_cases newline : c = '\n'
      · simp [newline]
      · simpa [dosNewlines_cons newline] using newline
  induction cs with
  | nil => rfl
  | cons c cs ih =>
    by_cases newline : c = '\n'
    · rw [newline, dosNewlines_newline, unixNewlines, ih]
    · rw [dosNewlines_cons newline, unixNewlines_cons (.inr (starts cs)), ih]

/-! ## Source files -/

/-- A text in which no newline has a carriage return before it keeps its lines. -/
theorem Cut.dosNewlines {cs : List Char} {lines : List (List Char)} (cut : Cut cs lines)
    (plain : ¬ ['\r', '\n'] <:+: cs) : Cut (dosNewlines cs) lines := by
  induction cut with
  | empty => exact .empty
  | @last line more whole =>
    rw [dosNewlines_of_not_mem whole]
    exact .last more whole
  | @ended line rest lines whole _ _ ih =>
    rw [dosNewlines_append, dosNewlines_of_not_mem whole, dosNewlines_newline]
    refine .returned whole (ih fun pair => plain (pair.trans ?_))
    exact (List.suffix_cons '\n' rest).isInfix.trans (List.suffix_append line _).isInfix
  | @returned line rest lines whole _ ih =>
    exact absurd ⟨line, rest, by simp⟩ plain

/-- A text with a carriage return before each newline. -/
def dosText (text : String) : String := .ofList (dosNewlines text.toList)

end Line

open Line (dosText)

theorem Directive.parse_dosText {source : String} (plain : ¬ ['\r', '\n'] <:+: source.toList) :
    parse (dosText source) = parse source := by
  have lines := Line.cut_iff.1 ((Line.cut_physical source.toList).dosNewlines plain)
  rw [parse, parse, Line.dosText, String.toList_ofList, ← lines]

theorem Decoded.toList_text (bytes : List UInt8) :
    (ofBytes bytes).text.toList = Line.unixNewlines (Utf8.chars bytes) :=
  String.toList_ofList

/-- Output that was written with carriage returns before newlines is captured without them. -/
theorem Decoded.ofBytes_dosText (text : String) :
    Decoded.ofBytes (Utf8.encode (dosText text)) = ⟨text, true⟩ := by
  rw [Decoded.ofBytes, Utf8.chars_encode, Utf8.valid_encode, Line.dosText, String.toList_ofList,
    Line.unixNewlines_dosNewlines, String.ofList_toList]

theorem Outcome.ofBytes_dosText (stdout stderr : String) (exitCode : Int) :
    Outcome.ofBytes (Utf8.encode (dosText stdout)) (Utf8.encode (dosText stderr)) exitCode =
      { stdout, stderr, exitCode, decodeFailed := false, timedOut := none } := by
  rw [Outcome.ofBytes, Decoded.ofBytes_dosText, Decoded.ofBytes_dosText]
  rfl

/-- A test file and the output of its run can be written with either convention: the file asks for
    the same, the outcome is the same, and it is judged alike. -/
theorem judge_newlines {source : String} (plain : ¬ ['\r', '\n'] <:+: source.toList)
    (stdout stderr : String) (exitCode : Int) (kind : Kind) :
    let outcome : Outcome := { stdout, stderr, exitCode, decodeFailed := false, timedOut := none }
    let captured :=
      Outcome.ofBytes (Utf8.encode (dosText stdout)) (Utf8.encode (dosText stderr)) exitCode
    Directive.parse (dosText source) = Directive.parse source ∧ captured = outcome ∧
      ∀ e, Directive.parse source = .run e →
        ∃ asked, Directive.parse (dosText source) = .run asked ∧
          asked.judge captured kind = e.judge outcome kind := by
  intro outcome captured
  have parsed := Directive.parse_dosText plain
  have same : captured = outcome := Outcome.ofBytes_dosText stdout stderr exitCode
  refine ⟨parsed, same, fun e run => ⟨e, parsed.trans run, ?_⟩⟩
  rw [same]

/-- Carriage returns within the lines of the file, and one before a newline of the output. -/
theorem judge_newlines_returns :
    let source := "// expect: a\rb\n// expect error line 7"
    let e : Expectations := {
      output := [⟨"a\rb", 1⟩], errorLines := [2, 7], exitCode := 65, count := 3 }
    let captured := Outcome.ofBytes (Utf8.encode (dosText "a\rb\r\n"))
      (Utf8.encode (dosText "[m line 7] Error\n")) 65
    ¬ ['\r', '\n'] <:+: source.toList ∧ Directive.parse source = .run e ∧
      ∃ asked, Directive.parse (dosText source) = .run asked ∧
        asked.judge captured .test = [.outputMismatch "a\rb" 1 "a\rb\r"] := by
  intro source e captured
  have plain : ¬ ['\r', '\n'] <:+: source.toList := by decide
  have parsed : Directive.parse source = .run e := by decide
  obtain ⟨-, -, alike⟩ := judge_newlines plain "a\rb\r\n" "[m line 7] Error\n" 65 .test
  obtain ⟨asked, run, judged⟩ := alike e parsed
  exact ⟨plain, parsed, asked, run, judged.trans (by decide)⟩

end Conformance
