import Conformance.CommandLine
import Conformance.Proofs.Surveying

/-!
# What the exit code tells

The program exits with zero exactly if the root is a directory, the tree can be walked to its end,
and every selected file is fine. It exits with two exactly if the interpreter cannot be launched,
and with one in every other case. The summary agrees with the exit code.
-/

namespace Conformance

namespace Console

theorem transcript_append (console : Console) (earlier later : List Event) :
    console.transcript (earlier ++ later) =
      console.transcript earlier ++ console.transcript later := by
  rw [transcript, List.map_append, String.join_append, transcript, transcript]

/-- The start of the summary of a session in which all tests passed. -/
def allPassed (tally : Tally) (color : Bool) : String :=
  "All " ++ Color.green.paint color (toString tally.passed) ++ " tests passed"

theorem summary_eq (tally : Tally) (color : Bool) :
    ∃ rest, summary tally color = verdictLine tally color ++ rest := by
  rw [summary]
  generalize List.map _ tally.reasons.entries = lines
  cases lines with
  | nil => exact ⟨"", by simp⟩
  | cons line lines =>
    refine ⟨"\n" ++ "\n".intercalate (line :: lines), ?_⟩
    rw [String.intercalate_cons_cons, String.append_assoc]

/-- A number in a colour starts with a digit or with the escape character. -/
theorem paint_ne_append (color : Color) (enabled : Bool) (n : Nat) (before after : String) :
    color.paint enabled (toString n) ++ before ≠ "All " ++ after := by
  intro same
  have first := congrArg (·.toList.head?) same
  cases enabled with
  | true => cases color <;> simp [Color.paint, Color.code] at first
  | false =>
    have letter : (Nat.toDigits 10 n).head? = some 'A' := by simpa [Color.paint] using first
    have digit := Nat.isDigit_of_mem_toDigits (by decide) (by decide) (List.mem_of_head? letter)
    exact absurd digit (by decide)

/-- A summary starts as one of passed tests exactly if no test failed. -/
theorem summary_allPassed_iff (tally : Tally) (color : Bool) :
    (∃ rest, summary tally color = allPassed tally color ++ rest) ↔ tally.failed = 0 := by
  obtain ⟨more, summarized⟩ := summary_eq tally color
  rw [summarized, verdictLine]
  by_cases none : tally.failed = 0
  · rw [if_pos none]
    refine iff_of_true ⟨" (" ++ toString tally.expectations ++ " expectations)." ++ more, ?_⟩ none
    simp only [allPassed, ← String.toList_inj, String.toList_append, List.append_assoc]
    rfl
  · rw [if_neg none]
    refine iff_of_false ?_ none
    rintro ⟨rest, same⟩
    simp only [allPassed, String.append_assoc] at same
    exact paint_ne_append .green color tally.passed _ _ same

end Console

namespace CommandLine

variable {σ : Type}

/-- The root is a directory, the tree can be walked to its end, and all selected files are fine. -/
def Clean (settings : Settings) (disk : σ → Disk) (executor : Executor σ) (host : σ) : Prop :=
  (disk host).isDirectory settings.root ∧ ∃ survey,
    Survey.run settings disk executor host = (.ok (), survey) ∧
      ∀ m ∈ survey.met, m.Selected settings → m.Fine settings disk executor

/-- The session ends because the interpreter cannot be launched. -/
def Unlaunched (settings : Settings) (disk : σ → Disk) (executor : Executor σ) (host : σ) : Prop :=
  (disk host).isDirectory settings.root ∧ ∃ binary cause,
    (Session.run settings disk executor host).result = .error (.fault (.spawn binary cause))

variable {settings : Settings} {disk : σ → Disk} {executor : Executor σ} {host : σ}

/-- A session that ends by itself has counted a failure unless all selected files are fine. -/
theorem clean_iff_failed (root : (disk host).isDirectory settings.root) {tally : Tally}
    (ended : (Session.run settings disk executor host).result = .ok tally) :
    Clean settings disk executor host ↔ tally.failed = 0 := by
  obtain ⟨survey, -, surveyed, -, failed⟩ := Session.survey_of_ok ended
  rw [Clean, failed, List.countP_eq_zero, surveyed]
  simp [root]

theorem not_clean_of_halt {halt : Halt}
    (ended : (Session.run settings disk executor host).result = .error halt) :
    ¬ Clean settings disk executor host := by
  obtain ⟨-, survey, surveyed⟩ := Session.survey_of_halt ended
  rintro ⟨-, walked, clean, -⟩
  rw [surveyed] at clean
  cases clean

/-- A session breaks off only where a launch does. -/
theorem ne_crash (steady : ∀ launch host, (executor launch host).1 ≠ .error .crash) :
    (Session.run settings disk executor host).result ≠ .error .crash := by
  intro crashed
  obtain ⟨⟨path, cause, fault⟩ | ⟨launch, state, launched⟩, -⟩ := Session.survey_of_halt crashed
  · cases fault
  · exact steady launch state launched

/-- The exit code of a session in a directory. -/
theorem status_iff (root : (disk host).isDirectory settings.root)
    (steady : ∀ launch host, (executor launch host).1 ≠ .error .crash) :
    let code := (status (Session.run settings disk executor host).result).code
    (code = 0 ↔ Clean settings disk executor host) ∧
    (code = 2 ↔ Unlaunched settings disk executor host) ∧
    (code = 0 ∨ code = 1 ∨ code = 2) := by
  have steady := @ne_crash σ settings disk executor host steady
  rw [Unlaunched]
  cases ended : (Session.run settings disk executor host).result with
  | ok tally =>
    rw [clean_iff_failed root ended]
    by_cases none : tally.failed = 0 <;> simp [status, Tally.isSuccess, none, ExitStatus.code]
  | error halt =>
    have unclean := not_clean_of_halt ended
    cases halt with
    | crash => exact absurd ended steady
    | fault fault =>
      cases fault <;> simp [status, Fault.isLaunchFailure, ExitStatus.code, unclean, root]

/-- The text of a session that ends by itself ends in the summary. -/
theorem transcript_eq {tally : Tally} (environment : Environment)
    (ended : (Session.run settings disk executor host).result = .ok tally) :
    ∃ earlier, (console settings environment).transcript
        (Session.run settings disk executor host).events =
      earlier ++ Console.summary tally settings.color ++ "\n" := by
  obtain ⟨-, earlier, -, events, -⟩ := Session.survey_of_ok ended
  have shown : (console settings environment).transcript [.finished tally] =
      (console settings environment).clear ++ Console.summary tally settings.color ++ "\n" := by
    simp [Console.transcript, Console.display, Console.write, console]
  refine ⟨(console settings environment).transcript earlier ++
    (console settings environment).clear, ?_⟩
  rw [events, Console.transcript_append, shown]
  simp only [String.append_assoc]

/-! ## The exit code -/

/-- The exit code is zero exactly if the tree can be walked to its end and all selected files are
    fine, two exactly if the interpreter cannot be launched, and one in every other case. A summary
    says that all tests passed exactly if the exit code is zero. -/
theorem exit_code_iff {words : List String} {arguments : Arguments}
    (read : Arguments.read words = .ok arguments) (environment : Environment) (disk : σ → Disk)
    {executor : Executor σ} (steady : ∀ launch host, (executor launch host).1 ≠ .error .crash)
    (host : σ) :
    let settings := arguments.settings environment
    let result := run words environment disk executor host
    (result.status.code = 0 ↔ Clean settings disk executor host) ∧
    (result.status.code = 2 ↔ Unlaunched settings disk executor host) ∧
    (result.status.code = 1 ↔
      ¬ Clean settings disk executor host ∧ ¬ Unlaunched settings disk executor host) ∧
    ((disk host).isDirectory settings.root → ∀ tally,
      (Session.run settings disk executor host).result = .ok tally →
        (∃ earlier, result.stdout =
          earlier ++ Console.summary tally settings.color ++ "\n") ∧
        ((∃ rest, Console.summary tally settings.color =
            Console.allPassed tally settings.color ++ rest) ↔ result.status.code = 0)) := by
  intro settings result
  have same : result = runSession settings environment disk executor host := by
    dsimp only [result, run]
    rw [read]
  by_cases root : (disk host).isDirectory settings.root = true
  · rw [runSession, if_pos root] at same
    obtain ⟨clean, unlaunched, codes⟩ := status_iff root steady
    rw [same]
    refine ⟨clean, unlaunched, ?_, ?_⟩
    · rw [← clean, ← unlaunched]
      dsimp only at codes ⊢
      omega
    · intro _ tally ended
      refine ⟨transcript_eq environment ended, ?_⟩
      rw [clean, clean_iff_failed root ended]
      exact Console.summary_allPassed_iff tally settings.color
  · rw [runSession, if_neg root] at same
    rw [same]
    simp [Clean, Unlaunched, root, ExitStatus.code]

/-- A tree with files of every kind, of which the one that passes is selected, and then all. -/
theorem exit_code_iff_mixed :
    (∀ launch host, (Session.printsOne launch host).1 ≠ .error .crash) ∧
      Arguments.read ["a"] = .ok { selector := some "a" } ∧
      (run ["a"] {} (fun _ => Session.mixed) Session.printsOne ()).status.code = 0 ∧
      Arguments.read [] = .ok {} ∧
      (run [] {} (fun _ => Session.mixed) Session.printsOne ()).status.code = 1 := by
  have steady : ∀ launch host, (Session.printsOne launch host).1 ≠ .error .crash := by
    simp [Session.printsOne]
  have one : Arguments.read ["a"] = .ok { selector := some "a" } := by decide
  have all : Arguments.read [] = .ok {} := rfl
  have root : Session.mixed.isDirectory ⟨"test"⟩ = true := by
    rw [Disk.isDirectory, Session.look_mixed]
    rfl
  have codes := exit_code_iff one {} (fun _ => Session.mixed) steady ()
  have codesOfAll := exit_code_iff all {} (fun _ => Session.mixed) steady ()
  have defaults : ({} : Arguments).settings {} = {} := by decide
  have picks : ({ selector := some "a" } : Arguments).settings {} = { selector := some "a" } := by
    decide
  dsimp only at codes codesOfAll
  rw [picks] at codes
  rw [defaults] at codesOfAll
  have ended : (Session.run {} (fun _ => Session.mixed) Session.printsOne ()).result =
      .ok Session.mixedTally := by
    rw [Session.run_mixed]
  refine ⟨steady, one, codes.1.2 ?_, all, codesOfAll.2.2.1.2 ⟨?_, ?_⟩⟩
  · refine ⟨root, _, Session.survey_mixed _ rfl rfl, fun m member chosen => ?_⟩
    obtain ⟨path, among, rfl⟩ := List.mem_map.1 member
    have passing : ∀ path ∈ Session.mixedPaths,
        ({ selector := some "a" } : Settings).selects path = true → path = ⟨"test/a.wren"⟩ := by
      decide
    have selects := Encounter.selected_iff.1 chosen
    obtain rfl := passing path among selects
    have asks : Directive.parse "// expect: 1" = .run { output := [⟨"1", 1⟩], count := 1 } := by
      decide
    exact ⟨_, Session.readText_mixed.1, .inr (.inr ⟨_, { stdout := "1\n" }, asks, rfl, by decide⟩)⟩
  · exact fun clean => absurd ((clean_iff_failed root ended).1 clean) (by decide)
  · rintro ⟨-, binary, cause, unlaunched⟩
    rw [ended] at unlaunched
    cases unlaunched

end CommandLine
end Conformance
