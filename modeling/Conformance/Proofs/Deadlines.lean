import Conformance.Arguments
import Conformance.Proofs.Rendering
import Conformance.Proofs.Supervising

/-!
# Time limits that no clock can show

A number of seconds on the command line may be any that fits a word, but the moments of a clock end
earlier. Main statement: a run breaks off exactly if its deadline lies beyond the last moment of the
clock, or the end of the grace after a kill does. In the first case nothing has been done to the
program.
-/

namespace Conformance

namespace Supervision

variable {child : Child} {clock : Clock} {limit : Duration}

theorem watch_beyond (beyond : momentLimit ≤ clock.deadline limit) :
    watch child clock (some limit) = ⟨[], .error .crash⟩ := by
  rw [watch, if_neg (not_lt.2 beyond)]

theorem result_ending (acts : List Act) (limit : Option Duration) (waited : Except Cause Ending) :
    (∃ ended, (Watch.ending acts limit waited).result = .ok ended) ∨
      ∃ cause, (Watch.ending acts limit waited).result = .error (.fault (.io cause)) := by
  cases waited with
  | ok ending => exact .inl ⟨_, rfl⟩
  | error cause => exact .inr ⟨cause, rfl⟩

/-- Until a deadline that the clock can show, the program ends or a poll or a wait fails. -/
theorem result_watch {limit : Option Duration}
    (shown : ∀ d, limit = some d → clock.deadline d < momentLimit) :
    (∃ ended, (watch child clock limit).result = .ok ended) ∨
      ∃ cause, (watch child clock limit).result = .error (.fault (.io cause)) := by
  cases limit with
  | none =>
    rw [watch_none]
    exact result_ending _ _ _
  | some d =>
    obtain ⟨n, polled⟩ := @polled_watch clock child d (shown d rfl)
    cases answered : child.poll n with
    | ended ending => exact .inl ⟨_, (polled.ended answered).2⟩
    | failed cause => exact .inr ⟨cause, (polled.failed answered).2⟩
    | running =>
      rw [(polled.killed answered).2.2]
      exact result_ending _ _ _

variable {σ : Type} {binary : Path} {process : Process σ} {limit? : Option Duration}

/-- After the program has been killed, the clock cannot show how long its streams may stay open. -/
def DrainBeyond (process : Process σ) (limit? : Option Duration) : Prop :=
  let w := watch process.child process.clock limit?
  ∃ ending d, w.result = .ok (ending, some d) ∧
    momentLimit ≤ process.clock.afterKill (polls w.acts - 1) + drainGrace

theorem run_of_drainBeyond (beyond : DrainBeyond process limit?) :
    (run binary process limit?).answer = .error .crash := by
  obtain ⟨ending, d, result, late⟩ := beyond
  rw [run_of_killed result, if_neg (not_lt.2 late)]

/-- A program is killed after no more polls than sleeps fit into the limit. -/
theorem not_drainBeyond (shown : process.clock.deadline limit < momentLimit)
    (early : ∀ n ≤ limit.toNanos ⌈/⌉ pollInterval,
      process.clock.afterKill n + drainGrace < momentLimit) :
    ¬ DrainBeyond process (some limit) := by
  rintro ⟨ending, d, -, late⟩
  obtain ⟨n, polled⟩ := @polled_watch process.clock process.child limit shown
  exact absurd late (not_le.2 (early _ (Nat.sub_le_of_le_add polled.polls_le)))

/-- What a run comes to if the clock can show all that it has to. -/
theorem run_cases (shown : ∀ d, limit? = some d → process.clock.deadline d < momentLimit)
    (drains : ¬ DrainBeyond process limit?) :
    let answer := (run binary process limit?).answer
    (∃ outcome, answer = .ok outcome) ∨ (∃ cause, answer = .error (.fault (.io cause))) ∨
      ∃ cause, answer = .error (.fault (.capture binary cause)) := by
  intro answer
  obtain ⟨⟨ending, timedOut⟩, result⟩ | ⟨cause, result⟩ :=
    @result_watch process.child process.clock limit? shown
  · have answered : Answered binary process _ ending timedOut answer := answered_run result
    clear_value answer
    cases answered with
    | outcome => exact .inl ⟨_, rfl⟩
    | unread => exact .inr (.inr ⟨_, rfl⟩)
    | beyond killed late =>
      obtain ⟨d, rfl⟩ := Option.ne_none_iff_exists'.1 killed
      exact absurd ⟨ending, d, result, late⟩ drains
  · exact .inr (.inl ⟨cause, run_of_error result⟩)

theorem run_crash_iff : (run binary process limit?).answer = .error .crash ↔
    (∃ d, limit? = some d ∧ momentLimit ≤ process.clock.deadline d) ∨
      DrainBeyond process limit? := by
  constructor
  · intro crashed
    by_contra none
    obtain ⟨shown, drains⟩ := not_or.1 none
    have shown : ∀ d, limit? = some d → process.clock.deadline d < momentLimit :=
      fun d within => not_le.1 fun beyond => shown ⟨d, within, beyond⟩
    obtain ⟨_, other⟩ | ⟨_, other⟩ | ⟨_, other⟩ := @run_cases σ binary process limit? shown drains
    all_goals cases other.symm.trans crashed
  · rintro (⟨d, rfl, beyond⟩ | beyond)
    · exact run_of_error (congrArg Watch.result (watch_beyond beyond))
    · exact run_of_drainBeyond beyond

end Supervision

namespace Arguments

theorem Opt.equals_not_mem (opt : Opt) : '=' ∉ opt.name.toList := by
  cases opt <;> decide

theorem Opt.find?_name (opt : Opt) : Opt.all.find? (·.name == opt.name) = some opt := by
  cases opt <;> decide

namespace Reading

/-- An option that is written with its value is taken over at once. -/
theorem long_option (r : Reading) (opt : Opt) (value : String) :
    r.long (opt.name.toList ++ '=' :: value.toList) =
      r.settle >>= fun r => r.take opt (some value) := by
  have name : ∀ c ∈ opt.name.toList, decide (c ≠ '=') = true := fun c member =>
    decide_eq_true fun same => opt.equals_not_mem (same ▸ member)
  unfold long
  rw [List.takeWhile_append_of_pos name, List.dropWhile_append_of_pos name,
    List.takeWhile_cons_of_neg (by simp), List.dropWhile_cons_of_neg (by simp), List.append_nil,
    String.ofList_toList]
  dsimp only
  rw [opt.find?_name, String.ofList_toList]

theorem word_option {r : Reading} (more : r.literal = false) (opt : Opt) {word value : String}
    (written : word.toList = '-' :: '-' :: (opt.name.toList ++ '=' :: value.toList)) :
    r.word word = r.settle >>= fun r => r.take opt (some value) := by
  unfold Reading.word
  rw [if_neg (by simp [more]), written, ← r.long_option]
  cases opt <;> rfl

end Reading

theorem seconds?_toString {n : Nat} (fits : n < Numeral.wordLimit) :
    seconds? (toString n) = some n := by
  have value : Numeral.word? (Nat.toDigits 10 n) = some n := by
    rw [Numeral.word?_eq_number? Nat.toDigits_ne_nil]
    exact Numeral.number?_toDigits fits
  have digits : ∀ c ∈ Nat.toDigits 10 n, c.isDigit = true := fun c => Numeral.ascii_of_mem_toDigits
  rw [seconds?, Numeral.toList_toString]
  split
  · next rest signed =>
    rw [signed] at digits
    exact absurd (digits '+' List.mem_cons_self) (by decide)
  · exact value

/-- Every number of seconds that fits a word is accepted. -/
theorem read_timeout {seconds : Nat} (fits : seconds < Numeral.wordLimit) :
    read ["--timeout=" ++ toString seconds] = .ok { timeout := some seconds } := by
  have written : ("--timeout=" ++ toString seconds).toList =
      '-' :: '-' :: (Opt.timeout.name.toList ++ '=' :: (toString seconds).toList) :=
    String.toList_append
  have word := @Reading.word_option {} rfl .timeout _ _ written
  rw [read, List.foldlM_cons, word]
  simp only [Reading.take, store, seconds?_toString fits]
  rfl

theorem timeout_settings (a : Arguments) (environment : Environment) :
    (a.settings environment).timeout = a.timeout.map Duration.ofSecs := rfl

end Arguments

/-! ## Time limits on the command line -/

namespace Supervision

theorem deadline_ofSecs (clock : Clock) (seconds : Nat) :
    clock.deadline (.ofSecs seconds) = clock.start + seconds * Duration.nanosPerSecond := by
  rw [Clock.deadline, Duration.toNanos, Duration.ofSecs, Nat.add_zero]

/-- The command line accepts each number of seconds that fits a word. A run within such a limit
    breaks off exactly if the clock cannot show the moment that lies the limit after its start, or
    the one that lies some grace after a kill. In the first case the program has not been polled,
    killed or waited for. Otherwise the run has an outcome, or polling and waiting or reading the
    output has failed. -/
theorem timeout_crash_iff {σ : Type} {seconds : Nat} (fits : seconds < Numeral.wordLimit)
    (environment : Environment) (binary : Path) (process : Process σ) :
    let arguments : Arguments := { timeout := some seconds }
    let limit := (arguments.settings environment).timeout
    let answer := (run binary process limit).answer
    let Beyond := momentLimit ≤ process.clock.start + seconds * Duration.nanosPerSecond
    Arguments.read ["--timeout=" ++ toString seconds] = .ok arguments ∧
      (answer = .error .crash ↔ Beyond ∨ DrainBeyond process limit) ∧
      (Beyond → reap (watch process.child process.clock limit) = ⟨[], .error .crash⟩ ∧
        (run binary process limit).acts = []) ∧
      (answer ≠ .error .crash → (∃ outcome, answer = .ok outcome) ∨
        (∃ cause, answer = .error (.fault (.io cause))) ∨
          ∃ cause, answer = .error (.fault (.capture binary cause))) := by
  intro arguments limit answer Beyond
  have within : limit = some (.ofSecs seconds) := Arguments.timeout_settings arguments environment
  have beyond_iff : (∃ d, limit = some d ∧ momentLimit ≤ process.clock.deadline d) ↔ Beyond := by
    rw [within]
    simp only [Option.some.injEq, exists_eq_left', deadline_ofSecs]
    rfl
  have crash_iff : answer = .error .crash ↔ Beyond ∨ DrainBeyond process limit :=
    run_crash_iff.trans (or_congr_left beyond_iff)
  refine ⟨Arguments.read_timeout fits, crash_iff, fun beyond => ?_, fun whole => ?_⟩
  · obtain ⟨d, limited, late⟩ := beyond_iff.2 beyond
    rw [limited, acts_run, watch_beyond late]
    exact ⟨rfl, rfl⟩
  · obtain ⟨shown, drains⟩ := not_or.1 (mt crash_iff.2 whole)
    exact run_cases (fun d limited => not_le.1 fun late => shown (beyond_iff.1 ⟨d, limited, late⟩))
      drains

/-- An hour is far from the end of a clock. -/
theorem timeout_crash_iff_hour :
    let arguments : Arguments := { timeout := some 3600 }
    3600 < Numeral.wordLimit ∧ Arguments.read ["--timeout=3600"] = .ok arguments ∧
      (run ⟨"wren"⟩ sleeper (arguments.settings {}).timeout).answer ≠ .error .crash := by
  intro arguments
  have fits : 3600 < Numeral.wordLimit := by decide
  have shown : sleeper.clock.deadline (.ofSecs 3600) < momentLimit := by decide
  have sleeps : (Duration.ofSecs 3600).toNanos ⌈/⌉ pollInterval = 360000 := by decide
  have drains : ¬ DrainBeyond sleeper (some (.ofSecs 3600)) := by
    refine not_drainBeyond shown fun n few => ?_
    have reading : sleeper.clock.afterKill n = pollInterval * n := rfl
    rw [sleeps] at few
    rw [reading, pollInterval, drainGrace, momentLimit, Duration.nanosPerSecond]
    omega
  obtain ⟨accepted, crash_iff, -⟩ := timeout_crash_iff fits {} ⟨"wren"⟩ sleeper
  refine ⟨fits, accepted, fun crashed => ?_⟩
  obtain beyond | beyond := crash_iff.1 crashed
  · rw [← deadline_ofSecs] at beyond
    exact absurd beyond (not_le.2 shown)
  · rw [Arguments.timeout_settings] at beyond
    exact drains beyond

/-- The greatest number of seconds is accepted, but no run comes to an outcome or a fault within
    it. -/
theorem run_crash_greatest :
    let arguments : Arguments := { timeout := some 18446744073709551615 }
    Arguments.read ["--timeout=18446744073709551615"] = .ok arguments ∧
      (run ⟨"wren"⟩ sleeper (arguments.settings {}).timeout).answer = .error .crash := by
  intro arguments
  have fits : 18446744073709551615 < Numeral.wordLimit := by decide
  have late : momentLimit ≤ sleeper.clock.deadline (.ofSecs 18446744073709551615) := by decide
  have written : "--timeout=18446744073709551615" =
      "--timeout=" ++ toString 18446744073709551615 := by decide
  rw [written, Arguments.timeout_settings]
  exact ⟨Arguments.read_timeout fits, run_crash_iff.2 (.inl ⟨_, rfl, late⟩)⟩

end Supervision
end Conformance
