import Conformance.Supervision
import Mathlib.Algebra.Order.Floor.Div
import Mathlib.Order.Nat
import Mathlib.Tactic.SplitIfs

/-!
# How long a program is supervised

Polling goes in rounds of a poll and a sleep, up to a last poll: `Polled` says which poll that is
and what is done then. Main statement: within a limit there are no more polls than sleeps fit into
it and one, a program that a poll finds ended is left alone, one that runs past the limit is killed
and waited for once, and no program is left behind that has not been waited for.
-/

namespace Conformance.Supervision

/-! ## Clocks -/

/-- The clock reads this moment, or a later one, for the first time after the poll of this
    number. -/
structure FirstLate (clock : Clock) (deadline n : Nat) : Prop where
  late : deadline ≤ clock.reading n
  early : ∀ m < n, clock.reading m < deadline

variable {clock : Clock} {deadline n : Nat}

theorem Clock.start_add_le (clock : Clock) (n : Nat) :
    clock.start + pollInterval * n ≤ clock.reading n := by
  induction n with
  | zero => exact clock.start_le 0
  | succ n ih =>
    have := clock.advances n
    rw [Nat.mul_succ]
    omega

/-- A clock that goes on passes every moment. -/
theorem exists_firstLate (clock : Clock) (deadline : Nat) : ∃ n, FirstLate clock deadline n := by
  have passed : ∃ n, deadline ≤ clock.reading n := by
    refine ⟨deadline, ?_⟩
    have := clock.start_add_le deadline
    have : deadline ≤ pollInterval * deadline := Nat.le_mul_of_pos_left _ (by decide)
    omega
  exact ⟨Nat.find passed, Nat.find_spec passed,
    fun m before => not_le.1 (Nat.find_min passed before)⟩

/-- As long as the clock has not come to a deadline, only so many sleeps have gone by. -/
theorem le_ceilDiv_of_early {limit : Nat}
    (early : ∀ m < n, clock.reading m < clock.start + limit) : n ≤ limit ⌈/⌉ pollInterval := by
  cases n with
  | zero => exact Nat.zero_le _
  | succ n =>
    have before := early n (Nat.lt_succ_self n)
    have := clock.start_add_le n
    by_contra more
    have few : limit ⌈/⌉ pollInterval ≤ n := by omega
    have := (ceilDiv_le_iff_le_mul (by decide)).1 few
    omega

/-! ## Polling -/

/-- Polls that find the program running, each with a sleep after it. -/
def rounds (n : Nat) : List Act := (List.replicate n [Act.poll, Act.sleep]).flatten

theorem rounds_succ (n : Nat) : rounds (n + 1) = rounds n ++ [.poll, .sleep] := by
  simp [rounds, List.replicate_succ', List.flatten_append]

theorem polls_rounds (n : Nat) : polls (rounds n) = n := by
  simp [polls, rounds, List.count_flatten]

theorem not_mem_rounds {act : Act} (poll : act ≠ .poll) (sleep : act ≠ .sleep) (n : Nat) :
    act ∉ rounds n := by
  simp [rounds, poll, sleep]

variable {child : Child} {limit : Duration} {w : Watch}

/-- What is done from the last poll on. -/
inductive Final (child : Child) (clock : Clock) (limit : Duration) (deadline n : Nat) : Watch → Prop
  | ended {ending : Ending} (answered : child.poll n = .ended ending) :
      Final child clock limit deadline n ⟨[.poll], .ok (ending, none)⟩
  | failed {cause : Cause} (answered : child.poll n = .failed cause) :
      Final child clock limit deadline n ⟨[.poll], .error (.fault (.io cause))⟩
  | killed (answered : child.poll n = .running) (late : deadline ≤ clock.reading n) :
      Final child clock limit deadline n
        (Watch.ending [.poll, .kill, .wait] (some limit) child.waitKilled)

/-- The poll of this number is the last one, and before it there was time to go on. -/
structure Polled (child : Child) (clock : Clock) (limit : Duration) (deadline n : Nat) (w : Watch) :
    Prop where
  running : ∀ m < n, child.poll m = .running
  early : ∀ m < n, clock.reading m < deadline
  final : ∃ last, Final child clock limit deadline n last ∧
    w.acts = rounds n ++ last.acts ∧ w.result = last.result

theorem polled_watchFrom (running : ∀ m < n, child.poll m = .running)
    (early : ∀ m < n, clock.reading m < deadline)
    (acts : w.acts = rounds n ++ (watchFrom child clock limit deadline n).acts)
    (result : w.result = (watchFrom child clock limit deadline n).result) :
    ∃ last, Polled child clock limit deadline last w := by
  induction n using watchFrom.induct child clock deadline with
  | case1 n ending answered =>
    rw [watchFrom, answered] at acts result
    exact ⟨n, running, early, _, .ended answered, acts, result⟩
  | case2 n cause answered =>
    rw [watchFrom, answered] at acts result
    exact ⟨n, running, early, _, .failed answered, acts, result⟩
  | case3 n answered late =>
    rw [watchFrom, answered] at acts result
    dsimp only at acts result
    rw [if_pos late] at acts result
    exact ⟨n, running, early, _, .killed answered late, acts, result⟩
  | case4 n answered late ih =>
    rw [watchFrom, answered] at acts result
    dsimp only at acts result
    rw [if_neg late] at acts result
    have further : w.acts =
        rounds (n + 1) ++ (watchFrom child clock limit deadline (n + 1)).acts := by
      rw [rounds_succ, List.append_assoc]
      exact acts
    exact ih (fun m before => (Nat.lt_succ_iff_lt_or_eq.1 before).elim (running m) (· ▸ answered))
      (fun m before => (Nat.lt_succ_iff_lt_or_eq.1 before).elim (early m) (· ▸ not_le.1 late))
      further result

/-- Within a limit, a program is polled up to a last poll. -/
theorem polled_watch (shown : clock.deadline limit < momentLimit) :
    ∃ last, Polled child clock limit (clock.deadline limit) last
      (watch child clock (some limit)) := by
  rw [watch, if_pos shown]
  exact polled_watchFrom (by simp) (by simp) (List.nil_append _).symm rfl

/-! ## The last poll -/

namespace Polled

variable {last : Nat}

theorem polls_eq (polled : Polled child clock limit deadline n w) : polls w.acts = n + 1 := by
  obtain ⟨last, final, acts, -⟩ := polled.final
  have one : polls last.acts = 1 := by
    cases final with
    | ended | failed => rfl
    | killed => cases child.waitKilled <;> rfl
  rw [acts, polls, List.count_append, ← polls, ← polls, polls_rounds, one]

theorem le_last (polled : Polled child clock limit deadline n w)
    (first : FirstLate clock deadline last) : n ≤ last := by
  by_contra more
  have := polled.early last (not_le.1 more)
  have := first.late
  omega

/-- A poll that finds the program ended is the last one, and settles the matter. -/
theorem ended (polled : Polled child clock limit deadline n w) {ending : Ending}
    (answered : child.poll n = .ended ending) :
    w.acts = rounds n ++ [.poll] ∧ w.result = .ok (ending, none) := by
  obtain ⟨last, final, acts, result⟩ := polled.final
  cases final with
  | ended other =>
    obtain rfl := Poll.ended.inj (other.symm.trans answered)
    exact ⟨acts, result⟩
  | failed other => cases other.symm.trans answered
  | killed other late => cases other.symm.trans answered

theorem failed (polled : Polled child clock limit deadline n w) {cause : Cause}
    (answered : child.poll n = .failed cause) :
    w.acts = rounds n ++ [.poll] ∧ w.result = .error (.fault (.io cause)) := by
  obtain ⟨last, final, acts, result⟩ := polled.final
  cases final with
  | ended other => cases other.symm.trans answered
  | failed other =>
    obtain rfl := Poll.failed.inj (other.symm.trans answered)
    exact ⟨acts, result⟩
  | killed other late => cases other.symm.trans answered

/-- A program that the last poll finds running is killed and waited for. -/
theorem killed (polled : Polled child clock limit deadline n w)
    (answered : child.poll n = .running) :
    deadline ≤ clock.reading n ∧ w.acts = rounds n ++ [.poll, .kill, .wait] ∧
      w.result = (Watch.ending [] (some limit) child.waitKilled).result := by
  obtain ⟨last, final, acts, result⟩ := polled.final
  cases final with
  | ended other => cases other.symm.trans answered
  | failed other => cases other.symm.trans answered
  | killed other late =>
    refine ⟨late, ?_, ?_⟩
    · rw [acts]
      cases child.waitKilled <;> rfl
    · rw [result]
      cases child.waitKilled <;> rfl

/-- There are no more polls than sleeps fit into the limit, and one. -/
theorem polls_le (polled : Polled child clock limit (clock.deadline limit) n w) :
    polls w.acts ≤ limit.toNanos ⌈/⌉ pollInterval + 1 := by
  rw [polled.polls_eq]
  exact Nat.succ_le_succ (le_ceilDiv_of_early polled.early)

/-- The program is left alone exactly if some poll finds it ended. -/
theorem result_iff (polled : Polled child clock limit deadline n w)
    (first : FirstLate clock deadline last) (ending : Ending) :
    w.result = .ok (ending, none) ∧ .kill ∉ w.acts ↔
      ∃ m ≤ last, m < polls w.acts ∧ child.poll m = .ended ending := by
  rw [polled.polls_eq]
  constructor
  · rintro ⟨result, alive⟩
    refine ⟨n, polled.le_last first, Nat.lt_succ_self n, ?_⟩
    cases answered : child.poll n with
    | ended other =>
      have same := (polled.ended answered).2.symm.trans result
      obtain rfl := congrArg Prod.fst (Except.ok.inj same)
      rfl
    | failed cause => cases (polled.failed answered).2.symm.trans result
    | running =>
      obtain ⟨-, acts, -⟩ := polled.killed answered
      exact absurd (by simp [acts]) alive
  · rintro ⟨m, -, made, answered⟩
    -- All polls before the last one find the program running.
    obtain rfl : m = n := by
      by_contra other
      cases (polled.running m (by omega)).symm.trans answered
    obtain ⟨acts, result⟩ := polled.ended answered
    exact ⟨result, by simp [acts, not_mem_rounds]⟩

/-- A poll is made if all polls before it find the program running, and there is time for it. -/
theorem lt_polls_iff (polled : Polled child clock limit deadline n w)
    (first : FirstLate clock deadline last) (m : Nat) :
    m < polls w.acts ↔ m ≤ last ∧ ∀ k < m, child.poll k = .running := by
  have before := polled.le_last first
  rw [polled.polls_eq, Nat.lt_succ_iff]
  constructor
  · intro made
    exact ⟨by omega, fun k earlier => polled.running k (by omega)⟩
  · rintro ⟨inTime, running⟩
    by_contra more
    obtain ⟨late, -, -⟩ := polled.killed (running n (not_le.1 more))
    have := first.early n (by omega)
    omega

/-- The program is killed exactly if no poll finds it ended, and none fails. -/
theorem kill_mem_iff (polled : Polled child clock limit deadline n w) :
    .kill ∈ w.acts ↔ ∀ m < polls w.acts, child.poll m = .running := by
  rw [polled.polls_eq]
  constructor
  · intro kill m made
    rcases Nat.lt_succ_iff_lt_or_eq.1 made with earlier | rfl
    · exact polled.running m earlier
    · cases answered : child.poll m with
      | running => rfl
      | ended ending => simp [(polled.ended answered).1, not_mem_rounds] at kill
      | failed cause => simp [(polled.failed answered).1, not_mem_rounds] at kill
  · intro running
    obtain ⟨-, acts, -⟩ := polled.killed (running n (Nat.lt_succ_self n))
    simp [acts]

/-- The kill comes after the first late reading of the clock. -/
theorem acts_of_kill (polled : Polled child clock limit deadline n w)
    (first : FirstLate clock deadline last) (kill : .kill ∈ w.acts) :
    w.acts = rounds last ++ [.poll, .kill, .wait] ∧
      ∀ ending, child.waitKilled = .ok ending → w.result = .ok (ending, some limit) := by
  have running := polled.kill_mem_iff.1 kill n (polled.polls_eq ▸ Nat.lt_succ_self n)
  obtain ⟨late, acts, result⟩ := polled.killed running
  obtain rfl : n = last := by
    by_contra other
    have := polled.le_last first
    have := first.early n (by omega)
    omega
  refine ⟨acts, fun ending waited => ?_⟩
  rw [result, waited]
  rfl

end Polled

/-! ## Waiting for the program -/

/-- The program has been waited for: a poll or a wait has told how it ended, or a wait was the last
    thing tried after a kill. -/
inductive Awaited (child : Child) (acts : List Act) : Prop
  | polled {n : Nat} {ending : Ending} (made : n < polls acts)
      (answered : child.poll n = .ended ending) : Awaited child acts
  | waited {ending : Ending} (made : acts = [.wait]) (answered : child.wait = .ok ending) :
      Awaited child acts
  | killed {earlier : List Act} (last : acts = earlier ++ [.kill, .wait]) : Awaited child acts

theorem reap_of_ok {ended : Ending × Option Duration} (result : w.result = .ok ended) :
    reap w = w := by
  rw [reap, result]

theorem acts_reap_of_fault {fault : Fault} (result : w.result = .error (.fault fault)) :
    (reap w).acts = w.acts ++ [.kill, .wait] := by
  rw [reap, result]

theorem result_reap (w : Watch) : (reap w).result = w.result := by
  rw [reap]
  split <;> rfl

theorem watch_none : watch child clock none = Watch.ending [.wait] none child.wait := by
  rw [watch]

/-- Whatever happens, no program is left behind that has not been waited for. -/
theorem awaited_reap {limit : Option Duration}
    (shown : ∀ d, limit = some d → clock.deadline d < momentLimit) :
    Awaited child (reap (watch child clock limit)).acts := by
  cases limit with
  | none =>
    rw [watch_none]
    cases waited : child.wait with
    | ok ending => exact .waited rfl waited
    | error cause => exact .killed (acts_reap_of_fault rfl)
  | some d =>
    obtain ⟨n, polled⟩ := @polled_watch clock child d (shown d rfl)
    cases answered : child.poll n with
    | ended ending =>
      rw [reap_of_ok (polled.ended answered).2]
      exact .polled (polled.polls_eq ▸ Nat.lt_succ_self n) answered
    | failed cause => exact .killed (acts_reap_of_fault (polled.failed answered).2)
    | running =>
      obtain ⟨-, acts, result⟩ := polled.killed answered
      cases waited : child.waitKilled with
      | ok ending =>
        rw [waited] at result
        rw [reap_of_ok result, acts]
        exact .killed (List.append_assoc (rounds n) [.poll] [.kill, .wait]).symm
      | error cause =>
        rw [waited] at result
        exact .killed (acts_reap_of_fault result)

/-! ## Outcomes -/

variable {σ : Type} {binary : Path} {process : Process σ} {limit? : Option Duration}

/-- Nothing is done to a program after it has been reaped. -/
theorem acts_run : (run binary process limit?).acts =
    (reap (watch process.child process.clock limit?)).acts := by
  rw [run]
  split <;> rfl

theorem run_of_error {halt : Halt}
    (result : (watch process.child process.clock limit?).result = .error halt) :
    (run binary process limit?).answer = .error halt := by
  rw [run, result_reap, result]

/-- An outcome comes of a program that was watched to its end. -/
theorem watched_of_outcome {outcome : Outcome}
    (ran : (run binary process limit?).answer = .ok outcome) :
    ∃ ended, (watch process.child process.clock limit?).result = .ok ended := by
  cases result : (watch process.child process.clock limit?).result with
  | ok ended => exact ⟨ended, rfl⟩
  | error halt => cases (run_of_error result).symm.trans ran

theorem run_of_ended {ending : Ending}
    (result : (watch process.child process.clock limit?).result = .ok (ending, none)) :
    (run binary process limit?).answer = collected binary (process.finished ending) ending := by
  rw [run, result_reap, result]

/-- After a kill, the output is read within some grace, if the clock can show when that ends. -/
theorem run_of_killed {ending : Ending} {d : Duration}
    (result : (watch process.child process.clock limit?).result = .ok (ending, some d)) :
    let last := polls (watch process.child process.clock limit?).acts - 1
    (run binary process limit?).answer =
      if process.clock.afterKill last + drainGrace < momentLimit then
        .ok (drained (process.killed last) ending d)
      else .error .crash := by
  intro last
  rw [run, result_reap, result, reap_of_ok result]

/-- What is read from the streams of a program that ended by itself, if they can be read. -/
theorem collected_cases (binary : Path) (left : Remains σ) (ending : Ending) :
    (∃ stdout stderr,
      collected binary left ending = .ok (Outcome.ofBytes stdout stderr ending.code)) ∨
    ∃ cause, (left.stdout = .error cause ∨ left.stderr = .error cause) ∧
      collected binary left ending = .error (.fault (.capture binary cause)) := by
  rw [collected]
  cases left.stdout with
  | error cause => exact .inr ⟨cause, .inl rfl, rfl⟩
  | ok stdout =>
    cases left.stderr with
    | error cause => exact .inr ⟨cause, .inr rfl, rfl⟩
    | ok stderr => exact .inl ⟨stdout, stderr, rfl⟩

/-- What a run answers when the program has been watched to its end, with the last poll of this
    number. -/
inductive Answered (binary : Path) (process : Process σ) (last : Nat) (ending : Ending)
    (timedOut : Option Duration) : Except Halt Outcome → Prop
  | outcome {outcome : Outcome} (code : outcome.exitCode = ending.code)
      (limit : outcome.timedOut = timedOut) :
      Answered binary process last ending timedOut (.ok outcome)
  | unread {cause : Cause} (alone : timedOut = none)
      (lost : (process.finished ending).stdout = .error cause ∨
        (process.finished ending).stderr = .error cause) :
      Answered binary process last ending timedOut (.error (.fault (.capture binary cause)))
  | beyond (killed : timedOut ≠ none)
      (late : momentLimit ≤ process.clock.afterKill last + drainGrace) :
      Answered binary process last ending timedOut (.error .crash)

theorem answered_run {ending : Ending} {timedOut : Option Duration}
    (result : (watch process.child process.clock limit?).result = .ok (ending, timedOut)) :
    Answered binary process (polls (watch process.child process.clock limit?).acts - 1) ending
      timedOut (run binary process limit?).answer := by
  cases timedOut with
  | none =>
    rw [run_of_ended result]
    obtain ⟨stdout, stderr, read⟩ | ⟨cause, lost, unread⟩ :=
      collected_cases binary (process.finished ending) ending
    · rw [read]
      exact .outcome rfl rfl
    · rw [unread]
      exact .unread rfl lost
  | some d =>
    rw [run_of_killed result]
    split_ifs with inTime
    · exact .outcome rfl rfl
    · exact .beyond (by simp) (not_lt.1 inTime)

/-- A limit stands beside the ending of a program if it was killed for running past it. -/
theorem timedOut_iff (shown : ∀ d, limit? = some d → clock.deadline d < momentLimit)
    {ending : Ending} {timedOut : Option Duration}
    (result : (watch child clock limit?).result = .ok (ending, timedOut)) (d : Duration) :
    timedOut = some d ↔ limit? = some d ∧ .kill ∈ (watch child clock limit?).acts := by
  cases limit? with
  | none =>
    rw [watch_none] at result ⊢
    cases waited : child.wait with
    | ok ending =>
      rw [waited] at result
      obtain ⟨rfl, rfl⟩ := Prod.mk.inj (Except.ok.inj result)
      simp
    | error cause =>
      rw [waited] at result
      cases result
  | some limit =>
    obtain ⟨n, polled⟩ := @polled_watch clock child limit (shown limit rfl)
    cases answered : child.poll n with
    | ended ending =>
      obtain ⟨acts, ended⟩ := polled.ended answered
      obtain ⟨rfl, rfl⟩ := Prod.mk.inj (Except.ok.inj (ended.symm.trans result))
      simp [acts, not_mem_rounds]
    | failed cause => cases (polled.failed answered).2.symm.trans result
    | running =>
      obtain ⟨-, acts, ended⟩ := polled.killed answered
      cases waited : child.waitKilled with
      | ok ending =>
        rw [waited] at ended
        obtain ⟨rfl, rfl⟩ := Prod.mk.inj (Except.ok.inj (ended.symm.trans result))
        simp [acts]
      | error cause =>
        rw [waited] at ended
        cases ended.symm.trans result

/-! ## Supervision -/

/-- Within a limit, a program is polled no more often than sleeps fit into the limit, and once.
    Polls go on as long as they find it running, up to the one after which the clock reads the
    deadline or later for the first time. The program is left alone exactly if a poll finds it
    ended; if all polls find it running, it is killed and waited for, once each. Without a limit
    there is one wait and no kill. A run does no more than that if the program was watched to its
    end. Its outcome then says how the program ended, if there is one, and has the limit exactly if
    the program was killed for running past it. After a poll or a wait has failed, which is what the
    run answers then, it kills and waits once more. In every case the program has been waited for
    when the run is over. -/
theorem run_supervised {σ : Type} (binary : Path) (process : Process σ) (limit : Option Duration)
    (shown : ∀ d, limit = some d → process.clock.deadline d < momentLimit) :
    let child := process.child
    let w := watch child process.clock limit
    let report := run binary process limit
    (∀ d, limit = some d → ∃ last, FirstLate process.clock (process.clock.deadline d) last ∧
      polls w.acts ≤ d.toNanos ⌈/⌉ pollInterval + 1 ∧
      (∀ n, n < polls w.acts ↔ n ≤ last ∧ ∀ m < n, child.poll m = .running) ∧
      (∀ ending, w.result = .ok (ending, none) ∧ .kill ∉ w.acts ↔
        ∃ n ≤ last, n < polls w.acts ∧ child.poll n = .ended ending) ∧
      (.kill ∈ w.acts ↔ ∀ n < polls w.acts, child.poll n = .running) ∧
      (.kill ∈ w.acts → w.acts = rounds last ++ [.poll, .kill, .wait] ∧
        ∀ ending, child.waitKilled = .ok ending → w.result = .ok (ending, some d))) ∧
    (limit = none → w.acts = [.wait] ∧
      ∀ ending, child.wait = .ok ending → w.result = .ok (ending, none)) ∧
    (∀ ending timedOut, w.result = .ok (ending, timedOut) → report.acts = w.acts ∧
      Answered binary process (polls w.acts - 1) ending timedOut report.answer) ∧
    (∀ fault, w.result = .error (.fault fault) →
      report.acts = w.acts ++ [.kill, .wait] ∧ report.answer = .error (.fault fault)) ∧
    Awaited child report.acts ∧
    ∀ outcome, report.answer = .ok outcome →
      ∀ d, outcome.timedOut = some d ↔ limit = some d ∧ .kill ∈ report.acts := by
  intro child w report
  have acts : report.acts = (reap w).acts := acts_run
  refine ⟨?_, ?_, ?_, ?_, acts ▸ awaited_reap shown, fun outcome ran => ?_⟩
  · intro d within
    obtain ⟨n, polled⟩ := @polled_watch process.clock child d (shown d within)
    obtain ⟨last, first⟩ := exists_firstLate process.clock (process.clock.deadline d)
    rw [← within] at polled
    exact ⟨last, first, polled.polls_le, polled.lt_polls_iff first, polled.result_iff first,
      polled.kill_mem_iff, polled.acts_of_kill first⟩
  · intro unlimited
    have whole : w = Watch.ending [.wait] none child.wait :=
      (congrArg (watch child process.clock) unlimited).trans watch_none
    rw [whole]
    cases child.wait <;> simp [Watch.ending]
  · intro ending timedOut result
    exact ⟨acts.trans (congrArg Watch.acts (reap_of_ok result)), answered_run result⟩
  · intro fault result
    exact ⟨acts.trans (acts_reap_of_fault result), run_of_error result⟩
  · obtain ⟨⟨ending, timedOut⟩, result⟩ := watched_of_outcome ran
    have answered : Answered binary process (polls w.acts - 1) ending timedOut (.ok outcome) :=
      ran ▸ answered_run result
    cases answered with
    | outcome code within =>
      rw [within, acts, reap_of_ok result]
      exact timedOut_iff shown result

/-- A program that does not end by itself and prints nothing, under a clock that shows nothing but
    the sleeps. -/
def sleeper : Process Unit where
  child := { poll := fun _ => .running, wait := .ok (.exited 0), waitKilled := .ok (.signalled 9) }
  clock := {
    start := 0
    reading := fun n => pollInterval * n
    afterKill := fun n => pollInterval * n
    start_le := fun _ => Nat.zero_le _
    advances := fun n => (Nat.mul_succ pollInterval n).ge
    reading_le := fun _ => le_rfl }
  started := ()
  finished := fun _ => ⟨.ok [], .ok [], ()⟩
  killed := fun _ => ⟨.ok [], .ok [], ()⟩

/-- It is killed after three polls if it may run for one and a half sleeps. -/
theorem run_supervised_sleeper :
    let limit : Duration := ⟨0, 15000000⟩
    let w := watch sleeper.child sleeper.clock (some limit)
    let report := run ⟨"wren"⟩ sleeper (some limit)
    (∀ d, some limit = some d → sleeper.clock.deadline d < momentLimit) ∧
      .kill ∈ w.acts ∧ polls w.acts ≤ limit.toNanos ⌈/⌉ pollInterval + 1 ∧
      w.result = .ok (.signalled 9, some limit) ∧
      report.acts = [.poll, .sleep, .poll, .sleep, .poll, .kill, .wait] ∧
      Awaited sleeper.child report.acts ∧
      ∃ outcome, report.answer = .ok outcome ∧ outcome.exitCode = Ending.code (.signalled 9) ∧
        outcome.timedOut = some limit := by
  intro limit w report
  have shown : ∀ d, some limit = some d → sleeper.clock.deadline d < momentLimit := by
    intro d same
    obtain rfl := Option.some.inj same
    decide
  obtain ⟨within, -, watched, -, awaited, -⟩ :=
    run_supervised ⟨"wren"⟩ sleeper (some limit) shown
  obtain ⟨last, first, few, -, -, kill_iff, killed⟩ := within limit rfl
  have kill : .kill ∈ w.acts := kill_iff.2 fun _ _ => rfl
  obtain ⟨acts, result⟩ := killed kill
  obtain rfl : last = 2 := by
    have deadline : sleeper.clock.deadline limit = 15000000 := by decide
    have reading (n : Nat) : sleeper.clock.reading n = pollInterval * n := rfl
    have late := first.late
    rw [deadline, reading, pollInterval] at late
    by_contra other
    have early := first.early 2 (by omega)
    rw [deadline, reading, pollInterval] at early
    omega
  have ended : w.result = .ok (.signalled 9, some limit) := result _ rfl
  obtain ⟨same, answered⟩ := watched _ _ ended
  refine ⟨shown, kill, few, ended, same.trans acts, awaited, ?_⟩
  generalize report.answer = answer at answered ⊢
  cases answered with
  | @outcome outcome code within => exact ⟨outcome, rfl, code, within⟩
  | unread alone => cases alone
  | beyond _ late =>
    rw [acts] at late
    exact absurd late (by decide)

end Conformance.Supervision
