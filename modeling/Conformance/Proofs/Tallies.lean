import Conformance.Proofs.SkipReasons
import Conformance.Session

/-!
# Counting verdicts

What one more verdict does to the counters. Main statements: the counters of some files stay those
of their verdicts with one file more, and none of them goes down.
-/

namespace Conformance

namespace Verdict

def isFailure : Verdict → Bool
  | failed _ => true
  | passed | skipped _ => false

/-- The reason why a file was skipped. -/
def reason? : Verdict → Option String
  | skipped reason => some reason
  | passed | failed _ => none

theorem reasons_append (verdicts : List Verdict) (verdict : Verdict) :
    (verdicts ++ [verdict]).filterMap reason? =
      verdicts.filterMap reason? ++ verdict.reason?.toList := by
  rw [List.filterMap_append]
  cases verdict <;> rfl

end Verdict

namespace Tally

variable {tally next last : Tally} {verdicts : List Verdict}

/-- The counters after one more file, with this number of marks if it was launched. A file that is
    no test has no verdict. -/
def note (tally : Tally) (marks : Nat) : Option Verdict → Tally
  | none => tally.expect marks
  | some .passed => (tally.expect marks).pass 1
  | some (.failed _) => (tally.expect marks).fail 1
  | some (.skipped reason) => (tally.expect marks).skip reason

@[simp] theorem expectations_note (tally : Tally) (marks : Nat) (verdict : Option Verdict) :
    (tally.note marks verdict).expectations = tally.expectations + marks := by
  rcases verdict with _ | _ | _ | _ <;> rfl

/-- The number of files with a verdict. -/
def judged (tally : Tally) : Nat := tally.passed + tally.failed + tally.skipped

theorem judged_note (tally : Tally) (marks : Nat) (verdict : Option Verdict) :
    (tally.note marks verdict).judged = tally.judged + if verdict = none then 0 else 1 := by
  rcases verdict with _ | _ | _ | _ <;>
    simp [note, expect, pass, fail, skip, judged] <;> omega

/-- These are the counters of files with these verdicts, except for their marks. -/
structure Counts (tally : Tally) (verdicts : List Verdict) : Prop where
  passed : tally.passed = verdicts.count .passed
  failed : tally.failed = verdicts.countP Verdict.isFailure
  skipped : tally.skipped = (verdicts.filterMap Verdict.reason?).length
  reasons : tally.reasons.Tells (verdicts.filterMap Verdict.reason?)
  /-- The counts by reason add up to the number of skipped files. -/
  total : tally.skipped = tally.reasons.total

theorem Counts.start : Counts {} [] where
  passed := rfl
  failed := rfl
  skipped := rfl
  reasons := .empty
  total := rfl

/-- One more verdict is counted where it belongs. -/
theorem Counts.note (counts : tally.Counts verdicts) (marks : Nat) (verdict : Option Verdict) :
    (tally.note marks verdict).Counts (verdicts ++ verdict.toList) := by
  obtain ⟨passed, failed, skipped, reasons, total⟩ := counts
  cases verdict with
  | none => exact ⟨by simpa, by simpa, by simpa, by simpa, total⟩
  | some verdict =>
    refine ⟨?_, ?_, ?_, ?_, ?_⟩
    · rw [Option.toList_some, List.count_append, ← passed]
      cases verdict <;> rfl
    · rw [Option.toList_some, List.countP_append, ← failed]
      cases verdict <;> rfl
    · rw [Option.toList_some, Verdict.reasons_append, List.length_append, ← skipped]
      cases verdict <;> rfl
    · rw [Option.toList_some, Verdict.reasons_append]
      cases verdict with
      | skipped reason => exact reasons.record reason
      | _ => exact (List.append_nil (verdicts.filterMap Verdict.reason?)).symm ▸ reasons
    · cases verdict with
      | skipped reason =>
        exact (congrArg (· + 1) total).trans (tally.reasons.total_record reason).symm
      | _ => exact total

/-- No counter is higher than later on, under no reason either. -/
structure AtMost (tally later : Tally) : Prop where
  passed : tally.passed ≤ later.passed
  failed : tally.failed ≤ later.failed
  skipped : tally.skipped ≤ later.skipped
  expectations : tally.expectations ≤ later.expectations
  reasons : ∀ reason n, tally.reasons.entries.lookup reason = some n →
    ∃ more, n ≤ more ∧ later.reasons.entries.lookup reason = some more

namespace AtMost

theorem refl (tally : Tally) : tally.AtMost tally :=
  ⟨Nat.le_refl _, Nat.le_refl _, Nat.le_refl _, Nat.le_refl _,
    fun _ n found => ⟨n, Nat.le_refl n, found⟩⟩

theorem trans (early : tally.AtMost next) (late : next.AtMost last) : tally.AtMost last where
  passed := Nat.le_trans early.passed late.passed
  failed := Nat.le_trans early.failed late.failed
  skipped := Nat.le_trans early.skipped late.skipped
  expectations := Nat.le_trans early.expectations late.expectations
  reasons reason n found := by
    obtain ⟨more, less, found⟩ := early.reasons reason n found
    obtain ⟨most, lessToo, found⟩ := late.reasons reason more found
    exact ⟨most, Nat.le_trans less lessToo, found⟩

theorem note (tally : Tally) (marks : Nat) (verdict : Option Verdict) :
    tally.AtMost (tally.note marks verdict) := by
  have marked : tally.expectations ≤ tally.expectations + marks := Nat.le_add_right _ _
  have same := (refl tally).reasons
  rcases verdict with _ | _ | _ | reason
  · exact ⟨Nat.le_refl _, Nat.le_refl _, Nat.le_refl _, marked, same⟩
  · exact ⟨Nat.le_succ _, Nat.le_refl _, Nat.le_refl _, marked, same⟩
  · exact ⟨Nat.le_refl _, Nat.le_succ _, Nat.le_refl _, marked, same⟩
  · refine ⟨Nat.le_refl _, Nat.le_refl _, Nat.le_succ _, marked, fun other n found => ?_⟩
    have there := tally.reasons.lookup_record reason other
    split_ifs at there with here
    · subst here
      rw [SkipCounts.count, found] at there
      exact ⟨n + 1, Nat.le_succ n, there⟩
    · exact ⟨n, Nat.le_refl _, there.trans found⟩

end AtMost

/-- Each counter is the sum of those of the parts, under each reason as well. -/
structure IsSum (tally : Tally) (parts : List Tally) : Prop where
  passed : tally.passed = (parts.map Tally.passed).sum
  failed : tally.failed = (parts.map Tally.failed).sum
  skipped : tally.skipped = (parts.map Tally.skipped).sum
  expectations : tally.expectations = (parts.map Tally.expectations).sum
  reasons : ∀ reason, tally.reasons.count reason = (parts.map (·.reasons.count reason)).sum
  /-- Counts are kept under the reasons of the parts. -/
  listed : ∀ reason, (tally.reasons.entries.lookup reason).isSome ↔
    ∃ part ∈ parts, (part.reasons.entries.lookup reason).isSome

namespace IsSum

variable {parts others : List Tally}

theorem nil : IsSum {} [] := ⟨rfl, rfl, rfl, rfl, fun _ => rfl, fun _ => by simp [SkipCounts.empty]⟩

/-- The order of the parts makes no difference. -/
theorem perm (sum : tally.IsSum parts) (same : parts.Perm others) : tally.IsSum others where
  passed := sum.passed.trans (same.map _).sum_nat
  failed := sum.failed.trans (same.map _).sum_nat
  skipped := sum.skipped.trans (same.map _).sum_nat
  expectations := sum.expectations.trans (same.map _).sum_nat
  reasons reason := (sum.reasons reason).trans (same.map _).sum_nat
  listed reason := by simp only [sum.listed, same.mem_iff]

/-- One more file adds to each counter what it adds to nothing. -/
theorem note (sum : tally.IsSum parts) (marks : Nat) (verdict : Option Verdict) :
    (tally.note marks verdict).IsSum (parts ++ [({} : Tally).note marks verdict]) where
  passed := by
    rw [List.map_append, List.sum_append, ← sum.passed]
    rcases verdict with _ | _ | _ | _ <;> rfl
  failed := by
    rw [List.map_append, List.sum_append, ← sum.failed]
    rcases verdict with _ | _ | _ | _ <;> rfl
  skipped := by
    rw [List.map_append, List.sum_append, ← sum.skipped]
    rcases verdict with _ | _ | _ | _ <;> rfl
  expectations := by
    rw [List.map_append, List.sum_append, ← sum.expectations]
    simp
  reasons other := by
    rw [List.map_append, List.sum_append, ← sum.reasons]
    rcases verdict with _ | _ | _ | reason
    · rfl
    · rfl
    · rfl
    · have before : SkipCounts.empty.count other = 0 := rfl
      change (tally.reasons.record reason).count other =
        _ + ((SkipCounts.empty.record reason).count other + 0)
      rw [SkipCounts.count_record, SkipCounts.count_record, before, Nat.zero_add, Nat.add_zero]
  listed other := by
    simp only [List.mem_append, List.mem_singleton, or_and_right, exists_or, exists_eq_left]
    rw [← sum.listed]
    rcases verdict with _ | _ | _ | reason
    · exact (or_iff_left Bool.false_ne_true).symm
    · exact (or_iff_left Bool.false_ne_true).symm
    · exact (or_iff_left Bool.false_ne_true).symm
    · have before : ¬ (SkipCounts.empty.entries.lookup other).isSome := Bool.false_ne_true
      change ((tally.reasons.record reason).entries.lookup other).isSome ↔
        _ ∨ ((SkipCounts.empty.record reason).entries.lookup other).isSome
      rw [SkipCounts.isSome_lookup_record, SkipCounts.isSome_lookup_record, or_iff_right before]

end IsSum
end Tally
end Conformance
