import Conformance.Proofs.FailureBlocks
import Conformance.Proofs.Screens
import Conformance.Proofs.SkipReasons

/-!
# Summaries of skipped files

A `Change` is one thing that is done to the counters of a session. Main statement: whatever else is
counted in between, the counts by reason are those of the skipped files, the summary has one line
for each reason, in order, and in which order files were skipped makes no difference.
-/

namespace Conformance

/-! ## Skip counts by their reasons -/

namespace SkipCounts

variable {counts others : SkipCounts} {reason : String} {seen : List String} {n : Nat}

theorem lookup_eq_some_iff :
    counts.entries.lookup reason = some n ↔ (reason, n) ∈ counts.entries := by
  rw [List.lookup_eq_some_iff]
  constructor
  · rintro ⟨before, after, cut, -⟩
    rw [cut]
    exact List.mem_append_right before List.mem_cons_self
  · intro member
    obtain ⟨before, after, cut⟩ := List.append_of_mem member
    refine ⟨before, after, cut, fun entry early => bne_iff_ne.2 fun same => ?_⟩
    -- An earlier entry has an earlier reason.
    have ordered := counts.ordered
    rw [cut, List.pairwise_append] at ordered
    have earlier := ordered.2.2 entry early (reason, n) List.mem_cons_self
    exact ByteOrder.irrefl entry.1 (same ▸ earlier)

theorem nodup (counts : SkipCounts) : counts.entries.Nodup := by
  refine counts.ordered.imp fun {first second} before same => ?_
  exact ByteOrder.irrefl first.1 (same ▸ before)

/-- What is found under each reason makes up the counts. -/
theorem ext_lookup (same : ∀ reason, counts.entries.lookup reason = others.entries.lookup reason) :
    counts = others := by
  have listed : counts.entries.Perm others.entries := by
    refine (List.perm_ext_iff_of_nodup counts.nodup others.nodup).2 fun entry => ?_
    rw [← lookup_eq_some_iff, ← lookup_eq_some_iff, same]
  have entries : counts.entries = others.entries := by
    refine listed.eq_of_pairwise (fun first _ _ _ early late => ?_) counts.ordered others.ordered
    exact absurd (ByteOrder.trans early late) (ByteOrder.irrefl first.1)
  cases counts
  cases others
  congr

theorem record_comm (counts : SkipCounts) (first second : String) :
    (counts.record first).record second = (counts.record second).record first := by
  refine ext_lookup fun reason => ?_
  simp only [lookup_record, count_record]
  by_cases same : first = second
  · rw [same]
  · grind

/-- The order in which reasons are recorded makes no difference. -/
theorem foldl_record_perm (counts : SkipCounts) {reasons : List String} (same : reasons.Perm seen) :
    reasons.foldl SkipCounts.record counts = seen.foldl SkipCounts.record counts :=
  same.foldl_eq' (fun first _ second _ counts => counts.record_comm first second) counts

theorem Tells.recordAll (tells : counts.Tells seen) (reasons : List String) :
    (reasons.foldl SkipCounts.record counts).Tells (seen ++ reasons) := by
  induction reasons generalizing counts seen with
  | nil => simpa using tells
  | cons reason reasons ih => simpa using ih (tells.record reason)

theorem total_recordAll (counts : SkipCounts) (reasons : List String) :
    (reasons.foldl SkipCounts.record counts).total = counts.total + reasons.length := by
  induction reasons generalizing counts with
  | nil => rfl
  | cons reason reasons ih =>
    rw [List.foldl_cons, ih, total_record, List.length_cons]
    omega

/-- Counts that tell of some reasons list each of them once, in the order of their bytes. -/
theorem Tells.exists_reasons (tells : counts.Tells seen) : ∃ reasons : List String,
    reasons.Pairwise ByteOrder.Before ∧ (∀ reason, reason ∈ reasons ↔ reason ∈ seen) ∧
      counts.entries = reasons.map fun reason => (reason, seen.count reason) := by
  have counted (reason : String) (n : Nat) :
      (reason, n) ∈ counts.entries ↔ reason ∈ seen ∧ n = seen.count reason := by
    rw [← lookup_eq_some_iff, tells]
    split_ifs with member <;> simp [member, eq_comm]
  refine ⟨counts.entries.map Prod.fst, List.pairwise_map.2 counts.ordered, fun reason => ?_, ?_⟩
  · simp [counted]
  · rw [List.map_map]
    refine (List.map_id _).symm.trans (List.map_congr_left fun entry member => ?_)
    exact Prod.ext rfl ((counted entry.1 entry.2).1 member).2

end SkipCounts

/-! ## Counters after some changes -/

namespace Tally

/-- The counters that skipped files do not concern. -/
inductive Counter where
  | passed
  | failed
  | expectations
  deriving DecidableEq

/-- One change of the counters of a session. -/
inductive Change where
  /-- A file is skipped. -/
  | skip (reason : String)
  /-- A number is added to some other counter. -/
  | add (counter : Counter) (n : Nat)
  deriving DecidableEq

/-- The counters after one change. -/
def change (tally : Tally) : Change → Tally
  | .skip reason => tally.skip reason
  | .add .passed n => tally.pass n
  | .add .failed n => tally.fail n
  | .add .expectations n => tally.expect n

/-- The counters after some changes, one by one. -/
def after (tally : Tally) (changes : List Change) : Tally := changes.foldl change tally

namespace Change

def reason? : Change → Option String
  | skip reason => some reason
  | add _ _ => none

/-- How much a change adds to a counter. -/
def amount (counter : Counter) : Change → Nat
  | skip _ => 0
  | add other n => if other = counter then n else 0

/-- The reasons of the files that some changes skip, in the order of the changes. -/
def skips (changes : List Change) : List String := changes.filterMap reason?

/-- How much some changes add to a counter. -/
def added (counter : Counter) (changes : List Change) : Nat := (changes.map (amount counter)).sum

end Change

open Change

/-- Each counter depends on the changes that concern it. -/
theorem after_eq (tally : Tally) (changes : List Change) : tally.after changes = {
    passed := tally.passed + added .passed changes
    failed := tally.failed + added .failed changes
    skipped := tally.skipped + (skips changes).length
    reasons := (skips changes).foldl SkipCounts.record tally.reasons
    expectations := tally.expectations + added .expectations changes } := by
  induction changes generalizing tally with
  | nil => rfl
  | cons first changes ih =>
    rw [after, List.foldl_cons, ← after, ih]
    cases first with
    | skip reason =>
      simp [change, Tally.skip, skips, reason?, added, amount, Nat.add_comm, Nat.add_left_comm]
    | add counter n =>
      have same : skips (add counter n :: changes) = skips changes := rfl
      rw [same]
      cases counter <;> simp [change, pass, fail, expect, added, amount, Nat.add_assoc]

theorem tells_after (changes : List Change) :
    (({} : Tally).after changes).reasons.Tells (skips changes) := by
  rw [after_eq]
  exact SkipCounts.Tells.empty.recordAll (skips changes)

/-- The order of the skipped files makes no difference, and neither does what is counted in
    between. -/
theorem after_congr (tally : Tally) {changes others : List Change}
    (reordered : (skips others).Perm (skips changes))
    (same : ∀ counter, added counter others = added counter changes) :
    tally.after others = tally.after changes := by
  rw [after_eq, after_eq, same, same, same, reordered.length_eq,
    SkipCounts.foldl_record_perm _ reordered]

/-! ## The lines of a summary -/

theorem newline_not_mem_paint (color : Color) (enabled : Bool) (n : Nat) :
    '\n' ∉ (color.paint enabled n.repr).toList :=
  (Console.plain_paint color enabled n).2

theorem newline_not_mem_verdictLine (tally : Tally) (color : Bool) :
    '\n' ∉ (Console.verdictLine tally color).toList := by
  rw [Console.verdictLine]
  split_ifs
  · simp [newline_not_mem_paint, newline_not_mem_toDigits]
  · simp [newline_not_mem_paint]

/-- A summary has one line for each reason, in the order of their bytes, after the verdict. -/
theorem split_summary {tally : Tally} {seen : List String} (tells : tally.reasons.Tells seen)
    (single : ∀ reason ∈ seen, '\n' ∉ reason.toList) (color : Bool) :
    ∃ reasons : List String, reasons.Pairwise ByteOrder.Before ∧
      (∀ reason, reason ∈ reasons ↔ reason ∈ seen) ∧
      Line.split (Console.summary tally color) = Console.verdictLine tally color ::
        reasons.map fun reason =>
          "Skipped " ++ Color.yellow.paint color (toString (seen.count reason)) ++ " tests: " ++
            reason := by
  obtain ⟨reasons, ordered, same, entries⟩ := tells.exists_reasons
  refine ⟨reasons, ordered, same, ?_⟩
  rw [Console.summary, entries, List.map_map]
  refine Line.split_intercalate (List.cons_ne_nil _ _) (List.forall_mem_cons.2 ⟨?_, ?_⟩)
  · exact newline_not_mem_verdictLine tally color
  · refine List.forall_mem_map.2 fun reason member => ?_
    have line := single reason ((same reason).1 member)
    simp [Console.skipLine, newline_not_mem_paint, line]

/-- The skipped files are counted under their reasons, and the counts add up to their number. The
    summary has one line for each reason. The same files, skipped in another order and with other
    changes in between that add up to the same numbers, lead to the same counters and the same
    summary. -/
theorem skips_accounted (changes : List Change) :
    let tally := ({} : Tally).after changes
    let seen := skips changes
    (tally.skipped = seen.length ∧ tally.skipped = (tally.reasons.entries.map Prod.snd).sum) ∧
    (∀ reason, tally.reasons.entries.lookup reason =
      if reason ∈ seen then some (seen.count reason) else none) ∧
    ((∀ reason ∈ seen, '\n' ∉ reason.toList) → ∀ color, ∃ reasons : List String,
      reasons.Pairwise ByteOrder.Before ∧ (∀ reason, reason ∈ reasons ↔ reason ∈ seen) ∧
        Line.split (Console.summary tally color) = Console.verdictLine tally color ::
          reasons.map fun reason =>
            "Skipped " ++ Color.yellow.paint color (toString (seen.count reason)) ++ " tests: " ++
              reason) ∧
    ∀ others : List Change, (skips others).Perm seen →
      (∀ counter, added counter others = added counter changes) →
        ({} : Tally).after others = tally ∧
          ∀ color,
            Console.summary (({} : Tally).after others) color = Console.summary tally color := by
  intro tally seen
  have counted := after_eq {} changes
  have skipped : tally.skipped = seen.length := by
    rw [show tally = _ from counted]
    exact Nat.zero_add _
  have total : tally.reasons.total = seen.length := by
    rw [show tally = _ from counted, SkipCounts.total_recordAll]
    exact Nat.zero_add _
  refine ⟨⟨skipped, skipped.trans total.symm⟩, tells_after changes, ?_, ?_⟩
  · exact fun single color => split_summary (tells_after changes) single color
  · intro others reordered same
    have reached := after_congr {} reordered same
    exact ⟨reached, fun color => by rw [reached]⟩

/-- Three skipped files, two of them for one reason, in two orders. -/
theorem skips_accounted_reordered :
    let changes : List Change :=
      [.skip "io", .add .passed 2, .skip "fibers", .skip "io", .add .expectations 7]
    let others : List Change :=
      [.add .passed 1, .skip "fibers", .add .expectations 7, .skip "io", .skip "io", .add .passed 1]
    (∀ reason ∈ skips changes, '\n' ∉ reason.toList) ∧ (skips others).Perm (skips changes) ∧
      (∀ counter, added counter others = added counter changes) ∧
      (({} : Tally).after changes).skipped = 3 ∧
      (({} : Tally).after changes).reasons.entries.lookup "io" = some 2 ∧
      Line.split (Console.summary (({} : Tally).after others) false) =
        ["All 2 tests passed (7 expectations).", "Skipped 1 tests: fibers",
          "Skipped 2 tests: io"] := by
  intro changes others
  have single : ∀ reason ∈ skips changes, '\n' ∉ reason.toList := by decide
  have reordered : (skips others).Perm (skips changes) := by decide
  have same : ∀ counter, added counter others = added counter changes := by
    intro counter
    cases counter <;> rfl
  obtain ⟨⟨skipped, -⟩, counts, summary, alike⟩ := skips_accounted changes
  have again := (alike others reordered same).2 false
  refine ⟨single, reordered, same, skipped, counts "io", ?_⟩
  rw [again]
  decide

end Tally
end Conformance
