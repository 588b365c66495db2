import Conformance.ByteOrder

/-!
# Skip counts

How many files were skipped under each reason. The reasons are kept in the order of their bytes,
each once, so equal counts are equal values whatever the order of counting.
-/

namespace Conformance

/-- Counts under reasons, in the order of the reasons' bytes. -/
structure SkipCounts where
  entries : List (String × Nat)
  ordered : entries.Pairwise (fun a b => ByteOrder.Before a.1 b.1)
  deriving DecidableEq, Repr

namespace SkipCounts

/-- No counts. -/
def empty : SkipCounts := ⟨[], .nil⟩

/-- Change the count under `reason`, which is zero if there is none yet. -/
def updateEntries (reason : String) (change : Nat → Nat) :
    List (String × Nat) → List (String × Nat)
  | [] => [(reason, change 0)]
  | (other, n) :: rest =>
    if ByteOrder.Before other reason then (other, n) :: updateEntries reason change rest
    else if other = reason then (reason, change n) :: rest
    else (reason, change 0) :: (other, n) :: rest

theorem mem_updateEntries {reason : String} {change : Nat → Nat} {entries : List (String × Nat)}
    {entry : String × Nat} (h : entry ∈ updateEntries reason change entries) :
    entry.1 = reason ∨ entry ∈ entries := by
  fun_induction updateEntries reason change entries <;> grind

theorem ordered_updateEntries {reason : String} {change : Nat → Nat}
    {entries : List (String × Nat)}
    (h : entries.Pairwise (fun a b => ByteOrder.Before a.1 b.1)) :
    (updateEntries reason change entries).Pairwise (fun a b => ByteOrder.Before a.1 b.1) := by
  fun_induction updateEntries reason change entries with
  | case1 => simp
  | case2 other n rest before ih =>
    rw [List.pairwise_cons] at h ⊢
    refine ⟨fun entry mem => ?_, ih h.2⟩
    rcases mem_updateEntries mem with same | mem
    · rw [same]; exact before
    · exact h.1 entry mem
  | case3 n rest _ => exact List.pairwise_cons.2 (List.pairwise_cons.1 h)
  | case4 other n rest notBefore different =>
    have first : ByteOrder.Before reason other := by
      by_cases before : ByteOrder.Before reason other
      · exact before
      · exact absurd (ByteOrder.eq_of_not_before notBefore before) different
    refine List.pairwise_cons.2 ⟨fun entry mem => ?_, h⟩
    rcases List.mem_cons.1 mem with rfl | mem
    · exact first
    · exact ByteOrder.trans first ((List.pairwise_cons.1 h).1 entry mem)

/-- Change the count under a reason. -/
def update (counts : SkipCounts) (reason : String) (change : Nat → Nat) : SkipCounts where
  entries := updateEntries reason change counts.entries
  ordered := ordered_updateEntries counts.ordered

/-- Count one more file under a reason. -/
def record (counts : SkipCounts) (reason : String) : SkipCounts := counts.update reason (· + 1)

/-- Counts from a list of reasons, in which a later count replaces an earlier one. -/
def ofList (counts : List (String × Nat)) : SkipCounts :=
  counts.foldl (fun counts (reason, n) => counts.update reason fun _ => n) empty

/-- The count under a reason. -/
def count (counts : SkipCounts) (reason : String) : Nat := (counts.entries.lookup reason).getD 0

end SkipCounts
end Conformance
