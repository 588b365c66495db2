import Conformance.SkipCounts
import Mathlib.Algebra.Ring.Nat
import Mathlib.Data.List.Count

/-!
# What skip counts tell

`Tells` says of skip counts that they hold exactly the reasons of a list, each with the number of
its occurrences. Main statements: to record a reason is to add it to the list, and the counts add up
to the number of recorded reasons.
-/

namespace Conformance.SkipCounts

variable {counts : SkipCounts} {reason : String} {seen : List String}

theorem lookup_cons (first : String) (n : Nat) (rest : List (String × Nat)) (other : String) :
    ((first, n) :: rest).lookup other = if other = first then some n else rest.lookup other := by
  by_cases here : other = first
  · simp [here]
  · rw [List.lookup_cons, beq_eq_false_iff_ne.2 here, if_neg here]

/-- What is found under a reason after a change. -/
theorem lookup_updateEntries {change : Nat → Nat} {entries : List (String × Nat)}
    (ordered : entries.Pairwise (fun a b => ByteOrder.Before a.1 b.1)) (other : String) :
    (updateEntries reason change entries).lookup other =
      if other = reason then some (change ((entries.lookup reason).getD 0))
      else entries.lookup other := by
  induction entries with
  | nil => exact lookup_cons reason (change 0) [] other
  | cons entry rest ih =>
    obtain ⟨first, n⟩ := entry
    obtain ⟨after, ordered⟩ := List.pairwise_cons.1 ordered
    by_cases before : ByteOrder.Before first reason
    · have differs : first ≠ reason := by
        rintro rfl
        exact ByteOrder.irrefl first before
      rw [updateEntries, if_pos before, lookup_cons, lookup_cons, lookup_cons, ih ordered]
      grind
    by_cases same : first = reason
    · rw [updateEntries, if_neg before, if_pos same, lookup_cons, lookup_cons, lookup_cons]
      grind
    -- The first reason comes after the new one, and so do all that follow it.
    have late : ByteOrder.Before reason first := by
      by_contra not
      exact same (ByteOrder.eq_of_not_before before not)
    have fresh : rest.lookup reason = none := by
      refine List.lookup_eq_none_iff.2 fun entry member => bne_iff_ne.2 ?_
      rintro rfl
      exact before (after entry member)
    rw [updateEntries, if_neg before, if_neg same, lookup_cons, lookup_cons, lookup_cons,
      if_neg (Ne.symm same), fresh, Option.getD_none]

theorem lookup_record (counts : SkipCounts) (reason other : String) :
    (counts.record reason).entries.lookup other =
      if other = reason then some (counts.count reason + 1) else counts.entries.lookup other :=
  lookup_updateEntries counts.ordered other

theorem count_record (counts : SkipCounts) (reason other : String) :
    (counts.record reason).count other = counts.count other + if other = reason then 1 else 0 := by
  rw [count, lookup_record]
  split_ifs with here
  · rw [here, Option.getD_some]
  · rfl

theorem isSome_lookup_record (counts : SkipCounts) (reason other : String) :
    ((counts.record reason).entries.lookup other).isSome ↔
      (counts.entries.lookup other).isSome ∨ other = reason := by
  rw [lookup_record]
  split_ifs with here <;> simp [here]

/-- The number of files under all reasons. -/
def total (counts : SkipCounts) : Nat := (counts.entries.map Prod.snd).sum

theorem sum_updateEntries (reason : String) (entries : List (String × Nat)) :
    ((updateEntries reason (· + 1) entries).map Prod.snd).sum = (entries.map Prod.snd).sum + 1 := by
  fun_induction updateEntries reason (· + 1) entries with
  | case1 => rfl
  | case2 other n rest before ih => simp only [List.map_cons, List.sum_cons, ih]; omega
  | case3 n rest before => simp only [List.map_cons, List.sum_cons]; omega
  | case4 other n rest before differs => simp only [List.map_cons, List.sum_cons]; omega

theorem total_record (counts : SkipCounts) (reason : String) :
    (counts.record reason).total = counts.total + 1 :=
  sum_updateEntries reason counts.entries

/-- The counts hold the reasons of a list and no other ones, each with the number of its
    occurrences. -/
def Tells (counts : SkipCounts) (seen : List String) : Prop :=
  ∀ reason, counts.entries.lookup reason =
    if reason ∈ seen then some (seen.count reason) else none

namespace Tells

theorem empty : Tells .empty [] := fun _ => rfl

theorem count_eq (tells : counts.Tells seen) (reason : String) :
    counts.count reason = seen.count reason := by
  rw [count, tells]
  split_ifs with member
  · rfl
  · exact (List.count_eq_zero.2 member).symm

theorem record (tells : counts.Tells seen) (reason : String) :
    (counts.record reason).Tells (seen ++ [reason]) := by
  intro other
  rw [lookup_record, tells.count_eq, List.count_append]
  by_cases here : other = reason
  · simp [here]
  · have differs : reason ≠ other := Ne.symm here
    rw [if_neg here, tells other]
    simp [here, differs]

end Tells
end Conformance.SkipCounts
