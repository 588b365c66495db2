import Conformance.Proofs.Descending
import Conformance.Walk
import Mathlib.Data.List.Lex

/-!
# The order of entries and paths

A walk arranges each directory by names, paths are compared component by component, and chains of
names stand for paths below a root. Main statements: `arrange` puts entries in order, chains of
names and the paths that they lead to are in the same order, and a property of chains determines the
ordered list of those that have it.
-/

namespace Conformance

open FileTree (IsName)

/-! ## The order of paths -/

namespace Path

variable {p : Path} {names others : List String}

/-- One path comes before another one when they are compared component by component, by the bytes of
    each. -/
def Before (a b : Path) : Prop :=
  List.Lex ByteOrder.Before (a.components.map Component.text) (b.components.map Component.text)

theorem before_irrefl (p : Path) : ¬ p.Before p := List.lex_irrefl ByteOrder.irrefl _

theorem components_join (text : p.text ≠ "") (named : ∀ name ∈ names, IsName name) :
    (p.join names).components = p.components ++ names.map .name := by
  induction names generalizing p with
  | nil => simp
  | cons name rest ih =>
    obtain ⟨proper, named⟩ := List.forall_mem_cons.1 named
    rw [join_cons, ih (entry_ne_empty proper.nonempty) named, components_entry text proper]
    simp

/-- Paths of the same directory come in the order of the names that lead on from there. -/
theorem join_before (text : p.text ≠ "") (named : ∀ name ∈ names, IsName name)
    (namedToo : ∀ name ∈ others, IsName name) (before : List.Lex ByteOrder.Before names others) :
    (p.join names).Before (p.join others) := by
  have texts (names : List String) : (names.map Component.name).map Component.text = names := by
    rw [List.map_map]
    exact List.map_id names
  rw [Before, components_join text named, components_join text namedToo, List.map_append,
    List.map_append, texts, texts]
  exact .append_left _ before _

end Path

namespace Walk

/-! ## The entries of a directory -/

theorem insertByName_perm (entry : String × Bool) (entries : List (String × Bool)) :
    (insertByName entry entries).Perm (entry :: entries) := by
  induction entries with
  | nil => exact .refl _
  | cons other rest ih =>
    rw [insertByName]
    split_ifs
    · exact (ih.cons other).trans (.swap entry other rest)
    · exact .refl _

theorem arrange_perm (entries : List (String × Bool)) : (arrange entries).Perm entries := by
  induction entries with
  | nil => exact .refl _
  | cons entry rest ih => exact (insertByName_perm entry (arrange rest)).trans (ih.cons entry)

/-- The entries stand in the order of their names, each name once. -/
def Arranged (entries : List (String × Bool)) : Prop :=
  entries.Pairwise fun entry later => ByteOrder.Before entry.1 later.1

theorem Arranged.insertByName {entry : String × Bool} {entries : List (String × Bool)}
    (arranged : Arranged entries) (fresh : ∀ other ∈ entries, other.1 ≠ entry.1) :
    Arranged (insertByName entry entries) := by
  induction entries with
  | nil => exact List.pairwise_singleton _ _
  | cons other rest ih =>
    obtain ⟨first, arranged⟩ := List.pairwise_cons.1 arranged
    obtain ⟨differs, fresh⟩ := List.forall_mem_cons.1 fresh
    rw [Walk.insertByName]
    split_ifs with earlier
    · refine List.pairwise_cons.2 ⟨fun later member => ?_, ih arranged fresh⟩
      obtain rfl | member := List.mem_cons.1 ((insertByName_perm entry rest).mem_iff.1 member)
      · exact earlier
      · exact first later member
    · have before : ByteOrder.Before entry.1 other.1 := by
        by_contra not
        exact differs (ByteOrder.eq_of_not_before earlier not)
      refine List.pairwise_cons.2 ⟨fun later member => ?_, List.pairwise_cons.2 ⟨first, arranged⟩⟩
      obtain rfl | member := List.mem_cons.1 member
      · exact before
      · exact ByteOrder.trans before (first later member)

theorem arrange_arranged {entries : List (String × Bool)} (once : (entries.map Prod.fst).Nodup) :
    Arranged (arrange entries) := by
  induction entries with
  | nil => exact .nil
  | cons entry rest ih =>
    obtain ⟨fresh, once⟩ := List.nodup_cons.1 once
    refine (ih once).insertByName fun other member same => fresh ?_
    exact List.mem_map.2 ⟨other, (arrange_perm rest).mem_iff.1 member, same⟩

/-! ## Lists in order -/

/-- The list holds exactly the chains of names with some property, in the order of their bytes. -/
structure Enumerates (P : List String → Prop) (files : List (List String)) : Prop where
  mem_iff : ∀ names, names ∈ files ↔ P names
  sorted : files.Pairwise (List.Lex ByteOrder.Before)

namespace Enumerates

variable {P Q : List String → Prop} {files others : List (List String)}

theorem nodup (listed : Enumerates P files) : files.Nodup :=
  listed.sorted.imp fun {_ b} before same =>
    List.lex_irrefl ByteOrder.irrefl b ((congrArg (List.Lex ByteOrder.Before · b) same).mp before)

/-- Only one list holds the chains with a property in order. -/
theorem unique (listed : Enumerates P files) (listedToo : Enumerates P others) :
    files = others := by
  refine List.Perm.eq_of_pairwise (fun a b _ _ early late => ?_) listed.sorted listedToo.sorted
    ((List.perm_ext_iff_of_nodup listed.nodup listedToo.nodup).2 fun names => ?_)
  · exact absurd (List.lex_trans @ByteOrder.trans early late) (List.lex_irrefl ByteOrder.irrefl a)
  · rw [listed.mem_iff, listedToo.mem_iff]

theorem congr (listed : Enumerates P files) (same : ∀ names, P names ↔ Q names) :
    Enumerates Q files :=
  ⟨fun names => (listed.mem_iff names).trans (same names), listed.sorted⟩

theorem single (names : List String) : Enumerates (· = names) [names] :=
  ⟨fun _ => List.mem_singleton, List.pairwise_singleton _ _⟩

theorem filter (listed : Enumerates P files) (kept : List String → Bool) :
    Enumerates (fun names => P names ∧ kept names = true) (files.filter kept) where
  mem_iff names := by rw [List.mem_filter, listed.mem_iff]
  sorted := listed.sorted.filter _

theorem nil (nothing : ∀ names, ¬ P names) : Enumerates P [] :=
  ⟨fun names => by simp [nothing names], .nil⟩

theorem append (listed : Enumerates P files) (listedToo : Enumerates Q others)
    (before : ∀ a b, P a → Q b → List.Lex ByteOrder.Before a b) :
    Enumerates (fun names => P names ∨ Q names) (files ++ others) where
  mem_iff names := by rw [List.mem_append, listed.mem_iff, listedToo.mem_iff]
  sorted := List.pairwise_append.2 ⟨listed.sorted, listedToo.sorted, fun a early b late =>
    before a b ((listed.mem_iff a).1 early) ((listedToo.mem_iff b).1 late)⟩

/-- With the same name in front of all chains. -/
theorem cons (listed : Enumerates P files) (name : String) :
    Enumerates (fun names => ∃ rest, names = name :: rest ∧ P rest) (files.map (name :: ·)) where
  mem_iff names := by
    rw [List.mem_map]
    constructor
    · rintro ⟨rest, member, rfl⟩
      exact ⟨rest, rfl, (listed.mem_iff rest).1 member⟩
    · rintro ⟨rest, rfl, holds⟩
      exact ⟨rest, (listed.mem_iff rest).2 holds, rfl⟩
  sorted := List.pairwise_map.2 (listed.sorted.imp .cons)

end Enumerates

end Walk
end Conformance
