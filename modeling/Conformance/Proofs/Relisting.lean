import Conformance.Proofs.Descending

/-!
# Trees that are listed in another order

Two trees can hold the same things at the same places and differ only in the order in which their
directories list them. Main statement: such trees have files at the same places, and directories at
the same places.
-/

namespace Conformance.FileTree

variable {tree other item : FileTree} {entries others : List (String × FileTree)} {name : String}

/-- Each directory lists names that it can list, and none of them twice. -/
def WellNamed (tree : FileTree) : Prop :=
  ∀ location entries, tree.at? location = some (.directory entries) →
    (entries.map Prod.fst).Nodup ∧ ∀ entry ∈ entries, IsName entry.1

/-! ## What stands at a place -/

theorem at?_nil (tree : FileTree) : tree.at? [] = some tree := rfl

theorem at?_directory (entries : List (String × FileTree)) (name : String) (rest : List String) :
    (directory entries).at? (name :: rest) = (entries.lookup name).bind (at? rest) := rfl

/-- There is nothing below what is no directory. -/
theorem at?_below_file (file : tree.isDirectory = false) (name : String) (rest : List String) :
    tree.at? (name :: rest) = none := by
  cases tree with
  | directory entries => cases file
  | _ => rfl

/-- A directory that lists no name twice lists each entry under its name. -/
theorem lookup_eq_some_iff (once : (entries.map Prod.fst).Nodup) :
    entries.lookup name = some item ↔ (name, item) ∈ entries := by
  induction entries with
  | nil => simp
  | cons entry rest ih =>
    obtain ⟨first, child⟩ := entry
    obtain ⟨fresh, once⟩ := List.nodup_cons.1 once
    by_cases here : name = first
    · subst here
      have gone : (name, item) ∉ rest := fun listed =>
        fresh (List.mem_map.2 ⟨(name, item), listed, rfl⟩)
      simp [gone, eq_comm]
    · have differs : (name == first) = false := beq_eq_false_iff_ne.2 here
      simp [List.lookup_cons, differs, ih once, here]

/-- Under which name something is listed does not depend on the order. -/
theorem lookup_eq_of_perm (once : (entries.map Prod.fst).Nodup) (same : entries.Perm others)
    (name : String) : entries.lookup name = others.lookup name := by
  ext item
  have onceToo : (others.map Prod.fst).Nodup := (same.map Prod.fst).nodup_iff.1 once
  rw [lookup_eq_some_iff once, lookup_eq_some_iff onceToo, same.mem_iff]

namespace WellNamed

theorem nodup (named : WellNamed (.directory entries)) : (entries.map Prod.fst).Nodup :=
  (named [] entries rfl).1

theorem isName (named : WellNamed (.directory entries)) (listed : entries.lookup name = some item) :
    IsName name :=
  (named [] entries rfl).2 _ ((lookup_eq_some_iff named.nodup).1 listed)

theorem entry (named : WellNamed (.directory entries)) (listed : entries.lookup name = some item) :
    WellNamed item := by
  intro location below found
  refine named (name :: location) below ?_
  rw [at?_directory, listed]
  exact found

theorem of_file (file : tree.isDirectory = false) : WellNamed tree := by
  rintro (_ | ⟨name, rest⟩) entries found
  · obtain rfl := Option.some.inj found
    cases file
  · rw [at?_below_file file] at found
    cases found

theorem of_entries (once : (entries.map Prod.fst).Nodup)
    (each : ∀ entry ∈ entries, IsName entry.1 ∧ WellNamed entry.2) :
    WellNamed (.directory entries) := by
  rintro (_ | ⟨name, rest⟩) below found
  · obtain rfl := FileTree.directory.inj (Option.some.inj found)
    exact ⟨once, fun entry listed => (each entry listed).1⟩
  · obtain ⟨item, listed, found⟩ := Option.bind_eq_some_iff.1 found
    exact (each _ ((lookup_eq_some_iff once).1 listed)).2 rest below found

/-- The names that lead somewhere are names that a directory can list. -/
theorem isName_of_at? {names : List String} (named : WellNamed tree)
    (found : tree.at? names = some item) : ∀ name ∈ names, IsName name := by
  induction names generalizing tree with
  | nil => simp
  | cons first rest ih =>
    cases tree with
    | directory entries =>
      obtain ⟨child, listed, found⟩ := Option.bind_eq_some_iff.1 found
      rw [List.forall_mem_cons]
      exact ⟨named.isName listed, ih (named.entry listed) found⟩
    | _ => cases found

end WellNamed

/-! ## Listing in another order -/

/-- One tree is the other one with some directories listed in another order. -/
inductive Relisted : FileTree → FileTree → Prop
  | refl (tree : FileTree) : Relisted tree tree
  /-- The tree itself is listed in another order. -/
  | here {entries others : List (String × FileTree)} (same : entries.Perm others) :
      Relisted (.directory entries) (.directory others)
  /-- An entry of the tree is. -/
  | inside (before : List (String × FileTree)) (name : String) {child other : FileTree}
      (relisted : Relisted child other) (after : List (String × FileTree)) :
      Relisted (.directory (before ++ (name, child) :: after))
        (.directory (before ++ (name, other) :: after))
  | trans {first second third : FileTree} (early : Relisted first second)
      (late : Relisted second third) : Relisted first third

namespace Relisted

/-- Only directories are listed, and they list the same names. -/
theorem eq_or_names (relisted : Relisted tree other) :
    tree = other ∨ ∃ entries others, tree = .directory entries ∧ other = .directory others ∧
      (entries.map Prod.fst).Perm (others.map Prod.fst) := by
  induction relisted with
  | refl tree => exact .inl rfl
  | here same => exact .inr ⟨_, _, rfl, rfl, same.map Prod.fst⟩
  | inside before name _ after _ => exact .inr ⟨_, _, rfl, rfl, by simp⟩
  | trans _ _ early late =>
    obtain rfl | ⟨entries, others, rfl, rfl, same⟩ := early
    · exact late
    obtain rfl | ⟨_, others', listed, rfl, sameToo⟩ := late
    · exact .inr ⟨entries, others, rfl, rfl, same⟩
    · obtain rfl := FileTree.directory.inj listed
      exact .inr ⟨entries, others', rfl, rfl, same.trans sameToo⟩

theorem isDirectory_eq (relisted : Relisted tree other) : tree.isDirectory = other.isDirectory := by
  obtain rfl | ⟨entries, others, rfl, rfl, -⟩ := relisted.eq_or_names
  · rfl
  · rfl

/-- What stands at the same place in both trees is listed in another order itself. -/
def Everywhere (tree other : FileTree) : Prop :=
  ∀ names, Option.Rel Relisted (tree.at? names) (other.at? names)

namespace Everywhere

theorem refl (tree : FileTree) : Everywhere tree tree := by
  intro names
  cases tree.at? names with
  | none => exact .none
  | some item => exact .some (.refl item)

theorem trans {last : FileTree} (early : Everywhere tree other) (late : Everywhere other last) :
    Everywhere tree last := by
  intro names
  have first := early names
  have second := late names
  generalize tree.at? names = a at first ⊢
  generalize other.at? names = b at first second
  generalize last.at? names = c at second ⊢
  cases first with
  | none =>
    cases second
    exact .none
  | some first =>
    cases second with
    | some second => exact .some (first.trans second)

theorem wellNamed (same : Everywhere tree other) (named : WellNamed tree) : WellNamed other := by
  intro location others found
  have there := same location
  rw [found] at there
  generalize place : tree.at? location = held at there
  cases there with
  | some relisted =>
    obtain rfl | ⟨entries, _, rfl, listed, names⟩ := relisted.eq_or_names
    · exact named location others place
    · obtain rfl := FileTree.directory.inj listed
      obtain ⟨once, proper⟩ := named location entries place
      refine ⟨names.nodup_iff.1 once, fun entry listed => ?_⟩
      have early : entry.1 ∈ entries.map Prod.fst := names.mem_iff.2 (List.mem_map_of_mem listed)
      obtain ⟨same, listed, equal⟩ := List.mem_map.1 early
      exact equal ▸ proper same listed

end Everywhere

theorem everywhere (relisted : Relisted tree other) (named : WellNamed tree) :
    Everywhere tree other := by
  induction relisted with
  | refl tree => exact .refl tree
  | here same =>
    rintro (_ | ⟨name, rest⟩)
    · exact .some (.here same)
    · rw [at?_directory, at?_directory, lookup_eq_of_perm named.nodup same]
      exact Everywhere.refl (.directory _) (name :: rest)
  | @inside before name child other relisted after ih =>
    rintro (_ | ⟨first, rest⟩)
    · exact .some (.inside before name relisted after)
    rw [at?_directory, at?_directory, List.lookup_append, List.lookup_append]
    cases early : before.lookup first with
    | some item => exact Everywhere.refl item rest
    | none =>
      by_cases here : first = name
      · subst here
        have listed : (before ++ (first, child) :: after).lookup first = some child := by
          simp [List.lookup_append, early]
        simpa using ih (named.entry listed) rest
      · have differs : (first == name) = false := beq_eq_false_iff_ne.2 here
        simp only [List.lookup_cons, differs, Option.none_or]
        cases after.lookup first with
        | none => exact .none
        | some item => exact Everywhere.refl item rest
  | trans _ _ early late =>
    exact (early named).trans (late ((early named).wellNamed named))

/-- Whether something stands at a place, and whether it is a directory, does not depend on the order
    in which directories are listed. -/
theorem isDirectory_at? (relisted : Relisted tree other) (named : WellNamed tree)
    (names : List String) :
    (tree.at? names).map isDirectory = (other.at? names).map isDirectory := by
  have same := relisted.everywhere named names
  generalize tree.at? names = a at same ⊢
  generalize other.at? names = b at same ⊢
  cases same with
  | none => rfl
  | some relisted => exact congrArg some relisted.isDirectory_eq

end Relisted
end Conformance.FileTree
