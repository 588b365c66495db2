import Conformance.Proofs.Reading
import Conformance.Proofs.VisitOrder

/-!
# Trees with fewer files

`thin` takes away files of a tree and leaves all directories where they are. Main statements: what
is left stands where it stood, and a disk on which a walk comes to its end is still such a disk when
it holds only one of its files, which reads as before. What the system refuses to open is as closed
as it was.
-/

namespace Conformance

namespace FileTree

mutual

/-- The tree without the files that are not to be kept, of which all directories are. -/
def thin (keep : List String → Bool) : FileTree → FileTree
  | .directory entries => .directory (thinEntries keep entries)
  | tree => tree

/-- The entries of a directory without the files that are not to be kept. -/
def thinEntries (keep : List String → Bool) : List (String × FileTree) → List (String × FileTree)
  | [] => []
  | (name, child) :: rest =>
    if child.isDirectory || keep [name] then
      (name, thin (fun names => keep (name :: names)) child) :: thinEntries keep rest
    else thinEntries keep rest

end

variable {keep : List String → Bool} {tree item : FileTree} {entries : List (String × FileTree)}
  {name : String}

theorem thin_directory (keep : List String → Bool) (entries : List (String × FileTree)) :
    thin keep (.directory entries) = .directory (thinEntries keep entries) := rfl

theorem thin_of_file (file : tree.isDirectory = false) : thin keep tree = tree := by
  cases tree with
  | directory entries => cases file
  | _ => rfl

theorem isDirectory_thin (keep : List String → Bool) (tree : FileTree) :
    (thin keep tree).isDirectory = tree.isDirectory := by
  cases tree <;> rfl

theorem isTold_thin (keep : List String → Bool) (tree : FileTree) :
    (thin keep tree).isTold = tree.isTold := by
  cases tree <;> rfl

/-- Each entry that is left is one of those that were there, perhaps with fewer files. -/
theorem exists_of_mem_thinEntries {entry : String × FileTree}
    (member : entry ∈ thinEntries keep entries) :
    ∃ child keep, (entry.1, child) ∈ entries ∧ entry.2 = thin keep child := by
  induction entries with
  | nil => cases member
  | cons first rest ih =>
    obtain ⟨name, child⟩ := first
    rw [thinEntries] at member
    split_ifs at member
    · rcases List.mem_cons.1 member with rfl | later
      · exact ⟨child, _, List.mem_cons_self, rfl⟩
      · obtain ⟨child, keep, listed, thinned⟩ := ih later
        exact ⟨child, keep, List.mem_cons_of_mem _ listed, thinned⟩
    · obtain ⟨child, keep, listed, thinned⟩ := ih member
      exact ⟨child, keep, List.mem_cons_of_mem _ listed, thinned⟩

theorem Open.thin (isOpen : tree.Open) (keep : List String → Bool) : (thin keep tree).Open := by
  obtain ⟨entries, rfl, told⟩ := isOpen
  refine ⟨_, rfl, fun entry member => ?_⟩
  obtain ⟨child, _, listed, thinned⟩ := exists_of_mem_thinEntries member
  rw [thinned, isTold_thin]
  exact told _ listed

theorem names_thinEntries (keep : List String → Bool) (entries : List (String × FileTree)) :
    ((thinEntries keep entries).map Prod.fst).Sublist (entries.map Prod.fst) := by
  induction entries with
  | nil => exact .slnil
  | cons entry rest ih =>
    obtain ⟨name, child⟩ := entry
    rw [thinEntries]
    split_ifs
    · exact ih.cons_cons name
    · exact ih.cons name

theorem lookup_thinEntries (once : (entries.map Prod.fst).Nodup) (name : String) :
    (thinEntries keep entries).lookup name = (entries.lookup name).bind fun child =>
      if child.isDirectory || keep [name] then
        some (thin (fun names => keep (name :: names)) child)
      else none := by
  induction entries with
  | nil => rfl
  | cons entry rest ih =>
    obtain ⟨first, child⟩ := entry
    obtain ⟨fresh, later⟩ := List.nodup_cons.1 once
    rw [thinEntries]
    by_cases here : name = first
    · subst here
      have gone : rest.lookup name = none := List.lookup_eq_none_iff.2 fun other member =>
        bne_iff_ne.2 fun same => fresh (List.mem_map.2 ⟨other, member, same.symm⟩)
      rw [List.lookup_cons_self, Option.bind_some]
      split_ifs
      · rw [List.lookup_cons_self]
      · rw [ih later, gone, Option.bind_none]
    · have differs : (name == first) = false := beq_eq_false_iff_ne.2 here
      rw [List.lookup_cons, differs]
      split_ifs
      · rw [List.lookup_cons, differs]
        exact ih later
      · exact ih later

/-- What stands at a place is still there if it is a directory or to be kept. -/
theorem at?_thin (named : WellNamed tree) (names : List String) :
    (thin keep tree).at? names = (tree.at? names).bind fun item =>
      if names = [] ∨ item.isDirectory ∨ keep names then
        some (thin (fun rest => keep (names ++ rest)) item)
      else none := by
  induction names generalizing tree keep with
  | nil => simp [at?_nil]
  | cons name rest ih =>
    cases tree with
    | directory entries =>
      rw [thin_directory, at?_directory, at?_directory, lookup_thinEntries named.nodup]
      cases listed : entries.lookup name with
      | none => rfl
      | some child =>
        rw [Option.bind_some, Option.bind_some]
        cases rest with
        | nil => split_ifs <;> simp_all [at?_nil]
        | cons next rest =>
          split_ifs with kept
          · rw [Option.bind_some, ih (named.entry listed)]
            simp
          · obtain ⟨file, -⟩ : child.isDirectory = false ∧ keep [name] = false := by
              simpa using kept
            rw [at?_below_file file, Option.bind_none]
            rfl
    | _ => rfl

theorem WellNamed.at? (named : WellNamed tree) {location : List String}
    (there : tree.at? location = some item) : WellNamed item := by
  intro names entries found
  refine named (location ++ names) entries ?_
  rw [at?_append, there]
  exact found

theorem WellNamed.thin (named : WellNamed tree) (keep : List String → Bool) :
    WellNamed (thin keep tree) := by
  intro location entries found
  rw [at?_thin named] at found
  obtain ⟨item, there, kept⟩ := Option.bind_eq_some_iff.1 found
  split_ifs at kept
  cases item with
  | directory others =>
    obtain rfl := FileTree.directory.inj (Option.some.inj kept)
    obtain ⟨once, proper⟩ := named location others there
    have fewer := names_thinEntries (fun rest => keep (location ++ rest)) others
    refine ⟨fewer.nodup once, fun entry member => ?_⟩
    obtain ⟨same, listed, equal⟩ :=
      List.mem_map.1 (fewer.subset (List.mem_map_of_mem (f := Prod.fst) member))
    exact equal ▸ proper same listed
  | _ => cases Option.some.inj kept

/-- What is no directory stands where it stood if it is to be kept. -/
theorem at?_thin_file (named : WellNamed tree) {names : List String}
    (file : item.isDirectory = false) : (thin keep tree).at? names = some item ↔
      tree.at? names = some item ∧ (names = [] ∨ keep names = true) := by
  rw [at?_thin named, Option.bind_eq_some_iff]
  constructor
  · rintro ⟨other, there, kept⟩
    split_ifs at kept with stays
    have same := Option.some.inj kept
    have fileToo : other.isDirectory = false := by
      rw [← same, isDirectory_thin] at file
      exact file
    rw [thin_of_file fileToo] at same
    obtain rfl := same
    exact ⟨there, by simpa [file] using stays⟩
  · rintro ⟨there, stays⟩
    have kept : names = [] ∨ item.isDirectory ∨ keep names := by simpa [file] using stays
    exact ⟨item, there, by rw [if_pos kept, thin_of_file file]⟩

theorem isDirectory_at?_thin (named : WellNamed tree) (names : List String) :
    ((thin keep tree).at? names).map isDirectory = some true ↔
      (tree.at? names).map isDirectory = some true := by
  rw [at?_thin named]
  cases tree.at? names with
  | none => rfl
  | some item =>
    rw [Option.bind_some]
    by_cases kept : names = [] ∨ item.isDirectory ∨ keep names
    · rw [if_pos kept, Option.map_some, Option.map_some, isDirectory_thin]
    · rw [if_neg kept]
      simp_all

/-- No link stands in the tree. -/
def Linkless (tree : FileTree) : Prop := ∀ location target, tree.at? location ≠ some (.link target)

theorem Linkless.thin (linkless : Linkless tree) (named : WellNamed tree)
    (keep : List String → Bool) : Linkless (thin keep tree) := fun location target there =>
  linkless location target ((at?_thin_file named rfl).1 there).1

theorem Linkless.file (number : Nat) : Linkless (.file number) := by
  rintro (_ | ⟨name, rest⟩) target there
  · cases there
  · cases there

theorem Linkless.of_entries (once : (entries.map Prod.fst).Nodup)
    (each : ∀ entry ∈ entries, Linkless entry.2) : Linkless (.directory entries) := by
  rintro (_ | ⟨name, rest⟩) target there
  · cases there
  · obtain ⟨child, listed, there⟩ := Option.bind_eq_some_iff.1 there
    exact each _ ((lookup_eq_some_iff once).1 listed) rest target there

theorem Linkless.entry {name : String} (linkless : Linkless (.directory entries))
    (listed : entries.lookup name = some item) : Linkless item := by
  intro location target there
  refine linkless (name :: location) target ?_
  rw [at?_directory, listed]
  exact there

/-- A tree has the same directories as without some files, and the same links if none is a link. -/
theorem frames_thin (named : WellNamed tree)
    (links : ∀ location target, tree.at? location = some (.link target) →
      keep location = true) : Frames tree (thin keep tree) where
  directories location entries there := by
    rw [at?_thin named, there, Option.bind_some, if_pos (.inr (.inl rfl))]
    exact ⟨_, rfl⟩
  closed location error there := by
    rw [at?_thin named, there, Option.bind_some, if_pos (.inr (.inl rfl))]
    rfl
  links location target := by
    rw [at?_thin_file named rfl]
    exact ⟨fun there => ⟨there, .inr (links location target there)⟩, And.left⟩

end FileTree

namespace Walk

open FileTree

variable {ignored : List String} {root : Path} {disk : Disk} {location names : List String}
  {entries : List (String × FileTree)} {item : FileTree} {path : Path}

theorem leadsToFile_thin {tree : FileTree} {keep : List String → Bool} (named : WellNamed tree) :
    LeadsToFile ignored (thin keep tree) names ↔
      LeadsToFile ignored tree names ∧ keep names = true := by
  constructor
  · intro leads
    obtain ⟨item, there, file⟩ := Option.map_eq_some_iff.1 leads.file
    obtain ⟨thereToo, kept⟩ := (at?_thin_file named file).1 there
    refine ⟨⟨leads.below, leads.kept, ?_⟩, kept.resolve_left leads.below⟩
    rw [thereToo, Option.map_some, file]
  · rintro ⟨leads, kept⟩
    obtain ⟨item, there, file⟩ := Option.map_eq_some_iff.1 leads.file
    refine ⟨leads.below, leads.kept, ?_⟩
    rw [(at?_thin_file named file).2 ⟨there, .inr kept⟩, Option.map_some, file]

theorem Reachable.thin {tree : FileTree} (reachable : Reachable ignored root tree)
    (named : WellNamed tree) (keep : List String → Bool) :
    Reachable ignored root (thin keep tree) := by
  intro names item kept there directory
  rw [at?_thin named] at there
  obtain ⟨whole, found, thinned⟩ := Option.bind_eq_some_iff.1 there
  split_ifs at thinned
  obtain rfl := Option.some.inj thinned
  rw [isDirectory_thin] at directory
  obtain ⟨short, isOpen⟩ := reachable names whole kept found directory
  exact ⟨short, isOpen.thin _⟩

/-- On a disk with a tree without links that a walk comes to the end of, the path of a file leads to
    it, unless the path is too long. -/
theorem look_join (found : disk.look path = .ok (.directory entries))
    (named : WellNamed (.directory entries)) (linkless : Linkless (.directory entries))
    (listable : Listable ignored disk path (.directory entries))
    (kept : ∀ name ∈ names, name ∉ ignored) (below : names ≠ [])
    (there : (directory entries).at? names = some item) :
    disk.look (path.join names) =
      if (path.join names).text.utf8ByteSize < pathLimit then .ok item
      else .error (.system .nameTooLong) := by
  induction names generalizing path entries with
  | nil => exact absurd rfl below
  | cons name rest ih =>
    obtain ⟨keptHere, kept⟩ := List.forall_mem_cons.1 kept
    obtain ⟨child, listed, there⟩ := Option.bind_eq_some_iff.1 there
    have proper := named.isName listed
    have linklessToo := linkless.entry listed
    have notLink (target : Path) : child ≠ .link target := by
      rintro rfl
      exact linklessToo [] target rfl
    cases rest with
    | nil =>
      obtain rfl := Option.some.inj there
      rw [Path.join_cons, Path.join_nil]
      split_ifs with short
      · exact Disk.look_entry found proper listed notLink short
      · obtain ⟨noNul, -⟩ := Disk.look_eq_ok_iff.1 found
        exact Disk.look_of_long (Disk.noNul_entry noNul proper.noNul) (Nat.not_lt.1 short)
    | cons next rest =>
      have directory : child.isDirectory = true := by
        by_contra file
        rw [at?_below_file (Bool.not_eq_true _ ▸ file)] at there
        cases there
      obtain ⟨others, rfl, foundToo⟩ := listable.look_entry found named listed keptHere directory
      exact ih foundToo (named.entry listed) linklessToo (listable.entry listed keptHere) kept
        (by simp) there

/-- A disk on which the root of a walk stands at some place. The tree there has no links, and the
    walk comes to its end: each directory that it comes to can be listed. -/
structure Clear (ignored : List String) (root : Path) (disk : Disk) (location : List String)
    (entries : List (String × FileTree)) : Prop where
  leads : disk.Leads root location (.directory entries)
  named : WellNamed disk.root
  linkless : Linkless (.directory entries)
  working : (disk.root.at? disk.working).map FileTree.isDirectory = some true
  listable : Listable ignored disk root (.directory entries)

end Walk

namespace Disk

/-- The disk without the other files in the directory at `location`. All directories stay, as the
    path of the root can lead through them. -/
def keepOnly (disk : Disk) (location names : List String) : Disk :=
  { disk with
    root := disk.root.thin fun place => location <+: place → place = location ++ names }

end Disk

namespace Walk.Clear

open FileTree

variable {ignored : List String} {root : Path} {disk : Disk} {location names : List String}
  {entries : List (String × FileTree)} {item : FileTree}

theorem found (clear : Clear ignored root disk location entries) :
    disk.look root = .ok (.directory entries) :=
  Disk.look_iff_leads.2 ⟨location, clear.leads⟩

theorem namedEntries (clear : Clear ignored root disk location entries) :
    WellNamed (.directory entries) :=
  clear.named.at? clear.leads.at?

theorem leads_keepOnly (clear : Clear ignored root disk location entries) (names : List String) :
    (disk.keepOnly location names).Leads root location
      (.directory (thinEntries (· = names) entries)) := by
  refine clear.leads.congr (frames_thin clear.named fun place target there => ?_) ?_
    clear.working rfl
  · refine decide_eq_true ?_
    rintro ⟨rest, rfl⟩
    rw [at?_append, clear.leads.at?] at there
    exact absurd there (clear.linkless rest target)
  · have same : (fun rest => decide (location <+: location ++ rest →
        location ++ rest = location ++ names)) = (· = names) := by
      funext rest
      simp
    rw [Disk.keepOnly, at?_thin clear.named, clear.leads.at?, Option.bind_some,
      if_pos (.inr (.inl rfl)), thin_directory, same]

theorem keepOnly (clear : Clear ignored root disk location entries) (names : List String) :
    Clear ignored root (disk.keepOnly location names) location
      (thinEntries (· = names) entries) where
  leads := clear.leads_keepOnly names
  named := clear.named.thin _
  linkless := clear.linkless.thin clear.namedEntries _
  working := (isDirectory_at?_thin clear.named _).2 clear.working
  listable :=
    have reachable := clear.listable.reachable clear.found clear.namedEntries
    (reachable.thin clear.namedEntries _).listable
      (Disk.look_iff_leads.2 ⟨location, clear.leads_keepOnly names⟩) (clear.namedEntries.thin _)

/-- The one file that is kept is all that is left. -/
theorem leadsToFile_keepOnly (clear : Clear ignored root disk location entries)
    (leads : LeadsToFile ignored (.directory entries) names) (others : List String) :
    LeadsToFile ignored (.directory (thinEntries (· = names) entries)) others ↔ others = names := by
  rw [← thin_directory, leadsToFile_thin clear.namedEntries, decide_eq_true_iff]
  exact ⟨And.right, fun same => ⟨same ▸ leads, same⟩⟩

/-- A file reads the same when it is the only one that is kept. -/
theorem readText_keepOnly (clear : Clear ignored root disk location entries)
    (leads : LeadsToFile ignored (.directory entries) names) :
    (disk.keepOnly location names).readText (root.join names) =
      disk.readText (root.join names) := by
  obtain ⟨item, there, file⟩ := Option.map_eq_some_iff.1 leads.file
  have alone := clear.keepOnly names
  have thereToo : (directory (thinEntries (· = names) entries)).at? names = some item :=
    (at?_thin_file clear.namedEntries file).2 ⟨there, .inr (decide_eq_true rfl)⟩
  refine Disk.readText_congr ?_ rfl rfl
  rw [look_join clear.found clear.namedEntries clear.linkless clear.listable leads.kept leads.below
      there,
    look_join alone.found alone.namedEntries alone.linkless alone.listable leads.kept leads.below
      thereToo]

/-- A disk with a single directory. -/
theorem of_dotted (steps : Nat) (top : disk.root = .directory [("test", .directory entries)])
    (working : disk.working = []) (short : 2 * steps + 4 < pathLimit)
    (named : WellNamed (.directory entries)) (linkless : Linkless (.directory entries))
    (reachable : Reachable ignored (dotted steps) (.directory entries)) :
    Clear ignored (dotted steps) disk ["test"] entries where
  leads := leads_dotted top working short
  named := by
    rw [top]
    have name : IsName "test" := by decide
    refine .of_entries (by simp) ?_
    rw [List.forall_mem_singleton]
    exact ⟨name, named⟩
  linkless := linkless
  working := by
    rw [working, top]
    rfl
  listable :=
    reachable.listable (Disk.look_iff_leads.2 ⟨_, leads_dotted top working short⟩) named

end Walk.Clear
end Conformance
