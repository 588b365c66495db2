import Conformance.Proofs.Locations
import Conformance.Walk

/-!
# Directories that can be listed

A walk scans each directory that it comes to before it goes on. Main statement: it can scan all of
them exactly if none has a path that is too long, none is closed, and the system tells of each entry
whether it is a directory.
-/

namespace Conformance

namespace FileTree

variable {tree other : FileTree} {entries others : List (String × FileTree)}

/-- Whether the system tells if this is a directory. -/
def isTold : FileTree → Bool
  | closed _ told => told.isSome
  | _ => true

theorem kind_eq_ok_iff {isDirectory : Bool} :
    tree.kind = .ok isDirectory ↔ tree.isTold = true ∧ tree.isDirectory = isDirectory := by
  cases tree with
  | closed error told => cases told <;> simp [kind, isTold, FileTree.isDirectory]
  | _ => simp [kind, isTold, FileTree.isDirectory]

/-- The system lists the directory, and tells of each entry whether it is a directory. -/
def Open (tree : FileTree) : Prop :=
  ∃ entries, tree = .directory entries ∧ ∀ entry ∈ entries, entry.2.isTold = true

namespace Relisted

theorem isTold_eq (relisted : Relisted tree other) : tree.isTold = other.isTold := by
  obtain rfl | ⟨entries, others, rfl, rfl, -⟩ := relisted.eq_or_names
  · rfl
  · rfl

/-- The order in which directories are listed makes no difference. -/
theorem open_of_open (relisted : Relisted tree other) (isOpen : tree.Open) : other.Open := by
  induction relisted with
  | refl tree => exact isOpen
  | here same =>
    obtain ⟨_, listed, told⟩ := isOpen
    obtain rfl := FileTree.directory.inj listed
    exact ⟨_, rfl, fun entry member => told entry (same.mem_iff.2 member)⟩
  | inside before name relisted after _ =>
    obtain ⟨_, listed, told⟩ := isOpen
    obtain rfl := FileTree.directory.inj listed
    refine ⟨_, rfl, ?_⟩
    rw [List.forall_mem_append, List.forall_mem_cons] at told ⊢
    exact ⟨told.1, relisted.isTold_eq ▸ told.2.1, told.2.2⟩
  | trans _ _ early late => exact late (early isOpen)

end Relisted
end FileTree

namespace Walk

open FileTree (WellNamed IsName Relisted)

variable {ignored : List String} {disk other : Disk} {root path : Path} {tree item : FileTree}
  {entries : List (String × FileTree)} {name : String} {names : List String}

/-! ## Scans -/

/-- The entries of a directory as a scan shows them. -/
def kinds (entries : List (String × FileTree)) : List (String × Bool) :=
  entries.map fun entry => (entry.1, entry.2.isDirectory)

theorem tell_of_told (told : ∀ entry ∈ entries, entry.2.isTold = true) :
    tell path (entries.map fun entry => (entry.1, entry.2.kind)) = .ok (kinds entries) := by
  induction entries with
  | nil => rfl
  | cons entry rest ih =>
    obtain ⟨here, told⟩ := List.forall_mem_cons.1 told
    have kind : entry.2.kind = .ok entry.2.isDirectory := FileTree.kind_eq_ok_iff.2 ⟨here, rfl⟩
    rw [List.map_cons, kind, tell, ih told]
    rfl

theorem told_of_tell {listed : List (String × Bool)}
    (tells : tell path (entries.map fun entry => (entry.1, entry.2.kind)) = .ok listed) :
    ∀ entry ∈ entries, entry.2.isTold = true := by
  induction entries generalizing listed with
  | nil => simp
  | cons entry rest ih =>
    rw [List.map_cons] at tells
    cases kind : entry.2.kind with
    | error error =>
      rw [kind, tell] at tells
      cases tells
    | ok isDirectory =>
      rw [kind, tell] at tells
      cases tellsToo : tell path (rest.map fun entry => (entry.1, entry.2.kind)) with
      | error refused =>
        rw [tellsToo] at tells
        cases tells
      | ok more =>
        exact List.forall_mem_cons.2 ⟨(FileTree.kind_eq_ok_iff.1 kind).1, ih tellsToo⟩

theorem scan_eq_ok_iff {listed : List (String × Bool)} :
    scan disk path = .ok listed ↔ ∃ entries, disk.look path = .ok (.directory entries) ∧
      (∀ entry ∈ entries, entry.2.isTold = true) ∧ listed = kinds entries := by
  constructor
  · intro scanned
    rw [scan] at scanned
    cases lists : disk.list path with
    | error cause =>
      rw [lists] at scanned
      cases scanned
    | ok entries =>
      obtain ⟨entries, found, rfl⟩ := Disk.look_of_list lists
      rw [lists] at scanned
      have told := told_of_tell scanned
      exact ⟨entries, found, told, Except.ok.inj (scanned.symm.trans (tell_of_told told))⟩
  · rintro ⟨entries, found, told, rfl⟩
    rw [scan, Disk.list_eq found]
    exact tell_of_told told

theorem scan_eq (found : disk.look path = .ok (.directory entries))
    (told : ∀ entry ∈ entries, entry.2.isTold = true) : scan disk path = .ok (kinds entries) :=
  scan_eq_ok_iff.2 ⟨entries, found, told, rfl⟩

/-- A directory is scanned under a path that is not empty, and has names that it can list. -/
theorem names_of_scan {listed : List (String × Bool)} (named : WellNamed disk.root)
    (scanned : scan disk path = .ok listed) :
    path.text ≠ "" ∧ ∀ entry ∈ listed, IsName entry.1 := by
  obtain ⟨entries, found, -, rfl⟩ := scan_eq_ok_iff.1 scanned
  obtain ⟨location, leads⟩ := Disk.look_iff_leads.1 found
  refine ⟨leads.text, fun entry member => ?_⟩
  obtain ⟨child, listed, rfl⟩ := List.mem_map.1 member
  exact (named location entries leads.at?).2 child listed

/-! ## All directories that a walk comes to -/

/-- A walk from `root` can scan each directory that it comes to. -/
def Listable (ignored : List String) (disk : Disk) (root : Path) (tree : FileTree) : Prop :=
  ∀ names, (∀ name ∈ names, name ∉ ignored) →
    (tree.at? names).map FileTree.isDirectory = some true →
      ∃ listed, scan disk (root.join names) = .ok listed

/-- No directory that a walk from `root` comes to has a path that is too long for the system, and
    nothing in it is refused. -/
def Reachable (ignored : List String) (root : Path) (tree : FileTree) : Prop :=
  ∀ names item, (∀ name ∈ names, name ∉ ignored) → tree.at? names = some item →
    item.isDirectory = true →
      (root.join names).text.utf8ByteSize < FileTree.pathLimit ∧ item.Open

theorem Listable.entry (listable : Listable ignored disk path (.directory entries))
    (listed : entries.lookup name = some item) (kept : name ∉ ignored) :
    Listable ignored disk (path.entry name) item := by
  intro names keptToo directory
  refine listable (name :: names) (List.forall_mem_cons.2 ⟨kept, keptToo⟩) ?_
  rw [FileTree.at?_directory, listed]
  exact directory

theorem Reachable.entry (reachable : Reachable ignored path (.directory entries))
    (listed : entries.lookup name = some item) (kept : name ∉ ignored) :
    Reachable ignored (path.entry name) item := by
  intro names below keptToo there directory
  refine reachable (name :: names) below (List.forall_mem_cons.2 ⟨kept, keptToo⟩) ?_ directory
  rw [FileTree.at?_directory, listed]
  exact there

theorem Listable.told (listable : Listable ignored disk path (.directory entries))
    (found : disk.look path = .ok (.directory entries)) :
    ∀ entry ∈ entries, entry.2.isTold = true := by
  obtain ⟨listed, scanned⟩ := listable [] (by simp) rfl
  obtain ⟨others, foundToo, told, -⟩ := scan_eq_ok_iff.1 scanned
  obtain rfl := FileTree.directory.inj (Except.ok.inj (found.symm.trans foundToo))
  exact told

theorem notLink_of_isDirectory (directory : item.isDirectory = true) (target : Path) :
    item ≠ .link target := by
  rintro rfl
  cases directory

/-- A directory that the walk comes to is found under its path. -/
theorem Listable.look_entry (listable : Listable ignored disk path (.directory entries))
    (found : disk.look path = .ok (.directory entries)) (named : WellNamed (.directory entries))
    (listed : entries.lookup name = some item) (kept : name ∉ ignored)
    (directory : item.isDirectory = true) :
    ∃ below, item = .directory below ∧ disk.look (path.entry name) = .ok (.directory below) := by
  obtain ⟨_, scanned⟩ := listable.entry listed kept [] (by simp) (congrArg some directory)
  obtain ⟨below, there, -⟩ := scan_eq_ok_iff.1 scanned
  obtain ⟨-, -, short, -⟩ := Disk.look_eq_ok_iff.1 there
  have same := Disk.look_entry found (named.isName listed) listed
    (notLink_of_isDirectory directory) short
  exact ⟨below, Except.ok.inj (same.symm.trans there), there⟩

/-- What stands below an entry stands in a directory. -/
theorem isDirectory_of_at? (there : tree.at? names = some item)
    (directory : item.isDirectory = true) : tree.isDirectory = true := by
  cases names with
  | nil =>
    obtain rfl := Option.some.inj there
    exact directory
  | cons name rest =>
    by_contra file
    rw [FileTree.at?_below_file (Bool.not_eq_true _ ▸ file)] at there
    cases there

theorem Listable.reachable (listable : Listable ignored disk path (.directory entries))
    (found : disk.look path = .ok (.directory entries)) (named : WellNamed (.directory entries)) :
    Reachable ignored path (.directory entries) := by
  intro names item kept there directory
  induction names generalizing path entries with
  | nil =>
    obtain rfl := Option.some.inj there
    obtain ⟨-, -, short, -⟩ := Disk.look_eq_ok_iff.1 found
    exact ⟨short, entries, rfl, listable.told found⟩
  | cons name rest ih =>
    obtain ⟨keptHere, kept⟩ := List.forall_mem_cons.1 kept
    obtain ⟨child, listed, there⟩ := Option.bind_eq_some_iff.1 there
    obtain ⟨below, rfl, foundToo⟩ :=
      listable.look_entry found named listed keptHere (isDirectory_of_at? there directory)
    exact ih (listable.entry listed keptHere) foundToo (named.entry listed) kept there

theorem Reachable.listable (reachable : Reachable ignored path (.directory entries))
    (found : disk.look path = .ok (.directory entries)) (named : WellNamed (.directory entries)) :
    Listable ignored disk path (.directory entries) := by
  intro names kept directory
  induction names generalizing path entries with
  | nil =>
    obtain ⟨-, _, same, told⟩ := reachable [] _ kept rfl rfl
    obtain rfl := FileTree.directory.inj same
    exact ⟨_, scan_eq found told⟩
  | cons name rest ih =>
    obtain ⟨keptHere, kept⟩ := List.forall_mem_cons.1 kept
    obtain ⟨item, there, kind⟩ := Option.map_eq_some_iff.1 directory
    obtain ⟨child, listed, there⟩ := Option.bind_eq_some_iff.1 there
    have parent := isDirectory_of_at? there kind
    have reachableToo := reachable.entry listed keptHere
    obtain ⟨short, below, rfl, -⟩ := reachableToo [] child (by simp) rfl parent
    have foundToo :=
      Disk.look_entry found (named.isName listed) listed (notLink_of_isDirectory parent) short
    refine ih reachableToo foundToo (named.entry listed) kept ?_
    rw [there, Option.map_some, kind]

/-- Each directory that a walk comes to can be listed exactly if none of their paths is too long,
    none of them is closed, and the system tells what kind of thing each entry is. -/
theorem listable_iff (found : disk.look root = .ok (.directory entries))
    (named : WellNamed (.directory entries)) :
    Listable ignored disk root (.directory entries) ↔
      Reachable ignored root (.directory entries) :=
  ⟨fun listable => listable.reachable found named, fun reachable => reachable.listable found named⟩

theorem Reachable.relisted (reachable : Reachable ignored root tree) (named : WellNamed tree)
    {later : FileTree} (relisted : Relisted tree later) : Reachable ignored root later := by
  intro names item kept there directory
  have same := relisted.everywhere named names
  rw [there] at same
  generalize place : tree.at? names = held at same
  cases same with
  | some relisted =>
    obtain ⟨short, isOpen⟩ := reachable names _ kept place (relisted.isDirectory_eq.trans directory)
    exact ⟨short, relisted.open_of_open isOpen⟩

/-! ## Small trees -/

theorem Reachable.of_file (file : item.isDirectory = false) : Reachable ignored path item := by
  intro names below _ there directory
  exact absurd (isDirectory_of_at? there directory) (by simp [file])

theorem Reachable.of_entries (short : path.text.utf8ByteSize < FileTree.pathLimit)
    (each : ∀ entry ∈ entries,
      entry.2.isTold = true ∧ Reachable ignored (path.entry entry.1) entry.2) :
    Reachable ignored path (.directory entries) := by
  rintro (_ | ⟨name, rest⟩) item kept there directory
  · obtain rfl := Option.some.inj there
    exact ⟨short, entries, rfl, fun entry member => (each entry member).1⟩
  · obtain ⟨child, listed, below⟩ := Option.bind_eq_some_iff.1 there
    obtain ⟨before, after, rfl, -⟩ := List.lookup_eq_some_iff.1 listed
    exact (each (name, child) (by simp)).2 rest item (List.forall_mem_cons.1 kept).2 below directory

end Walk
end Conformance
