import Conformance.Proofs.Arranging
import Conformance.Proofs.Replaying
import Conformance.Proofs.Scanning

/-!
# Which files a walk visits, and in which order

A walk that only takes down the paths of its visits shows which files a walk comes to. Main
statement: if each directory that it comes to can be listed, a walk visits each thing below its root
that is no directory and lies on a way without ignored names, once and in the order of paths. From a
root whose own path is almost too long, a walk comes to nothing.
-/

namespace Conformance.Walk

open FileTree (IsName WellNamed Relisted)

variable {ignored : List String}

/-! ## What a walk takes down -/

/-- These names lead from a directory to something that is no directory, and no name is ignored. -/
structure LeadsToFile (ignored : List String) (tree : FileTree) (names : List String) : Prop where
  below : names ≠ []
  kept : ∀ name ∈ names, name ∉ ignored
  file : (tree.at? names).map FileTree.isDirectory = some false

/-- The action takes down where the chains of names with some property lead from `path`, in their
    order. -/
def Records (path : Path) (P : List String → Prop) (action : Action (List Path) Unit) : Prop :=
  ∃ files, Enumerates P files ∧
    ∀ earlier, action earlier = (.ok (), earlier ++ files.map path.join)

namespace Records

variable {path : Path} {name : String} {P Q : List String → Prop}
  {action next : Action (List Path) Unit}

theorem congr (records : Records path P action) (same : ∀ names, P names ↔ Q names) :
    Records path Q action := by
  obtain ⟨files, listed, does⟩ := records
  exact ⟨files, listed.congr same, does⟩

theorem nothing (none : ∀ names, ¬ P names) : Records path P (pure ()) := by
  refine ⟨[], .nil none, fun earlier => ?_⟩
  rw [List.map_nil, List.append_nil]
  rfl

theorem visit (path : Path) (name : String) :
    Records path (· = [name]) (record (path.entry name)) :=
  ⟨[[name]], .single [name], fun _ => rfl⟩

/-- What is taken down in an entry of the directory is taken down in the directory. -/
theorem enter (records : Records (path.entry name) P action) :
    Records path (fun names => ∃ rest, names = name :: rest ∧ P rest) action := by
  obtain ⟨files, listed, does⟩ := records
  refine ⟨_, listed.cons name, fun earlier => ?_⟩
  rw [does, List.map_map]
  rfl

theorem followedBy (records : Records path P action) (others : Records path Q next)
    (before : ∀ a b, P a → Q b → List.Lex ByteOrder.Before a b) :
    Records path (fun names => P names ∨ Q names) (action >>= fun _ => next) := by
  obtain ⟨files, listed, does⟩ := records
  obtain ⟨more, listedToo, doesToo⟩ := others
  refine ⟨files ++ more, listed.append listedToo before, fun earlier => ?_⟩
  rw [Action.bind_apply, does]
  dsimp only
  rw [doesToo, List.append_assoc, List.map_append]

end Records

/-- The entries of a directory are taken down if each of them is. -/
theorem visitEntries_records {path : Path} {tree : FileTree}
    {enter : Path → Action (List Path) Unit} {entries : List (String × Bool)}
    (arranged : Arranged entries)
    (each : ∀ entry ∈ entries, entry.1 ∉ ignored →
      Records path (fun names => LeadsToFile ignored tree names ∧ names.head? = some entry.1)
        (if entry.2 then enter (path.entry entry.1) else record (path.entry entry.1))) :
    Records path
      (fun names => LeadsToFile ignored tree names ∧ ∃ entry ∈ entries, names.head? = some entry.1)
      (visitEntries ignored record enter path entries) := by
  induction entries with
  | nil => exact .nothing (by simp)
  | cons entry rest ih =>
    obtain ⟨name, isDirectory⟩ := entry
    obtain ⟨first, arranged⟩ := List.pairwise_cons.1 arranged
    obtain ⟨here, each⟩ := List.forall_mem_cons.1 each
    have later := ih arranged each
    by_cases left : name ∈ ignored
    · rw [visitEntries_ignored left]
      refine later.congr fun names => and_congr_right fun leads => ?_
      -- No chain of names that leads to a file starts with an ignored one.
      have other : names.head? ≠ some name := fun starts =>
        leads.kept name (List.mem_of_mem_head? starts) left
      simp [other]
    · have visits : visitEntries ignored record enter path ((name, isDirectory) :: rest) =
          (if isDirectory then enter (path.entry name) else record (path.entry name)) >>=
            fun _ => visitEntries ignored record enter path rest := by
        cases isDirectory with
        | false => exact visitEntries_file left
        | true => exact visitEntries_directory left
      rw [visits]
      refine ((here left).followedBy later ?_).congr fun names => ?_
      · rintro (_ | ⟨a, early⟩) (_ | ⟨b, late⟩) ⟨leads, starts⟩ ⟨leadsToo, entry, member, startsToo⟩
        · cases starts
        · cases starts
        · cases startsToo
        · obtain rfl := Option.some.inj starts
          obtain rfl := Option.some.inj startsToo
          exact .rel (first entry member)
      · rw [← and_or_left]
        simp

/-! ## Whole walks -/

variable {disk : Disk} {path : Path} {entries : List (String × FileTree)} {name : String}
  {item : FileTree}

/-- Only what stands at a place matters, and whether it is a directory. -/
theorem leadsToFile_congr {tree other : FileTree} {names : List String}
    (same : (tree.at? names).map FileTree.isDirectory =
      (other.at? names).map FileTree.isDirectory) :
    LeadsToFile ignored tree names ↔ LeadsToFile ignored other names :=
  ⟨fun leads => ⟨leads.below, leads.kept, same.symm.trans leads.file⟩,
    fun leads => ⟨leads.below, leads.kept, same.trans leads.file⟩⟩

theorem leadsToFile_cons (listed : entries.lookup name = some item) (rest : List String) :
    LeadsToFile ignored (.directory entries) (name :: rest) ↔
      name ∉ ignored ∧ (∀ later ∈ rest, later ∉ ignored) ∧
        (item.at? rest).map FileTree.isDirectory = some false := by
  have there : (FileTree.directory entries).at? (name :: rest) = item.at? rest := by
    rw [FileTree.at?_directory, listed, Option.bind_some]
  constructor
  · intro leads
    obtain ⟨kept, keptToo⟩ := List.forall_mem_cons.1 leads.kept
    exact ⟨kept, keptToo, there ▸ leads.file⟩
  · rintro ⟨kept, keptToo, file⟩
    exact ⟨by simp, List.forall_mem_cons.2 ⟨kept, keptToo⟩, there ▸ file⟩

/-- A listed file is all that its name leads to. -/
theorem leadsToFile_file (listed : entries.lookup name = some item) (kept : name ∉ ignored)
    (file : item.isDirectory = false) (names : List String) :
    names = [name] ↔ LeadsToFile ignored (.directory entries) names ∧ names.head? = some name := by
  constructor
  · rintro rfl
    refine ⟨(leadsToFile_cons listed []).2 ⟨kept, by simp, ?_⟩, rfl⟩
    simp [FileTree.at?_nil, file]
  · rintro ⟨leads, starts⟩
    obtain _ | ⟨first, rest⟩ := names
    · cases starts
    obtain rfl := Option.some.inj starts
    obtain ⟨-, -, ends⟩ := (leadsToFile_cons listed rest).1 leads
    cases rest with
    | nil => rfl
    | cons more rest =>
      rw [FileTree.at?_below_file file] at ends
      cases ends

/-- The name of a listed directory leads to what the directory's own names lead to. -/
theorem leadsToFile_directory (listed : entries.lookup name = some item) (kept : name ∉ ignored)
    (directory : item.isDirectory = true) (names : List String) :
    (∃ rest, names = name :: rest ∧ LeadsToFile ignored item rest) ↔
      LeadsToFile ignored (.directory entries) names ∧ names.head? = some name := by
  constructor
  · rintro ⟨rest, rfl, leads⟩
    exact ⟨(leadsToFile_cons listed rest).2 ⟨kept, leads.kept, leads.file⟩, rfl⟩
  · rintro ⟨leads, starts⟩
    obtain _ | ⟨first, rest⟩ := names
    · cases starts
    obtain rfl := Option.some.inj starts
    obtain ⟨-, keptToo, ends⟩ := (leadsToFile_cons listed rest).1 leads
    refine ⟨rest, rfl, ?_, keptToo, ends⟩
    rintro rfl
    simp [FileTree.at?_nil, directory] at ends

theorem arrange_kinds_arranged (named : WellNamed (.directory entries)) :
    Arranged (arrange (kinds entries)) := by
  refine arrange_arranged ?_
  rw [kinds, List.map_map]
  exact named.nodup

theorem mem_arrange_kinds (named : WellNamed (.directory entries)) (entry : String × Bool) :
    entry ∈ arrange (kinds entries) ↔
      ∃ item, entries.lookup entry.1 = some item ∧ item.isDirectory = entry.2 := by
  rw [(arrange_perm _).mem_iff, kinds, List.mem_map]
  constructor
  · rintro ⟨⟨name, item⟩, member, rfl⟩
    exact ⟨item, (FileTree.lookup_eq_some_iff named.nodup).2 member, rfl⟩
  · rintro ⟨item, listed, kind⟩
    exact ⟨(entry.1, item), (FileTree.lookup_eq_some_iff named.nodup).1 listed, by rw [kind]⟩

/-- A walk goes on from a directory with what that lists at this moment. -/
theorem walkFrom_of_look {σ : Type} {disks : σ → Disk} {visit : Path → Action σ Unit} {s : σ}
    (found : (disks s).look path = .ok (.directory entries))
    (told : ∀ entry ∈ entries, entry.2.isTold = true) (depth : Nat) :
    walkFrom disks ignored visit (depth + 1) path s =
      visitEntries ignored visit (walkFrom disks ignored visit depth) path
        (arrange (kinds entries)) s := by
  rw [walkFrom_apply, scan_eq found told]

theorem walk_of_look {σ : Type} {disks : σ → Disk} {visit : Path → Action σ Unit} {s : σ}
    (found : (disks s).look path = .ok (.directory entries))
    (told : ∀ entry ∈ entries, entry.2.isTold = true) :
    walk disks path ignored visit s =
      visitEntries ignored visit (walkFrom disks ignored visit (FileTree.pathLimit - 1)) path
        (arrange (kinds entries)) s :=
  walkFrom_of_look found told (FileTree.pathLimit - 1)

theorem visitEntries_flat {σ : Type} {visit enter : Path → Action σ Unit}
    {listed : List (String × Bool)} (flat : ∀ entry ∈ listed, entry.2 = false ∧ entry.1 ∉ ignored) :
    visitEntries ignored visit enter path listed =
      forM (listed.map fun entry => path.entry entry.1) visit := by
  induction listed with
  | nil => rfl
  | cons entry rest ih =>
    obtain ⟨name, isDirectory⟩ := entry
    obtain ⟨⟨file, kept⟩, flat⟩ := List.forall_mem_cons.1 flat
    dsimp only at file
    rw [file, visitEntries_file kept, ih flat, List.map_cons, List.forM_cons]

/-- A walk from a directory with nothing but files comes to each of them. -/
theorem walk_flat {σ : Type} {disks : σ → Disk} {root : Path} {s : σ} (visit : Path → Action σ Unit)
    (found : (disks s).look root = .ok (.directory entries))
    (flat : ∀ entry ∈ entries, entry.2.kind = .ok false ∧ entry.1 ∉ ignored) :
    walk disks root ignored visit s =
      (forM ((arrange (kinds entries)).map fun entry => root.entry entry.1) visit :
        Action σ Unit) s := by
  have told : ∀ entry ∈ entries, entry.2.isTold = true := fun entry member =>
    (FileTree.kind_eq_ok_iff.1 (flat entry member).1).1
  rw [walk_of_look found told, visitEntries_flat fun entry member => ?_]
  obtain ⟨⟨name, item⟩, listed, rfl⟩ := List.mem_map.1 ((arrange_perm _).mem_iff.1 member)
  obtain ⟨file, kept⟩ := flat _ listed
  exact ⟨(FileTree.kind_eq_ok_iff.1 file).2, kept⟩

/-- A walk from a directory with one file comes to that. -/
theorem walk_single {σ : Type} {disks : σ → Disk} {root : Path} {s : σ}
    (visit : Path → Action σ Unit) (found : (disks s).look root = .ok (.directory [(name, item)]))
    (kind : item.kind = .ok false) (kept : name ∉ ignored) :
    walk disks root ignored visit s = visit (root.entry name) s := by
  have paths : (arrange (kinds [(name, item)])).map (fun entry => root.entry entry.1) =
      [root.entry name] := rfl
  rw [walk_flat visit found (List.forall_mem_singleton.2 ⟨kind, kept⟩), paths, List.forM_cons,
    Action.bind_apply]
  obtain ⟨answer, after⟩ := visit (root.entry name) s
  cases answer <;> rfl

/-- A walk from a directory takes down all that its names lead to. The bytes of its path and the
    depth to go make up for each other. -/
theorem walkFrom_records {depth : Nat} (found : disk.look path = .ok (.directory entries))
    (named : WellNamed (.directory entries))
    (listable : Listable ignored disk path (.directory entries))
    (deep : FileTree.pathLimit ≤ depth + path.text.utf8ByteSize) :
    Records path (LeadsToFile ignored (.directory entries))
      (walkFrom (fun _ => disk) ignored record depth path) := by
  induction depth generalizing path entries with
  | zero =>
    obtain ⟨-, -, short, -⟩ := Disk.look_eq_ok_iff.1 found
    omega
  | succ depth ih =>
    have each : ∀ entry ∈ arrange (kinds entries), entry.1 ∉ ignored → Records path
        (fun names => LeadsToFile ignored (.directory entries) names ∧ names.head? = some entry.1)
        (if entry.2 then walkFrom (fun _ => disk) ignored record depth (path.entry entry.1)
          else record (path.entry entry.1)) := by
      rintro ⟨name, isDirectory⟩ member kept
      obtain ⟨item, listed, rfl⟩ := (mem_arrange_kinds named _).1 member
      cases kind : item.isDirectory with
      | false => exact (Records.visit path name).congr (leadsToFile_file listed kept kind)
      | true =>
        obtain ⟨below, rfl, there⟩ := listable.look_entry found named listed kept kind
        have longer := path.size_entry (named.isName listed).nonempty
        have below := ih there (named.entry listed) (listable.entry listed kept) (by omega)
        exact below.enter.congr (leadsToFile_directory listed kept kind)
    have goesOn : walkFrom (fun _ => disk) ignored record (depth + 1) path = _ :=
      funext fun _ => walkFrom_of_look found (listable.told found) depth
    rw [goesOn]
    refine (visitEntries_records (arrange_kinds_arranged named) each).congr fun names => ?_
    refine and_iff_left_of_imp fun leads => ?_
    -- The first name on the way is that of an entry.
    obtain _ | ⟨name, rest⟩ := names
    · exact absurd rfl leads.below
    obtain ⟨item, there, -⟩ := Option.map_eq_some_iff.1 leads.file
    obtain ⟨child, listed, -⟩ := Option.bind_eq_some_iff.1 there
    exact ⟨(name, child.isDirectory), (mem_arrange_kinds named _).2 ⟨child, listed, rfl⟩, rfl⟩

variable {σ : Type} {root : Path} {ignored : List String}

theorem visited_records (found : disk.look root = .ok (.directory entries))
    (named : WellNamed (.directory entries))
    (listable : Listable ignored disk root (.directory entries)) :
    ∃ files, Enumerates (LeadsToFile ignored (.directory entries)) files ∧
      visited disk root ignored = (.ok (), files.map root.join) := by
  obtain ⟨files, listed, walked⟩ := walkFrom_records found named listable (Nat.le_add_right _ _)
  exact ⟨files, listed, walked []⟩

/-- The paths of the files come in the order of the names that lead to them. -/
theorem Enumerates.paths_before {tree : FileTree} {files : List (List String)}
    (listed : Enumerates (LeadsToFile ignored tree) files) (text : root.text ≠ "")
    (named : WellNamed tree) : (files.map root.join).Pairwise Path.Before := by
  have isName (names) (member : names ∈ files) : ∀ name ∈ names, IsName name := by
    obtain ⟨item, there, -⟩ := Option.map_eq_some_iff.1 ((listed.mem_iff names).1 member).file
    exact named.isName_of_at? there
  refine List.pairwise_map.2 (listed.sorted.imp_of_mem fun {a b} early late before => ?_)
  exact Path.join_before text (isName a early) (isName b late) before

/-- The order in which directories are listed makes no difference. -/
theorem visited_of_relisted {other : Disk} {tree : FileTree} {paths : List Path}
    (walked : visited disk root ignored = (.ok (), paths))
    (found : disk.look root = .ok (.directory entries)) (named : WellNamed (.directory entries))
    (listable : Listable ignored disk root (.directory entries))
    (foundToo : other.look root = .ok tree) (relisted : Relisted (.directory entries) tree) :
    visited other root ignored = (.ok (), paths) := by
  have reachable := (listable.reachable found named).relisted named relisted
  obtain ⟨-, others, rfl, -⟩ :=
    reachable [] tree (by simp) rfl (relisted.isDirectory_eq.symm.trans rfl)
  have kinds := relisted.isDirectory_at? named
  have namedToo := (relisted.everywhere named).wellNamed named
  have listableToo := reachable.listable foundToo namedToo
  obtain ⟨files, listed, takenDown⟩ := visited_records found named listable
  obtain ⟨more, listedToo, takenDownToo⟩ := visited_records foundToo namedToo listableToo
  have same := (listed.congr fun names => leadsToFile_congr (kinds names)).unique listedToo
  rw [takenDownToo, ← same, ← takenDown, walked]

/-- A walk whose visits neither fail nor change the disk visits the paths that are taken down. -/
theorem walk_eq_forM {disks : σ → Disk} {visit : Path → Action σ Unit} {paths : List Path}
    (steady : ∀ path s, ∃ after, visit path s = (.ok (), after) ∧ disks after = disks s) {s : σ}
    (walked : visited (disks s) root ignored = (.ok (), paths)) :
    walk disks root ignored visit s = (forM paths visit : Action σ Unit) s := by
  have calm (path : Path) (s : σ) : disks (visit path s).2 = disks s := by
    obtain ⟨after, does, kept⟩ := steady path s
    rw [does, kept]
  rw [walk_eq_visitAll calm, walked, visitAll_apply]
  generalize (forM paths visit : Action σ Unit) s = visits
  obtain ⟨answer, after⟩ := visits
  cases answer <;> rfl

/-! ## A tree with two files -/

/-- A file in a directory, and another one beside the directory. -/
def nested : List (String × FileTree) :=
  [("sub", .directory [("a.wren", .file 0)]), ("z.wren", .file 1)]

theorem nested_wellNamed : WellNamed (.directory nested) := by
  have sub : WellNamed (.directory [("a.wren", .file 0)]) := by
    refine .of_entries (by decide) ?_
    simp only [List.forall_mem_singleton]
    exact ⟨by decide, .of_file rfl⟩
  refine .of_entries (by decide) ?_
  rw [nested, List.forall_mem_cons, List.forall_mem_singleton]
  exact ⟨⟨by decide, sub⟩, by decide, .of_file rfl⟩

theorem reachable_nested : Reachable ignored ⟨"test"⟩ (.directory nested) := by
  have sub : Reachable ignored ⟨"test/sub"⟩ (.directory [("a.wren", .file 0)]) := by
    refine .of_entries (by decide) ?_
    rw [List.forall_mem_singleton]
    exact ⟨rfl, .of_file rfl⟩
  refine .of_entries (by decide) ?_
  rw [nested, List.forall_mem_cons, List.forall_mem_singleton]
  exact ⟨⟨rfl, sub⟩, rfl, .of_file rfl⟩

def nestedDisk : Disk where
  root := .directory [("test", .directory nested)]
  files := #[{}, {}]

/-- A path of the tree, with some steps in front that lead nowhere. -/
def dotted : Nat → Path
  | 0 => ⟨"test"⟩
  | steps + 1 => ⟨"./" ++ (dotted steps).text⟩

theorem size_dotted (steps : Nat) : (dotted steps).text.utf8ByteSize = 2 * steps + 4 := by
  induction steps with
  | zero => decide
  | succ steps ih =>
    have step : "./".utf8ByteSize = 2 := by decide
    rw [dotted, String.utf8ByteSize_append, ih, step]
    omega

theorem dotted_ne_empty (steps : Nat) : (dotted steps).text ≠ "" := by
  intro empty
  have size := size_dotted steps
  simp [empty] at size

theorem noNul_dotted (steps : Nat) : Char.ofNat 0 ∉ (dotted steps).text.toList := by
  induction steps with
  | zero => decide
  | succ steps ih =>
    rw [dotted, String.toList_append, List.mem_append]
    exact not_or.2 ⟨by decide, ih⟩

theorem parts_dotted (steps : Nat) :
    (dotted steps).parts = List.replicate steps "." ++ ["test"] := by
  induction steps with
  | zero => decide
  | succ steps ih =>
    have step : (dotted (steps + 1)).text.toList = ['.'] ++ '/' :: (dotted steps).text.toList := by
      rw [dotted, String.toList_append]
      rfl
    have dot : ['.'].splitOn '/' = [['.']] := by decide
    rw [Path.parts, step, List.splitOn_append_cons_self, dot, List.map_append, ← Path.parts, ih]
    rfl

theorem isAbsolute_dotted (steps : Nat) : (dotted steps).isAbsolute = false := by
  cases steps with
  | zero => decide
  | succ steps =>
    rw [Path.isAbsolute, dotted, String.toList_append]
    rfl

theorem leads_dotted {steps : Nat} (root : disk.root = .directory [("test", .directory entries)])
    (working : disk.working = []) (short : 2 * steps + 4 < FileTree.pathLimit) :
    disk.Leads (dotted steps) ["test"] (.directory entries) where
  noNul := noNul_dotted steps
  text := dotted_ne_empty steps
  short := size_dotted steps ▸ short
  followed := by
    have top : FileTree.top disk.root [] = .directory [("test", .directory entries)] := root
    have size : "test".utf8ByteSize = 4 := by decide
    have name : ¬ FileTree.nameLimit < "test".utf8ByteSize := by simp [size, FileTree.nameLimit]
    rw [isAbsolute_dotted, parts_dotted, working]
    refine (FileTree.follow_replicate_current top steps ["test"]).trans ?_
    rw [FileTree.follow_name top (by decide) (by decide) name rfl (by simp), FileTree.follow_nil]
    rfl

theorem look_dotted {steps : Nat} (short : 2 * steps + 4 < FileTree.pathLimit) :
    nestedDisk.look (dotted steps) = .ok (.directory nested) :=
  Disk.look_iff_leads.2 ⟨["test"], leads_dotted rfl rfl short⟩

/-- If the root's path is almost too long, that of the directory below it is too long. -/
theorem list_dotted_sub (disk : Disk) {steps : Nat} (long : FileTree.pathLimit ≤ 2 * steps + 7) :
    disk.list ((dotted steps).entry "sub") = .error (.system .nameTooLong) := by
  have size : "sub".utf8ByteSize = 3 := by decide
  have longer := Path.size_add_le_size_entry (dotted steps) "sub"
  rw [size_dotted, size] at longer
  have noNul := Disk.noNul_entry (noNul_dotted steps) (show Char.ofNat 0 ∉ "sub".toList by decide)
  rw [Disk.list, Disk.look_of_long noNul (long.trans longer)]
  rfl

/-- Walks of the tree whose root has a path that is almost too long. -/
theorem walk_dotted {disks : σ → Disk} {visit : Path → Action σ Unit} {steps : Nat} {s : σ}
    (there : disks s = nestedDisk) (kept : "sub" ∉ ignored)
    (short : 2 * steps + 4 < FileTree.pathLimit) (long : FileTree.pathLimit ≤ 2 * steps + 7) :
    walk disks (dotted steps) ignored visit s =
      (.error (.fault (.walk ((dotted steps).entry "sub") (.system .nameTooLong))), s) := by
  have found : (disks s).look (dotted steps) = .ok (.directory nested) := there ▸ look_dotted short
  have limit : FileTree.pathLimit - 1 = 4094 + 1 := rfl
  have arranged : arrange (kinds nested) = [("sub", true), ("z.wren", false)] := by decide
  rw [walk_of_look found (by decide), arranged, visitEntries_directory kept, Action.bind_apply,
    limit, walkFrom_apply, there, scan_of_unlisted (list_dotted_sub nestedDisk long)]

/-! ## A tree that grows -/

/-- A file, and an empty directory after it. -/
def beside : List (String × FileTree) := [("a.wren", .file 0), ("sub", .directory [])]

def besideDisk : Disk where
  root := .directory [("test", .directory beside)]
  files := #[{}]

theorem beside_wellNamed : WellNamed (.directory beside) := by
  have empty : WellNamed (.directory []) := .of_entries (by decide) (by simp)
  refine .of_entries (by decide) ?_
  rw [beside, List.forall_mem_cons, List.forall_mem_singleton]
  exact ⟨⟨by decide, .of_file rfl⟩, by decide, empty⟩

theorem look_beside {steps : Nat} (short : 2 * steps + 4 < FileTree.pathLimit) :
    besideDisk.look (dotted steps) = .ok (.directory beside) :=
  Disk.look_iff_leads.2 ⟨["test"], leads_dotted rfl rfl short⟩

/-- A visit that takes the path down, and puts a file into the directory. -/
def grow (path : Path) : Action (Disk × List Path) Unit :=
  fun s => (.ok (), besideDisk.put ["test", "sub"] "z.wren" (.file 0), s.2 ++ [path])

/-- A walk comes to a file that was put in its way. -/
theorem walk_grow :
    walk Prod.fst (dotted 0) [] grow (besideDisk, []) =
      (.ok (), besideDisk.put ["test", "sub"] "z.wren" (.file 0),
        [(dotted 0).entry "a.wren", ((dotted 0).entry "sub").entry "z.wren"]) := by
  let grown := besideDisk.put ["test", "sub"] "z.wren" (.file 0)
  have found : grown.look (dotted 0) =
      .ok (.directory [("a.wren", .file 0), ("sub", .directory [("z.wren", .file 0)])]) :=
    Disk.look_iff_leads.2 ⟨_, leads_dotted rfl rfl (by decide)⟩
  have sub : (Prod.fst (grown, [(dotted 0).entry "a.wren"])).look ((dotted 0).entry "sub") =
      .ok (.directory [("z.wren", .file 0)]) :=
    Disk.look_entry found (by decide) rfl (by simp) (by decide)
  have arranged : arrange (kinds beside) = [("a.wren", false), ("sub", true)] := by decide
  have single : arrange (kinds [("z.wren", .file 0)]) = [("z.wren", false)] := by decide
  have first : grow ((dotted 0).entry "a.wren") (besideDisk, []) =
      (.ok (), grown, [(dotted 0).entry "a.wren"]) := rfl
  have limit : FileTree.pathLimit - 1 = 4094 + 1 := rfl
  have start : (Prod.fst (besideDisk, ([] : List Path))).look (dotted 0) =
      .ok (.directory beside) := look_beside (by decide)
  rw [walk_of_look start (by decide), arranged, visitEntries_file (by simp),
    visitEntries_directory (by simp), Action.bind_apply, first]
  dsimp only
  rw [Action.bind_apply, limit, walkFrom_of_look sub (by decide), single]
  rfl

/-! ## Visits -/

/-- If it can list each directory that it comes to, a walk visits all that is no directory, at the
    end of each chain of names of which none is ignored, and nothing else. It visits each once, in
    the order of paths by components. Visits that neither fail nor change the disk make no
    difference, nor does the order in which directories are listed. -/
theorem walk_visits (found : disk.look root = .ok (.directory entries))
    (named : WellNamed (.directory entries))
    (listable : Listable ignored disk root (.directory entries)) :
    ∃ files : List (List String),
      visited disk root ignored = (.ok (), files.map root.join) ∧
      (∀ names, names ∈ files ↔ LeadsToFile ignored (.directory entries) names) ∧
      (files.map root.join).Nodup ∧ (files.map root.join).Pairwise Path.Before ∧
      (∀ {σ : Type} (disks : σ → Disk) (visit : Path → Action σ Unit),
        (∀ path s, ∃ after, visit path s = (.ok (), after) ∧ disks after = disks s) →
          ∀ s, disks s = disk → walk disks root ignored visit s =
            (forM (files.map root.join) visit : Action σ Unit) s) ∧
      ∀ other tree, other.look root = .ok tree → Relisted (.directory entries) tree →
        visited other root ignored = (.ok (), files.map root.join) := by
  obtain ⟨files, listed, walked⟩ := visited_records found named listable
  obtain ⟨-, text, -, -⟩ := Disk.look_eq_ok_iff.1 found
  have before := listed.paths_before text named
  have once : (files.map root.join).Nodup := before.imp fun {a b} early same =>
    Path.before_irrefl b ((congrArg (Path.Before · b) same).mp early)
  refine ⟨files, walked, listed.mem_iff, once, before, ?_, ?_⟩
  · rintro σ disks visit steady s rfl
    exact walk_eq_forM steady walked
  · intro other tree foundToo relisted
    exact visited_of_relisted walked found named listable foundToo relisted

/-- In the tree with two files. -/
theorem walk_visits_nested :
    nestedDisk.look (dotted 0) = .ok (.directory nested) ∧ WellNamed (.directory nested) ∧
      Listable [] nestedDisk (dotted 0) (.directory nested) ∧
      ∃ files : List (List String),
        visited nestedDisk (dotted 0) [] = (.ok (), files.map (dotted 0).join) ∧
        (∀ names, names ∈ files ↔ LeadsToFile [] (.directory nested) names) ∧
        (files.map (dotted 0).join).Nodup ∧
        (files.map (dotted 0).join).Pairwise Path.Before := by
  have short : 2 * 0 + 4 < FileTree.pathLimit := by decide
  have found := look_dotted short
  have reachable : Reachable [] ⟨"test"⟩ (.directory nested) := reachable_nested
  have listable := reachable.listable found nested_wellNamed
  obtain ⟨files, walked, members, once, before, -⟩ := walk_visits found nested_wellNamed listable
  exact ⟨found, nested_wellNamed, listable, files, walked, members, once, before⟩

/-- Two walks that do not come to the files of the tree. The root is a directory in both, and no
    visit fails. But the first one comes to no file: the path of the first directory below the root
    is too long to be listed. The second one comes to a file more, which its first visit has put
    there. -/
theorem visited_dotted :
    (nestedDisk.look (dotted 2045) = .ok (.directory nested) ∧ WellNamed (.directory nested) ∧
      LeadsToFile [] (.directory nested) ["sub", "a.wren"] ∧
      LeadsToFile [] (.directory nested) ["z.wren"] ∧
      visited nestedDisk (dotted 2045) [] =
        (.error (.fault (.walk ((dotted 2045).entry "sub") (.system .nameTooLong))), [])) ∧
    besideDisk.look (dotted 0) = .ok (.directory beside) ∧ WellNamed (.directory beside) ∧
      ¬ LeadsToFile [] (.directory beside) ["sub", "z.wren"] ∧
      (∀ path s, (grow path s).1 = .ok ()) ∧
      (walk Prod.fst (dotted 0) [] grow (besideDisk, [])).2.2 =
        [(dotted 0).join ["a.wren"], (dotted 0).join ["sub", "z.wren"]] := by
  refine ⟨⟨look_dotted (by decide), nested_wellNamed, ?_, ?_, ?_⟩, look_beside (by decide),
    beside_wellNamed, ?_, fun _ _ => rfl, congrArg (fun ended => ended.2.2) walk_grow⟩
  · exact ⟨by simp, by simp, rfl⟩
  · exact ⟨by simp, by simp, rfl⟩
  · exact walk_dotted rfl (by simp) (by decide) (by decide)
  · rintro ⟨-, -, there⟩
    cases there

end Conformance.Walk
