import Conformance.Proofs.Relisting
import Mathlib.Data.List.Induction

/-!
# Where paths lead

The trail that a path leaves behind consists of directories one below the other. Main statements:
what a path leads to stands in the tree, at the end of the names that lead there from the root, and
a path leads to the same place of every tree that has the same directories and links.
-/

namespace Conformance

namespace FileTree

variable {root other tree : FileTree} {trail later : Trail} {location : List String}
  {links : Nat} {through : Bool}

theorem at?_append (tree : FileTree) (first second : List String) :
    tree.at? (first ++ second) = (tree.at? first).bind (at? second) := by
  induction first generalizing tree with
  | nil => rfl
  | cons name rest ih =>
    rw [List.cons_append, at?, at?]
    cases tree.child? name with
    | none => rfl
    | some child => exact ih child

/-- Each directory of a trail is listed in the one before it, the first one at the root. -/
def Trail.Valid (root : FileTree) : Trail → Prop
  | [] => True
  | (name, child) :: rest => (top root rest).child? name = some child ∧ Trail.Valid root rest

theorem Trail.location_cons (name : String) (child : FileTree) (trail : Trail) :
    Trail.location ((name, child) :: trail) = trail.location ++ [name] := by
  simp [Trail.location]

theorem Trail.location_tail (trail : Trail) :
    Trail.location trail.tail = trail.location.dropLast := by
  simp [Trail.location]

namespace Trail.Valid

/-- A valid trail leads to what stands at its location. -/
theorem at?_location (valid : Trail.Valid root trail) :
    root.at? trail.location = some (top root trail) := by
  induction trail with
  | nil => rfl
  | cons step rest ih =>
    obtain ⟨name, child⟩ := step
    obtain ⟨listed, valid⟩ := valid
    rw [location_cons, at?_append, ih valid, Option.bind_some, at?, listed]
    rfl

theorem cons (valid : Trail.Valid root trail) {entries : List (String × FileTree)} {name : String}
    {child : FileTree} (here : top root trail = .directory entries)
    (listed : entries.lookup name = some child) : Trail.Valid root ((name, child) :: trail) := by
  refine ⟨?_, valid⟩
  rw [here]
  exact listed

theorem tail (valid : Trail.Valid root trail) : Trail.Valid root trail.tail := by
  cases trail with
  | nil => exact valid
  | cons step rest => exact valid.2

end Trail.Valid

theorem trailTo_append (root : FileTree) (location : List String) (name : String) :
    trailTo root (location ++ [name]) =
      match (top root (trailTo root location)).child? name with
      | some child => (name, child) :: trailTo root location
      | none => trailTo root location := by
  rw [trailTo, List.foldl_concat]
  rfl

theorem trailTo_valid (root : FileTree) (location : List String) :
    Trail.Valid root (trailTo root location) := by
  induction location using List.reverseRecOn with
  | nil => trivial
  | append_singleton location name ih =>
    rw [trailTo_append]
    split
    · next child listed => exact ⟨listed, ih⟩
    · exact ih

/-- The trail to something that is there ends at its location. -/
theorem location_trailTo (there : root.at? location = some tree) :
    (trailTo root location).location = location := by
  induction location using List.reverseRecOn generalizing tree with
  | nil => rfl
  | append_singleton location name ih =>
    rw [at?_append] at there
    obtain ⟨parent, found, listed⟩ := Option.bind_eq_some_iff.1 there
    have same := (trailTo_valid root location).at?_location
    rw [ih found, found] at same
    obtain ⟨child, listed, -⟩ := Option.bind_eq_some_iff.1 listed
    rw [Option.some.inj same] at listed
    rw [trailTo_append, listed]
    dsimp only
    rw [Trail.location_cons, ih found]

/-- What a path leads to stands where its names say. -/
theorem at?_of_follow {parts : List String} (valid : Trail.Valid root trail)
    (present : follow root through links trail parts = .ok (.present location tree)) :
    root.at? location = some tree := by
  fun_induction follow root through links trail parts with
  | case1 links trail =>
    obtain ⟨rfl, rfl⟩ := Spot.present.inj (Except.ok.inj present)
    exact valid.at?_location
  | case2 _ _ _ _ _ _ _ ih => exact ih valid present
  | case3 _ _ _ _ _ _ ih => exact ih valid.tail present
  | case7 links trail part rest entries here _ _ _ target listed _ =>
    obtain ⟨rfl, rfl⟩ := Spot.present.inj (Except.ok.inj present)
    rw [at?_append, valid.at?_location, top, here]
    simp [at?, child?, listed]
  | case9 _ _ _ _ _ _ _ _ _ _ _ _ ih =>
    refine ih ?_ present
    split_ifs
    · trivial
    · exact valid
  | case10 _ _ _ _ _ here _ _ _ _ _ listed ih => exact ih (valid.cons here listed) present
  | case16 _ _ _ _ _ _ _ _ ih => exact ih valid present
  | _ => cases present

theorem directory_of_follow {part : String} {rest : List String}
    (present : follow root through links trail (part :: rest) = .ok (.present location tree)) :
    (top root trail).isDirectory = true := by
  cases here : top root trail with
  | directory entries => rfl
  | closed error told =>
    rw [top] at here
    simp only [follow, here] at present
    split_ifs at present with slash
    rw [slash.1]
    rfl
  | _ =>
    rw [top] at here
    simp [follow, here] at present

theorem follow_same {entries : List (String × FileTree)} {part : String}
    (here : top root trail = .directory entries) (plain : part = "" ∨ part = ".")
    (rest : List String) :
    follow root through links trail (part :: rest) = follow root through links trail rest := by
  rw [top] at here
  simp [follow, here, plain]

/-- A slash at its end is all that can come after a closed directory. -/
theorem follow_slash {error : SystemError}
    (here : top root trail = .closed error (some true)) (rest : List String) :
    follow root through links trail ("" :: rest) = follow root through links trail rest := by
  rw [top] at here
  simp [follow, here]

theorem follow_parent {entries : List (String × FileTree)}
    (here : top root trail = .directory entries) (rest : List String) :
    follow root through links trail (".." :: rest) =
      follow root through links trail.tail rest := by
  rw [top] at here
  simp [follow, here]

theorem follow_link {entries : List (String × FileTree)} {part : String} {target : Path}
    (here : top root trail = .directory entries) (plain : ¬ (part = "" ∨ part = "."))
    (up : part ≠ "..") (short : ¬ nameLimit < part.utf8ByteSize)
    (listed : entries.lookup part = some (.link target)) (rest : List String) :
    follow root true (links + 1) trail (part :: rest) =
      follow root true links (if target.isAbsolute then [] else trail) (target.parts ++ rest) := by
  rw [top] at here
  simp [follow, here, plain, up, short, listed]

/-- A path that leads somewhere still does if it may lead through more links. -/
theorem follow_of_fewer {more : Nat} {parts : List String} (fewer : links ≤ more)
    (present : follow root true links trail parts = .ok (.present location tree)) :
    follow root true more trail parts = .ok (.present location tree) := by
  fun_induction follow root true links trail parts generalizing more with
  | case1 links trail => rw [follow_nil, top, present]
  | case2 links trail part rest entries here plain ih =>
    rw [follow_same here plain]
    exact ih fewer present
  | case3 links trail rest entries here _ ih =>
    rw [follow_parent here]
    exact ih fewer present
  | case7 => simp_all
  | case9 trail part rest entries here plain up short target listed _ links ih =>
    obtain ⟨more, rfl⟩ := Nat.exists_eq_succ_of_ne_zero (show more ≠ 0 by omega)
    rw [follow_link here plain up short listed]
    exact ih (Nat.le_of_succ_le_succ fewer) present
  | case10 links trail part rest entries here plain up short child notLink listed ih =>
    rw [follow_name here plain up short listed notLink]
    exact ih fewer present
  | case16 links trail part rest error told here slash ih =>
    obtain ⟨rfl, rfl⟩ := slash
    rw [follow_slash here]
    exact ih fewer present
  | _ => cases present

/-! ## Other trees -/

theorem Trail.Valid.lookup (valid : Trail.Valid root trail) {entries : List (String × FileTree)}
    (here : top root trail = .directory entries) (name : String) :
    root.at? (trail.location ++ [name]) = entries.lookup name := by
  rw [at?_append, valid.at?_location, here, Option.bind_some, at?_directory]
  cases entries.lookup name <;> rfl

/-- The other tree has all directories of a tree, of which the same are closed, and the same
    links. -/
structure Frames (root other : FileTree) : Prop where
  directories : ∀ location entries, root.at? location = some (.directory entries) →
    ∃ others, other.at? location = some (.directory others)
  closed : ∀ location error, root.at? location = some (.closed error (some true)) →
    other.at? location = some (.closed error (some true))
  links : ∀ location target,
    root.at? location = some (.link target) ↔ other.at? location = some (.link target)

namespace Frames

variable {entries others : List (String × FileTree)} {part : String}

theorem isDirectory_at? (frames : Frames root other)
    (directory : (root.at? location).map isDirectory = some true) :
    (other.at? location).map isDirectory = some true := by
  obtain ⟨item, there, kind⟩ := Option.map_eq_some_iff.1 directory
  cases item with
  | directory entries =>
    obtain ⟨others, thereToo⟩ := frames.directories location entries there
    rw [thereToo]
    rfl
  | closed error told =>
    obtain rfl : told = some true := by simpa [isDirectory, Option.getD_eq_iff] using kind
    rw [frames.closed location error there]
    rfl
  | _ => cases kind

/-- At the end of a trail to the same place, the other tree has a directory, too. -/
theorem top (frames : Frames root other) (valid : Trail.Valid root trail)
    (validToo : Trail.Valid other later) (place : later.location = trail.location)
    (here : FileTree.top root trail = .directory entries) :
    ∃ others, FileTree.top other later = .directory others := by
  obtain ⟨others, kept⟩ :=
    frames.directories trail.location entries (valid.at?_location.trans (congrArg some here))
  rw [← place, validToo.at?_location] at kept
  exact ⟨others, Option.some.inj kept⟩

/-- If that of the tree is closed, that of the other tree is. -/
theorem top_closed (frames : Frames root other) (valid : Trail.Valid root trail)
    (validToo : Trail.Valid other later) (place : later.location = trail.location)
    {error : SystemError} (here : FileTree.top root trail = .closed error (some true)) :
    FileTree.top other later = .closed error (some true) := by
  have kept :=
    frames.closed trail.location error (valid.at?_location.trans (congrArg some here))
  rw [← place, validToo.at?_location] at kept
  exact Option.some.inj kept

theorem link_iff (frames : Frames root other) (valid : Trail.Valid root trail)
    (validToo : Trail.Valid other later) (place : later.location = trail.location)
    (here : FileTree.top root trail = .directory entries)
    (hereToo : FileTree.top other later = .directory others) (target : Path) :
    entries.lookup part = some (.link target) ↔ others.lookup part = some (.link target) := by
  rw [← valid.lookup here, ← validToo.lookup hereToo, place]
  exact frames.links _ target

end Frames

/-- A path leads to the same place of a tree that has the same directories and links, if something
    is there. -/
theorem follow_congr {parts : List String} {item : FileTree} (frames : Frames root other)
    (ends : other.at? location = some item) (valid : Trail.Valid root trail)
    (validToo : Trail.Valid other later) (place : later.location = trail.location)
    (present : follow root true links trail parts = .ok (.present location tree)) :
    follow other true links later parts = .ok (.present location item) := by
  fun_induction follow root true links trail parts generalizing later with
  | case1 links trail =>
    obtain ⟨rfl, -⟩ := Spot.present.inj (Except.ok.inj present)
    rw [← place, validToo.at?_location] at ends
    rw [follow_nil, place, Option.some.inj ends]
  | case2 links trail part rest entries here plain ih =>
    obtain ⟨others, hereToo⟩ := frames.top valid validToo place here
    rw [follow_same hereToo plain]
    exact ih valid validToo place present
  | case3 links trail rest entries here _ ih =>
    obtain ⟨others, hereToo⟩ := frames.top valid validToo place here
    rw [follow_parent hereToo]
    refine ih valid.tail validToo.tail ?_ present
    rw [Trail.location_tail, Trail.location_tail, place]
  | case7 => simp_all
  | case9 trail part rest entries here plain up short target listed _ links ih =>
    obtain ⟨others, hereToo⟩ := frames.top valid validToo place here
    have listedToo := (frames.link_iff valid validToo place here hereToo target).1 listed
    rw [follow_link hereToo plain up short listedToo]
    refine ih ?_ ?_ ?_ present
    · split_ifs
      · trivial
      · exact valid
    · split_ifs
      · trivial
      · exact validToo
    · split_ifs
      · rfl
      · exact place
  | case10 links trail part rest entries here plain up short child notLink listed ih =>
    obtain ⟨others, hereToo⟩ := frames.top valid validToo place here
    have there := valid.lookup here part
    -- What the name leads to is either the end of the path or a directory on the way.
    obtain ⟨childToo, thereToo⟩ :
        ∃ childToo, other.at? (trail.location ++ [part]) = some childToo := by
      cases rest with
      | nil =>
        rw [follow_nil, Trail.location_cons] at present
        obtain ⟨rfl, -⟩ := Spot.present.inj (Except.ok.inj present)
        exact ⟨item, ends⟩
      | cons next rest =>
        have kept := @frames.isDirectory_at? _ _ (trail.location ++ [part])
          (by rw [there, listed]; exact congrArg some (directory_of_follow present))
        obtain ⟨childToo, thereToo, -⟩ := Option.map_eq_some_iff.1 kept
        exact ⟨childToo, thereToo⟩
    have listedToo : others.lookup part = some childToo := by
      rw [← validToo.lookup hereToo, place, thereToo]
    have notLinkToo (target : Path) : childToo ≠ .link target := by
      rintro rfl
      have linked := (frames.link_iff valid validToo place here hereToo target).2 listedToo
      exact notLink target (Option.some.inj (listed.symm.trans linked))
    rw [follow_name hereToo plain up short listedToo notLinkToo]
    refine ih (valid.cons here listed) (validToo.cons hereToo listedToo) ?_ present
    rw [Trail.location_cons, Trail.location_cons, place]
  | case16 links trail part rest error told here slash ih =>
    obtain ⟨rfl, rfl⟩ := slash
    rw [follow_slash (frames.top_closed valid validToo place here)]
    exact ih valid validToo place present
  | _ => cases present

end FileTree

namespace Disk

open FileTree

variable {disk other : Disk} {path : Path} {tree : FileTree} {location : List String}

/-- The path leads to this place of the disk, where this stands. -/
structure Leads (disk : Disk) (path : Path) (location : List String) (tree : FileTree) : Prop where
  noNul : Char.ofNat 0 ∉ path.text.toList
  text : path.text ≠ ""
  short : path.text.utf8ByteSize < pathLimit
  followed : follow disk.root true linkLimit
    (if path.isAbsolute then [] else trailTo disk.root disk.working) path.parts =
      .ok (.present location tree)

theorem look_iff_leads : disk.look path = .ok tree ↔ ∃ location, disk.Leads path location tree := by
  rw [look_eq_ok_iff]
  constructor
  · rintro ⟨noNul, text, short, location, followed⟩
    exact ⟨location, noNul, text, short, followed⟩
  · rintro ⟨location, noNul, text, short, followed⟩
    exact ⟨noNul, text, short, location, followed⟩

namespace Leads

theorem valid (disk : Disk) (path : Path) : Trail.Valid disk.root
    (if path.isAbsolute then [] else trailTo disk.root disk.working) := by
  split_ifs
  · trivial
  · exact trailTo_valid disk.root disk.working

theorem at? (leads : disk.Leads path location tree) : disk.root.at? location = some tree :=
  at?_of_follow (valid disk path) leads.followed

/-- Only the directories and the links of a disk make a difference to where a path leads. -/
theorem congr (leads : disk.Leads path location tree) {item : FileTree}
    (frames : Frames disk.root other.root) (ends : other.root.at? location = some item)
    (working : (disk.root.at? disk.working).map FileTree.isDirectory = some true)
    (same : other.working = disk.working) : other.Leads path location item where
  noNul := leads.noNul
  text := leads.text
  short := leads.short
  followed := by
    refine follow_congr frames ends (valid disk path) (valid other path) ?_ leads.followed
    split_ifs
    · rfl
    · obtain ⟨here, there, -⟩ := Option.map_eq_some_iff.1 working
      obtain ⟨hereToo, thereToo, -⟩ :=
        Option.map_eq_some_iff.1 (frames.isDirectory_at? working)
      rw [same, location_trailTo there, location_trailTo thereToo]

end Leads

theorem list_eq {entries : List (String × FileTree)}
    (found : disk.look path = .ok (.directory entries)) :
    disk.list path = .ok (entries.map fun entry => (entry.1, entry.2.kind)) := by
  rw [list, found]
  rfl

theorem look_of_list {listed : List (String × Except SystemError Bool)}
    (lists : disk.list path = .ok listed) : ∃ entries, disk.look path = .ok (.directory entries) ∧
      listed = entries.map fun entry => (entry.1, entry.2.kind) := by
  rw [list] at lists
  cases found : disk.look path with
  | error cause => simp [found, bind, Except.bind] at lists
  | ok tree =>
    cases tree with
    | directory entries =>
      rw [found] at lists
      exact ⟨entries, rfl, (Except.ok.inj lists).symm⟩
    | _ => simp [found, bind, Except.bind, throw, throwThe, MonadExceptOf.throw] at lists

end Disk
end Conformance
