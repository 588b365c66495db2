import Conformance.Disk
import Mathlib.Data.List.Basic

/-!
# Going down a tree by names

A directory's entry has the directory's path with one more name. `look_entry` says what such a path
leads to: what the directory lists under the name, whatever links and steps up lead to the directory
itself.
-/

namespace Conformance

/-! ## Names and paths -/

/-- A name that a directory can list. -/
structure FileTree.IsName (name : String) : Prop where
  nonempty : name ≠ ""
  notCurrent : name ≠ "."
  notParent : name ≠ ".."
  noSlash : '/' ∉ name.toList
  noNul : Char.ofNat 0 ∉ name.toList
  short : name.utf8ByteSize ≤ FileTree.nameLimit

instance (name : String) : Decidable (FileTree.IsName name) :=
  decidable_of_iff (name ≠ "" ∧ name ≠ "." ∧ name ≠ ".." ∧ '/' ∉ name.toList ∧
      Char.ofNat 0 ∉ name.toList ∧ name.utf8ByteSize ≤ FileTree.nameLimit)
    ⟨fun ⟨nonempty, notCurrent, notParent, noSlash, noNul, short⟩ =>
      ⟨nonempty, notCurrent, notParent, noSlash, noNul, short⟩,
    fun ⟨nonempty, notCurrent, notParent, noSlash, noNul, short⟩ =>
      ⟨nonempty, notCurrent, notParent, noSlash, noNul, short⟩⟩

namespace Path

open FileTree (IsName)

variable {p : Path} {name : String}

/-- The path that leads from `p` along some names. -/
def join (p : Path) (names : List String) : Path := names.foldl entry p

@[simp] theorem join_nil (p : Path) : p.join [] = p := rfl

@[simp] theorem join_cons (p : Path) (name : String) (names : List String) :
    p.join (name :: names) = (p.entry name).join names := rfl

theorem parts_name (slashless : '/' ∉ name.toList) : (⟨name⟩ : Path).parts = [name] := by
  rw [parts, List.splitOn_eq_singleton slashless, List.map_singleton, String.ofList_toList]

/-- The parts of a directory's path, and of the paths that go on from it. Only a slash at the end of
    the former makes a difference. -/
theorem parts_entry (text : p.text ≠ "") :
    ∃ parts, parts ≠ [] ∧ (p.parts = parts ∨ p.parts = parts ++ [""]) ∧
      ∀ name, (p.entry name).parts = parts ++ (⟨name⟩ : Path).parts := by
  by_cases slash : p.text.toList.getLast? = some '/'
  · obtain ⟨start, ended⟩ := List.getLast?_eq_some_iff.1 slash
    refine ⟨(start.splitOn '/').map String.ofList, by simp [List.splitOn_ne_nil], .inr ?_,
      fun name => ?_⟩
    · simp [parts, ended, List.splitOn_append_cons_self]
    · simp [parts, entry, ended, List.splitOn_append_cons_self]
  · refine ⟨p.parts, by simp [parts, List.splitOn_ne_nil], .inl rfl, fun name => ?_⟩
    simp [parts, entry, slash, text, List.splitOn_append_cons_self]

theorem toList_entry (p : Path) (name : String) :
    ∃ slashes, (∀ c ∈ slashes, c = '/') ∧
      (p.entry name).text.toList = p.text.toList ++ slashes ++ name.toList := by
  rw [entry]
  split_ifs with ended
  · exact ⟨[], by simp, by simp⟩
  · exact ⟨['/'], by simp, by simp⟩

theorem isAbsolute_entry (text : p.text ≠ "") : (p.entry name).isAbsolute = p.isAbsolute := by
  obtain ⟨slashes, -, joined⟩ := toList_entry p name
  have more : p.text.toList ≠ [] := by simpa using text
  rw [isAbsolute, isAbsolute, joined, List.append_assoc, List.head?_append_of_ne_nil _ more]

theorem size_add_le_size_entry (p : Path) (name : String) :
    p.text.utf8ByteSize + name.utf8ByteSize ≤ (p.entry name).text.utf8ByteSize := by
  rw [entry]
  split_ifs
  · simp only [String.utf8ByteSize_append]
    omega
  · simp only [String.utf8ByteSize_append]
    omega

/-- An entry's path is longer than that of its directory. -/
theorem size_entry (p : Path) (named : name ≠ "") :
    p.text.utf8ByteSize < (p.entry name).text.utf8ByteSize := by
  have more : 0 < name.utf8ByteSize := by
    rw [Nat.pos_iff_ne_zero, ne_eq, String.utf8ByteSize_eq_zero_iff]
    exact named
  have both := size_add_le_size_entry p name
  omega

theorem entry_ne_empty (named : name ≠ "") : (p.entry name).text ≠ "" := by
  intro empty
  have longer := p.size_entry named
  simp [empty] at longer

/-- The components of an entry's path are those of its directory, and the name. -/
theorem components_entry (text : p.text ≠ "") (named : IsName name) :
    (p.entry name).components = p.components ++ [.name name] := by
  obtain ⟨parts, more, either, below⟩ := parts_entry text
  have entryParts : (p.entry name).parts = parts ++ [name] := by
    rw [below, parts_name named.noSlash]
  have last : Component.ofPart? name = some (.name name) := by
    rw [Component.ofPart?] <;> simp [named.nonempty, named.notCurrent, named.notParent]
  have first : (p.entry name).parts.head? = p.parts.head? := by
    rw [entryParts, List.head?_append_of_ne_nil _ more]
    rcases either with same | same
    · rw [same]
    · rw [same, List.head?_append_of_ne_nil _ more]
  have kept : p.parts.filterMap Component.ofPart? = parts.filterMap Component.ofPart? := by
    rcases either with same | same
    · rw [same]
    · simp [same, Component.ofPart?]
  rw [components, components, isAbsolute_entry text, first, kept, entryParts]
  simp [last]

end Path

/-! ## Following a path -/

namespace FileTree

variable {root tree : FileTree} {links : Nat} {trail : Trail} {location : List String}

/-- What stands at the end of a trail below `root`. -/
def top (root : FileTree) (trail : Trail) : FileTree := (trail.head?.map Prod.snd).getD root

theorem follow_nil (root : FileTree) (through : Bool) (links : Nat) (trail : Trail) :
    follow root through links trail [] = .ok (.present trail.location (top root trail)) := by
  rw [follow, top]

/-- A dot between slashes leads nowhere. -/
theorem follow_current {through : Bool} {entries : List (String × FileTree)}
    (here : top root trail = .directory entries) (rest : List String) :
    follow root through links trail ("." :: rest) = follow root through links trail rest := by
  rw [top] at here
  simp [follow, here]

theorem follow_replicate_current {through : Bool} {entries : List (String × FileTree)}
    (here : top root trail = .directory entries) (steps : Nat) (rest : List String) :
    follow root through links trail (List.replicate steps "." ++ rest) =
      follow root through links trail rest := by
  induction steps with
  | zero => rfl
  | succ steps ih => rw [List.replicate_succ, List.cons_append, follow_current here, ih]

/-- A slash at the end of a path makes no difference to what it leads to. -/
theorem top_of_follow_slash
    (present : follow root true links trail [""] = .ok (.present location tree)) :
    top root trail = tree := by
  cases here : top root trail with
  | directory entries =>
    have here' : (trail.head?.map Prod.snd).getD root = .directory entries := here
    simp only [follow, here', true_or, if_true] at present
    exact (Spot.present.inj (Except.ok.inj present)).2
  | closed error told =>
    rw [top] at here
    simp only [follow, here, and_true] at present
    split_ifs at present
    exact (Spot.present.inj (Except.ok.inj present)).2
  | _ =>
    rw [top] at here
    simp [follow, here] at present

/-- A name that a directory lists leads to what it lists, unless that is a link. -/
theorem follow_name {through : Bool} {entries : List (String × FileTree)} {name : String}
    {child : FileTree} (here : top root trail = .directory entries)
    (plain : ¬ (name = "" ∨ name = ".")) (notParent : name ≠ "..")
    (short : ¬ nameLimit < name.utf8ByteSize) (listed : entries.lookup name = some child)
    (notLink : ∀ target, child ≠ .link target) (rest : List String) :
    follow root through links trail (name :: rest) =
      follow root through links ((name, child) :: trail) rest := by
  rw [top] at here
  cases child with
  | link target => exact absurd rfl (notLink target)
  | _ => simp [follow, here, plain, notParent, short, listed]

/-- A path that leads somewhere leads on from its first part: either through a link, with the parts
    that the link names in place of its own, or along a directory. What comes after makes no
    difference. -/
theorem follow_cons {part : String} {rest : List String}
    (present : follow root true links trail (part :: rest) = .ok (.present location tree)) :
    ∃ links' trail' parts, (links' < links ∨ links' = links ∧ parts = []) ∧
      ∀ rest, follow root true links trail (part :: rest) =
        follow root true links' trail' (parts ++ rest) := by
  cases here : top root trail with
  | directory entries =>
    have here' : (trail.head?.map Prod.snd).getD root = .directory entries := here
    by_cases skip : part = "" ∨ part = "."
    · exact ⟨links, trail, [], .inr ⟨rfl, rfl⟩, fun rest => by simp [follow, here', skip]⟩
    by_cases up : part = ".."
    · exact ⟨links, trail.tail, [], .inr ⟨rfl, rfl⟩, fun rest => by simp [follow, here', up]⟩
    by_cases long : nameLimit < part.utf8ByteSize
    · simp [follow, here', skip, up, long] at present
    cases listed : entries.lookup part with
    | none =>
      simp only [follow, here', skip, up, long, listed, if_false] at present
      split_ifs at present
      cases present
    | some child =>
      by_cases link : ∃ target, child = .link target
      · obtain ⟨target, rfl⟩ := link
        cases links with
        | zero => simp [follow, here', skip, up, long, listed] at present
        | succ links =>
          refine ⟨links, if target.isAbsolute then [] else trail, target.parts, .inl (by simp), ?_⟩
          intro rest
          simp [follow, here', skip, up, long, listed]
      · refine ⟨links, (part, child) :: trail, [], .inr ⟨rfl, rfl⟩, fun rest => ?_⟩
        exact follow_name here skip up long listed (fun target same => link ⟨target, same⟩) rest
  | closed error told =>
    rw [top] at here
    by_cases slash : told = some true ∧ part = ""
    · exact ⟨links, trail, [], .inr ⟨rfl, rfl⟩, fun rest => by simp [follow, here, slash]⟩
    · simp [follow, here, slash] at present
  | _ =>
    rw [top] at here
    simp [follow, here] at present

/-- A path that leads somewhere leads through each of its beginnings: from there on, it does not
    matter how that place was reached. -/
theorem follow_append {links : Nat} {trail : Trail} {parts more : List String}
    (present : follow root true links trail (parts ++ more) = .ok (.present location tree)) :
    ∃ links' trail', links' ≤ links ∧ ∀ rest,
      follow root true links trail (parts ++ rest) = follow root true links' trail' rest := by
  match parts with
  | [] => exact ⟨links, trail, Nat.le_refl links, fun _ => rfl⟩
  | part :: parts =>
    obtain ⟨links', trail', first, smaller, step⟩ := follow_cons present
    rw [List.cons_append, step, ← List.append_assoc] at present
    obtain ⟨links'', trail'', fewer, reached⟩ := follow_append present
    have fewerToo : links' ≤ links := smaller.elim Nat.le_of_lt fun same => Nat.le_of_eq same.1
    refine ⟨links'', trail'', Nat.le_trans fewer fewerToo, fun rest => ?_⟩
    rw [List.cons_append, step, ← List.append_assoc, reached]
termination_by (links, parts.length)
decreasing_by
  obtain fewer | ⟨rfl, rfl⟩ := smaller
  · exact Prod.Lex.left _ _ fewer
  · exact Prod.Lex.right _ (by simp)

end FileTree

/-! ## Looking at an entry -/

namespace Disk

open FileTree

variable {disk : Disk} {path : Path} {tree : FileTree}

theorem look_eq_ok_iff : disk.look path = .ok tree ↔
    Char.ofNat 0 ∉ path.text.toList ∧ path.text ≠ "" ∧ path.text.utf8ByteSize < pathLimit ∧
      ∃ location, follow disk.root true linkLimit
        (if path.isAbsolute then [] else trailTo disk.root disk.working) path.parts =
          .ok (.present location tree) := by
  by_cases nul : Char.ofNat 0 ∈ path.text.toList
  · simp [look, nul]
  rw [look, if_neg nul, Disk.find, spot, resolve]
  by_cases empty : path.text = ""
  · simp [empty, Except.mapError, Except.map, bind, Except.bind]
  by_cases long : pathLimit ≤ path.text.utf8ByteSize
  · simp [empty, long, Nat.not_lt.2 long, Except.mapError, Except.map, bind, Except.bind]
  rw [if_neg empty, if_neg long]
  simp only [nul, empty, Nat.not_le.1 long, not_false_eq_true, ne_eq, true_and]
  generalize follow _ _ _ _ _ = reached
  rcases reached with cause | ⟨location, found⟩ | ⟨parent, name, slashed⟩ <;>
    simp [Except.mapError, Except.map, bind, Except.bind, pure, Except.pure, throw, throwThe,
      MonadExceptOf.throw]

/-- A path that the system could follow leads nowhere if it is too long. -/
theorem look_of_long (noNul : Char.ofNat 0 ∉ path.text.toList)
    (long : pathLimit ≤ path.text.utf8ByteSize) :
    disk.look path = .error (.system .nameTooLong) := by
  have text : path.text ≠ "" := by
    intro empty
    simp [empty, pathLimit] at long
  rw [look, if_neg noNul, Disk.find, spot, resolve, if_neg text, if_pos long]
  rfl

/-- An entry's path holds a NUL character only if its directory's path or its name does. -/
theorem noNul_entry {name : String} (noNul : Char.ofNat 0 ∉ path.text.toList)
    (named : Char.ofNat 0 ∉ name.toList) : Char.ofNat 0 ∉ (path.entry name).text.toList := by
  obtain ⟨slashes, only, joined⟩ := Path.toList_entry path name
  rw [joined, List.mem_append, List.mem_append]
  rintro ((early | between) | late)
  · exact noNul early
  · exact absurd (only _ between) (by decide)
  · exact named late

/-- From a directory on, a path is followed alike, whether or not the directory's path ends in a
    slash. -/
theorem follow_of_look {entries : List (String × FileTree)}
    (found : disk.look path = .ok (.directory entries)) :
    ∃ links trail, links ≤ linkLimit ∧ top disk.root trail = .directory entries ∧
      ∀ name, follow disk.root true linkLimit
        (if path.isAbsolute then [] else trailTo disk.root disk.working) (path.entry name).parts =
          follow disk.root true links trail (⟨name⟩ : Path).parts := by
  obtain ⟨-, text, -, location, followed⟩ := look_eq_ok_iff.1 found
  obtain ⟨parts, -, either, below⟩ := Path.parts_entry text
  rcases either with plain | slashed
  · rw [plain, ← List.append_nil parts] at followed
    obtain ⟨links, trail, fewer, reached⟩ := follow_append followed
    rw [reached, follow_nil] at followed
    refine ⟨links, trail, fewer, (Spot.present.inj (Except.ok.inj followed)).2, fun name => ?_⟩
    rw [below, reached]
  · rw [slashed] at followed
    obtain ⟨links, trail, fewer, reached⟩ := follow_append followed
    rw [reached] at followed
    refine ⟨links, trail, fewer, top_of_follow_slash followed, fun name => ?_⟩
    rw [below, reached]

/-- An entry of a directory, unless it is a link, is found under the directory's path and its
    name. -/
theorem look_entry {entries : List (String × FileTree)} {name : String}
    (found : disk.look path = .ok (.directory entries)) (named : IsName name)
    (listed : entries.lookup name = some tree) (notLink : ∀ target, tree ≠ .link target)
    (short : (path.entry name).text.utf8ByteSize < pathLimit) :
    disk.look (path.entry name) = .ok tree := by
  obtain ⟨links, trail, -, here, reached⟩ := follow_of_look found
  obtain ⟨noNul, text, -⟩ := look_eq_ok_iff.1 found
  refine look_eq_ok_iff.2
    ⟨noNul_entry noNul named.noNul, Path.entry_ne_empty named.nonempty, short, ?_⟩
  refine ⟨Trail.location ((name, tree) :: trail), ?_⟩
  rw [Path.isAbsolute_entry text, reached, Path.parts_name named.noSlash,
    follow_name here (by simp [named.nonempty, named.notCurrent]) named.notParent
      (Nat.not_lt.2 named.short) listed notLink, follow_nil]
  rfl

end Disk

end Conformance
