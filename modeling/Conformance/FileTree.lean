import Conformance.Path
import Conformance.SystemError

/-!
# File trees

A `FileTree` is what a directory lists under a name, with everything below it. Paths are followed
part by part and through symbolic links, as a system does: `follow` says what a path leads to, or
which name is missing at its end.
-/

namespace Conformance

/-- A file that is no store of bytes. -/
inductive Device where
  /-- Empty when read; what is written to it is gone. -/
  | null
  /-- Reads as zeros without end. -/
  | zero
  /-- Refuses all writes, for want of space. -/
  | full
  /-- The terminal of a process, which has none. -/
  | terminal
  /-- Another name of a process's own descriptor. -/
  | descriptor (number : Nat)
  deriving DecidableEq, Repr

/-- What a directory lists under a name. -/
inductive FileTree where
  /-- A file; its bytes are kept elsewhere, under its number. -/
  | file (number : Nat)
  /-- A program that is installed on the host. -/
  | program (name : String)
  | device (device : Device)
  /-- A pipe with a name. -/
  | pipe (number : Nat)
  | link (target : Path)
  /-- Something that the system refuses to open, with what it tells of its kind, if anything:
      whether it is a directory. -/
  | closed (error : SystemError) (told : Option Bool)
  /-- A directory with its entries in the order in which it lists them. -/
  | directory (entries : List (String × FileTree))
  deriving Inhabited, Repr

namespace FileTree

def isDirectory : FileTree → Bool
  | directory _ => true
  | closed _ told => told.getD false
  | file _ | program _ | device _ | pipe _ | link _ => false

/-- Whether an entry is a directory, if the system tells. -/
def kind : FileTree → Except SystemError Bool
  | closed error none => .error error
  | tree => .ok tree.isDirectory

/-- What a directory lists under a name. -/
def child? (name : String) : FileTree → Option FileTree
  | directory entries => entries.lookup name
  | file _ | program _ | device _ | pipe _ | link _ | closed _ _ => none

/-- What stands at the end of a chain of names. -/
def at? : List String → FileTree → Option FileTree
  | [], tree => some tree
  | name :: rest, tree => (tree.child? name).bind (at? rest)

/-! ## Changing a tree -/

/-- Change the entry `name`, or list a new one last. Where `change` gives nothing, nothing is listed
    under the name. -/
def alterEntry (name : String) (change : Option FileTree → Option FileTree) :
    List (String × FileTree) → List (String × FileTree)
  | [] => (change none).toList.map (name, ·)
  | (other, child) :: rest =>
    if other = name then (change (some child)).toList.map (name, ·) ++ rest
    else (other, child) :: alterEntry name change rest

/-- Change what stands at the end of a chain of names, of which all but the last lead through
    directories. -/
def alter (change : Option FileTree → Option FileTree) : List String → FileTree → FileTree
  | [name], directory entries => directory (alterEntry name change entries)
  | name :: rest, directory entries =>
    directory (alterEntry name (fun child => child.map (alter change rest)) entries)
  | _, tree => tree

/-- Put something at the end of a chain of names. -/
def put (tree item : FileTree) (location : List String) : FileTree :=
  tree.alter (fun _ => some item) location

/-- Take away what stands at the end of a chain of names. -/
def remove (tree : FileTree) (location : List String) : FileTree :=
  tree.alter (fun _ => none) location

/-! ## Following paths -/

/-- The number of symbolic links that one path may lead through. -/
def linkLimit : Nat := 40

/-- The most bytes that a name can have. -/
def nameLimit : Nat := 255

/-- One more than the most bytes that a path can have. -/
def pathLimit : Nat := 4096

/-- What a path leads to. -/
inductive Spot where
  /-- Something that is there, and the names that lead to it from the root. -/
  | present (location : List String) (tree : FileTree)
  /-- A name that the directory at `parent` does not list. -/
  | absent (parent : List String) (name : String) (slashed : Bool)
  deriving Repr

/-- The directories that a path has led through, last one first, each with its name. -/
abbrev Trail := List (String × FileTree)

def Trail.location (trail : Trail) : List String := (trail.map Prod.fst).reverse

/-- Follow the parts of a path from the end of a trail below `root`. A link at the end of the path
    is followed if `through` says so, or if a slash comes after it. -/
def follow (root : FileTree) (through : Bool) (links : Nat) (trail : Trail) :
    List String → Except SystemError Spot
  | [] => .ok (.present trail.location ((trail.head?.map Prod.snd).getD root))
  | part :: rest =>
    match (trail.head?.map Prod.snd).getD root with
    | .directory entries =>
      if part = "" ∨ part = "." then follow root through links trail rest
      else if part = ".." then follow root through links trail.tail rest
      else if nameLimit < part.utf8ByteSize then .error .nameTooLong
      else
        match entries.lookup part with
        | none =>
          if rest.all (· = "") then .ok (.absent trail.location part (rest ≠ []))
          else .error .notFound
        | some (.link target) =>
          if rest = [] ∧ !through then .ok (.present (trail.location ++ [part]) (.link target))
          else
            match links with
            | 0 => .error .tooManyLinks
            | links + 1 =>
              follow root through links (if target.isAbsolute then [] else trail)
                (target.parts ++ rest)
        | some child => follow root through links ((part, child) :: trail) rest
    | .file _ | .program _ | .device _ | .pipe _ | .link _ => .error .notDirectory
    | .closed error told =>
      -- Only a slash at its end leads no further.
      if told = some true ∧ part = "" then follow root through links trail rest
      else .error (if told = some false then .notDirectory else error)
termination_by parts => (links, parts.length)

/-- The trail to the end of a chain of names, as far as it goes. -/
def trailTo (root : FileTree) (location : List String) : Trail :=
  let step (trail : Trail) (name : String) : Trail :=
    match ((trail.head?.map Prod.snd).getD root).child? name with
    | some child => (name, child) :: trail
    | none => trail
  location.foldl step []

/-- What a path leads to from a directory. -/
def resolve (root : FileTree) (directory : List String) (path : Path) (through : Bool) :
    Except SystemError Spot :=
  if path.text = "" then .error .notFound
  else if pathLimit ≤ path.text.utf8ByteSize then .error .nameTooLong
  else
    follow root through linkLimit (if path.isAbsolute then [] else trailTo root directory)
      path.parts

end FileTree
end Conformance
