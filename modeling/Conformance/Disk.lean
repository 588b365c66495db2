import Conformance.Fault
import Conformance.FileTree
import Conformance.Raw

/-!
# Disks

A `Disk` is a file tree, the bytes of its files, and the directory that relative paths start from.
Several names can stand for one file, and a file that has lost its last name keeps its bytes for
those who have it open. All files belong to the user, who is bound by their modes unless this is the
superuser.
-/

namespace Conformance

/-- The bytes of a file, who may use it, and when it was last changed. -/
structure File where
  bytes : ByteArray := .empty
  mode : Nat := 0o644
  changed : Nat := 0
  deriving Inhabited

/-- A file tree with the bytes of its files. -/
structure Disk where
  root : FileTree
  files : Array File := #[]
  /-- The names that lead from the root to the working directory. -/
  working : List String := []
  /-- Whether the user may read and write every file, whatever its mode. -/
  superuser : Bool := true
  deriving Inhabited

namespace Disk

/-- What the file of an installed program holds. It is no text. -/
def programBytes : ByteArray := ⟨#[0x7F, 0x45, 0x4C, 0x46, 0x02, 0x01, 0x01, 0x00, 0xFF]⟩

/-- The file with a number. -/
def file (disk : Disk) (number : Nat) : File := disk.files.getD number {}

/-- Whether the user may do to a file what all of these bits of its mode stand for. -/
def permits (disk : Disk) (file : File) (bits : Nat) : Bool :=
  disk.superuser || file.mode &&& bits == bits

/-- Change the file with a number. -/
def alterFile (disk : Disk) (number : Nat) (change : File → File) : Disk :=
  { disk with files := disk.files.modify number change }

/-! ## Reading -/

/-- What a path leads to from a directory. -/
def spot (disk : Disk) (directory : List String) (path : Path) (through : Bool) :
    Except SystemError FileTree.Spot :=
  disk.root.resolve directory path through

/-- What is at the end of a path: where it is and what it is. -/
def find (disk : Disk) (directory : List String) (path : Path) (through : Bool) :
    Except SystemError (List String × FileTree) := do
  match ← disk.spot directory path through with
  | .present location tree => return (location, tree)
  | .absent _ _ _ => throw .notFound

/-- What a path of the working directory leads to. -/
def look (disk : Disk) (path : Path) : Except Cause FileTree :=
  if Char.ofNat 0 ∈ path.text.toList then .error .nulInPath
  else (disk.find disk.working path true).map Prod.snd |>.mapError .system

def isDirectory (disk : Disk) (path : Path) : Bool :=
  match disk.look path with
  | .ok tree => tree.isDirectory
  | .error _ => false

/-- The names that a directory lists, and whether each is a directory itself, if the system
    tells. -/
def list (disk : Disk) (path : Path) : Except Cause (List (String × Except SystemError Bool)) := do
  match ← disk.look path with
  | .directory entries => return entries.map fun (name, child) => (name, child.kind)
  | .closed error told => throw (.system (if told = some false then .notDirectory else error))
  | .file _ | .program _ | .device _ | .pipe _ | .link _ => throw (.system .notDirectory)

/-- The bytes of something in the tree. There is no terminal and no open descriptor to read from,
    zeros without end find no room, and a wait for someone to write to a pipe is broken off. -/
def bytesOf (disk : Disk) : FileTree → Except Cause ByteArray
  | .file number =>
    let file := disk.file number
    if disk.permits file 0o400 then .ok file.bytes else .error (.system .permissionDenied)
  | .program _ => .ok programBytes
  | .device .null => .ok .empty
  | .device .zero | .device .full => .error (.other "out of memory")
  | .device .terminal => .error (.system .noDevice)
  | .device (.descriptor _) => .error (.system .notFound)
  | .pipe _ => .error (.system .interrupted)
  | .link _ => .error (.system .tooManyLinks)
  | .closed error _ => .error (.system error)
  | .directory _ => .error (.system .isDirectory)

/-- The bytes of what a path leads to. -/
def readBytes (disk : Disk) (path : Path) : Except Cause ByteArray := do
  disk.bytesOf (← disk.look path)

/-- The text of a file. -/
def readText (disk : Disk) (path : Path) : Except Cause String := do
  match Utf8.read? (← disk.readBytes path).toList with
  | some text => return text
  | none => throw .notText

/-! ## Changing -/

/-- Make a file without a name. -/
def addFile (disk : Disk) (file : File) : Disk × Nat :=
  ({ disk with files := disk.files.push file }, disk.files.size)

/-- Put something under a name of the directory at some location. -/
def put (disk : Disk) (parent : List String) (name : String) (item : FileTree) : Disk :=
  { disk with root := disk.root.put item (parent ++ [name]) }

/-- Make an empty file where a path leads, unless one is there. -/
def create (disk : Disk) (directory : List String) (path : Path) (mode : Nat) :
    Except SystemError (Disk × Nat) := do
  match ← disk.spot directory path true with
  | .present _ (.file number) => return (disk, number)
  | .present _ (.directory _) => throw .isDirectory
  | .present _ (.closed error told) => throw (if told = some true then .isDirectory else error)
  | .present _ _ => throw .textBusy
  | .absent _ _ true => throw .isDirectory
  | .absent parent name false =>
    let (disk, number) := disk.addFile { mode }
    return (disk.put parent name (.file number), number)

/-- Put something that is new where a path leads. -/
def place (disk : Disk) (directory : List String) (path : Path) (item : FileTree) :
    Except SystemError Disk := do
  match ← disk.spot directory path false with
  | .present _ _ => throw .exists
  | .absent parent name slashed =>
    if slashed ∧ !item.isDirectory then throw .notFound
    return disk.put parent name item

/-- Make a directory where a path leads. -/
def makeDirectory (disk : Disk) (directory : List String) (path : Path) :
    Except SystemError Disk :=
  disk.place directory path (.directory [])

/-- Take away the name of what is no directory. -/
def unlink (disk : Disk) (directory : List String) (path : Path) : Except SystemError Disk := do
  let (location, tree) ← disk.find directory path false
  if tree.isDirectory then throw .isDirectory
  if path.text.toList.getLast? = some '/' then throw .notDirectory
  return { disk with root := disk.root.remove location }

/-- Take away an empty directory. -/
def removeDirectory (disk : Disk) (directory : List String) (path : Path) :
    Except SystemError Disk := do
  let (location, tree) ← disk.find directory path false
  match tree with
  | .directory [] =>
    if location = [] then throw .busy
    if path.parts.getLast? = some "." then throw .invalid
    if path.parts.getLast? = some ".." then throw .notEmpty
    return { disk with root := disk.root.remove location }
  | .directory _ =>
    if path.parts.getLast? = some "." then throw .invalid
    throw (if location = [] then .busy else .notEmpty)
  | .closed error told => throw (if told = some false then .notDirectory else error)
  | _ => throw .notDirectory

/-- Whether one chain of names starts with another one. -/
def isWithin (location top : List String) : Bool := top.isPrefixOf location

/-- Give what a path leads to another name. What had that name before is gone. -/
def rename (disk : Disk) (directory : List String) (old new : Path) :
    Except SystemError Disk := do
  let isDotted (path : Path) : Bool :=
    match (path.parts.reverse.dropWhile (· = "")).head? with
    | some last => last = "." || last = ".."
    | none => true
  let (source, item) ← disk.find directory old false
  let target ← disk.spot directory new false
  if isDotted old ∨ isDotted new then throw .busy
  let move (parent : List String) (name : String) : Disk :=
    { disk with root := (disk.root.remove source).put item (parent ++ [name]) }
  let replaced (location : List String) : Disk :=
    move location.dropLast (location.getLastD "")
  match target with
  | .absent parent name slashed =>
    if slashed ∧ !item.isDirectory then throw .notDirectory
    if isWithin parent source ∧ item.isDirectory then throw .invalid
    return move parent name
  | .present location there =>
    if location = source then return disk
    if item.isDirectory ∧ !there.isDirectory then throw .notDirectory
    if !item.isDirectory ∧ there.isDirectory then throw .isDirectory
    match item, there with
    | .file a, .file b => return if a = b then disk else replaced location
    | _, .directory entries =>
      if isWithin location source then throw .invalid
      if entries ≠ [] then throw .notEmpty
      return replaced location
    | _, .closed error (some true) => throw error
    | _, _ => return replaced location

/-! ## Building -/

/-- Make a directory and those on the way to it, as far as they are not there. -/
def makeDirectories (disk : Disk) (path : Path) : Disk :=
  let make (disk : Disk) (n : Nat) : Disk :=
    let part : Path := ⟨"/".intercalate (path.parts.take (n + 1))⟩
    (disk.makeDirectory disk.working part).toOption.getD disk
  (List.range path.parts.length).foldl make disk

/-- Something to put on a disk. -/
inductive Item where
  | file (bytes : ByteArray)
  | link (target : Path)
  | directory

/-- Put something on a disk, with directories on the way made as needed. A file that is there is
    written anew, through links. -/
def add (disk : Disk) (path : Path) (item : Item) : Disk :=
  let ready := disk.makeDirectories ⟨"/".intercalate path.parts.dropLast⟩
  match item with
  | .directory => ready.makeDirectories path
  | .link target => (ready.place ready.working path (.link target)).toOption.getD ready
  | .file bytes =>
    match ready.create ready.working path 0o644 with
    | .ok (made, number) => made.alterFile number fun file => { file with bytes }
    | .error _ => ready

/-- A disk after all these things have been put on it in order. -/
def addAll (disk : Disk) (items : List (Path × Item)) : Disk :=
  items.foldl (fun disk (path, item) => disk.add path item) disk

end Disk
end Conformance
