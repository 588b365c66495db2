import Conformance.ByteOrder
import Conformance.Disk

/-!
# Walking a tree

`walk` visits every file below a directory, depth first, with the entries of each directory in the
order of their names' bytes. Ignored names are left out at every depth, directories included, and
symbolic links are visited but never entered. The first visit that ends early ends the walk.

A directory is listed when its turn comes, so a visit can change what is visited after it. It is
scanned as a whole before any of its entries is visited or left out.
-/

namespace Conformance.Walk

/-- An entry put among entries that are in the order of their names. -/
def insertByName (entry : String × Bool) : List (String × Bool) → List (String × Bool)
  | [] => [entry]
  | other :: rest =>
    if ByteOrder.Before other.1 entry.1 then other :: insertByName entry rest
    else entry :: other :: rest

/-- The same entries in the order of their names. -/
def arrange (entries : List (String × Bool)) : List (String × Bool) :=
  entries.foldr insertByName []

variable {σ : Type}

/-- Visit the entries of the directory at `path` in the order given, except ignored names. -/
def visitEntries (ignored : List String) (visit enter : Path → Action σ Unit) (path : Path) :
    List (String × Bool) → Action σ Unit
  | [] => pure ()
  | (name, isDirectory) :: rest => do
    if name ∉ ignored then
      if isDirectory then enter (path.entry name) else visit (path.entry name)
    visitEntries ignored visit enter path rest

/-- The entries with their kinds, or the path of the first one whose kind the system does not
    tell. -/
def tell (path : Path) :
    List (String × Except SystemError Bool) → Except (Path × Cause) (List (String × Bool))
  | [] => .ok []
  | (name, .ok isDirectory) :: rest => (tell path rest).map ((name, isDirectory) :: ·)
  | (name, .error error) :: _ => .error (path.entry name, .system error)

/-- What a directory lists, with whether each entry is a directory itself, or else what the system
    refuses to list or to look at, and why. -/
def scan (disk : Disk) (path : Path) : Except (Path × Cause) (List (String × Bool)) :=
  match disk.list path with
  | .error cause => .error (path, cause)
  | .ok listed => tell path listed

/-- Visit every file below the directory at `path`, on the disk as it is then. No path is so long
    that a directory lies deeper than `depth`, the most bytes in one. -/
def walkFrom (disk : σ → Disk) (ignored : List String) (visit : Path → Action σ Unit) :
    Nat → Path → Action σ Unit
  | 0, path => throw (.fault (.walk path (.system .nameTooLong)))
  | depth + 1, path => do
    match scan (disk (← get)) path with
    | .error (place, cause) => throw (.fault (.walk place cause))
    | .ok entries =>
      visitEntries ignored visit (walkFrom disk ignored visit depth) path (arrange entries)

/-- Visit every file below `root`. A directory that cannot be listed is a fault, and so is an entry
    of which the system does not tell whether it is a directory. -/
def walk (disk : σ → Disk) (root : Path) (ignored : List String) (visit : Path → Action σ Unit) :
    Action σ Unit :=
  walkFrom disk ignored visit FileTree.pathLimit root

end Conformance.Walk
