/-!
# Paths

A path is kept exactly as it was written. Its components are the parts between slashes, without
empty parts and without `.` parts after the first.
-/

namespace Conformance

/-- A path, as it was written. -/
structure Path where
  text : String
  deriving DecidableEq, Repr, Inhabited

namespace Path

/-- A component of a path. -/
inductive Component where
  /-- The slash in front of an absolute path. -/
  | root
  | current
  | parent
  | name (text : String)
  deriving DecidableEq, Repr

/-- The parts between slashes, empty ones included. -/
def parts (p : Path) : List String := (p.text.toList.splitOn '/').map String.ofList

def isAbsolute (p : Path) : Bool := p.text.toList.head? == some '/'

/-- The component that a part in the middle of a path stands for, if any. -/
def Component.ofPart? : String → Option Component
  | "" => none
  | "." => none
  | ".." => some parent
  | part => some (name part)

/-- The components of a path. -/
def components (p : Path) : List Component :=
  let first := if p.isAbsolute then [.root] else if p.parts.head? = some "." then [.current] else []
  first ++ p.parts.filterMap Component.ofPart?

/-- The last component, if it is a name. -/
def fileName? (p : Path) : Option String :=
  match p.components.getLast? with
  | some (.name text) => some text
  | _ => none

/-- What stands before and after the last dot of a name, if something stands before it. -/
def splitName? (name : String) : Option (String × String) :=
  let fromEnd := name.toList.reverse
  match fromEnd.dropWhile (· ≠ '.') with
  | _ :: c :: stem =>
    some (.ofList (c :: stem).reverse, .ofList (fromEnd.takeWhile (· ≠ '.')).reverse)
  | _ => none

/-- The extension of the file name: the text after its last dot. A name that only starts with a
    dot has none. -/
def extension? (p : Path) : Option String := do
  let name ← p.fileName?
  let (_, extension) ← splitName? name
  return extension

/-- The file name without its extension. -/
def stem? (p : Path) : Option String := do
  let name ← p.fileName?
  match splitName? name with
  | some (stem, _) => return stem
  | none => return name

/-- The path of an entry of the directory `p`. -/
def entry (p : Path) (name : String) : Path :=
  if p.text = "" ∨ p.text.toList.getLast? = some '/' then ⟨p.text ++ name⟩
  else ⟨p.text ++ "/" ++ name⟩

/-- The text of a component. -/
def Component.text : Component → String
  | root => "/"
  | current => "."
  | parent => ".."
  | .name text => text

/-- The components below `base`, if the path starts with those of `base`. -/
def below? (p base : Path) : Option (List Component) :=
  base.components.isPrefixOf? p.components

/-- The text of the path as it is shown: a backslash reads as a slash. -/
def shown (p : Path) : String := .ofList (p.text.toList.map fun c => if c = '\\' then '/' else c)

/-- The path relative to `base`, as a path of its own; the path itself if it is not below `base`. -/
def relativeTo (p base : Path) : Path :=
  match p.below? base with
  | some components => ⟨"/".intercalate (components.map Component.text)⟩
  | none => p

end Path
end Conformance
