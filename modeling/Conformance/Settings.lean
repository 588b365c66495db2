import Conformance.Duration
import Conformance.Kind
import Conformance.Path

/-!
# Settings

`Settings` is everything a session needs to know before it starts. A `Setting` changes one field;
`Settings.set` takes it over. Ignored names are only ever added, so `benchmark` stays ignored.
-/

namespace Conformance

/-- Everything a session needs to know before it starts. -/
structure Settings where
  /-- The root of the test tree; selectors are relative to it. -/
  root : Path := ⟨"test"⟩
  /-- The interpreter under test. -/
  binary : Path := ⟨"bin/wren"⟩
  /-- The extension of test files, without the dot. -/
  extension : String := "wren"
  /-- Names of files and directories that are left out of the walk. -/
  ignored : List String := ["benchmark"]
  kind : Kind := .test
  /-- Only files whose path below the root starts with this are run. -/
  selector : Option String := none
  /-- A test that runs longer is killed. -/
  timeout : Option Duration := none
  /-- Whether each argument is shown before it is run. -/
  verbose : Bool := false
  color : Bool := false
  deriving DecidableEq, Repr, Inhabited

/-- One change of settings. -/
inductive Setting where
  | root (path : Path)
  | binary (path : Path)
  /-- The extension, with or without dots in front. -/
  | extension (text : String)
  /-- Names to leave out beside those left out already. -/
  | ignored (names : List String)
  | kind (kind : Kind)
  | selector (text : Option String)
  | timeout (limit : Option Duration)
  | verbose (on : Bool)
  | color (on : Bool)
  deriving DecidableEq, Repr

/-- A text without the dots in front of it. -/
def dropDots (text : String) : String := .ofList (text.toList.dropWhile (· = '.'))

/-- Names with one more, unless it is among them. -/
def addName (names : List String) (name : String) : List String :=
  if name ∈ names then names else names ++ [name]

namespace Settings

/-- The settings after one change. -/
def set (s : Settings) : Setting → Settings
  | .root path => { s with root := path }
  | .binary path => { s with binary := path }
  | .extension text => { s with extension := dropDots text }
  | .ignored names => { s with ignored := names.foldl addName s.ignored }
  | .kind kind => { s with kind }
  | .selector text => { s with selector := text }
  | .timeout limit => { s with timeout := limit }
  | .verbose on => { s with verbose := on }
  | .color on => { s with color := on }

/-- The settings after a sequence of changes. -/
def setAll (s : Settings) (changes : List Setting) : Settings := changes.foldl set s

/-- Whether a path has the extension of test files. -/
def isTestFile (s : Settings) (path : Path) : Bool := path.extension? == some s.extension

/-- Whether a path is a test file that the selector, if any, lets through. -/
def selects (s : Settings) (path : Path) : Bool :=
  s.isTestFile path &&
  match s.selector with
  | none => true
  | some selector => selector.toList.isPrefixOf (path.relativeTo s.root).shown.toList

end Settings

/-- The interpreter under test: the path given, else a non-empty path from the environment, else
    the default of the settings. -/
def findBinary (given environment : Option String) : Path :=
  match given with
  | some path => ⟨path⟩
  | none =>
    match environment with
    | some path => if path = "" then ({} : Settings).binary else ⟨path⟩
    | none => ({} : Settings).binary

end Conformance
