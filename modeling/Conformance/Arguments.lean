import Conformance.Numeral
import Conformance.Settings

/-!
# Arguments

The words of the command line, read from left to right; the first problem decides. The value of an
option that stands in a word of its own is checked only when the next option, flag or selector is
accepted, or at the end, so a word that is refused outright is reported before it.
-/

namespace Conformance

/-- What the command line asks for. -/
structure Arguments where
  selector : Option String := none
  root : Path := ⟨"test"⟩
  binary : Option Path := none
  extension : String := "wren"
  ignore : List String := []
  kind : Kind := .test
  /-- The time limit in seconds. -/
  timeout : Option Nat := none
  verbose : Bool := false
  noColor : Bool := false
  deriving DecidableEq, Repr, Inhabited

/-- What the surroundings of a run contribute to its settings. -/
structure Environment where
  /-- The interpreter named by `WRENCONFORM_BIN`. -/
  binary : Option String := none
  /-- Whether `NO_COLOR` is set. -/
  noColor : Bool := false
  /-- Whether output goes to a terminal. -/
  terminal : Bool := false
  deriving DecidableEq, Repr

namespace Arguments

/-- The changes of settings that the command line and its surroundings ask for. -/
def changes (a : Arguments) (environment : Environment) : List Setting := [
  .root a.root,
  .binary (findBinary (a.binary.map Path.text) environment.binary),
  .extension a.extension,
  .ignored a.ignore,
  .kind a.kind,
  .selector a.selector,
  .timeout (a.timeout.map Duration.ofSecs),
  .verbose a.verbose,
  .color (!a.noColor && !environment.noColor && environment.terminal)]

/-- The settings of the session that the command line asks for. -/
def settings (a : Arguments) (environment : Environment) : Settings :=
  ({} : Settings).setAll (a.changes environment)

/-- An option with a value. -/
inductive Opt where
  | root
  | binary
  | extension
  | ignore
  | kind
  | timeout
  deriving DecidableEq, Repr

/-- An option without a value. -/
inductive Flag where
  | verbose
  | noColor
  | help
  | version
  deriving DecidableEq, Repr

/-- What is wrong with a command line. -/
inductive UsageError where
  /-- An option that does not exist, or a second selector. -/
  | unknownArgument
  /-- A value that is missing or not among those allowed. -/
  | invalidValue
  /-- A value that cannot be read. -/
  | valueValidation
  /-- An option given twice. -/
  | argumentConflict
  /-- A flag given a value. -/
  | tooManyValues
  deriving DecidableEq, Repr

/-- Why reading ends without arguments. -/
inductive Stop where
  | usage (error : UsageError)
  /-- Help is asked for, at length or in brief. -/
  | help (long : Bool)
  | version
  deriving DecidableEq, Repr

/-- The name of an option after its two dashes. -/
def Opt.name : Opt → String
  | root => "root"
  | binary => "binary"
  | extension => "ext"
  | ignore => "ignore"
  | kind => "kind"
  | timeout => "timeout"

def Opt.all : List Opt := [root, binary, extension, ignore, kind, timeout]

/-- The name of a flag after its two dashes. -/
def Flag.name : Flag → String
  | verbose => "verbose"
  | noColor => "no-color"
  | help => "help"
  | version => "version"

def Flag.all : List Flag := [verbose, noColor, help, version]

/-- The flag of a letter after a single dash. -/
def Flag.ofLetter? : Char → Option Flag
  | 'v' => some verbose
  | 'h' => some help
  | 'V' => some version
  | _ => none

/-- Reading under way. -/
structure Reading where
  found : Arguments := {}
  /-- The options and flags that may not come again. -/
  options : List Opt := []
  flags : List Flag := []
  /-- An option whose value is still to come, or came but is still to be checked. -/
  pending : Option (Opt × Option String) := none
  /-- Whether every further word is a selector. -/
  literal : Bool := false
  deriving Repr

/-- The number of seconds that a text names: digits, with a plus sign in front or not. -/
def seconds? (text : String) : Option Nat :=
  match text.toList with
  | '+' :: digits => Numeral.word? digits
  | digits => Numeral.word? digits

/-- Store the value of an option. -/
def store (a : Arguments) (opt : Opt) (value : String) : Except UsageError Arguments :=
  match opt with
  | .root => if value = "" then .error .invalidValue else .ok { a with root := ⟨value⟩ }
  | .binary =>
    if value = "" then .error .invalidValue else .ok { a with binary := some ⟨value⟩ }
  | .extension => .ok { a with extension := value }
  | .ignore => .ok { a with ignore := a.ignore ++ [value] }
  | .kind =>
    match Kind.ofName? value with
    | some kind => .ok { a with kind }
    | none => .error .invalidValue
  | .timeout =>
    match seconds? value with
    | some seconds => .ok { a with timeout := some seconds }
    | none => .error .valueValidation

namespace Reading

/-- Take over an option with its value. Only `--ignore` may come more than once. -/
def take (r : Reading) (opt : Opt) (value : Option String) : Except Stop Reading := do
  match value with
  | none => throw (.usage .invalidValue)
  | some value =>
    if opt ∈ r.options then throw (.usage .argumentConflict)
    match store r.found opt value with
    | .error error => throw (.usage error)
    | .ok found =>
      return { r with found, options := if opt = .ignore then r.options else opt :: r.options }

/-- Check the value of the option before this point. -/
def settle (r : Reading) : Except Stop Reading :=
  match r.pending with
  | none => .ok r
  | some (opt, value) => take { r with pending := none } opt value

/-- Take over a flag. -/
def raise (r : Reading) (flag : Flag) (long : Bool) : Except Stop Reading := do
  let r ← r.settle
  match flag with
  | .help => throw (.help long)
  | .version => throw .version
  | .verbose | .noColor =>
    if flag ∈ r.flags then throw (.usage .argumentConflict)
    let found :=
      if flag = .verbose then { r.found with verbose := true }
      else { r.found with noColor := true }
    return { r with found, flags := flag :: r.flags }

/-- Read a word that starts with two dashes, from after them. -/
def long (r : Reading) (word : List Char) : Except Stop Reading := do
  let name := String.ofList (word.takeWhile (· ≠ '='))
  let value := match word.dropWhile (· ≠ '=') with
    | [] => none
    | _ :: text => some (String.ofList text)
  match Opt.all.find? (·.name == name) with
  | some opt =>
    let r ← r.settle
    match value with
    | some value => r.take opt (some value)
    | none => return { r with pending := some (opt, none) }
  | none =>
    match Flag.all.find? (·.name == name), value with
    | some flag, none => r.raise flag true
    | some _, some _ => throw (.usage .tooManyValues)
    | none, _ => throw (.usage .unknownArgument)

/-- Read the letters after a single dash, each of which is a flag. -/
def letters (r : Reading) : List Char → Except Stop Reading
  | [] => .ok r
  | c :: rest => do
    match Flag.ofLetter? c with
    | none => throw (.usage .unknownArgument)
    | some flag => (← r.raise flag false).letters rest

/-- Read a selector. There is only one. -/
def select (r : Reading) (word : String) : Except Stop Reading := do
  if r.found.selector.isSome then throw (.usage .unknownArgument)
  let r ← r.settle
  return { r with found := { r.found with selector := some word } }

/-- Read a word that is neither an option nor a flag: the value due, or the selector. -/
def plain (r : Reading) (word : String) : Except Stop Reading :=
  match r.pending with
  | some (opt, none) => .ok { r with pending := some (opt, some word) }
  | _ => r.select word

/-- Read one word. -/
def word (r : Reading) (word : String) : Except Stop Reading :=
  if r.literal then r.select word
  else
    match word.toList with
    | ['-', '-'] => .ok { r with literal := true }
    | '-' :: '-' :: rest => r.long rest
    | ['-'] => r.plain word
    | '-' :: rest => r.letters rest
    | _ => r.plain word

end Reading

/-- Read the words of a command line. -/
def read (words : List String) : Except Stop Arguments := do
  let r ← words.foldlM Reading.word {}
  return (← r.settle).found

end Arguments
end Conformance
