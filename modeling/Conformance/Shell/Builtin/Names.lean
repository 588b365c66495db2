import Conformance.Shell.Builtin.Printing
import Conformance.Shell.Search
import Conformance.Shell.Token

/-!
# Programs of the shell that deal with names

Aliases, and what the names of commands stand for.
-/

namespace Conformance.Shell.Builtin

/-! ## Aliases -/

/-- An alias as the word that makes it. -/
def aliasText (name value : Raw) : Raw := name ++ '=' :: quote value ++ ['\n']

/-- The aliases in the order in which they are listed. -/
def orderedAliases (aliases : List (Raw × Raw)) : List (Raw × Raw) :=
  (List.range 39).flatMap fun n => aliases.filter fun (name, _) => bucket name = n

/-- Give a name a text. -/
def setAlias (name value : Raw) : Shell Unit :=
  modify fun s => { s with
    aliases :=
      if s.aliases.any (·.1 = name) then
        s.aliases.map fun (other, text) => (other, if other = name then value else text)
      else s.aliases ++ [(name, value)] }

/-- A word as the name and the text of an alias. The name has at least one character. -/
def aliasOf? (word : Raw) : Option (Raw × Raw) :=
  match word with
  | [] => none
  | c :: rest =>
    let name := rest.takeWhile (· ≠ '=')
    match rest.drop name.length with
    | _ :: value => some (c :: name, value)
    | [] => none

/-- Complain about a name that is no alias. -/
def noAlias (program : String) (name : Raw) : Shell Unit :=
  Routine.put 2 (program.toList ++ ": ".toList ++ name ++ " not found\n".toList)

/-- Make or show aliases. The result is the greatest status of a word. -/
def eachAlias : List Raw → Nat → Shell Nat
  | [], status => return status
  | word :: rest, status => do
    match aliasOf? word with
    | some (name, value) =>
      setAlias name value
      eachAlias rest status
    | none =>
      match (← get).aliases.lookup word with
      | some value =>
        emit (aliasText word value)
        eachAlias rest status
      | none =>
        noAlias "alias" word
        eachAlias rest 1

/-- `alias`. -/
def makeAliases : Builtin := fun arguments => do
  if arguments = [] then
    emit ((orderedAliases (← get).aliases).flatMap fun (name, value) => aliasText name value)
    return 0
  else eachAlias arguments 0

/-- Forget aliases. The result is the greatest status of a name. -/
def eachUnalias : List Raw → Nat → Shell Nat
  | [], status => return status
  | name :: rest, status => do
    if (← get).aliases.any (·.1 = name) then
      modify fun s => { s with aliases := s.aliases.filter (·.1 ≠ name) }
      eachUnalias rest status
    else
      noAlias "unalias" name
      eachUnalias rest 1

/-- `unalias`. -/
def unalias : Builtin := fun arguments => do
  let (given, names) ← Options.take "a" arguments
  if given ≠ [] then
    modify fun s => { s with aliases := [] }
    return 0
  eachUnalias names 0

/-! ## What names stand for -/

/-- Where a program was or is found, whether that was known before, and what else a name may stand
    for. -/
def lookup (name : Raw) (path? : Option Raw) : Shell (Search.Found × Bool) := do
  match path?, ← Search.known name false, (← get).tracked.lookup name with
  | none, .nothing, some tracked => return (.program (some tracked.place), true)
  | _, .program _, _ =>
    match ← Routine.look ⟨Raw.text name⟩ true with
    | .ok _ => return (.program none, false)
    | .error _ => return (.nothing, false)
  | _, _, _ => return (← Search.find name path? false false, false)

/-- Say what a name stands for: in words, or as briefly as it can be used. -/
def describe (name : Raw) (path? : Option Raw) (inWords : Bool) : Shell Nat := do
  let say (words : Raw) : Shell Nat := do
    emit (if inWords then name ++ words ++ ['\n'] else name ++ ['\n'])
    return 0
  if String.ofList name ∈ Reader.keywords then say " is a shell keyword".toList
  else
    match (← get).aliases.lookup name with
    | some value =>
      if inWords then say (" is an alias for ".toList ++ value)
      else
        emit ("alias ".toList ++ aliasText name value)
        return 0
    | none =>
      match ← lookup name path? with
      | (.function _, _) => say " is a shell function".toList
      | (.own, _) =>
        say (if Search.isSpecial name then " is a special shell builtin".toList
          else " is a shell builtin".toList)
      | (.program place, isTracked) =>
        let usual ← Search.searchPath
        let path := Search.pathOf name (path?.getD usual) place
        if inWords then
          say ((if isTracked then " is a tracked alias for " else " is ").toList ++ path)
        else
          emit (path ++ ['\n'])
          return 0
      | (.nothing, _) =>
        if inWords then emit (name ++ ": not found\n".toList)
        return 127

/-- Say what names stand for. -/
def describeAll : List Raw → Nat → Shell Nat
  | [], status => return status
  | name :: rest, status => do
    let found ← describe name none true
    describeAll rest (status ||| found)

/-- `type`. -/
def type : Builtin := fun arguments => describeAll arguments 0

/-- `command` when it only says what a name stands for, or has nothing to run. -/
def command : Builtin := fun arguments => do
  let (given, names) ← Options.take "pvV" arguments
  let has (letter : Char) : Bool := given.any (·.1 = letter)
  match names with
  | name :: _ =>
    if has 'v' || has 'V' then
      describe name (if has 'p' then some Search.standardPath else none) (has 'V')
    else return 0
  | [] => return 0

/-! ## Programs that were found -/

/-- Where a shell keeps the place of a program: places are listed by this number. -/
def trackBucket (name : Raw) : Nat :=
  let first := (name.head?.map Char.toNat).getD 0
  (name.foldl (fun n c => n + c.toNat) (first * 16)) % 0x8000 % 31

/-- List where programs were found. -/
def listTracked : Shell Unit := do
  let path ← Search.searchPath
  let tracked := (← get).tracked
  let ordered := (List.range 31).flatMap fun n =>
    tracked.filter fun (name, _) => trackBucket name = n
  emit (ordered.flatMap fun (name, t) =>
    Search.pathOf name path (some t.place) ++ (if t.isStale then "*\n" else "\n").toList)

/-- Look for programs, and complain about those that are not found. -/
def trackAll : List Raw → Nat → Shell Nat
  | [], status => return status
  | name :: rest, status => do
    Search.untrack name
    match ← Search.find name none false true with
    | .nothing => trackAll rest 1
    | .function _ | .own | .program _ => trackAll rest status

/-- `hash`. -/
def hash : Builtin := fun arguments => do
  let (given, names) ← Options.take "r" arguments
  if given ≠ [] then
    modify fun s => { s with tracked := [] }
    return 0
  if names = [] then
    listTracked
    return 0
  trackAll names 0

end Conformance.Shell.Builtin
