import Conformance.Shell.Builtin.Printing
import Conformance.Shell.Search

/-!
# Programs of the shell that deal with its process

The working directory, the bits that new files are made without, and limits.
-/

namespace Conformance.Shell.Builtin

/-! ## The working directory -/

/-- The names of a path, worked out as text: two dots take back the name before them. -/
def resolvedNames (before : List Raw) (path : Raw) : List Raw :=
  (path.splitOn '/').foldl
    (fun names name =>
      if name = [] ∨ name = ['.'] then names
      else if name = ['.', '.'] then names.dropLast
      else names ++ [name])
    before

/-- A path as text, seen from a directory. Two slashes at the start, but not more, stay. -/
def resolved (directory path : Raw) : Raw :=
  let hasTwo (path : Raw) : Bool := match path with
    | '/' :: '/' :: c :: _ => c != '/'
    | '/' :: '/' :: [] => true
    | _ => false
  let join (double : Bool) (names : List Raw) : Raw :=
    (if double then "//".toList else ['/']) ++ ['/'].intercalate names
  if path.head? = some '/' then join (hasTwo path) (resolvedNames [] path)
  else join (hasTwo directory) (resolvedNames (resolvedNames [] directory) path)

/-- The working directory as its host knows it. -/
def physicalDirectory : Shell Raw := do
  return '/' :: ['/'].intercalate ((← Routine.location).map Raw.ofString)

/-- Note that the shell is in another directory. -/
def noteDirectory (directory : Raw) : Shell Unit := do
  assign "OLDPWD".toList (some (← get).directory) true false
  modify fun s => { s with
    directory, tracked := s.tracked.map fun (name, t) => (name, { t with isStale := true }) }
  assign "PWD".toList (some directory) true false

/-- Enter a directory. The result is whether that could be done. -/
def enter (target : Raw) (isPhysical : Bool) : Shell Bool := do
  let directory := (← get).directory
  let path := if isPhysical then target else resolved directory target
  match ← Routine.perform (.enter ⟨Raw.text path⟩) with
  | .error _ => return false
  | .ok () =>
    noteDirectory (← if isPhysical then physicalDirectory else pure path)
    return true

/-- Whether directories of a search path may hold what a word stands for. -/
def isSearched (target : Raw) : Bool :=
  match target with
  | '/' :: _ | ['.'] | '.' :: '/' :: _ | ['.', '.'] | '.' :: '.' :: '/' :: _ => false
  | _ => true

/-- The first of some directories that there is below those of a search path, and whether it has to
    be said which. -/
def searchDirectory (target : Raw) : List Raw → Shell (Option (Raw × Bool))
  | [] => return none
  | directory :: rest => do
    let path := if directory = [] then target else directory ++ '/' :: target
    match ← Routine.look ⟨Raw.text path⟩ true with
    | .ok info =>
      if info.tree.isDirectory then return some (path, directory ≠ [])
      searchDirectory target rest
    | .error _ => searchDirectory target rest

/-- `cd`. -/
def changeDirectory : Builtin := fun arguments => do
  let (given, words) ← Options.take "LP" arguments
  let isPhysical : Bool := given.getLast?.any (·.1 = 'P')
  let s ← get
  let (target, isBack) : Raw × Bool := match words with
    | [] => ((s.value? "HOME".toList).getD [], false)
    | ['-'] :: _ => ((s.value? "OLDPWD".toList).getD [], true)
    | word :: _ => (word, false)
  let path := if target = [] then ['.'] else target
  let found? ← match s.value? "CDPATH".toList with
    | some search =>
      if isSearched target then searchDirectory path (search.splitOn ':') else pure none
    | none => pure none
  let (path, isFound) := found?.getD (path, false)
  if !(← enter path isPhysical) then fail ("can't cd to ".toList ++ target)
  if isBack || isFound then emit ((← get).directory ++ ['\n'])
  return 0

/-- `pwd`. -/
def printDirectory : Builtin := fun arguments => do
  let (given, _) ← Options.take "LP" arguments
  let isPhysical : Bool := given.getLast?.any (·.1 = 'P')
  let directory ← if isPhysical then physicalDirectory else pure (← get).directory
  emit (directory ++ ['\n'])
  return 0

/-! ## The bits of new files -/

/-- The three bits of one kind of people as letters. -/
def bitLetters (bits : Nat) : Raw :=
  (if bits &&& 4 != 0 then ['r'] else []) ++ (if bits &&& 2 != 0 then ['w'] else []) ++
    (if bits &&& 1 != 0 then ['x'] else [])

/-- The bits that a letter says, given those that are allowed already. -/
def letterBits (allowed : Nat) : Char → Option Nat
  | 'r' => some 4
  | 'w' => some 2
  | 'x' => some 1
  | 'u' => some (allowed >>> 6)
  | 'g' => some (allowed >>> 3)
  | 'o' => some allowed
  | 'X' => some (if allowed &&& 0o111 != 0 then 1 else 0)
  | 's' => some 0
  | _ => none

/-- Whose bits a letter means. -/
def people : Char → Option Nat
  | 'a' => some 0o111
  | 'u' => some 0o100
  | 'g' => some 0o010
  | 'o' => some 0o001
  | _ => none

/-- All permission bits. -/
def allBits : Nat := 0o777

/-- The bits that are allowed after changes written as letters. There are none if they are wrongly
    written. The fuel bounds the number of changes. -/
def changedBits (allowed : Nat) : Nat → (who new : Nat) → Raw → Option Nat
  | 0, _, _, _ => none
  | fuel + 1, who, new, text =>
    let whose := text.takeWhile fun c => (people c).isSome
    let chosen := whose.foldl (fun n c => n ||| (people c).getD 0) who
    let chosen := if chosen = 0 then 0o111 else chosen
    match text.drop whose.length with
    | operator :: rest =>
      if operator ∉ ['=', '+', '-'] then none
      else
        let letters := rest.takeWhile fun c => (letterBits allowed c).isSome
        let bits := letters.foldl (fun n c => n ||| (letterBits allowed c).getD 0) 0
        let bits := (bits &&& 7) * chosen
        let kept (mask : Nat) : Nat := new &&& (allBits - mask)
        let new := match operator with
          | '-' => kept bits
          | '=' => bits ||| kept (chosen * 7)
          | _ => new ||| bits
        match rest.drop letters.length with
        | [] => some new
        | ',' :: more => if more = [] then some new else changedBits allowed fuel 0 new more
        | more =>
          if more.head?.any (· ∈ ['=', '+', '-']) then changedBits allowed fuel chosen new more
          else none
    | [] => none

/-- The bits that new files are made without, changed if there is a new value. -/
def mask (new : Option Nat) : Shell Nat := do
  match ← Routine.ask (.mask new) with
  | .number n => return n
  | _ => return 0

/-- `umask`. -/
def umask : Builtin := fun arguments => do
  let (given, words) ← Options.take "S" arguments
  let current ← mask none
  let allowed := allBits - current
  match words with
  | [] =>
    let part (name : Char) (shift : Nat) : Raw := name :: '=' :: bitLetters (allowed >>> shift)
    if given ≠ [] then emit ([','].intercalate [part 'u' 6, part 'g' 3, part 'o' 0])
    else emit (Number.zeroPad 4 (Nat.toDigits 8 current))
    emit ['\n']
  | word :: _ =>
    if word.head?.any Char.isDigit then
      if !word.all Number.isOctal then wrongNumber word
      discard (mask (some (Number.value 8 word &&& allBits)))
    else
      match changedBits allowed (word.length + 1) 0 allowed word with
      | some new => discard (mask (some (allBits - new)))
      | none => fail ("Illegal mode: ".toList ++ word)
  return 0

/-! ## Limits -/

/-- The limits: the letter and the name of each, and what it is at the start. -/
def limits : List (Char × String × String) := [
  ('t', "time(seconds)", "unlimited"), ('f', "file(blocks)", "unlimited"),
  ('d', "data(kbytes)", "unlimited"), ('s', "stack(kbytes)", "8192"),
  ('c', "coredump(blocks)", "0"), ('m', "memory(kbytes)", "unlimited"),
  ('l', "locked memory(kbytes)", "8192"), ('p', "process", "unlimited"),
  ('n', "nofiles", "1048576"), ('v', "vmemory(kbytes)", "unlimited"), ('w', "locks", "unlimited"),
  ('r', "rtprio", "0")]

/-- The column of the values in the list of all limits. -/
def limitColumn : Nat := 20

/-- `ulimit`: limits are kept and shown. -/
def ulimit : Builtin := fun arguments => do
  let (given, words) ← Options.take "HSatfdsmcnpvlwr" arguments
  let s ← get
  let valueOf (letter : Char) (start : String) : Raw := (s.limits.lookup letter).getD start.toList
  if given.any (·.1 = 'a') then
    emit (limits.flatMap fun (letter, name, start) =>
      name.toList ++ List.replicate (limitColumn - name.length) ' ' ++
        ' ' :: valueOf letter start ++ ['\n'])
    return 0
  let letter := ((given.map Prod.fst).filter (· ∉ ['H', 'S'])).getLast?.getD 'f'
  match words with
  | [] =>
    emit (valueOf letter ((limits.lookup letter).elim "" Prod.snd) ++ ['\n'])
    return 0
  | [word] =>
    if word ≠ "unlimited".toList ∧ !word.all Char.isDigit then fail "bad number".toList
    let isHard : Bool := given.any (·.1 = 'H') && !given.any (·.1 = 'S')
    let current := valueOf letter ((limits.lookup letter).elim "" Prod.snd)
    if !isHard then modify fun s => { s with limits := (letter, word) :: s.limits }
    else if current.all Char.isDigit && Number.value 10 word < Number.value 10 current then
      fail "error setting limit (Invalid argument)".toList
    return 0
  | _ => fail "too many arguments".toList

/-- `times`: the time that the shell and its children have used, which is too short to show. -/
def times : Builtin := fun _ => do
  emitText "0m0.000000s 0m0.000000s\n0m0.000000s 0m0.000000s\n"
  return 0

end Conformance.Shell.Builtin
