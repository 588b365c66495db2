import Conformance.Tools.Printing
import Conformance.Tools.Streams

/-!
# Tools on files

Tools that make, move, copy and remove files and directories.
-/

namespace Conformance.Tools

open Tool

/-! ## Questions about files -/

/-- What a path leads to, or the link at its end. -/
def info (name : Raw) (through : Bool) : Tool (Except SystemError FileInfo) :=
  Routine.look (path name) through

def info? (name : Raw) (through : Bool) : Tool (Option FileInfo) := do
  return (← info name through).toOption

def isDirectory (name : Raw) : Tool Bool := do
  return (← info? name true).any (·.tree.isDirectory)

/-- Whether two names stand for one thing. -/
def isSame (a b : FileInfo) : Bool :=
  match a.tree, b.tree with
  | .file m, .file n => m = n
  | _, _ => a.location = b.location

/-- The name of an entry of a directory. -/
def within (directory name : Raw) : Raw :=
  if directory.getLast? = some '/' then directory ++ name else directory ++ '/' :: name

/-- Complain about something that the system refused. -/
def refused (what : String) (error : SystemError) : Tool Unit :=
  grumble s!"{what}: {error.text}" 1

/-! ## Directories -/

/-- The paths of a directory and of those on the way to it. -/
def ancestors (name : Raw) : List Raw :=
  let parts := name.splitOn '/'
  let paths := (List.range parts.length).map fun n => ['/'].intercalate (parts.take (n + 1))
  paths.filter fun p => p ≠ [] ∧ p.getLast? ≠ some '/'

/-- Say that a directory has been made, if that is asked for. -/
def announceMade (o : Options) (name : Raw) : Tool Unit := do
  if o.has 'v' then
    let own ← ownName
    emitText s!"{own}: created directory {quoted name}\n"

/-- Make a directory and those on the way to it that are not there. -/
def makeWithParents (o : Options) : List Raw → Tool Unit
  | [] => pure ()
  | name :: rest => do
    match ← Routine.perform (.makeDirectory (path name)) with
    | .ok () =>
      announceMade o name
      makeWithParents o rest
    | .error error =>
      if ← isDirectory name then makeWithParents o rest
      else
        let isLast := rest = []
        let error := if error = .exists ∧ !isLast then .notDirectory else error
        refused s!"cannot create directory {cited name}" error

/-- `mkdir`. -/
def mkdir : Tool Unit := do
  let o ← options {
    letters := "pm:vZ", names := [("parents", 'p'), ("mode", 'm'), ("verbose", 'v')] }
  if o.operands = [] then misuse "missing operand" 1
  each o.operands fun name => do
    if o.has 'p' then makeWithParents o (ancestors name)
    else
      match ← Routine.perform (.makeDirectory (path name)) with
      | .ok () => announceMade o name
      | .error error => refused s!"cannot create directory {cited name}" error

/-- `rmdir`. -/
def rmdir : Tool Unit := do
  let o ← options {
    letters := "pvi"
    names := [("parents", 'p'), ("verbose", 'v'), ("ignore-fail-on-non-empty", 'i')] }
  if o.operands = [] then misuse "missing operand" 1
  let rec remove : List Raw → Tool Unit
    | [] => pure ()
    | name :: rest => do
      match ← Routine.perform (.removeDirectory (path name)) with
      | .ok () => remove rest
      | .error .notEmpty =>
        if !o.has 'i' then refused s!"failed to remove {quoted name}" .notEmpty
      | .error error => refused s!"failed to remove {quoted name}" error
  each o.operands fun name =>
    remove (if o.has 'p' then (ancestors name).reverse else [name])

/-- `mkfifo`. -/
def mkfifo : Tool Unit := do
  let o ← options { letters := "m:" }
  if o.operands = [] then misuse "missing operand" 1
  each o.operands fun name => do
    match ← Routine.perform (.makePipe (path name)) with
    | .ok () => pure ()
    | .error error => refused s!"cannot create fifo {quoted name}" error

/-! ## Removing -/

/-- How files are removed. -/
structure Removal where
  recursive : Bool := false
  emptyToo : Bool := false
  quiet : Bool := false
  verbose : Bool := false

/-- Remove a file, or a directory with everything below it. The fuel bounds how deep it is. -/
def removeTree (how : Removal) : Nat → Raw → Tool Unit
  | 0, name => refused s!"cannot remove {quoted name}" .nameTooLong
  | depth + 1, name => do
    let complaint := s!"cannot remove {quoted name}"
    let removeFile : Tool Unit := do
      match ← Routine.perform (.unlink (path name)) with
      | .ok () => if how.verbose then emitText s!"removed {quoted name}\n"
      | .error error => refused complaint error
    let removeFolder : Tool Unit := do
      match ← Routine.perform (.removeDirectory (path name)) with
      | .ok () => if how.verbose then emitText s!"removed directory {quoted name}\n"
      | .error error => refused complaint error
    match ← info name false with
    | .error error =>
      if how.quiet ∧ (error = .notFound ∨ error = .notDirectory) then pure ()
      else refused complaint error
    | .ok found =>
      match found.tree with
      | .directory entries =>
        if how.recursive then
          each entries fun (entry, _) =>
            removeTree how depth (within name (Raw.ofString entry))
          removeFolder
        else if how.emptyToo then removeFolder
        else refused complaint .isDirectory
      | .closed error (some true) =>
        if how.recursive then refused complaint error
        else if how.emptyToo then removeFolder
        else refused complaint .isDirectory
      | _ => removeFile

/-- The last part of a path, slashes at its end left out. -/
def lastName (name : Raw) : Raw := lastPart name

/-- `rm`. -/
def rm : Tool Unit := do
  let o ← options {
    letters := "rRfidvI"
    names := [("recursive", 'r'), ("force", 'f'), ("dir", 'd'), ("verbose", 'v')] }
  let how : Removal := {
    recursive := o.has 'r' || o.has 'R', emptyToo := o.has 'd', quiet := o.has 'f'
    verbose := o.has 'v' }
  if o.operands = [] ∧ !how.quiet then misuse "missing operand" 1
  each o.operands fun name => do
    if how.recursive ∧ (lastName name = ['.'] ∨ lastName name = ['.', '.']) then
      grumble s!"refusing to remove '.' or '..' directory: skipping {quoted name}" 1
    else if how.recursive ∧ name ≠ [] ∧ name.all (· = '/') then
      grumble s!"it is dangerous to operate recursively on {quoted name}" 1
      complain "use --no-preserve-root to override this failsafe"
    else removeTree how FileTree.pathLimit name

/-- `unlink`. -/
def unlink : Tool Unit := do
  let o ← options { letters := "" }
  match o.operands with
  | [] => misuse "missing operand" 1
  | _ :: extra :: _ => misuse s!"extra operand {cited extra}" 1
  | [name] =>
    match ← Routine.perform (.unlink (path name)) with
    | .ok () => pure ()
    | .error error => refused s!"cannot unlink {quoted name}" error

/-! ## Moving and copying -/

/-- Work on each of some sources with its target: in the directory that comes last, or in place of
    the only other word. -/
def eachTarget (o : Options) (act : Raw → Raw → Tool Unit) : Tool Unit := do
  let into (directory : Raw) (sources : List Raw) : Tool Unit :=
    each sources fun source => act source (within directory (lastName source))
  match o.value? 't' with
  | some directory =>
    if o.operands = [] then misuse "missing file operand" 1
    match ← info directory true with
    | .ok found =>
      if found.tree.isDirectory then into directory o.operands
      else refused s!"target directory {quoted directory}" .notDirectory
    | .error error => refused s!"target directory {quoted directory}" error
  | none =>
    match o.operands with
    | [] => misuse "missing file operand" 1
    | [source] => misuse s!"missing destination file operand after {quoted source}" 1
    | [source, target] =>
      if !o.has 'T' ∧ (← isDirectory target) then into target [source] else act source target
    | words =>
      let target := words.getLastD []
      if o.has 'T' then misuse s!"extra operand {cited (words.getD 2 [])}" 1
      match ← info target true with
      | .ok found =>
        if found.tree.isDirectory then into target words.dropLast
        else refused s!"target {quoted target}" .notDirectory
      | .error error => refused s!"target {quoted target}" error

/-- Move one file. -/
def moveOne (o : Options) (source target : Raw) : Tool Unit := do
  match ← info source false with
  | .error error => refused s!"cannot stat {quoted source}" error
  | .ok item =>
    let there? ← info? target false
    match there? with
    | some there =>
      if o.has 'n' then return
      if isSame item there then
        grumble s!"{quoted source} and {quoted target} are the same file" 1
        return
      if item.tree.isDirectory ∧ !there.tree.isDirectory then
        grumble s!"cannot overwrite non-directory {quoted target} with directory {quoted source}" 1
        return
      if !item.tree.isDirectory ∧ there.tree.isDirectory then
        grumble s!"cannot overwrite directory {quoted target} with non-directory" 1
        return
    | none => pure ()
    match ← Routine.perform (.rename (path source) (path target)) with
    | .ok () =>
      if o.has 'v' then emitText s!"renamed {quoted source} -> {quoted target}\n"
    | .error .invalid =>
      grumble s!"cannot move {quoted source} to a subdirectory of itself, {quoted target}" 1
    | .error error => refused s!"cannot move {quoted source} to {quoted target}" error

/-- `mv`. -/
def mv : Tool Unit := do
  let o ← options {
    letters := "fniuvTt:"
    names := [
      ("force", 'f'), ("no-clobber", 'n'), ("verbose", 'v'), ("no-target-directory", 'T'),
      ("target-directory", 't')] }
  eachTarget o (moveOne o)

/-- Write a copy of a file. -/
def copyFile (source target : Raw) (mode : Nat) : Tool Bool := do
  match ← readFile source with
  | .error error =>
    refused s!"cannot open {quoted source} for reading" error
    return false
  | .ok bytes =>
    let how : OpenMode := { writes := true, creates := true, empties := true, mode }
    match ← Routine.openFile (path target) how with
    | .error error =>
      let error := if error = .isDirectory ∧ target.getLast? = some '/' then .notDirectory
        else error
      refused s!"cannot create regular file {quoted target}" error
      return false
    | .ok descriptor =>
      discard (Routine.writeBytes descriptor bytes)
      Routine.close descriptor
      return true

/-- Copy a file, or a directory with everything below it. The fuel bounds how deep it is. -/
def copyTree (o : Options) (follows recursive : Bool) : Nat → Raw → Raw → Tool Unit
  | 0, source, _ => refused s!"cannot open {quoted source} for reading" .nameTooLong
  | depth + 1, source, target => do
    let announce : Tool Unit :=
      if o.has 'v' then emitText s!"{quoted source} -> {quoted target}\n" else pure ()
    match ← info source follows with
    | .error error => refused s!"cannot stat {quoted source}" error
    | .ok item =>
      let there? ← info? target true
      match item.tree, there? with
      | .directory entries, _ =>
        if !recursive then
          grumble s!"-r not specified; omitting directory {quoted source}" 1
          return
        match there? with
        | some there =>
          if !there.tree.isDirectory then
            let places := s!"{quoted target} with directory {quoted source}"
            grumble s!"cannot overwrite non-directory {places}" 1
            return
        | none =>
          match ← Routine.perform (.makeDirectory (path target)) with
          | .ok () => announce
          | .error error =>
            refused s!"cannot create directory {quoted target}" error
            return
        if (← info? target true).any fun made => item.location.isPrefixOf made.location then
          discard (Routine.perform (.removeDirectory (path target)))
          grumble s!"cannot copy a directory, {quoted source}, into itself, {quoted target}" 1
          return
        each entries fun (entry, _) =>
          copyTree o (o.has 'L') recursive depth (within source (Raw.ofString entry))
            (within target (Raw.ofString entry))
      | .closed error (some true), _ =>
        if recursive then refused s!"cannot access {quoted source}" error
        else grumble s!"-r not specified; omitting directory {quoted source}" 1
      | _, some there =>
        if isSame item there then
          grumble s!"{quoted source} and {quoted target} are the same file" 1
        else if there.tree.isDirectory then
          grumble s!"cannot overwrite directory {quoted target} with non-directory" 1
        else if o.has 'n' then pure ()
        else
          match item.tree with
          | .link link =>
            discard (Routine.perform (.unlink (path target)))
            discard (Routine.perform (.link link (path target)))
          | _ => if ← copyFile source target item.mode then announce
      | .link link, none =>
        match ← Routine.perform (.link link (path target)) with
        | .ok () => announce
        | .error error => refused s!"cannot create symbolic link {quoted target}" error
      | _, none => if ← copyFile source target item.mode then announce

/-- `cp`. -/
def cp : Tool Unit := do
  let o ← options {
    letters := "rRafipdPLHnuvTt:l"
    names := [
      ("recursive", 'r'), ("archive", 'a'), ("force", 'f'), ("verbose", 'v'), ("no-clobber", 'n'),
      ("no-target-directory", 'T'), ("target-directory", 't'), ("dereference", 'L'),
      ("no-dereference", 'P')] }
  let recursive := o.has 'r' || o.has 'R' || o.has 'a'
  let follows := o.has 'L' || o.has 'H' || !(recursive || o.has 'P' || o.has 'd')
  eachTarget o (copyTree o follows recursive FileTree.pathLimit)

/-! ## Links -/

/-- Make one link. -/
def linkOne (o : Options) (target name : Raw) : Tool Unit := do
  let isSymbolic := o.has 's'
  let kind := if isSymbolic then "symbolic" else "hard"
  if !isSymbolic then
    match ← info target false with
    | .error error => return ← refused s!"failed to access {quoted target}" error
    | .ok found =>
      if found.tree.isDirectory then
        return ← grumble s!"{shown target}: hard link not allowed for directory" 1
  if o.has 'f' then discard (Routine.perform (.unlink (path name)))
  let made ← Routine.perform
    (if isSymbolic then .link (path target) (path name) else .addName (path target) (path name))
  match made with
  | .ok () =>
    if o.has 'v' then
      let sign := if isSymbolic then "->" else "=>"
      emitText s!"{quoted name} {sign} {quoted target}\n"
  | .error error =>
    let said := s!"failed to create {kind} link {quoted name}"
    refused (if isSymbolic then said else s!"{said} => {quoted target}") error

/-- `ln`. -/
def ln : Tool Unit := do
  let o ← options {
    letters := "sfnvTt:ir"
    names := [
      ("symbolic", 's'), ("force", 'f'), ("no-dereference", 'n'), ("verbose", 'v'),
      ("no-target-directory", 'T'), ("target-directory", 't')] }
  let isTargetDirectory (name : Raw) : Tool Bool := do
    if o.has 'T' then return false
    return (← info? name (!o.has 'n')).any (·.tree.isDirectory)
  let into (directory : Raw) (targets : List Raw) : Tool Unit :=
    each targets fun target => linkOne o target (within directory (lastName target))
  match o.value? 't', o.operands with
  | _, [] => misuse "missing file operand" 1
  | some directory, targets => into directory targets
  | none, [target] => linkOne o target (lastName target)
  | none, [target, name] =>
    if ← isTargetDirectory name then into name [target] else linkOne o target name
  | none, words =>
    let directory := words.getLastD []
    if ← isTargetDirectory directory then into directory words.dropLast
    else refused s!"target {quoted directory}" .notDirectory

/-- `link`. -/
def link : Tool Unit := do
  let o ← options { letters := "" }
  match o.operands with
  | [target, name] =>
    match ← Routine.perform (.addName (path target) (path name)) with
    | .ok () => pure ()
    | .error error => refused s!"cannot create link {quoted name} to {quoted target}" error
  | _ => misuse "missing operand" 1

/-- The path from the root to what a name leads to, or would lead to if it were there. -/
def canonical? (mustExist : Bool) (name : Raw) : Tool (Except SystemError Raw) := do
  let asPath (location : List String) : Raw :=
    '/' :: ['/'].intercalate (location.map Raw.ofString)
  match ← info name true with
  | .ok found => return .ok (asPath found.location)
  | .error error =>
    if mustExist then return .error error
    match ← info (parentPart name) true with
    | .ok found =>
      if found.tree.isDirectory then
        return .ok (asPath (found.location ++ [(lastName name).text]))
      return .error .notDirectory
    | .error error => return .error error

/-- `readlink`. -/
def readlink : Tool Unit := do
  let o ← options { letters := "femnqsvz" }
  if o.operands = [] then misuse "missing operand" 1
  let isCanonical := o.has 'f' || o.has 'e' || o.has 'm'
  each o.operands fun name => do
    let found ←
      if isCanonical then canonical? (o.has 'e') name
      else do
        match ← info name false with
        | .ok ⟨.link target, _, _, _, _, _⟩ => pure (.ok (Raw.ofString target.text))
        | .ok _ => pure (.error .invalid)
        | .error error => pure (.error error)
    match found with
    | .ok text =>
      emit (text ++ (if o.has 'n' && o.operands.length == 1 then [] else lineEnd o))
    | .error error =>
      if o.has 'v' then refused (shown name) error else note 1

/-- `realpath`. -/
def realpath : Tool Unit := do
  let o ← options { letters := "emsqzLP" }
  if o.operands = [] then misuse "missing operand" 1
  each o.operands fun name => do
    match ← canonical? (o.has 'e') name with
    | .ok text => emit (text ++ lineEnd o)
    | .error error => if o.has 'q' then note 1 else refused (shown name) error

/-! ## What is known of files -/

/-- `touch`. -/
def touch : Tool Unit := do
  let o ← options {
    letters := "acmfhd:r:t:"
    names := [("no-create", 'c'), ("date", 'd'), ("reference", 'r')] }
  if o.operands = [] then misuse "missing file operand" 1
  each o.operands fun name => do
    match ← info? name true with
    | some _ => discard (Routine.ask (.touch (path name)))
    | none =>
      if o.has 'c' then return
      match ← Routine.openFile (path name) { writes := true, creates := true } with
      | .ok descriptor => Routine.close descriptor
      | .error .isDirectory =>
        refused s!"setting times of {quoted name}" .notFound
      | .error error => refused s!"cannot touch {quoted name}" error

/-- The bits of some permissions for some people. -/
def modeBits (who permissions : Raw) : Nat :=
  let people := if who = [] ∨ 'a' ∈ who then ['u', 'g', 'o'] else who
  let bit (person permission : Char) : Nat :=
    let shift := match person with
      | 'u' => 6
      | 'g' => 3
      | _ => 0
    match permission with
    | 'r' => 4 <<< shift
    | 'w' => 2 <<< shift
    | 'x' | 'X' => 1 <<< shift
    | _ => 0
  people.foldl (fun n p => permissions.foldl (fun n c => n ||| bit p c) n) 0

/-- The mode after a change that is written with letters. -/
def changedMode? (mode : Nat) (word : Raw) : Option Nat :=
  if word ≠ [] ∧ word.all Number.isOctal ∧ word.length ≤ 5 then some (Number.value 8 word)
  else (word.splitOn ',').foldlM change mode
where
  change (mode : Nat) (clause : Raw) : Option Nat :=
    let who := clause.takeWhile (· ∈ ['u', 'g', 'o', 'a'])
    match clause.drop who.length with
    | operator :: permissions =>
      let bits := modeBits who permissions
      if !permissions.all (· ∈ ['r', 'w', 'x', 'X', 's', 't']) then none
      else
        match operator with
        | '+' => some (mode ||| bits)
        | '-' => some (mode - (mode &&& bits))
        | '=' => some ((mode - (mode &&& modeBits who ['r', 'w', 'x'])) ||| bits)
        | _ => none
    | [] => none

/-- Change the mode of a file, and of everything below it if the option says so. -/
def changeModes (o : Options) (mode : Raw) : Nat → Raw → Tool Unit
  | 0, _ => pure ()
  | depth + 1, name => do
    match ← info name true with
    | .error error => refused s!"cannot access {quoted name}" error
    | .ok found =>
      match changedMode? found.mode mode with
      | some new => discard (Routine.ask (.changeMode (path name) new))
      | none => pure ()
      match found.tree with
      | .directory entries =>
        if o.has 'R' then
          each entries fun (entry, _) =>
            changeModes o mode depth (within name (Raw.ofString entry))
      | .closed error (some true) =>
        if o.has 'R' then refused s!"cannot read directory {quoted name}" error
      | _ => pure ()

/-- `chmod`. -/
def chmod : Tool Unit := do
  let words := (← read).arguments
  let isMode (word : Raw) : Bool := match word with
    | '-' :: c :: _ => c ∈ ['r', 'w', 'x']
    | _ => false
  let modes := words.filter isMode
  let grammar : Grammar := { letters := "Rvcf", names := [("recursive", 'R')] }
  let o ← readOptions grammar (words.length + 1) (words.filter (!isMode ·))
  match modes ++ o.operands with
  | [] => misuse "missing operand" 1
  | [mode] => misuse s!"missing operand after {cited mode}" 1
  | mode :: names =>
    if (changedMode? 0 mode).isNone ∨ (mode.all Char.isDigit ∧ 4096 ≤ Number.value 8 mode) then
      misuse s!"invalid mode: {cited mode}" 1
    each names (changeModes o mode FileTree.pathLimit)

/-- `truncate`. -/
def truncate : Tool Unit := do
  let o ← options { letters := "s:cr:o", names := [("size", 's'), ("no-create", 'c')] }
  match o.value? 's' with
  | none => misuse "you must specify either '--size' or '--reference'" 1
  | some word =>
    if o.operands = [] then misuse "missing file operand" 1
    let digits := word.dropWhile (· ∈ ['+', '-', '<', '>', '/', '%'])
    match count? digits with
    | none => fail s!"Invalid number: {cited word}" 1
    | some n =>
      each o.operands fun name => do
        if (← info? name true).isNone ∧ !o.has 'c' then
          discard (Routine.openFile (path name) { writes := true, creates := true })
        match ← info name true with
        | .error error => refused s!"cannot open {quoted name} for writing" error
        | .ok found =>
          let size := match word with
            | '+' :: _ => found.size + n
            | '-' :: _ => found.size - n
            | _ => n
          discard (Routine.ask (.cut (path name) size))

/-- `mktemp`. -/
def mktemp : Tool Unit := do
  let o ← options { letters := "duqp:t", names := [("directory", 'd'), ("tmpdir", 'p')] }
  let template := o.operands.headD "tmp.XXXXXXXXXX".toList
  let isPlain := o.operands = []
  let stem := (template.reverse.dropWhile (· = 'X')).reverse
  if template.length - stem.length < 3 then
    fail s!"too few X's in template {cited template}" 1
  let moment ← Routine.now
  let letters := Number.zeroPad (template.length - stem.length) (Nat.toDigits 36 moment)
  let name := stem ++ letters
  let folder := (o.value? 'p').getD "/tmp".toList
  let name := if isPlain || o.has 'p' || o.has 't' then within folder name else name
  let made ←
    if o.has 'u' then pure (.ok ())
    else if o.has 'd' then Routine.perform (.makeDirectory (path name))
    else do
      let how : OpenMode := { writes := true, creates := true, isNew := true, mode := 0o600 }
      pure ((← Routine.openFile (path name) how).map fun _ => ())
  match made with
  | .ok () => emit (name ++ ['\n'])
  | .error error =>
    let what := if o.has 'd' then "directory" else "file"
    refused s!"failed to create {what} via template {cited template}" error

end Conformance.Tools
