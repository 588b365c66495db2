import Conformance.Text.Regex
import Conformance.Tools.Running

/-!
# Tools that list

Tools that show what a directory holds, one level or all levels deep.
-/

namespace Conformance.Tools

open Tool

/-- `pwd`. -/
def pwd : Tool Unit := do
  let o ← options { letters := "LP" }
  if o.operands ≠ [] then complain "ignoring non-option arguments"
  let names ← (Routine.location : Tool _)
  emit ('/' :: ['/'].intercalate (names.map Raw.ofString) ++ ['\n'])

/-- Entries in the order of the bytes of their names. -/
def sortedEntries (entries : List (Raw × FileInfo)) : List (Raw × FileInfo) :=
  entries.mergeSort fun a b => Raw.isAtMost a.1 b.1

/-- The letters of a mode. -/
def modeText (info : FileInfo) : Raw :=
  let kind := match info.tree with
    | .directory _ | .closed _ (some true) => 'd'
    | .link _ => 'l'
    | .pipe _ => 'p'
    | .device _ => 'c'
    | _ => '-'
  let bit (n : Nat) (letter : Char) : Char := if info.mode.testBit n then letter else '-'
  kind :: [
    bit 8 'r', bit 7 'w', bit 6 'x', bit 5 'r', bit 4 'w', bit 3 'x', bit 2 'r', bit 1 'w',
    bit 0 'x']

/-- The sign after a name that tells what it stands for. -/
def kindSign (info : FileInfo) (all : Bool) : Raw :=
  match info.tree with
  | .directory _ | .closed _ (some true) => ['/']
  | .link _ => if all then ['@'] else []
  | .pipe _ => if all then ['|'] else []
  | _ => if all && info.mode &&& 0o111 != 0 then ['*'] else []

/-- A text brought to a width, at its right. -/
def padLeft (width : Nat) (text : Raw) : Raw := List.replicate (width - text.length) ' ' ++ text

/-- The line of `ls` for an entry. -/
def entryLine (o : Options) (width : Nat) (name : Raw) (info : FileInfo) : Raw :=
  let sign := if o.has 'F' then kindSign info true
    else if o.has 'p' then kindSign info false else []
  if o.has 'l' then
    let target := match info.tree with
      | .link target => " -> ".toList ++ Raw.ofString target.text
      | _ => []
    let owner := if o.has 'n' then " 0 0 ".toList else " root root ".toList
    modeText info ++ [' '] ++ Number.shown info.names ++ owner ++
      padLeft width (Number.shown info.size) ++ " Jan  1 00:00 ".toList ++ name ++ target ++
      (if target = [] then sign else []) ++ ['\n']
  else name ++ sign ++ ['\n']

/-- Entries in the order that options ask for. -/
def orderedEntries (o : Options) (entries : List (Raw × FileInfo)) : List (Raw × FileInfo) :=
  let sorted := if o.has 'U' then entries else sortedEntries entries
  let sorted :=
    if o.has 'S' then sorted.mergeSort fun a b => b.2.size ≤ a.2.size
    else if o.has 't' then sorted.mergeSort fun a b => b.2.changed ≤ a.2.changed
    else sorted
  if o.has 'r' then sorted.reverse else sorted

/-- Print some entries. -/
def printEntries (o : Options) (entries : List (Raw × FileInfo)) : Tool Unit := do
  let width := (entries.map fun (_, i) => (Number.shown i.size).length).foldl max 1
  each (orderedEntries o entries) fun (name, info) => emit (entryLine o width name info)

/-- Print what a directory holds, and what is below it if the option says so. The fuel bounds how
    deep it is. -/
def listDirectory (o : Options) (hasHeader : Bool) : Nat → Bool → Raw → Tool Unit
  | 0, _, _ => pure ()
  | depth + 1, isFirst, name => do
    match ← Routine.list (path name) with
    | .error error => grumble s!"cannot open directory {quoted name}: {error.text}" 2
    | .ok entries =>
      if hasHeader then emit ((if isFirst then [] else ['\n']) ++ name ++ [':', '\n'])
      let dots := if o.has 'a' then [['.'], ['.', '.']] else []
      let isShown (entry : Raw) : Bool := o.has 'a' || o.has 'A' || entry.head? != some '.'
      let names := dots ++ (entries.map fun (entry, _) => Raw.ofString entry).filter isShown
      let found ← names.filterMapM fun entry => do
        return (← info? (within name entry) false).map (entry, ·)
      if o.has 'l' then emit "total 0\n".toList
      printEntries o found
      if o.has 'R' then
        each (orderedEntries o found) fun (entry, info) => do
          if info.tree.isDirectory ∧ entry ∉ dots then
            listDirectory o true depth false (within name entry)

/-- `ls`. -/
def ls : Tool Unit := do
  let o ← options {
    letters := "1aAlCdRFrtSipnghosxmQLHUcuw:", misuseStatus := 2
    names := [
      ("all", 'a'), ("almost-all", 'A'), ("directory", 'd'), ("recursive", 'R'),
      ("classify", 'F'), ("reverse", 'r'), ("inode", 'i'), ("color", 'x')] }
  let names := if o.operands = [] then [['.']] else o.operands
  let found ← names.filterMapM fun name => do
    let followed ← info? name (!(o.has 'd' || o.has 'l' || o.has 'F'))
    match followed with
    | some i => return some (name, i)
    | none =>
      match ← info name false with
      | .ok i => return some (name, i)
      | .error error =>
        grumble s!"cannot access {quoted name}: {error.text}" 2
        return none
  let isListed (i : FileInfo) : Bool := i.tree.isDirectory && !o.has 'd'
  let files := found.filter (!isListed ·.2)
  let folders := orderedEntries o (found.filter (isListed ·.2))
  printEntries o files
  let hasHeader : Bool := 1 < names.length || o.has 'R'
  let rec go (isFirst : Bool) : List (Raw × FileInfo) → Tool Unit
    | [] => pure ()
    | (name, _) :: rest => do
      listDirectory o hasHeader FileTree.pathLimit isFirst name
      go false rest
  go (files = []) folders

/-! ## Finding -/

/-- What `find` asks of a file, or does with it. -/
inductive Finding where
  | name (pattern : Raw) (foldsCase : Bool)
  | path (pattern : Raw)
  | kind (letters : Raw)
  | empty
  | depthFirst
  | newer (name : Raw)
  | size (word : Raw)
  | prune
  | print (mark : Char)
  | delete
  | quit
  | run (words : List Raw) (isLast : Bool)
  | holds (value : Bool)
  | negation (inner : Finding)
  | both (first second : Finding)
  | either (first second : Finding)

/-- Whether a finding does something by itself. -/
def Finding.acts : Finding → Bool
  | print _ | delete | quit | run _ _ => true
  | negation inner => inner.acts
  | both first second | either first second => first.acts || second.acts
  | _ => false

/-- The expression that a pattern with stars and question marks stands for. -/
def wildcard (pattern : Raw) : Regex.Expr :=
  let rec go : Nat → Raw → Regex.Expr
    | 0, _ | _, [] => .empty
    | fuel + 1, '*' :: rest => .sequence (.repeat 0 none .any) (go fuel rest)
    | fuel + 1, '?' :: rest => .sequence .any (go fuel rest)
    | fuel + 1, '\\' :: c :: rest => .sequence (.char c) (go fuel rest)
    | fuel + 1, '[' :: rest =>
      let rest' := match rest with
        | '!' :: more => '^' :: more
        | _ => rest
      match Regex.bracket (rest'.length + 1) rest' with
      | .ok (e, after) => .sequence e (go fuel after)
      | .error _ => .sequence (.char '[') (go fuel rest)
    | fuel + 1, c :: rest => .sequence (.char c) (go fuel rest)
  go (pattern.length + 1) pattern

/-- Whether a pattern fits a whole text. -/
def fitsWildcard (pattern text : Raw) (foldsCase : Bool) : Bool :=
  let subject : Regex.Subject := { text := List.toArray text, foldsCase }
  (Regex.matchAt? subject (.sequence (wildcard pattern) .finish) 0).isSome

mutual

/-- Read alternatives. -/
def readEither : Nat → List Raw → Tool (Finding × List Raw)
  | 0, words => return (.holds true, words)
  | fuel + 1, words => do
    let (first, rest) ← readBoth fuel words
    match rest with
    | ['-', 'o'] :: rest =>
      let (second, rest) ← readEither fuel rest
      return (.either first second, rest)
    | _ => return (first, rest)

/-- Read findings one after the other. -/
def readBoth : Nat → List Raw → Tool (Finding × List Raw)
  | 0, words => return (.holds true, words)
  | fuel + 1, words => do
    let (first, rest) ← readFinding fuel words
    match rest with
    | [] | ['-', 'o'] :: _ | [')'] :: _ => return (first, rest)
    | ['-', 'a'] :: rest =>
      let (second, rest) ← readBoth fuel rest
      return (.both first second, rest)
    | rest =>
      let (second, rest) ← readBoth fuel rest
      return (.both first second, rest)

/-- Read one finding. -/
def readFinding : Nat → List Raw → Tool (Finding × List Raw)
  | 0, words => return (.holds true, words)
  | fuel + 1, words => do
    let missing {α : Type} (word : Raw) : Tool α :=
      fail s!"missing argument to \x60{Raw.text word}'" 1
    match words with
    | [] => return (.holds true, [])
    | ['!'] :: rest =>
      let (inner, rest) ← readFinding fuel rest
      return (.negation inner, rest)
    | ['('] :: rest =>
      let (inner, rest) ← readEither fuel rest
      return (inner, rest.drop 1)
    | word :: rest =>
      let valued (make : Raw → Finding) : Tool (Finding × List Raw) :=
        match rest with
        | value :: rest => return (make value, rest)
        | [] => missing word
      match String.ofList word with
      | "-name" => valued (.name · false)
      | "-iname" => valued (.name · true)
      | "-path" | "-wholename" => valued .path
      | "-type" => valued .kind
      | "-newer" => valued .newer
      | "-size" => valued .size
      | "-maxdepth" | "-mindepth" => valued fun _ => .holds true
      | "-empty" => return (.empty, rest)
      | "-depth" => return (.depthFirst, rest)
      | "-prune" => return (.prune, rest)
      | "-print" => return (.print '\n', rest)
      | "-print0" => return (.print (Char.ofNat 0), rest)
      | "-delete" => return (.delete, rest)
      | "-quit" => return (.quit, rest)
      | "-true" | "-follow" | "-xdev" | "-mount" | "-noleaf" => return (.holds true, rest)
      | "-false" => return (.holds false, rest)
      | "-not" =>
        let (inner, rest) ← readFinding fuel rest
        return (.negation inner, rest)
      | "-exec" | "-ok" =>
        let words := rest.takeWhile fun w => w ≠ [';'] && w ≠ ['+']
        match rest.drop words.length with
        | [] => missing word
        | mark :: after => return (.run words (mark = ['+']), after)
      | _ => fail s!"unknown predicate \x60{Raw.text word}'" 1

end

/-- The letter of a kind of file. -/
def kindLetter (info : FileInfo) : Char :=
  match info.tree with
  | .directory _ | .closed _ (some true) => 'd'
  | .link _ => 'l'
  | .pipe _ => 'p'
  | .device _ => 'c'
  | _ => 'f'

/-- Whether a finding holds of a file; what it does is done. -/
def evaluateFinding (name : Raw) (info : FileInfo) : Finding → Tool Bool
  | .name pattern foldsCase => return fitsWildcard pattern (lastName name) foldsCase
  | .path pattern => return fitsWildcard pattern name false
  | .kind letters => return kindLetter info ∈ letters
  | .empty =>
    match info.tree with
    | .directory entries => return entries.isEmpty
    | .file _ => return info.size = 0
    | _ => return false
  | .newer other => do
    return (← info? other true).any (·.changed < info.changed)
  | .size word =>
    let digits := word.dropWhile (· ∈ ['+', '-'])
    let n := Number.value 10 (digits.takeWhile Char.isDigit)
    let unit := match digits.dropWhile Char.isDigit with
      | ['c'] => 1
      | ['k'] => 1024
      | ['M'] => 1048576
      | _ => 512
    let size := (info.size + unit - 1) / unit
    return match word.head? with
      | some '+' => decide (n < size)
      | some '-' => decide (size < n)
      | _ => decide (size = n)
  | .prune | .depthFirst => return true
  | .print mark => do
    emit (name ++ [mark])
    return true
  | .delete => do
    let request : Request := if info.tree.isDirectory then .removeDirectory (Tool.path name)
      else .unlink (Tool.path name)
    match ← Routine.perform request with
    | .ok () => return true
    | .error error =>
      grumble s!"cannot delete {quoted name}: {error.text}" 1
      return false
  | .quit => do
    exit 0
  | .run words isLast => do
    let mark := [Char.ofNat 0x7b, Char.ofNat 0x7d]
    if isLast then return true
    let words := words.map fun word => substituted mark name (word.length + 1) word
    let child ← launch words (← read).environment fun error =>
      complain s!"{quoted (words.headD [])}: {error.text}"
    return (← awaitChild child Routine.plenty) = .exited 0
  | .holds value => return value
  | .negation inner => do return !(← evaluateFinding name info inner)
  | .both first second => do
    if ← evaluateFinding name info first then evaluateFinding name info second else return false
  | .either first second => do
    if ← evaluateFinding name info first then return true else evaluateFinding name info second

/-- How `find` goes through a tree. -/
structure FindingWalk where
  finding : Finding
  least : Nat
  most : Nat
  depthFirst : Bool
  prunes : Bool

/-- Go through a tree, and give back the names for which a finding holds. -/
def findBelow (w : FindingWalk) : Nat → Nat → Raw → Tool (List Raw)
  | 0, _, _ => return []
  | fuel + 1, depth, name => do
    match ← info name false with
    | .error error =>
      grumble s!"{quoted name}: {error.text}" 1
      return []
    | .ok found =>
      let here : Tool (List Raw) := do
        if depth < w.least then return []
        return if ← evaluateFinding name found w.finding then [name] else []
      let below : Tool (List Raw) := do
        match found.tree with
        | .directory entries =>
          if w.most ≤ depth then return []
          let parts ← entries.mapM fun (entry, _) =>
            findBelow w fuel (depth + 1) (within name (Raw.ofString entry))
          return parts.flatten
        | .closed error (some true) =>
          if depth < w.most then grumble s!"{quoted name}: {error.text}" 1
          return []
        | _ => return []
      if w.depthFirst then return (← below) ++ (← here)
      let own ← here
      if w.prunes ∧ own ≠ [] ∧ found.tree.isDirectory then return own
      return own ++ (← below)

/-- The value after an option of `find`. -/
def depthOption (name : String) (words : List Raw) : Option Nat :=
  match words.dropWhile (· ≠ name.toList) with
  | _ :: value :: _ => Number.natural? value
  | _ => none

/-- The words that a finding runs once for all files. -/
def Finding.lastRun? : Finding → Option (List Raw)
  | run words true => some words
  | both first second | either first second => first.lastRun?.or second.lastRun?
  | negation inner => inner.lastRun?
  | _ => none

/-- Whether a finding leaves out directories. -/
def Finding.hasPrune : Finding → Bool
  | prune => true
  | both first second | either first second => first.hasPrune || second.hasPrune
  | negation inner => inner.hasPrune
  | _ => false

/-- `find`. -/
def find : Tool Unit := do
  let words := (← read).arguments
  let isExpression (word : Raw) : Bool :=
    word = ['!'] || word = ['('] || (word.head? = some '-' && 1 < word.length)
  let names := words.takeWhile (!isExpression ·)
  let expression := words.drop names.length
  let (finding, _) ← readEither (4 * expression.length + 8) expression
  let whole := if finding.acts then finding else .both finding (.print '\n')
  let w : FindingWalk := {
    finding := whole
    least := (depthOption "-mindepth" expression).getD 0
    most := (depthOption "-maxdepth" expression).getD FileTree.pathLimit
    depthFirst := expression.any fun word => word = "-depth".toList || word = "-delete".toList
    prunes := finding.hasPrune }
  let found ← (if names = [] then [['.']] else names).mapM (findBelow w FileTree.pathLimit 0)
  match whole.lastRun?, found.flatten with
  | none, _ | _, [] => pure ()
  | some words, names =>
    let command := words.filter (· ≠ [Char.ofNat 0x7b, Char.ofNat 0x7d])
    let child ← launch (command ++ names) (← read).environment fun error =>
      complain s!"{cited (command.headD [])}: {error.text}"
    if (← awaitChild child Routine.plenty) ≠ .exited 0 then note 1

/-- `stat`, with a format. -/
def stat : Tool Unit := do
  let o ← options { letters := "c:Lft", names := [("format", 'c'), ("printf", 'c')] }
  if o.operands = [] then misuse "missing operand" 1
  each o.operands fun name => do
    match ← info name (o.has 'L') with
    | .error error => grumble s!"cannot statx {quoted name}: {error.text}" 1
    | .ok i =>
      let kind := match i.tree with
        | .directory _ | .closed _ (some true) => "directory"
        | .link _ => "symbolic link"
        | .pipe _ => "fifo"
        | .device _ => "character special file"
        | _ => if i.size = 0 then "regular empty file" else "regular file"
      let field (letter : Char) : Raw :=
        match letter with
        | 'n' => name
        | 's' => Number.shown i.size
        | 'F' => kind.toList
        | 'a' => Nat.toDigits 8 i.mode
        | 'A' => modeText i
        | 'h' => Number.shown i.names
        | 'U' | 'G' => "root".toList
        | 'u' | 'g' => ['0']
        | c => [c]
      let rec expanded : Raw → Raw
        | [] => []
        | '%' :: c :: rest => field c ++ expanded rest
        | c :: rest => c :: expanded rest
      emit (expanded ((o.value? 'c').getD ['%', 'n']) ++ ['\n'])

end Conformance.Tools
