import Conformance.Text.Regex
import Conformance.Tools.Files
import Conformance.Tools.Lines

/-!
# Editing streams

`sed`: a script of commands is carried out on every line of the input. The script is read first and
labels become places in the list of commands, so that a jump leads to a number.
-/

namespace Conformance.Tools

open Tool

/-! ## Scripts -/

/-- Which lines a command is for. -/
inductive Address where
  | line (n : Nat)
  | last
  /-- Every so many lines from some line on. -/
  | every (first step : Nat)
  | match (expr : Option Regex.Expr) (foldsCase : Bool)
  /-- So many lines after the first one of a range. -/
  | after (n : Nat)

/-- A part of what a match is replaced by. -/
inductive Replacement where
  | text (raw : Raw)
  | group (n : Nat)
  /-- Letters after it change their case: all, or one, to upper or lower, or none. -/
  | mode (letter : Char)

/-- How a substitution goes. -/
structure Substitution where
  expr : Option Regex.Expr
  replacement : List Replacement
  foldsCase : Bool := false
  everywhere : Bool := false
  /-- Which match is replaced first. -/
  number : Nat := 1
  prints : Bool := false
  target : Option Raw := none

/-- What a command does. -/
inductive Edit where
  | substitute (s : Substitution)
  | translate (pairs : List (Char × Char))
  | append (text : Raw)
  | insert (text : Raw)
  | change (text : Raw)
  | jump (letter : Char) (label : Raw)
  | label (name : Raw)
  | readFile (name : Raw)
  | writeFile (name : Raw)
  | quit (letter : Char) (status : Nat)
  /-- The start of a block, which ends at some place. -/
  | opening (stop : Nat)
  | closing
  | simple (letter : Char)

/-- A command with its addresses. -/
structure EditCommand where
  first : Option Address := none
  second : Option Address := none
  negated : Bool := false
  edit : Edit

/-- A reader of a script: what is left, how much has been read, or a complaint. -/
abbrev ScriptReader := StateT (Raw × Nat) (Except (Nat × String))

namespace ScriptReader

def rest : ScriptReader Raw := return (← get).1

def skip (n : Nat) : ScriptReader Unit :=
  modify fun (text, k) => (text.drop n, k + min n text.length)

def refuse {α : Type} (message : String) : ScriptReader α := do
  throw ((← get).2, message)

/-- Take the next character, or refuse. -/
def next (message : String) : ScriptReader Char := do
  match ← rest with
  | c :: _ =>
    skip 1
    return c
  | [] => refuse message

def span (accept : Char → Bool) : ScriptReader Raw := do
  let taken := (← rest).takeWhile accept
  skip taken.length
  return taken

def skipBlanks : ScriptReader Unit := discard (span isBlank)

/-- The text up to a delimiter, which is taken too. An escaped delimiter loses its backslash, and in
    brackets of an expression it has no meaning. -/
def delimited (delimiter : Char) (isExpr : Bool) (message : String) : Nat → ScriptReader Raw
  | 0 => refuse message
  | fuel + 1 => do
    match ← rest with
    | [] => refuse message
    | '\\' :: c :: _ =>
      skip 2
      let more ← delimited delimiter isExpr message fuel
      if c = delimiter then return c :: more
      if c = 'n' ∧ isExpr then return '\n' :: more
      return '\\' :: c :: more
    | '[' :: rest =>
      let inside := bracketLength rest
      if isExpr ∧ 0 < inside ∧ delimiter ≠ '[' then
        let taken := ('[' :: rest).take (inside + 1)
        skip (inside + 1)
        return taken ++ (← delimited delimiter isExpr message fuel)
      skip 1
      return '[' :: (← delimited delimiter isExpr message fuel)
    | c :: _ =>
      skip 1
      if c = delimiter then return []
      return c :: (← delimited delimiter isExpr message fuel)
where
  /-- How long brackets are from after the opening one, or none if they do not close. -/
  bracketLength (text : Raw) : Nat :=
    let lead := match text with
      | '^' :: ']' :: _ => 2
      | '^' :: _ | ']' :: _ => 1
      | _ => 0
    let body := (text.drop lead).takeWhile fun c => c ≠ ']' && c ≠ '\n'
    if (text.drop (lead + body.length)).head? = some ']' then lead + body.length + 1 else 0

end ScriptReader

open ScriptReader (rest skip refuse next span skipBlanks delimited)

/-- Read an expression; an empty one stands for the last one used. -/
def editExpr (isExtended : Bool) (text : Raw) : ScriptReader (Option Regex.Expr) := do
  if text = [] then return none
  match Regex.read { isExtended } text with
  | .ok e => return some e
  | .error message => refuse message

/-- An address, if one stands here. -/
def address? (isExtended : Bool) : ScriptReader (Option Address) := do
  match ← rest with
  | '$' :: _ =>
    skip 1
    return some .last
  | '/' :: _ =>
    skip 1
    expression '/'
  | '\\' :: c :: _ =>
    skip 2
    expression c
  | '+' :: c :: _ =>
    if c.isDigit then
      skip 1
      return some (.after (Number.value 10 (← span Char.isDigit)))
    return none
  | c :: _ =>
    if !c.isDigit then return none
    let n := Number.value 10 (← span Char.isDigit)
    match ← rest with
    | '~' :: _ =>
      skip 1
      return some (.every n (Number.value 10 (← span Char.isDigit)))
    | _ => return some (.line n)
  | [] => return none
where
  expression (delimiter : Char) : ScriptReader (Option Address) := do
    let length := (← rest).length + 1
    let text ← delimited delimiter true "unterminated address regex" length
    let expr ← editExpr isExtended text
    let foldsCase : Bool := (← rest).head? = some 'I'
    if foldsCase then skip 1
    return some (.match expr foldsCase)

/-- The parts of a replacement. -/
def replacement : Raw → List Replacement
  | [] => []
  | '&' :: text => .group 0 :: replacement text
  | '\\' :: c :: text =>
    if c.isDigit then .group (c.toNat - 48) :: replacement text
    else if c = 'n' then .text ['\n'] :: replacement text
    else if c = 't' then .text ['\t'] :: replacement text
    else if c ∈ ['U', 'L', 'u', 'l', 'E'] then .mode c :: replacement text
    else .text [c] :: replacement text
  | c :: text => .text [c] :: replacement text

/-- The flags after a substitution. -/
def substitutionFlags : Nat → Substitution → ScriptReader Substitution
  | 0, s => return s
  | fuel + 1, s => do
    match ← rest with
    | 'g' :: _ =>
      skip 1
      if s.everywhere then refuse "multiple \x60g' options to \x60s' command"
      substitutionFlags fuel { s with everywhere := true }
    | 'p' :: _ =>
      skip 1
      substitutionFlags fuel { s with prints := true }
    | 'i' :: _ | 'I' :: _ =>
      skip 1
      substitutionFlags fuel { s with foldsCase := true }
    | 'm' :: _ | 'M' :: _ =>
      skip 1
      substitutionFlags fuel s
    | 'w' :: _ =>
      skip 1
      skipBlanks
      return { s with target := some (← span (· ≠ '\n')) }
    | c :: _ =>
      if c.isDigit then
        let n := Number.value 10 (← span Char.isDigit)
        if n = 0 then refuse "number option to \x60s' command may not be zero"
        substitutionFlags fuel { s with number := n }
      else if c ∈ [' ', '\t'] then
        skip 1
        substitutionFlags fuel s
      else if c ∈ ['\n', ';', '#', Char.ofNat 0x7d] then return s
      else
        skip 1
        refuse "unknown option to \x60s'"
    | [] => return s

/-- The text of a command that prints one. -/
def editText : ScriptReader Raw := do
  skipBlanks
  match ← rest with
  | [] => refuse "expected \\ after \x60a', \x60c' or \x60i'"
  | '\\' :: '\n' :: _ => skip 2
  | '\\' :: _ =>
    skip 1
    skipBlanks
    if (← rest).head? = some '\n' then skip 1
  | _ => pure ()
  let length := (← rest).length + 1
  return (← lines length) ++ ['\n']
where
  lines : Nat → ScriptReader Raw
    | 0 => return []
    | fuel + 1 => do
      match ← rest with
      | [] | '\n' :: _ => return []
      | '\\' :: c :: _ =>
        skip 2
        return c :: (← lines fuel)
      | c :: _ =>
        skip 1
        return c :: (← lines fuel)

/-- What a command does, from its letter on. -/
def edit (isExtended : Bool) : ScriptReader Edit := do
  let letter ← next "missing command"
  let length := (← rest).length + 1
  match letter with
  | 's' =>
    let message := "unterminated \x60s' command"
    let delimiter ← next message
    let expr ← delimited delimiter true message length
    let text ← delimited delimiter false message length
    let expr ← editExpr isExtended expr
    .substitute <$> substitutionFlags length { expr, replacement := replacement text }
  | 'y' =>
    let message := "unterminated \x60y' command"
    let delimiter ← next message
    let from_ ← delimited delimiter true message length
    let to_ ← delimited delimiter true message length
    let plain (text : Raw) : Raw := (Format.unescape {} text).1
    if (plain from_).length ≠ (plain to_).length then
      refuse "strings for \x60y' command are different lengths"
    return .translate ((plain from_).zip (plain to_))
  | 'a' => .append <$> editText
  | 'i' => .insert <$> editText
  | 'c' => .change <$> editText
  | ':' =>
    skipBlanks
    let name ← span fun c => c ≠ '\n' && c ≠ ';'
    if name = [] then refuse "\":\" lacks a label"
    return .label name
  | 'b' | 't' | 'T' =>
    skipBlanks
    return .jump letter (← span fun c => c ∉ ['\n', ';', Char.ofNat 0x7d])
  | 'r' | 'w' =>
    skipBlanks
    let name ← span (· ≠ '\n')
    if name = [] then refuse "missing filename in r/R/w/W commands"
    return if letter = 'r' then .readFile name else .writeFile name
  | 'q' | 'Q' =>
    skipBlanks
    return .quit letter (Number.value 10 (← span Char.isDigit))
  | c =>
    if c = Char.ofNat 0x7b then return .opening 0
    else if c = Char.ofNat 0x7d then return .closing
    else if c ∈ ['d', 'D', 'p', 'P', 'n', 'N', 'g', 'G', 'h', 'H', 'x', '=', 'l', 'z', 'F'] then
      return .simple c
    else refuse s!"unknown command: \x60{c}'"

/-- The commands of a script. -/
def editCommands (isExtended : Bool) : Nat → ScriptReader (List EditCommand)
  | 0 => return []
  | fuel + 1 => do
    discard (span fun c => c ∈ [' ', '\t', '\n', ';'])
    match ← rest with
    | [] => return []
    | '#' :: _ =>
      discard (span (· ≠ '\n'))
      editCommands isExtended fuel
    | _ =>
      let first ← address? isExtended
      skipBlanks
      let second ← if first.isSome ∧ (← rest).head? = some ',' then do
          skip 1
          skipBlanks
          match ← address? isExtended with
          | some a => pure (some a)
          | none => refuse "unexpected \x60,'"
        else pure none
      discard (span fun c => c ∈ [' ', '\t'])
      let negated : Bool := (← rest).head? = some '!'
      if negated then discard (span fun c => c ∈ [' ', '\t', '!'])
      let edit ← edit isExtended
      skipBlanks
      match edit, ← rest with
      | .opening _, _ | .append _, _ | .insert _, _ | .change _, _ => pure ()
      | _, [] | _, '\n' :: _ | _, ';' :: _ | _, '#' :: _ => pure ()
      | _, c :: _ =>
        if c ≠ Char.ofNat 0x7d then
          skip 1
          refuse "extra characters after command"
      return { first, second, negated, edit } :: (← editCommands isExtended fuel)

/-- Let the start of every block say where it ends; the numbers of the open blocks are given. -/
def closeBlocks (commands : Array EditCommand) :
    Except (Nat × String) (Array EditCommand) :=
  go commands 0 [] commands.toList
where
  go (done : Array EditCommand) (i : Nat) (isOpen : List Nat) :
      List EditCommand → Except (Nat × String) (Array EditCommand)
    | [] => if isOpen = [] then .ok done else .error (0, "unmatched \x60\x7b'")
    | command :: more =>
      match command.edit, isOpen with
      | .opening _, _ => go done (i + 1) (i :: isOpen) more
      | .closing, start :: outer =>
        go (done.modify start fun c => { c with edit := .opening i }) (i + 1) outer more
      | .closing, [] => .error (i + 1, "unexpected \x60\x7d'")
      | _, _ => go done (i + 1) isOpen more

/-! ## Carrying a script out -/

/-- How a stream is edited. -/
structure Editing where
  commands : Array EditCommand
  isQuiet : Bool
  /-- Where lines are printed to, if not to standard output. -/
  isInPlace : Bool

/-- What is printed after a line: a text, or what a file holds then. -/
inductive Addition where
  | text (raw : Raw)
  | file (name : Raw)

/-- Where an edit stands. -/
structure EditState where
  pattern : Raw := []
  hold : Raw := []
  line : Nat := 0
  /-- Files that have not been read yet, and the one that is being read. -/
  names : List Raw := []
  source : Option (Raw × Nat) := none
  /-- What has been read of a line that is not complete. -/
  begun : Raw := []
  /-- Lines that have been read ahead, each with whether it has an end. -/
  waiting : List (Raw × Bool) := []
  /-- Whether the current line has an end. -/
  isEnded : Bool := true
  /-- The ranges that have begun, each with the line it ends at, if that is known. -/
  ranges : List (Nat × Option Nat) := []
  /-- What is printed after the line. -/
  queue : List Addition := []
  substituted : Bool := false
  lastExpr : Option (Regex.Expr × Bool) := none
  /-- What is written in place, last piece first. -/
  written : List Raw := []
  /-- The files that have been written to. -/
  targets : List Raw := []
  status : Nat := 0

/-- How a command goes on. -/
inductive EditFlow where
  | next
  | goto (place : Nat)
  /-- The line is done; it is printed or not. -/
  | done (prints : Bool)
  /-- The line is done, and the script starts again on what is left of it. -/
  | again
  | quit (prints : Bool)

/-- A step of an edit. -/
abbrev Editor := StateT EditState Tool

namespace Editor

/-- Print something. -/
def print (g : Editing) (text : Raw) : Editor Unit :=
  if g.isInPlace then modify fun s => { s with written := text :: s.written }
  else (emit text : Tool Unit)

/-- Print a line. -/
def printLine (g : Editing) (text : Raw) (ended : Bool) : Editor Unit :=
  print g (text ++ if ended then ['\n'] else [])

/-- Write to a file that commands write to. -/
def writeTo (g : Editing) (name text : Raw) : Editor Unit := do
  if String.ofList name = "/dev/stdout" then print g text
  else
    let isFirst := !(← get).targets.any (· = name)
    modify fun s => { s with targets := name :: s.targets }
    let how : OpenMode := { writes := true, creates := true, empties := isFirst, appends := true }
    match ← (Routine.openFile (path name) how : Routine _) with
    | .ok descriptor =>
      (Routine.put descriptor text : Routine Unit)
      (Routine.close descriptor : Routine Unit)
    | .error error => (fail s!"couldn't open file {Raw.text name}: {error.text}" 4 : Tool Unit)

/-- Print what is kept for the end of a line. -/
def printQueue (g : Editing) : Editor Unit := do
  let queue := (← get).queue
  modify fun s => { s with queue := [] }
  for item in queue do
    match item with
    | .text text => print g text
    | .file name =>
      match ← (readFile name : Tool _) with
      | .ok bytes => print g (.ofArray bytes)
      | .error _ => pure ()

/-- The expression of a match: its own, or the last one used. -/
def expression (expr : Option Regex.Expr) (foldsCase : Bool) : Editor (Regex.Expr × Bool) := do
  match expr with
  | some e =>
    modify fun s => { s with lastExpr := some (e, foldsCase) }
    return (e, foldsCase)
  | none =>
    match (← get).lastExpr with
    | some found => return found
    | none => (fail "no previous regular expression" 1 : Tool _)

def holds (a : Address) : Editor Bool := do
  let s ← get
  match a with
  | .line n => return s.line = n
  | .last => return s.waiting = []
  | .every first step =>
    return if step = 0 then s.line = first
      else first ≤ s.line && (s.line - first) % step = 0
  | .after _ => return false
  | .match expr foldsCase =>
    let (e, foldsCase) ← expression expr foldsCase
    return (Regex.find? { text := List.toArray s.pattern, foldsCase } e 0).isSome

/-- Whether a command is for the current line. -/
def isFor (place : Nat) (c : EditCommand) : Editor Bool := do
  let chosen ← match c.first, c.second with
    | none, _ => pure true
    | some a, none => holds a
    | some a, some b => do
      let s ← get
      let finish : Editor Unit :=
        modify fun s => { s with ranges := s.ranges.filter (·.1 ≠ place) }
      match s.ranges.lookup place with
      | some (some last) =>
        if last ≤ s.line then finish
        pure (s.line ≤ last)
      | some none =>
        if ← holds b then finish
        pure true
      | none =>
        let fromZero := match a with
          | .line 0 => s.line = 1
          | _ => false
        if !fromZero ∧ !(← holds a) then pure false
        else
          let start (last : Option Nat) : Editor Unit :=
            modify fun s => { s with ranges := (place, last) :: s.ranges }
          match b with
          | .line n => if s.line < n then start (some n)
          | .after n => if 0 < n then start (some (s.line + n))
          | _ => if !(fromZero && (← holds b)) then start none
          pure true
  return chosen != c.negated

/-- A text in the case that modes before it ask for. -/
def cased (mode : List Char) (text : Raw) : Raw :=
  let body := if 'U' ∈ mode then text.map Char.toUpper
    else if 'L' ∈ mode then text.map Char.toLower else text
  match body with
  | c :: rest =>
    if 'u' ∈ mode then c.toUpper :: rest else if 'l' ∈ mode then c.toLower :: rest else body
  | [] => []

/-- What a match is replaced by. -/
def replaced (subject : Regex.Subject) (m : Regex.Match) : List Char → List Replacement → Raw
  | _, [] => []
  | mode, .mode letter :: more =>
    let mode := if letter ∈ ['U', 'L', 'E'] then [letter] else letter :: mode
    replaced subject m mode more
  | mode, .text text :: more =>
    cased mode text ++ replaced subject m (mode.filter (· ∉ ['u', 'l'])) more
  | mode, .group n :: more =>
    let (a, b) := if n = 0 then (m.start, m.stop) else (m.groups.lookup n).getD (0, 0)
    let text := (subject.text.extract a b).toList
    cased mode text ++
      replaced subject m (if text = [] then mode else mode.filter (· ∉ ['u', 'l'])) more

/-- A text with matches replaced from a place on, and how many were. -/
def substitute (s : Substitution) (e : Regex.Expr) (subject : Regex.Subject) :
    Nat → Nat → Nat → Nat → Raw × Nat
  | 0, i, _, _ => ((subject.text.extract i subject.text.size).toList, 0)
  | fuel + 1, i, n, lastStop =>
    let rest (from_ : Nat) : Raw := (subject.text.extract from_ subject.text.size).toList
    match Regex.find? subject e i with
    | none => (rest i, 0)
    | some m =>
      let before := (subject.text.extract i m.start).toList
      if m.start = m.stop ∧ m.start = lastStop ∧ 0 < n then
        if h : m.stop < subject.text.size then
          let (more, count) := substitute s e subject fuel (m.stop + 1) n 0
          (before ++ subject.text[m.stop] :: more, count)
        else (before, 0)
      else
        let n := n + 1
        let isWanted := n = s.number || (s.number < n && s.everywhere)
        let own := (subject.text.extract m.start m.stop).toList
        let shown := if isWanted then replaced subject m [] s.replacement else own
        let step := if isWanted then 1 else 0
        if isWanted ∧ !s.everywhere then (before ++ shown ++ rest m.stop, 1)
        else if m.start = m.stop then
          if h : m.stop < subject.text.size then
            let (more, count) := substitute s e subject fuel (m.stop + 1) n 0
            (before ++ shown ++ subject.text[m.stop] :: more, count + step)
          else (before ++ shown, step)
        else
          let (more, count) := substitute s e subject fuel m.stop n m.stop
          (before ++ shown ++ more, count + step)

/-- Complain about a file that cannot be read. -/
def cannotRead (g : Editing) (name : Raw) (error : SystemError) : Tool Unit :=
  if error = .isDirectory then
    if g.isInPlace then grumble s!"couldn't edit {Raw.text name}: not a regular file" 4
    else grumble s!"couldn't read {Raw.text name}: {error.text}" 2
  else grumble s!"can't read {Raw.text name}: {error.text}" 2

/-- Read ahead, so that a line waits unless there is none. -/
def readAhead (g : Editing) : Nat → Editor Unit
  | 0 => pure ()
  | fuel + 1 => do
    let s ← get
    if s.waiting ≠ [] then return
    match s.source, s.names with
    | none, [] =>
      if s.begun ≠ [] then set { s with begun := [], waiting := [(s.begun, false)] }
    | none, name :: names =>
      set { s with names }
      match ← (openInput name : Tool _) with
      | .ok descriptor =>
        let begun := if s.begun = [] then [] else s.begun
        let waiting := if begun = [] then [] else [(begun, true)]
        modify fun s => { s with source := some (name, descriptor), begun := [], waiting }
      | .error error => cannotRead g name error
      readAhead g fuel
    | some (name, descriptor), _ =>
      match ← (Routine.read descriptor blockSize : Routine _) with
      | .error error =>
        cannotRead g name error
        set { s with source := none }
      | .ok bytes =>
        if bytes.isEmpty then
          (closeInput descriptor : Tool Unit)
          set { s with source := none }
        else
          let parts := (s.begun ++ Raw.ofArray bytes).splitOn '\n'
          set { s with
            begun := parts.getLastD [], waiting := parts.dropLast.map fun line => (line, true) }
      readAhead g fuel

/-- Take the next line of the input, and read ahead after it. -/
def advance (g : Editing) : Editor Bool := do
  readAhead g Routine.plenty
  match (← get).waiting with
  | [] => return false
  | (line, ended) :: waiting =>
    modify fun s => { s with pattern := line, isEnded := ended, waiting, line := s.line + 1 }
    readAhead g Routine.plenty
    return true

/-- A text as the command that shows odd characters prints it. -/
def spelled (text : Raw) : Raw :=
  text.flatMap (fun c =>
    match c with
    | '\\' => ['\\', '\\']
    | '\n' => ['\\', 'n']
    | '\t' => ['\\', 't']
    | _ =>
      if 32 ≤ c.toNat ∧ c.toNat < 127 then [c]
      else '\\' :: Number.zeroPad 3 (Nat.toDigits 8 c.toNat)) ++ ['$']

/-- Carry out one command. -/
def perform (g : Editing) (c : EditCommand) : Editor EditFlow := do
  let s ← get
  let replacePattern (pattern : Raw) : Editor EditFlow := do
    set { s with pattern }
    return .next
  match c.edit with
  | .substitute sub =>
    let (e, foldsCase) ← expression sub.expr sub.foldsCase
    let subject : Regex.Subject := { text := List.toArray s.pattern, foldsCase }
    let (text, count) := substitute sub e subject (s.pattern.length + 2) 0 0 0
    if count = 0 then return .next
    modify fun s => { s with pattern := text, substituted := true }
    if sub.prints then printLine g text s.isEnded
    match sub.target with
    | some name => writeTo g name (text ++ ['\n'])
    | none => pure ()
    return .next
  | .translate pairs => replacePattern (s.pattern.map fun c => (pairs.lookup c).getD c)
  | .append text =>
    set { s with queue := s.queue ++ [Addition.text text] }
    return .next
  | .insert text =>
    print g text
    return .next
  | .change text =>
    let isOpen := c.second.isSome && !c.negated && s.ranges.any fun (place, _) =>
      (g.commands[place]?).any fun other => match other.edit with
        | .change t => t = text
        | _ => false
    if !isOpen then print g text
    return .done false
  | .jump letter label =>
    let jumps := match letter with
      | 't' => s.substituted
      | 'T' => !s.substituted
      | _ => true
    if letter ≠ 'b' then set { s with substituted := false }
    if !jumps then return .next
    if label = [] then return .done true
    let place := g.commands.findIdx fun other => match other.edit with
      | .label name => name = label
      | _ => false
    return .goto place
  | .label _ | .closing => return .next
  | .readFile name =>
    set { s with queue := s.queue ++ [Addition.file name] }
    return .next
  | .writeFile name =>
    writeTo g name (s.pattern ++ ['\n'])
    return .next
  | .quit letter status =>
    set { s with status }
    return .quit (letter = 'q')
  | .opening _ => return .next
  | .simple letter =>
    match letter with
    | 'd' => return .done false
    | 'D' =>
      if '\n' ∈ s.pattern then
        set { s with pattern := (s.pattern.dropWhile (· ≠ '\n')).tail }
        return .again
      return .done false
    | 'p' =>
      printLine g s.pattern s.isEnded
      return .next
    | 'P' =>
      printLine g (s.pattern.takeWhile (· ≠ '\n')) true
      return .next
    | 'n' =>
      if s.waiting = [] then return .quit true
      if !g.isQuiet then printLine g s.pattern s.isEnded
      printQueue g
      discard (advance g)
      return .next
    | 'N' =>
      if s.waiting = [] then return .quit true
      printQueue g
      discard (advance g)
      modify fun t => { t with pattern := s.pattern ++ '\n' :: t.pattern }
      return .next
    | 'g' => replacePattern s.hold
    | 'G' => replacePattern (s.pattern ++ '\n' :: s.hold)
    | 'h' =>
      set { s with hold := s.pattern }
      return .next
    | 'H' =>
      set { s with hold := s.hold ++ '\n' :: s.pattern }
      return .next
    | 'x' =>
      set { s with hold := s.pattern, pattern := s.hold }
      return .next
    | '=' =>
      print g (Number.shown s.line ++ ['\n'])
      return .next
    | 'l' =>
      print g (spelled s.pattern ++ ['\n'])
      return .next
    | 'z' => replacePattern []
    | _ => return .next

/-- Carry out the commands from some place on. The fuel bounds their number. -/
def runFrom (g : Editing) : Nat → Nat → Editor EditFlow
  | 0, _ => return .done true
  | fuel + 1, place => do
    match g.commands[place]? with
    | none => return .done true
    | some c =>
      if ← isFor place c then
        match ← perform g c with
        | .next => runFrom g fuel (place + 1)
        | .goto place => runFrom g fuel place
        | other => return other
      else
        match c.edit with
        | .opening stop => runFrom g fuel stop
        | _ => runFrom g fuel (place + 1)

/-- Edit line after line. -/
def cycles (g : Editing) : Nat → Bool → Editor Unit
  | 0, _ => pure ()
  | fuel + 1, keeps => do
    let hasLine ← if keeps then pure true else advance g
    if hasLine then
      modify fun s => { s with substituted := false }
      let flow ← runFrom g Routine.plenty 0
      let prints := match flow with
        | .done prints | .quit prints => prints
        | .next | .goto _ | .again => false
      let s ← get
      if prints && !g.isQuiet then printLine g s.pattern s.isEnded
      printQueue g
      match flow with
      | .quit _ => pure ()
      | .again => cycles g fuel true
      | _ => cycles g fuel false

end Editor

/-- The script that a tool is called with, and its other words. -/
def editScript (o : Options) : Tool (Raw × List Raw) := do
  let pieces ← (o.given.filter fun (letter, _) => letter = 'e' || letter = 'f').mapM
    fun (letter, value) => do
      if letter = 'e' then return value
      match ← readFile value with
      | .ok bytes => return (Raw.ofArray bytes).dropFinalNewlines
      | .error error => fail s!"couldn't open file {Raw.text value}: {error.text}" 1
  match pieces, o.operands with
  | [], script :: rest => return (script, rest)
  | [], [] =>
    warn "Usage: sed [OPTION]... \x7bscript-only-if-no-other-script\x7d [input-file]...\n"
    exit 1
  | pieces, operands => return (['\n'].intercalate pieces, operands)

/-- `sed`. -/
def sed : Tool Unit := do
  let o ← options {
    letters := "ne:f:Ersuzi"
    names := [
      ("quiet", 'n'), ("silent", 'n'), ("expression", 'e'), ("file", 'f'),
      ("regexp-extended", 'E'), ("separate", 's'), ("in-place", 'i')] }
  let (script, names) ← editScript o
  let isExtended := o.has 'E' || o.has 'r'
  let read := do
    let (commands, _) ← StateT.run (editCommands isExtended (script.length + 1)) (script, 0)
    closeBlocks commands.toArray
  let commands ← match read with
    | .ok commands => pure commands
    | .error (n, message) => fail s!"-e expression #1, char {n}: {message}" 1
  let labels := commands.toList.filterMap fun c => match c.edit with
    | .label name => some name
    | _ => none
  for c in commands do
    match c.edit with
    | .jump _ label =>
      if label ≠ [] ∧ !labels.any (· = label) then
        fail s!"can't find label for jump to \x60{Raw.text label}'" 1
    | _ => pure ()
  let isInPlace := o.has 'i'
  let isQuiet := o.has 'n' || (['#', 'n', '\n'].isPrefixOf script)
  let g : Editing := { commands, isQuiet, isInPlace }
  let runOn (names : List Raw) : Tool EditState := do
    let (_, s) ← StateT.run (Editor.cycles g Routine.plenty false) { names }
    note s.status
    return s
  if isInPlace ∨ o.has 's' then
    each names fun name => do
      match ← info name true with
      | .error error => Editor.cannotRead g name error
      | .ok ⟨.directory _, _, _, _, _, _⟩ => Editor.cannotRead g name .isDirectory
      | .ok _ =>
        let s ← runOn [name]
        if isInPlace then
          let how : OpenMode := { writes := true, creates := true, empties := true }
          match ← Routine.openFile (path name) how with
          | .ok descriptor =>
            Routine.put descriptor s.written.reverse.flatten
            Routine.close descriptor
          | .error error => Editor.cannotRead g name error
  else discard (runOn (if names = [] then [['-']] else names))

end Conformance.Tools
