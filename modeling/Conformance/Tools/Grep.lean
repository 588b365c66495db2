import Conformance.Text.Regex
import Conformance.Tools.Files
import Conformance.Tools.Lines

/-!
# Searching

`grep`: the lines in which one of some patterns is found.
-/

namespace Conformance.Tools

open Tool

/-- What `grep` looks for and what it prints. -/
structure Search where
  patterns : List Regex.Expr
  foldsCase : Bool
  /-- Whether a match has to make up whole words or a whole line. -/
  wholeWords : Bool
  wholeLines : Bool
  inverts : Bool

namespace Search

def subject (s : Search) (line : Raw) : Regex.Subject where
  text := List.toArray line
  foldsCase := s.foldsCase

/-- Whether a match stands where one may stand. -/
def accepts (s : Search) (subject : Regex.Subject) (m : Regex.Match) : Bool :=
  let isFree (i : Nat) : Bool := !subject.isWordAt i
  (!s.wholeLines || (m.start = 0 && m.stop = subject.text.size)) &&
    (!s.wholeWords || ((m.start = 0 || isFree (m.start - 1)) && isFree m.stop))

/-- The first match of one pattern from a place on. -/
def findOne (s : Search) (subject : Regex.Subject) (from_ : Nat) (e : Regex.Expr) :
    Option Regex.Match :=
  ((List.range (subject.text.size + 1 - from_)).map (from_ + ·)).findSome? fun i =>
    let ends := Regex.ways subject (64 * (subject.text.size + 16)) e i []
    ends.foldl (fun (best : Option Regex.Match) (j, groups) =>
      let m : Regex.Match := ⟨i, j, groups⟩
      if s.accepts subject m && best.all (·.stop < j) then some m else best) none

/-- The first match of any pattern from a place on, the longest one there. -/
def find? (s : Search) (subject : Regex.Subject) (from_ : Nat) : Option Regex.Match :=
  (s.patterns.filterMap (s.findOne subject from_)).foldl
    (fun (best : Option Regex.Match) m =>
      match best with
      | none => some m
      | some b =>
        if m.start < b.start ∨ (m.start = b.start ∧ b.stop < m.stop) then some m else best) none

/-- All matches in a line that are not empty. -/
def all (s : Search) (subject : Regex.Subject) : Nat → Nat → List Raw
  | 0, _ => []
  | fuel + 1, i =>
    match s.find? subject i with
    | none => []
    | some m =>
      let next := if m.stop = m.start then m.stop + 1 else m.stop
      let rest := if i < next ∧ next ≤ subject.text.size then s.all subject fuel next else []
      if m.stop = m.start then rest
      else (subject.text.extract m.start m.stop).toList :: rest

def selects (s : Search) (line : Raw) : Bool :=
  (s.find? (s.subject line) 0).isSome != s.inverts

end Search

/-- Where `grep` stands in a file. -/
structure SearchState where
  line : Nat := 0
  found : Nat := 0
  /-- Lines that may have to be printed before the next match, each with its number. -/
  before : List (Nat × Raw) := []
  /-- How many lines after a match are still to be printed. -/
  after : Nat := 0
  /-- The number of the line printed last. -/
  printed : Nat := 0

/-- A text in which every character stands for itself. -/
def literalExpr (text : Raw) : Regex.Expr :=
  text.foldr (fun c e => .sequence (.char c) e) .empty

/-- How `grep` is asked. -/
structure SearchOptions where
  options : Options
  search : Search
  hasNames : Bool
  most : Option Nat
  linesBefore : Nat
  linesAfter : Nat

/-- Print a line that was found, or one beside it. -/
def printFound (g : SearchOptions) (name : Raw) (n : Nat) (mark : Char) (text : Raw) : Tool Unit :=
  emit ((if g.hasNames then name ++ [mark] else []) ++
    (if g.options.has 'n' then Number.shown n ++ [mark] else []) ++ text ++ ['\n'])

/-- Handle one line. -/
def searchLine (g : SearchOptions) (name : Raw) (state : SearchState) (line : Raw) :
    Tool (SearchState × Bool) := do
  let o := g.options
  let n := state.line + 1
  let isSilent := o.has 'q' || o.has 'c' || o.has 'l' || o.has 'L'
  if g.search.selects line then
    let found := state.found + 1
    let goesOn := !(o.has 'q' || o.has 'l' || o.has 'L') && g.most.all (found < ·)
    if !isSilent then
      if o.has 'o' then
        let subject := g.search.subject line
        if !g.search.inverts then
          each (g.search.all subject (line.length + 1) 0) (printFound g name n ':')
      else
        let waiting := state.before.filter (state.printed < ·.1)
        let first := (waiting.head?.map Prod.fst).getD n
        if 0 < g.linesBefore + g.linesAfter ∧ 0 < state.printed ∧ state.printed + 1 < first then
          emitText "--\n"
        each waiting fun (i, text) => printFound g name i '-' text
        printFound g name n ':' line
    return ({ line := n, found, before := [], after := g.linesAfter, printed := n }, goesOn)
  if 0 < state.after ∧ !isSilent ∧ !o.has 'o' then
    printFound g name n '-' line
    return ({ state with line := n, after := state.after - 1, printed := n }, true)
  let before := state.before ++ [(n, line)]
  return ({ state with
    line := n, before := before.drop (before.length - g.linesBefore) }, true)

/-- Search one file. The result tells whether something was found. -/
def searchFile (g : SearchOptions) (name : Raw) : Tool Bool := do
  let o := g.options
  let label := if name = ['-'] then "(standard input)".toList else name
  let complain (error : SystemError) : Tool Unit :=
    if o.has 's' then note 2 else grumble s!"{Raw.text name}: {error.text}" 2
  match ← openInput name with
  | .error error =>
    complain error
    return false
  | .ok descriptor =>
    if g.most = some 0 then
      closeInput descriptor
      return false
    let result ← eachLine descriptor (fun state line _ => searchLine g label state line)
      ({} : SearchState)
    closeInput descriptor
    match result with
    | .error error =>
      complain error
      return false
    | .ok state =>
      if o.has 'q' then return 0 < state.found
      if o.has 'c' then
        emit ((if g.hasNames then label ++ [':'] else []) ++ Number.shown state.found ++ ['\n'])
      if (o.has 'l' && 0 < state.found) || (o.has 'L' && state.found = 0) then
        emit (label ++ ['\n'])
      return (0 < state.found) != o.has 'L'

/-- The files below a directory. The fuel bounds how deep it is. -/
def filesBelow : Nat → Raw → Tool (List Raw)
  | 0, _ => return []
  | depth + 1, name => do
    match ← info? name true with
    | some ⟨.directory entries, _, _, _, _, _⟩ =>
      let below ← entries.mapM fun (entry, child) =>
        match child with
        | .link _ => return []
        | _ => filesBelow depth (within name (Raw.ofString entry))
      return below.flatten
    | _ => return [name]

/-- Complain about how `grep` is called. -/
def grepUsage {α : Type} : Tool α := do
  warn "Usage: grep [OPTION]... PATTERNS [FILE]...\n"
  warn "Try 'grep --help' for more information.\n"
  exit 2

/-- `grep`, with patterns that are extended or plain texts if it is called by another name. -/
def grep (kind : Char) : Tool Unit := do
  let o ← options {
    letters := "EFGPe:f:ivwxcnqslLoHhm:A:B:C:rRzyabUZT", misuseStatus := 2
    names := [
      ("extended-regexp", 'E'), ("fixed-strings", 'F'), ("regexp", 'e'), ("file", 'f'),
      ("ignore-case", 'i'), ("invert-match", 'v'), ("word-regexp", 'w'), ("line-regexp", 'x'),
      ("count", 'c'), ("line-number", 'n'), ("quiet", 'q'), ("silent", 'q'), ("no-messages", 's'),
      ("files-with-matches", 'l'), ("files-without-match", 'L'), ("only-matching", 'o'),
      ("with-filename", 'H'), ("no-filename", 'h'), ("max-count", 'm'), ("recursive", 'r'),
      ("color", 'U'), ("text", 'a')] }
  let kind := ((o.given.map Prod.fst).reverse.find? (· ∈ ['E', 'F', 'G', 'P'])).getD kind
  let fromFiles ← readAllOf (o.values 'f') fun name error =>
    fail s!"{Raw.text name}: {error.text}" 2
  let given := (o.values 'e').flatMap (·.splitOn '\n') ++ fromFiles.flatMap Raw.lines
  let (texts, operands) ← match given, o.operands with
    | [], [] => if o.has 'f' then pure ([], []) else grepUsage
    | [], first :: rest =>
      if o.has 'f' then pure ([], o.operands) else pure (first.splitOn '\n', rest)
    | given, operands => pure (given, operands)
  let foldsCase := o.has 'i' || o.has 'y'
  let patterns ← texts.mapM fun text =>
    if kind = 'F' then pure (literalExpr text)
    else
      match Regex.read { isExtended := kind = 'E' || kind = 'P' } text with
      | .ok e => pure e
      | .error message => fail message 2
  let recursive := o.has 'r' || o.has 'R'
  let named := if operands = [] then (if recursive then [['.']] else [['-']]) else operands
  let names ← if recursive then do
      let below ← named.mapM (filesBelow FileTree.pathLimit)
      pure below.flatten
    else pure named
  let number (letter : Char) : Option Nat := (o.value? letter).bind Number.natural?
  let g : SearchOptions := {
    options := o
    search := {
      patterns, foldsCase, wholeWords := o.has 'w', wholeLines := o.has 'x', inverts := o.has 'v' }
    hasNames := o.has 'H' || ((recursive || 1 < names.length) && !o.has 'h')
    most := number 'm'
    linesBefore := ((number 'B').or (number 'C')).getD 0
    linesAfter := ((number 'A').or (number 'C')).getD 0 }
  let rec go (found : Bool) : List Raw → Tool Bool
    | [] => return found
    | name :: rest => do
      let here ← searchFile g name
      if here && o.has 'q' then exit 0
      go (found || here) rest
  if !(← go false names) then note 1

end Conformance.Tools
