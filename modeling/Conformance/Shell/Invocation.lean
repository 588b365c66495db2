import Conformance.Shell.Redirect
import Conformance.Shell.Search

/-!
# Invocations

What the words of a simple command call. They are expanded from left to right, and what the first
field names says how those after it are expanded; `command` in front of a name changes what the name
stands for.
-/

namespace Conformance.Shell

/-- What the words of a simple command call, as far as they have been expanded. -/
structure Invocation where
  /-- The fields that the words stand for. -/
  fields : List Raw := []
  /-- Which of the fields is the name of what is called. -/
  start : Nat := 0
  /-- The words that are not expanded yet. -/
  words : List Word
  found : Search.Found := .nothing
  /-- Whether what is called first is a program of the shell's own, and then one whose errors end
      the shell. -/
  isSpecial : Option Bool := none
  /-- Whether assignments in front of it last only as long as it runs. -/
  isLocal : Bool := false
  skipsFunctions : Bool := false
  usesStandardPath : Bool := false

namespace Invocation

/-- The fields of what is called: its name and its arguments. -/
def call (i : Invocation) : List Raw := i.fields.drop i.start

def name (i : Invocation) : Raw := i.call.headD []

/-- Whether the shell itself becomes what is called. -/
def isExec (i : Invocation) : Bool := i.isSpecial.isSome && i.name == "exec".toList

/-- Expand words until there are more fields. -/
def more (capture : Capture) (i : Invocation) : List Word → Shell Invocation
  | [] => return { i with words := [] }
  | word :: rest => do
    match ← Expansion.wordFields capture word with
    | [] => more capture i rest
    | fields => return { i with fields := i.fields ++ fields, words := rest }

/-- Expand words until there is a field with some number, if they are enough. -/
def upTo (capture : Capture) (n : Nat) (i : Invocation) : Shell Invocation :=
  if n < i.fields.length then pure i else more capture i i.words

/-- Go on to what `command` calls, from the field with some number on. It calls nothing if it has
    options other than one for the standard path. -/
def skipCommand (capture : Capture) (n : Nat) : Nat → Invocation → Shell (Invocation × Bool)
  | 0, i => return (i, false)
  | fuel + 1, i => do
    let i ← upTo capture n i
    match i.fields[n]? with
    | none => return (i, false)
    | some ['-', '-'] =>
      let i ← upTo capture (n + 1) i
      if n + 1 < i.fields.length then return ({ i with start := n + 1 }, true)
      return (i, false)
    | some ('-' :: c :: letters) =>
      if (c :: letters).all (· = 'p') then
        skipCommand capture (n + 1) fuel { i with usesStandardPath := true }
      else return (i, false)
    | some _ => return ({ i with start := n }, true)

/-- Find out what the first fields call. The fuel bounds how often one calls another one. -/
def resolve (capture : Capture) : Nat → Invocation → Shell Invocation
  | 0, i => return i
  | fuel + 1, i => do
    let found ← Search.known i.name i.skipsFunctions
    let i := { i with found }
    match found with
    | .own =>
      let isSpecial := i.isSpecial.getD (Search.isSpecial i.name)
      let i := { i with isSpecial := some isSpecial, isLocal := i.isLocal || !isSpecial }
      if i.name ≠ "command".toList then return i
      let (next, goesOn) ←
        skipCommand capture (i.start + 1) (i.fields.length + i.words.length + 1) i
      if goesOn then resolve capture fuel { next with skipsFunctions := true }
      else return { next with usesStandardPath := false }
    | .nothing | .function _ | .program _ => return { i with isLocal := true }

/-- Expand the rest of the words. Where assignments may be arguments, they are not split. -/
def expandRest (capture : Capture) (i : Invocation) : List Word → Shell Invocation
  | [] => return { i with words := [] }
  | word :: rest => do
    let mayAssign : Bool := i.found matches .own &&
      decide (String.ofList i.name ∈ Search.assigningNames)
    let fields ← match if mayAssign then word.assignment? else none with
      | some (name, value) => do
        pure [name ++ '=' :: (← Expansion.wordText capture .afterColons value)]
      | none => Expansion.wordFields capture word
    expandRest capture { i with fields := i.fields ++ fields } rest

/-- What the words of a simple command call. -/
def ofWords (capture : Capture) (words : List Word) : Shell Invocation := do
  let i ← more capture { words } words
  if i.fields = [] then return i
  let i ← resolve capture (words.length + i.fields.length + 1) i
  expandRest capture i i.words

/-- What is called, looked for along the search path if it has to be. -/
def locate (i : Invocation) : Shell Search.Found := do
  match i.found with
  | .own => return .own
  | .nothing | .function _ | .program _ =>
    let path? := if i.usesStandardPath then some Search.standardPath else none
    Search.find i.name path? i.skipsFunctions true

/-- The path along which it is looked for. -/
def path (i : Invocation) : Shell Raw :=
  if i.usesStandardPath then pure Search.standardPath else Search.searchPath

end Invocation
end Conformance.Shell
