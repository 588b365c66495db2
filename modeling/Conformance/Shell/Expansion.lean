import Conformance.Shell.Arithmetic
import Conformance.Shell.Fields

/-!
# Expansion

What the words of a script stand for: parameters, the output of commands, and results of arithmetic
are put in their places, fields are split, and patterns of paths are replaced by what matches them.
Whoever expands a word says how the output of a command is got.
-/

namespace Conformance.Shell

/-- How the output of a command is got. -/
abbrev Capture := Command → Shell Raw

namespace Expansion

/-- Where a tilde stands for a home directory. -/
inductive Tilde where
  | nowhere
  | atStart
  /-- At the start and after each colon. -/
  | afterColons
  deriving DecidableEq

/-- How the pieces of a word are taken. -/
structure Setting where
  /-- Whether fields are wanted, so that arguments are kept apart. -/
  full : Bool
  /-- Whether the word stands for a parameter, out of quotes. -/
  inWord : Bool := false
  /-- Whether a quotation is open. -/
  isOpen : Bool := false
  tilde : Tilde := .atStart
  /-- Whether a tilde that comes next would stand at the start. -/
  begins : Bool := true

/-! ## Home directories -/

/-- The home directory in the lines of a table of users. -/
def homeIn (name : Raw) (table : Raw) : Option Raw :=
  (table.lines.map (·.splitOn ':')).findSome? fun
    | user :: _ :: _ :: _ :: _ :: home :: _ => if user = name then some home else none
    | _ => none

/-- The home directory of a user, or of the one that runs the shell. -/
def home? (name : Raw) : Shell (Option Raw) := do
  if name = [] then return (← get).value? "HOME".toList
  match ← Routine.openFile ⟨"/etc/passwd"⟩ { reads := true } with
  | .error _ => return none
  | .ok descriptor =>
    let table ← Routine.readAll descriptor
    Routine.close descriptor
    return homeIn name (table.toOption.elim [] Raw.ofArray)

/-- The text of a literal piece with a tilde at its start replaced, and the rest of the piece. There
    is none if the name after the tilde goes on with other pieces. -/
def tilde? (setting : Setting) (text : Raw) (isLast : Bool) : Shell (Option (Raw × Raw)) := do
  match text with
  | '~' :: more =>
    let endsName (c : Char) : Bool := c == '/' || (setting.tilde = .afterColons && c == ':')
    let name := more.takeWhile fun c => !endsName c
    let rest := more.drop name.length
    if rest = [] ∧ !isLast then return none
    return (← home? name).map fun home => (home, rest)
  | _ => return none

/-! ## Parameters -/

/-- What the separator between joined arguments is. -/
def joint (s : State) : Raw :=
  match s.stored? "IFS".toList with
  | some { value := some separators, .. } => separators.take 1
  | _ => [' ']

/-- The separators of fields. -/
def separatorsOf (s : State) : Raw := (s.value? "IFS".toList).getD defaultSeparators

/-- The letters of the options that are set, in the order in which they are shown. -/
def optionLetters : List Char := "pubaCEVvxsnmiIfe".toList

/-- The value of a parameter. Arguments are kept apart by a separator of their own if it is wanted
    so. -/
def parameter? (s : State) (name : Raw) (full quoted : Bool) : Option Raw :=
  match name with
  | ['?'] => some (shownNat s.status)
  | ['$'] => some (shownNat s.root)
  | ['#'] => some (shownNat s.arguments.length)
  | ['!'] => s.background.map shownNat
  | ['-'] => some (optionLetters.filter s.has)
  | ['@'] =>
    if full then some ([argumentEnd].intercalate s.arguments)
    else some ((joint s).intercalate s.arguments)
  | ['*'] =>
    if full ∧ !quoted then some ([argumentEnd].intercalate s.arguments)
    else some ((joint s).intercalate s.arguments)
  | _ =>
    match Number.natural? name with
    | some 0 => some s.name
    | some n => s.arguments[n - 1]?
    | none => s.value? name

/-- A value as a part of a word. -/
def partOf (text : Raw) (full quoted : Bool) (name : Raw) (hasArguments : Bool) : Part :=
  { glyphs := Glyph.ofRaw quoted text
    splitting :=
      if !quoted then .atSeparators
      else if full ∧ name = ['@'] ∧ hasArguments then .betweenArguments
      else .never }

/-- Complain about a parameter without a value. -/
def missing {α : Type} (name : Raw) (message : Option Raw) (emptyToo : Bool) : Shell α :=
  let standard := "parameter not set" ++ (if emptyToo then " or null" else "")
  fail (name ++ ": ".toList ++ message.getD standard.toList)

/-- The value of a parameter that must have one if the options say so. -/
def demanded (name : Raw) (full quoted : Bool) : Shell (Option Raw) := do
  let s ← get
  let value? := parameter? s name full quoted
  if value?.isNone ∧ s.has 'u' then missing name none false
  return value?

/-! ## Words -/

/-- The output of a command without what cannot be in a word. -/
def cleaned (output : Raw) : Raw := Raw.dropFinalNewlines (output.filter (· ≠ argumentEnd))

mutual

/-- The parts that pieces of a word stand for. -/
def parts (capture : Capture) : Nat → Setting → Word → Shell (List Part)
  | 0, _, _ => return []
  | _, _, [] => return []
  | fuel + 1, setting, .literal text false :: rest => do
    match ← (if setting.tilde = .nowhere ∨ !setting.begins then pure none
      else tilde? setting text rest.isEmpty) with
    | some (home, after) =>
      let more ← literal capture fuel setting after rest
      return { glyphs := Glyph.ofRaw true home, splitting := .never } :: more
    | none => literal capture fuel setting text rest
  | fuel + 1, setting, .mark :: .parameter ['@'] true :: .mark :: rest => do
    if setting.isOpen then
      let more ← parts capture fuel { setting with isOpen := false, begins := false }
        (.parameter ['@'] true :: .mark :: rest)
      return { glyphs := [.mark], splitting := .never } :: more
    let first ← piece capture fuel setting (.parameter ['@'] true)
    return first ++ (← parts capture fuel { setting with begins := false } rest)
  | fuel + 1, setting, .mark :: rest => do
    let more ← parts capture fuel
      { setting with isOpen := !setting.isOpen, begins := false } rest
    return { glyphs := [.mark], splitting := .never } :: more
  | fuel + 1, setting, first :: rest => do
    let found ← piece capture fuel setting first
    return found ++ (← parts capture fuel { setting with begins := false } rest)

/-- The parts of a bare literal text, whose start has been looked at, and of the pieces after it. -/
def literal (capture : Capture) : Nat → Setting → Raw → Word → Shell (List Part)
  | 0, _, _, _ => return []
  | fuel + 1, setting, text, rest => do
    let upToColon := text.takeWhile (· ≠ ':')
    let stops : Bool := setting.tilde = .afterColons && upToColon.length < text.length
    let chunk := if stops then text.take (upToColon.length + 1) else text
    let first : Part := {
      glyphs := Glyph.ofRaw false chunk
      splitting := if setting.inWord then .atSeparators else .never }
    let more ←
      if stops then
        parts capture fuel { setting with begins := true }
          (.literal (text.drop chunk.length) false :: rest)
      else parts capture fuel { setting with begins := false } rest
    return if chunk = [] then more else first :: more

/-- The parts that one piece stands for. -/
def piece (capture : Capture) : Nat → Setting → Piece → Shell (List Part)
  | 0, _, _ => return []
  | fuel + 1, setting, p => do
    let one (name : Raw) (quoted : Bool) (text : Raw) : Shell (List Part) := do
      let hasArguments := (← get).arguments ≠ []
      return [partOf text setting.full quoted name hasArguments]
    let number (text : Raw) (quoted : Bool) : List Part :=
      [{ glyphs := Glyph.ofRaw quoted text
         splitting := if quoted then .never else .atSeparators }]
    match p with
    | .literal text quoted =>
      return [{ glyphs := Glyph.ofRaw quoted text, splitting := .never }]
    | .mark => return [{ glyphs := [.mark], splitting := .never }]
    | .parameter name quoted =>
      match ← demanded name setting.full quoted with
      | some text => one name quoted text
      | none => if quoted then return [] else one name quoted []
    | .length name quoted =>
      let text := (← demanded name setting.full quoted).getD []
      return number (shownNat text.length) quoted
    | .output command quoted =>
      return number (cleaned (← capture command)) quoted
    | .arithmetic expression quoted =>
      let inner ← parts capture fuel { full := false, tilde := .nowhere } expression
      let value ← Arithmetic.evaluate (textOf (glyphsOf inner))
      return number (Number.shownInt value) quoted
    | .substitute name how emptyToo word quoted =>
      let value? := parameter? (← get) name setting.full quoted
      let value? := if emptyToo && value? == some [] then none else value?
      let stand : Shell (List Part) :=
        parts capture fuel
          { setting with
            inWord := !quoted, isOpen := false, begins := true
            tilde := if setting.tilde = .nowhere then .atStart else setting.tilde }
          word
      let text : Shell Raw := do
        return textOf (glyphsOf (← parts capture fuel { full := false } word))
      match how, value? with
      | .unknown, _ => fail "Bad substitution".toList
      | .alternative, some _ => stand
      | .alternative, none => return []
      | .useDefault, none => stand
      | .assignDefault, none =>
        let new ← text
        setVariable (← nameIn name) new
        one name quoted ((← get).value? name |>.getD [])
      | .demand, none =>
        if word = [] then missing name none emptyToo else missing name (some (← text)) emptyToo
      | .cut atEnd longest, some value =>
        let pattern ← parts capture fuel { full := false } word
        let glyphs := Glyph.ofRaw quoted value
        let count := (Pattern.ofGlyphs (glyphsOf pattern)).matched atEnd longest argumentEnd value
        let part := partOf value setting.full quoted name ((← get).arguments ≠ [])
        return [{ part with
          glyphs := if atEnd then glyphs.take (glyphs.length - count) else glyphs.drop count }]
      | .cut _ _, none =>
        discard (demanded name setting.full quoted)
        return []
      | .useDefault, some value | .assignDefault, some value | .demand, some value =>
        one name quoted value

end

/-! ## Paths -/

/-- Whether glyphs may match more than one name. -/
def isOpen (glyphs : List Glyph) : Bool := (Pattern.ofGlyphs glyphs).isOpen

/-- The glyphs between slashes. -/
def segments (glyphs : List Glyph) : List (List Glyph) :=
  let isSlash (glyph : Glyph) : Bool := glyph.char? = some '/'
  let step (glyph : Glyph) (found : List (List Glyph)) : List (List Glyph) :=
    if isSlash glyph then [] :: found
    else
      match found with
      | first :: rest => (glyph :: first) :: rest
      | [] => [[glyph]]
  glyphs.foldr step [[]]

/-- The text that glyphs match if they match only one. -/
def fixedText (glyphs : List Glyph) : Raw := (Pattern.ofGlyphs glyphs).fixed

/-- The names that a directory lists, with its own and that of its parent. -/
def namesIn (directory : Raw) : Shell (List Raw) := do
  let path : Raw := if directory = [] then ['.'] else directory
  match ← Routine.list ⟨path.text⟩ with
  | .ok entries => return [['.'], ['.', '.']] ++ entries.map fun (name, _) => Raw.ofString name
  | .error _ => return []

/-- The paths that begin with a text and go on with names that patterns match. -/
def matchingPaths (start : Raw) : List (List Glyph) → Shell (List Raw)
  | [] => do
    match ← Routine.look ⟨Raw.text start⟩ false with
    | .ok _ => return [start]
    | .error _ => return []
  | segment :: rest => do
    let isLast := rest.isEmpty
    let ending : Raw := if isLast then [] else ['/']
    if isOpen segment then
      let pattern := Pattern.ofGlyphs segment
      let showsDotted : Bool := pattern.head? = some (.char '.')
      let names := (← namesIn start).filter fun name =>
        (showsDotted || name.head? != some '.') && pattern.fits name
      if isLast then return names.map (start ++ ·)
      let found ← names.mapM fun name => matchingPaths (start ++ name ++ ending) rest
      return found.flatten
    else matchingPaths (start ++ fixedText segment ++ ending) rest

/-- The paths that a field matches, or its text if there are none. -/
def pathsOf (field : List Glyph) : Shell (List Raw) := do
  let text := textOf field
  if (← get).has 'f' ∨ !isOpen field then return [text]
  match ← matchingPaths [] (segments (field.filter (· ≠ .mark))) with
  | [] => return [text]
  | found => return sorted found

/-! ## What words stand for -/

/-- How deep words nest, and how many pieces they have. -/
def pieceLimit : Nat := 0x100000000

/-- The fields that a word stands for. -/
def wordFields (capture : Capture) (word : Word) : Shell (List Raw) := do
  match word.plain? with
  | some text =>
    -- Nothing in such a word has to be split, but it may be a pattern or begin with a tilde.
    if text.all fun c => isNameChar c || c ∈ ['-', '/', '.', ',', ':', '=', '+'] then return [text]
  | none => pure ()
  let found ← parts capture pieceLimit { full := true } word
  let split := fields (separatorsOf (← get)) none found
  return (← split.mapM pathsOf).flatten

/-- The fields that some words stand for. -/
def allFields (capture : Capture) : List Word → Shell (List Raw)
  | [] => return []
  | word :: rest => do
    let first ← wordFields capture word
    return first ++ (← allFields capture rest)

/-- The text that a word stands for, unsplit. -/
def wordText (capture : Capture) (tilde : Tilde) (word : Word) : Shell Raw := do
  return textOf (glyphsOf (← parts capture pieceLimit { full := false, tilde } word))

/-- The pattern that a word stands for. -/
def wordPattern (capture : Capture) (word : Word) : Shell Pattern := do
  return Pattern.ofGlyphs (glyphsOf (← parts capture pieceLimit { full := false } word))

end Expansion
end Conformance.Shell
