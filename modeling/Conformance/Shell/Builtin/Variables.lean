import Conformance.Shell.Builtin.Printing
import Conformance.Shell.Expansion
import Conformance.Shell.Jobs

/-!
# Programs of the shell that change variables

What is exported, marked, made local, read and taken apart; the arguments of a script count among
its variables.
-/

namespace Conformance.Shell.Builtin

/-! ## Showing variables -/

/-- Variables in the order of their names, as the commands that set them again. -/
def listVariables (start : Raw) (shows : Variable → Bool) : Shell Unit := do
  let chosen := (← get).store.filter fun (_, v) => shows v
  let ordered := chosen.mergeSort fun (a, _) (b, _) => !decide (b < a)
  let line : Raw × Variable → Raw := fun (name, v) =>
    let value := v.value.elim [] fun value => '=' :: quote value
    start ++ name ++ value ++ ['\n']
  emit (ordered.flatMap line)

/-! ## Marks -/

/-- Mark the variables that some words name, and give values to those that have them. -/
def markAll (marks : Variable → Variable) (exports : Bool) : List Raw → Shell Unit
  | [] => pure ()
  | word :: rest => do
    let (name, value?) := split word
    match value?, (← get).stored? name with
    | none, some v => modify fun s => s.alter name (some (marks v))
    | _, _ =>
      assign (← nameIn name) value? exports (!exports)
    markAll marks exports rest

/-- `export` or `readonly`. -/
def mark (name : String) (exports : Bool) : Builtin := fun arguments => do
  let (given, words) ← Options.take "p" arguments
  if given ≠ [] ∨ words = [] then
    listVariables (name ++ " ").toList fun v => if exports then v.isExported else v.isReadOnly
  else
    markAll (fun v =>
      if exports then { v with isExported := true } else { v with isReadOnly := true })
      exports words
  return 0

/-- Make variables local to a function. -/
def makeAllLocal : List Raw → Shell Unit
  | [] => pure ()
  | word :: rest => do
    let (name, value?) := split word
    makeLocal name value? false
    makeAllLocal rest

/-- `local`. -/
def localVariables : Builtin := fun arguments => do
  let words ← Options.takeNone arguments
  if (← get).frames = [] then fail "not in a function".toList
  makeAllLocal words
  return 0

/-- Take variables away. -/
def unsetAll : List Raw → Shell Unit
  | [] => pure ()
  | name :: rest => do
    Shell.unset name
    unsetAll rest

/-- `unset`: variables or functions. -/
def unset : Builtin := fun arguments => do
  let (given, names) ← Options.take "vf" arguments
  if given.getLast?.any (·.1 = 'f') then
    modify fun s => { s with functions := s.functions.filter fun (name, _) => name ∉ names }
  else unsetAll names
  return 0

/-! ## Arguments -/

/-- Give the script new arguments. -/
def setArguments (arguments : List Raw) : Shell Unit :=
  modify fun s => { s with arguments, optionWord := 1, optionLetter := none }

/-- `set`: options and arguments. -/
def set : Builtin := fun arguments => do
  if arguments = [] then
    listVariables [] (·.value.isSome)
  else
    let given ← Options.putAll false arguments
    if given.words ≠ [] ∨ given.isMarked then setArguments given.words
  return 0

/-- `shift`: forget the first arguments. -/
def shift : Builtin := fun arguments => do
  let count ← match arguments with
    | [] => pure 1
    | word :: _ => number word
  let s ← get
  if s.arguments.length < count then fail "can't shift that many".toList
  setArguments (s.arguments.drop count)
  return 0

/-! ## Options of a script -/

/-- What is known of options among some words: a letter that is one, whether it has a value. -/
structure OptionLetters where
  letters : List Char
  /-- Whether the script says itself what is wrong. -/
  isQuiet : Bool

def OptionLetters.ofRaw (raw : Raw) : OptionLetters :=
  match raw with
  | ':' :: letters => { letters, isQuiet := true }
  | letters => { letters, isQuiet := false }

/-- Where the next option is read. -/
structure OptionPlace where
  /-- The number of the word after the one that is read. -/
  word : Nat
  /-- What is left of the word that is read. -/
  rest : Raw

/-- The place of the next option, if there is one. -/
def optionPlace? (words : List Raw) (s : State) : Option OptionPlace × Nat :=
  let place := s.optionWord
  let begun : Raw := match s.optionLetter with
    | some letter => if 1 < place then ((words[place - 2]?).getD []).drop letter else []
    | none => []
  if begun ≠ [] then (some ⟨place, begun⟩, place)
  else
    match words[place - 1]? with
    | some ['-', '-'] => (none, place + 1)
    | some ('-' :: c :: letters) => (some ⟨place + 1, c :: letters⟩, place)
    | _ => (none, place)

/-- Note where the next option is read. -/
def setOptionPlace (words : List Raw) (place : OptionPlace) : Shell Unit := do
  setVariable optionVariable (shownNat place.word)
  let length := ((words[place.word - 2]?).getD []).length
  modify fun s => { s with
    optionWord := place.word
    optionLetter := if place.rest = [] then none else some (length - place.rest.length) }

def optionArgument : Raw := "OPTARG".toList

/-- Read an option from its place. The result is its letter, or a sign for what is wrong, and where
    the next one is read. -/
def readOption (known : OptionLetters) (words : List Raw) (place : OptionPlace) :
    Shell (Char × OptionPlace) := do
  match place.rest with
  | [] => return ('?', place)
  | c :: rest =>
    let wrong (message : String) (sign : Char) : Shell (Char × OptionPlace) := do
      if known.isQuiet then
        setVariable optionArgument [c]
        return (sign, { place with rest })
      Routine.put 2 (.ofString message)
      Shell.unset optionArgument
      return ('?', { place with rest })
    match Options.letter? c known.letters with
    | none => wrong s!"Illegal option -{c}\n" '?'
    | some false =>
      setVariable optionArgument []
      return (c, { place with rest })
    | some true =>
      match rest, words[place.word - 1]? with
      | [], none => wrong s!"No arg for -{c} option\n" ':'
      | [], some value =>
        setVariable optionArgument value
        return (c, { word := place.word + 1, rest := [] })
      | value, _ =>
        setVariable optionArgument value
        return (c, { place with rest := [] })

/-- `getopts`: the next option of a script. -/
def getopts : Builtin := fun arguments => do
  match ← Options.takeNone arguments with
  | letters :: name :: more =>
    let s ← get
    let words := if more = [] then s.arguments else more
    if words.length + 1 < s.optionWord then
      modify fun s => { s with optionWord := 1, optionLetter := none }
    match optionPlace? words (← get) with
    | (none, next) =>
      setOptionPlace words { word := next, rest := [] }
      setVariable (← nameIn name) ['?']
      return 1
    | (some place, _) =>
      let (letter, next) ← readOption (.ofRaw letters) words place
      setOptionPlace words next
      setVariable (← nameIn name) [letter]
      return 0
  | _ => fail "Usage: getopts optstring var [arg...]".toList

/-! ## Reading -/

/-- A line of input as far as it has been read. -/
structure InputLine where
  /-- The parts that are complete, the last one first. -/
  parts : List Part := []
  /-- The characters of the next part, the last one first. -/
  current : List Glyph := []
  /-- Whether the next character has no meaning, because of a backslash before it. -/
  isHidden : Bool := false

namespace InputLine

/-- The line with its last part complete. -/
def close (line : InputLine) : InputLine :=
  { line with
    parts := { glyphs := line.current.reverse, splitting := .atSeparators } :: line.parts
    current := [] }

/-- Take a character. There is no line if it ends this one. -/
def take (line : InputLine) (verbatim : Bool) (c : Char) : Option InputLine :=
  if c = argumentEnd then some line
  else if line.isHidden then
    let closed := { line.close with isHidden := false }
    if c = '\n' then some closed
    else some { closed with
      parts := { glyphs := [.quoted c], splitting := .never } :: closed.parts }
  else if !verbatim ∧ c = '\\' then some { line with isHidden := true }
  else if c = '\n' then none
  else some { line with current := .bare c :: line.current }

end InputLine

/-- Read a line byte by byte. The result says whether it was ended. The fuel bounds its length. -/
def readInput (verbatim : Bool) : Nat → InputLine → Shell (InputLine × Bool)
  | 0, line => return (line, false)
  | fuel + 1, line => do
    match ← Routine.read 0 1 with
    | .error .interrupted =>
      discard Jobs.takeSignals
      return (line, false)
    | .error _ => return (line, false)
    | .ok bytes =>
      match Raw.ofArray bytes with
      | c :: _ =>
        match line.take verbatim c with
        | some line => readInput verbatim fuel line
        | none => return (line, true)
      | [] => return (line, false)

/-- Give values to variables; those without one get an empty text. -/
def assignAll : List Raw → List Raw → Shell Unit
  | [], _ => pure ()
  | name :: names, values => do
    setVariable (← nameIn name) (values.headD [])
    assignAll names values.tail

/-- `read`: a line of input into variables, the last of which gets all that is left. -/
def readLine : Builtin := fun arguments => do
  let (given, names) ← Options.take "p:r" arguments
  if names = [] then fail "arg count".toList
  let (line, isEnded) ← readInput (given.any (·.1 = 'r')) Routine.plenty {}
  let found := fields (Expansion.separatorsOf (← get)) (some names.length) line.close.parts.reverse
  assignAll names (found.map textOf)
  return if isEnded then 0 else 1

end Conformance.Shell.Builtin
