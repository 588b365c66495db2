import Conformance.Host.Process

/-!
# Tools

A `Tool` is a program that is called with some words, writes to its standard output through a
buffer, complains on standard error under the name that it was called by, and ends with a status.
-/

namespace Conformance

/-- How a program is called. -/
structure Call where
  /-- The name that it is called by. -/
  name : Raw
  arguments : List Raw
  /-- The variables that it can see, each with its value. -/
  environment : List Raw

/-- The call that some words make; the first one is the name. -/
def Call.ofWords (words environment : List Raw) : Call where
  name := words.headD []
  arguments := words.tail
  environment := environment

/-- The value of a variable of a call. -/
def Call.value? (call : Call) (name : String) : Option Raw :=
  call.environment.findSome? fun entry =>
    let wanted := name.toList ++ ['=']
    if wanted.isPrefixOf entry then some (entry.drop wanted.length) else none

/-- What a tool has not written yet, and the status that it will end with. -/
structure Output where
  pending : ByteArray := .empty
  status : Nat := 0

/-- A part of a tool. It can break off with a status. -/
abbrev Tool := ReaderT Call (ExceptT Nat (StateT Output Routine))

namespace Tool

/-- How much output a tool keeps back. -/
def bufferSize : Nat := 4096

/-- Write to standard error at once. -/
def warn (text : String) : Tool Unit := Routine.put 2 (.ofString text)

/-- The tool's own name. -/
def ownName : Tool String := return Raw.text (← read).name

/-- Complain under the tool's own name. -/
def complain (message : String) : Tool Unit := do
  let name ← ownName
  warn s!"{name}: {message}\n"

/-- End the tool. -/
def exit {α : Type} (status : Nat) : Tool α := throw status

/-- Let the tool end with a status, unless it would end with a greater one. -/
def note (status : Nat) : Tool Unit :=
  modify fun o => { o with status := max o.status status }

/-- Complain and go on. -/
def grumble (message : String) (status : Nat) : Tool Unit := do
  complain message
  note status

/-- Complain and end. -/
def fail {α : Type} (message : String) (status : Nat) : Tool α := do
  complain message
  exit status

/-- What is said after a complaint about how a tool is called. -/
def hint : Tool Unit := do
  let name ← ownName
  warn s!"Try '{name} --help' for more information.\n"

/-- Complain about how the tool is called. -/
def misuse {α : Type} (message : String) (status : Nat) : Tool α := do
  complain message
  hint
  exit status

/-- Write bytes to standard output, or end if that cannot be done. -/
def writeOut (bytes : ByteArray) : Tool Unit := do
  if bytes.isEmpty then return
  match ← Routine.writeBytes 1 bytes with
  | .ok () => pure ()
  | .error error =>
    modify fun o => { o with pending := .empty }
    fail s!"write error: {error.text}" 1

/-- Write what is kept back. -/
def flush : Tool Unit := do
  let bytes := (← get).pending
  modify fun o => { o with pending := .empty }
  writeOut bytes

def emitBytes (bytes : ByteArray) : Tool Unit := do
  modify fun o => { o with pending := o.pending ++ bytes }
  if bufferSize ≤ (← get).pending.size then flush

/-- Write a text, sooner or later. -/
def emit (text : Raw) : Tool Unit := emitBytes text.toArray

def emitText (text : String) : Tool Unit := emitBytes text.toUTF8

/-- Do something for each of some values. -/
def each {α : Type} (values : List α) (act : α → Tool Unit) : Tool Unit :=
  match values with
  | [] => pure ()
  | value :: rest => do
    act value
    each rest act

/-- Do something again and again, until it gives nothing to go on with. -/
def iterate {σ : Type} (act : σ → Tool (Option σ)) : Nat → σ → Tool Unit
  | 0, _ => pure ()
  | fuel + 1, state => do
    match ← act state with
    | some next => iterate act fuel next
    | none => pure ()

/-- The process that a tool is when it is called. -/
def toProcess (tool : Tool Unit) (call : Call) : Process :=
  let whole : StateT Output Routine (Except Nat Unit) := do
    let first ← (tool call).run
    let last ← (flush call).run
    return match first, last with
      | .error status, _ | _, .error status => .error status
      | .ok _, .ok _ => .ok ()
  (whole.run {}) fun (result, o) =>
    match result with
    | .ok _ => .exit o.status
    | .error status => .exit status

/-! ## Names in messages -/

/-- A single quotation mark. -/
def singleQuote : Char := Char.ofNat 39

/-- Whether a character is shown by its code, because it is no sign that can be printed. -/
def isUnprintable (c : Char) : Bool := c.toNat < 32 || 126 < c.toNat

/-- The signs that have a meaning for a shell wherever they stand. -/
def shellSigns : List Char :=
  singleQuote :: Char.ofNat 0x60 :: " !\"$&()*;<=>?[\\^|".toList

/-- The signs that have one only at the start of a word. -/
def startSigns : List Char := ['#', '~']

/-- The signs that have one only when they are the whole word. -/
def loneSigns : List Char := [Char.ofNat 0x7b, Char.ofNat 0x7d]

/-- Whether a name would not stand for itself in the script of a shell. -/
def needsQuotes (name : Raw) : Bool :=
  name.isEmpty || name.any (fun c => isUnprintable c || c ∈ shellSigns) ||
    name.head?.any (· ∈ startSigns) || loneSigns.any fun c => name == [c]

/-- A character by its code, as it is written after a backslash. -/
def code (c : Char) : Raw :=
  match c.toNat with
  | 7 => ['a']
  | 8 => ['b']
  | 9 => ['t']
  | 10 => ['n']
  | 11 => ['v']
  | 12 => ['f']
  | 13 => ['r']
  | n => [n / 64, n / 8 % 8, n % 8].map fun digit => Char.ofNat ('0'.toNat + digit)

/-- What stands between single quotes for a text. Quotes are closed and opened again around what
    cannot stand there; the first argument says whether codes are being written. -/
def betweenQuotes : Bool → Raw → Raw
  | _, [] => []
  | coded, c :: rest =>
    if c = singleQuote then
      [singleQuote, '\\', singleQuote, singleQuote] ++ betweenQuotes false rest
    else if isUnprintable c then
      (if coded then [] else [singleQuote, '$', singleQuote]) ++ '\\' :: code c ++
        betweenQuotes true rest
    else
      (if coded then [singleQuote, singleQuote] else []) ++ c :: betweenQuotes false rest

/-- Whether a name with a single quote in it can stand between double quotes. -/
def fitsDoubleQuotes (name : Raw) : Bool :=
  let isPlain (c : Char) : Bool := c = singleQuote || c = ' ' ||
    !(isUnprintable c || c ∈ shellSigns || c ∈ startSigns || c ∈ loneSigns)
  (match name with
    | c :: rest => (isPlain c || c ∈ startSigns) && rest.all isPlain
    | [] => true)

/-- A name between quotes. -/
def quoted (name : Raw) : String :=
  if singleQuote ∈ name ∧ fitsDoubleQuotes name then Raw.text (['"'] ++ name ++ ['"'])
  else Raw.text (singleQuote :: betweenQuotes false name ++ [singleQuote])

/-- A word as it is cited in a message: between quotes, with codes for what cannot be printed. -/
def cited (word : Raw) : String :=
  let shownChar (c : Char) : Raw :=
    if isUnprintable c then '\\' :: code c
    else if c = singleQuote ∨ c = '\\' then ['\\', c] else [c]
  Raw.text (singleQuote :: word.flatMap shownChar ++ [singleQuote])

/-- A name as it is shown before a colon: in quotes only if it needs them. -/
def shown (name : Raw) : String :=
  if needsQuotes name || ':' ∈ name then quoted name else name.text

/-! ## Options -/

/-- Options in the order in which they are given, each by its letter with its value, and the other
    words. -/
structure Options where
  given : List (Char × Raw) := []
  operands : List Raw := []

namespace Options

def has (o : Options) (letter : Char) : Bool := o.given.any (·.1 == letter)

/-- The value of an option, as it was given last. -/
def value? (o : Options) (letter : Char) : Option Raw := o.given.reverse.lookup letter

/-- The values of an option, as often as it was given. -/
def values (o : Options) (letter : Char) : List Raw :=
  o.given.filterMap fun (other, value) => if other = letter then some value else none

end Options

/-- What a tool understands as options: letters, each with a colon after it if it has a value, and
    long names for letters. -/
structure Grammar where
  letters : String
  names : List (String × Char) := []
  /-- The status after a wrong option. -/
  misuseStatus : Nat := 1
  /-- Whether options end at the first other word. -/
  endsEarly : Bool := false

/-- Whether a letter is an option, and whether it has a value. -/
def Grammar.letter? (grammar : Grammar) (letter : Char) : Option Bool :=
  let rec find : List Char → Option Bool
    | [] => none
    | c :: rest =>
      if c = letter ∧ c ≠ ':' then some (rest.head? == some ':') else find rest
  find grammar.letters.toList

/-- Read a group of letters after a dash, given the words after it. -/
def readLetters (grammar : Grammar) :
    List Char → List Raw → Tool (List (Char × Raw) × List Raw)
  | [], rest => return ([], rest)
  | c :: more, rest => do
    match grammar.letter? c with
    | none => misuse s!"invalid option -- '{Raw.text [c]}'" grammar.misuseStatus
    | some false =>
      let (given, rest) ← readLetters grammar more rest
      return ((c, []) :: given, rest)
    | some true =>
      match more, rest with
      | [], [] => misuse s!"option requires an argument -- '{c}'" grammar.misuseStatus
      | [], value :: rest => return ([(c, value)], rest)
      | value, rest => return ([(c, value)], rest)

/-- Read a long option, given the words after it. -/
def readName (grammar : Grammar) (word : Raw) (rest : List Raw) :
    Tool ((Char × Raw) × List Raw) := do
  let name := word.takeWhile (· ≠ '=')
  let value? : Option Raw := match word.drop name.length with
    | _ :: value => some value
    | [] => none
  let exact := grammar.names.filter fun (other, _) => other.toList = name
  let near := grammar.names.filter fun (other, _) => name.isPrefixOf other.toList
  match if exact = [] then near else exact with
  | [] => misuse s!"unrecognized option '--{Raw.text name}'" grammar.misuseStatus
  | (full, letter) :: _ =>
    match (grammar.letter? letter).getD false, value?, rest with
    | false, none, rest => return ((letter, []), rest)
    | false, some _, _ =>
      misuse s!"option '--{full}' doesn't allow an argument" grammar.misuseStatus
    | true, some value, rest => return ((letter, value), rest)
    | true, none, value :: rest => return ((letter, value), rest)
    | true, none, [] => misuse s!"option '--{full}' requires an argument" grammar.misuseStatus

/-- Read the options among some words. The fuel bounds their number. -/
def readOptions (grammar : Grammar) : Nat → List Raw → Tool Options
  | 0, words => return { operands := words }
  | _, [] => return {}
  | fuel + 1, word :: rest => do
    match word with
    | ['-', '-'] => return { operands := rest }
    | '-' :: '-' :: name =>
      let (found, rest) ← readName grammar name rest
      let more ← readOptions grammar fuel rest
      return { more with given := found :: more.given }
    | '-' :: c :: letters =>
      let (found, rest) ← readLetters grammar (c :: letters) rest
      let more ← readOptions grammar fuel rest
      return { more with given := found ++ more.given }
    | _ =>
      if grammar.endsEarly then return { operands := word :: rest }
      let more ← readOptions grammar fuel rest
      return { more with operands := word :: more.operands }

/-- The options that the tool is called with. -/
def options (grammar : Grammar) : Tool Options := do
  let words := (← read).arguments
  readOptions grammar (words.length + 1) words

/-! ## Input -/

/-- How much a tool reads at a time. -/
def blockSize : Nat := 65536

/-- A path that a word names. -/
def path (word : Raw) : Path := ⟨word.text⟩

/-- Open a file to read it; a dash stands for standard input. -/
def openInput (name : Raw) : Tool (Except SystemError Nat) := do
  if name = ['-'] then return .ok 0
  Routine.openFile (path name) { reads := true }

/-- Close a file unless it is standard input. -/
def closeInput (descriptor : Nat) : Tool Unit :=
  if descriptor = 0 then pure () else Routine.close descriptor

/-- Everything that a descriptor yields. -/
def readWhole (descriptor : Nat) : Tool (Except SystemError ByteArray) :=
  Routine.readAll descriptor

/-- The bytes of a file; a dash stands for standard input. -/
def readFile (name : Raw) : Tool (Except SystemError ByteArray) := do
  match ← openInput name with
  | .error error => return .error error
  | .ok descriptor =>
    let result ← readWhole descriptor
    closeInput descriptor
    return result

/-- Read lines from a descriptor one after the other and go on with a state, as long as it is said
    to go on and there is a line. Each line comes without its newline, and whether it had one. -/
def eachLine {σ : Type} (descriptor : Nat) (act : σ → Raw → Bool → Tool (σ × Bool)) (state : σ) :
    Tool (Except SystemError σ) :=
  blocks Routine.plenty [] state
where
  /-- Handle the complete lines among some, and give back the rest of the last one. -/
  handle : List Raw → σ → Tool (Raw × σ × Bool)
    | [], state => return ([], state, true)
    | [rest], state => return (rest, state, true)
    | line :: more, state => do
      let (state, goesOn) ← act state line true
      if goesOn then handle more state else return ([], state, false)
  blocks : Nat → Raw → σ → Tool (Except SystemError σ)
    | 0, _, state => return .ok state
    | fuel + 1, before, state => do
      match ← Routine.read descriptor blockSize with
      | .error error => return .error error
      | .ok bytes =>
        if bytes.isEmpty then
          if before = [] then return .ok state
          return .ok (← act state before false).1
        let (rest, state, goesOn) ← handle ((before ++ .ofArray bytes).splitOn '\n') state
        if goesOn then blocks fuel rest state else return .ok state

end Tool
end Conformance
