import Conformance.Text.Number
import Conformance.Tool

/-!
# Tools on streams

Tools that pass on what they read, or a part of it, without looking at more than they need.
-/

namespace Conformance.Tools

open Tool

/-- A count with a letter after it that multiplies it. -/
def count? (word : Raw) : Option Nat :=
  let digits := word.takeWhile Char.isDigit
  let unit? : Option Nat := match String.ofList (word.drop digits.length) with
    | "" => some 1
    | "b" => some 512
    | "kB" => some 1000
    | "k" | "K" | "KiB" => some 1024
    | "MB" => some 1000000
    | "m" | "M" | "MiB" => some (Nat.pow 1024 2)
    | "GB" => some 1000000000
    | "G" | "GiB" => some (Nat.pow 1024 3)
    | "T" | "TiB" => some (Nat.pow 1024 4)
    | _ => none
  if digits = [] then none else unit?.map (Number.value 10 digits * ·)

/-- How many bytes of a text there are up to its n-th newline, that one included, and how many
    newlines are wanted after the end of the text. -/
def bytesOfLines (bytes : ByteArray) (n : Nat) : Nat × Nat :=
  go (bytes.size + 1) 0 n
where
  go : Nat → Nat → Nat → Nat × Nat
    | 0, i, n => (i, n)
    | fuel + 1, i, n =>
      if n = 0 then (i, 0)
      else if h : i < bytes.size then
        go fuel (i + 1) (if bytes[i] = 10 then n - 1 else n)
      else (i, n)

/-! ## Copying -/

/-- How `cat` changes lines. -/
structure LineStyle where
  numbersAll : Bool := false
  numbersFilled : Bool := false
  squeezes : Bool := false
  showsEnds : Bool := false
  showsTabs : Bool := false
  showsOthers : Bool := false
  deriving DecidableEq

/-- Where `cat` stands between lines. -/
structure LineCount where
  number : Nat := 0
  /-- How many empty lines have come last. -/
  blanks : Nat := 0
  /-- Whether the last line had no end. -/
  isOpen : Bool := false

/-- A character as it is shown. -/
def LineStyle.character (style : LineStyle) (c : Char) : Raw :=
  let n := c.toNat
  let low (n : Nat) : Raw :=
    if n < 32 then ['^', Char.ofNat (n + 64)] else if n = 127 then ['^', '?'] else [Char.ofNat n]
  if c = '\t' then if style.showsTabs then ['^', 'I'] else [c]
  else if !style.showsOthers then [c]
  else if n < 128 then low n
  else ['M', '-'] ++ low (n - 128)

/-- Print a line in some style. -/
def LineStyle.print (style : LineStyle) (state : LineCount) (line : Raw) (ended : Bool) :
    Tool (LineCount × Bool) := do
  let isBlank : Bool := line = [] && ended && !state.isOpen
  let blanks := if isBlank then state.blanks + 1 else 0
  if style.squeezes ∧ isBlank ∧ 1 < blanks then return ({ state with blanks }, true)
  let numbers : Bool := !state.isOpen &&
    (if style.numbersFilled then !isBlank else style.numbersAll)
  let number := if numbers then state.number + 1 else state.number
  let digits := Number.shown number
  if numbers then emit (List.replicate (6 - digits.length) ' ' ++ digits ++ ['\t'])
  emit (line.flatMap style.character ++
    (if ended && style.showsEnds then ['$'] else []) ++ (if ended then ['\n'] else []))
  return ({ number, blanks, isOpen := !ended }, true)

/-- Pass on everything that a descriptor yields. -/
def passOn (descriptor : Nat) : Nat → Tool (Except SystemError Unit)
  | 0 => return .ok ()
  | fuel + 1 => do
    match ← Routine.read descriptor blockSize with
    | .error error => return .error error
    | .ok bytes =>
      if bytes.isEmpty then return .ok ()
      writeOut bytes
      passOn descriptor fuel

/-- Whether a descriptor leads to the file that standard output goes to, which holds something. -/
def isOwnOutput (descriptor : Nat) : Tool Bool := do
  match ← Routine.ask (.lookAt descriptor), ← Routine.ask (.lookAt 1) with
  | .info source, .info target =>
    match source.tree, target.tree with
    | .file a, .file b => return a = b && 0 < source.size
    | _, _ => return false
  | _, _ => return false

/-- Copy one input of `cat`. -/
def catOne (style : LineStyle) (state : LineCount) (name : Raw) : Tool LineCount := do
  match ← openInput name with
  | .error error =>
    grumble s!"{shown name}: {error.text}" 1
    return state
  | .ok descriptor =>
    if ← isOwnOutput descriptor then
      grumble s!"{shown name}: input file is output file" 1
      closeInput descriptor
      return state
    let result : Except SystemError LineCount ←
      if style = {} then do
        pure ((← passOn descriptor Routine.plenty).map fun _ => state)
      else eachLine descriptor style.print state
    closeInput descriptor
    match result with
    | .ok state => return state
    | .error error =>
      grumble s!"{shown name}: {error.text}" 1
      if descriptor = 0 ∧ error = .badDescriptor then
        flush
        complain s!"closing standard input: {error.text}"
      return state

/-- `cat`. -/
def cat : Tool Unit := do
  let o ← options {
    letters := "benstuvAET"
    names := [
      ("number-nonblank", 'b'), ("number", 'n'), ("squeeze-blank", 's'),
      ("show-nonprinting", 'v'), ("show-ends", 'E'), ("show-tabs", 'T'), ("show-all", 'A')] }
  let style : LineStyle := {
    numbersAll := o.has 'n', numbersFilled := o.has 'b', squeezes := o.has 's'
    showsEnds := o.has 'E' || o.has 'e' || o.has 'A'
    showsTabs := o.has 'T' || o.has 't' || o.has 'A'
    showsOthers := o.has 'v' || o.has 'e' || o.has 't' || o.has 'A' }
  let rec go (state : LineCount) : List Raw → Tool Unit
    | [] => pure ()
    | name :: rest => do go (← catOne style state name) rest
  go {} (if o.operands = [] then [['-']] else o.operands)

/-- Write to each of some descriptors. -/
def writeAll (bytes : ByteArray) : List (Raw × Nat) → Tool (List (Raw × Nat))
  | [] => return []
  | (name, descriptor) :: rest => do
    match ← Routine.writeBytes descriptor bytes with
    | .ok () => return (name, descriptor) :: (← writeAll bytes rest)
    | .error error =>
      let subject := if descriptor = 1 then "standard output" else shown name
      grumble s!"{subject}: {error.text}" 1
      writeAll bytes rest

/-- `tee`. -/
def tee : Tool Unit := do
  let o ← options { letters := "aip", names := [("append", 'a'), ("ignore-interrupts", 'i')] }
  let how : OpenMode := {
    writes := true, creates := true, empties := !o.has 'a', appends := o.has 'a' }
  let rec openAll : List Raw → Tool (List (Raw × Nat))
    | [] => return []
    | name :: rest => do
      match ← Routine.openFile (path name) how with
      | .ok descriptor => return (name, descriptor) :: (← openAll rest)
      | .error error =>
        grumble s!"{shown name}: {error.text}" 1
        openAll rest
  let files ← openAll o.operands
  iterate (fun targets => do
    match ← Routine.read 0 blockSize with
    | .error error =>
      grumble s!"read error: {error.text}" 1
      return none
    | .ok bytes =>
      if bytes.isEmpty then return none
      let left ← writeAll bytes targets
      return if left = [] then none else some left) Routine.plenty (([], 1) :: files)

/-! ## Beginnings and ends -/

/-- How much of a file is wanted: so many lines or bytes from the start, or all but so many. -/
structure Portion where
  ofBytes : Bool
  /-- Whether the count is told from the other end. -/
  isInverse : Bool
  count : Nat

/-- The portion that the value of an option names. A sign in front of it tells the other end. -/
def portion (ofBytes : Bool) (inverse : Char) (word : Raw) : Tool Portion := do
  let (isInverse, digits) := match word with
    | c :: rest => if c = inverse then (true, rest) else if c = '-' ∨ c = '+' then (false, rest)
        else (false, word)
    | [] => (false, [])
  match count? digits with
  | some count => return { ofBytes, isInverse, count }
  | none =>
    let unit := if ofBytes then "bytes" else "lines"
    fail s!"invalid number of {unit}: {cited digits}" 1

/-- Pass on so many bytes. -/
def passBytes (descriptor : Nat) : Nat → Nat → Tool (Except SystemError Unit)
  | 0, _ => return .ok ()
  | fuel + 1, n => do
    if n = 0 then return .ok ()
    match ← Routine.read descriptor (min n 8192) with
    | .error error => return .error error
    | .ok bytes =>
      if bytes.isEmpty then return .ok ()
      writeOut bytes
      passBytes descriptor fuel (n - bytes.size)

/-- Pass on so many lines. What is read beyond them is given back if that can be done. -/
def passLines (descriptor : Nat) : Nat → Nat → Tool (Except SystemError Unit)
  | 0, _ => return .ok ()
  | fuel + 1, n => do
    if n = 0 then return .ok ()
    match ← Routine.read descriptor 8192 with
    | .error error => return .error error
    | .ok bytes =>
      if bytes.isEmpty then return .ok ()
      let (taken, left) := bytesOfLines bytes n
      writeOut (bytes.extract 0 taken)
      if left = 0 then
        discard (Routine.ask (.seek descriptor .current (taken - bytes.size : Int)))
        return .ok ()
      passLines descriptor fuel left

/-- How many lines a text has, a last one without a newline included. -/
def lineCount (bytes : ByteArray) : Nat :=
  let newlines := bytes.foldl (fun n b => if b = 10 then n + 1 else n) 0
  if bytes.size = 0 ∨ bytes.get! (bytes.size - 1) = 10 then newlines else newlines + 1

/-- Where the first so many lines of a text end. -/
def endOfLines (bytes : ByteArray) (n : Nat) : Nat := (bytesOfLines bytes n).1

/-- The name of a file in the line above its text. -/
def headerName (name : Raw) : String := if name = ['-'] then "standard input" else name.text

/-- Print a part of each of some files, with a line above it if there are several. -/
def eachPart (o : Options) (part : Nat → Tool (Except SystemError Unit)) : Tool Unit := do
  let names := if o.operands = [] then [['-']] else o.operands
  let hasHeaders : Bool := o.has 'v' || (1 < names.length && !o.has 'q')
  let rec go (isFirst : Bool) : List Raw → Tool Unit
    | [] => pure ()
    | name :: rest => do
      match ← openInput name with
      | .error error =>
        grumble s!"cannot open {quoted name} for reading: {error.text}" 1
        go isFirst rest
      | .ok descriptor =>
        if hasHeaders then
          emitText ((if isFirst then "" else "\n") ++ s!"==> {headerName name} <==\n")
          flush
        match ← part descriptor with
        | .ok () => pure ()
        | .error error =>
          grumble s!"error reading {quoted (headerName name).toList}: {error.text}" 1
        closeInput descriptor
        go false rest
  go true names

/-- Words with an old-style count, such as `-5`, written as an option. -/
def modernized (words : List Raw) : Tool (List Raw) :=
  match words with
  | ('-' :: c :: rest) :: more =>
    if c.isDigit then do
      let digits := (c :: rest).takeWhile Char.isDigit
      let after := (c :: rest).drop digits.length
      let known := ['b', 'c', 'k', 'l', 'm', 'q', 'v', 'f']
      match after.find? (· ∉ known) with
      | some letter => misuse s!"invalid trailing option -- {letter}" 1
      | none =>
        let kind := if after.any (· ∈ ['b', 'c', 'k', 'm']) then "-c".toList else "-n".toList
        let quiet := if 'q' ∈ after then ["-q".toList] else []
        return quiet ++ [kind, digits] ++ more
    else return words
  | _ => return words

/-- The options of `head` and `tail`. -/
def partOptions (letters : String) : Tool Options := do
  let words ← modernized (← read).arguments
  let grammar : Grammar := {
    letters
    names := [
      ("lines", 'n'), ("bytes", 'c'), ("quiet", 'q'), ("silent", 'q'), ("verbose", 'v'),
      ("zero-terminated", 'z')] }
  readOptions grammar (words.length + 1) words

/-- The portion that options ask for. -/
def wantedPortion (o : Options) (inverse : Char) : Tool Portion :=
  match o.given.reverse.find? fun (letter, _) => letter = 'n' || letter = 'c' with
  | some (letter, word) => portion (letter = 'c') inverse word
  | none => return { ofBytes := false, isInverse := false, count := 10 }

/-- `head`. -/
def head : Tool Unit := do
  let o ← partOptions "n:c:qvz"
  let p ← wantedPortion o '-'
  eachPart o fun descriptor => do
    if !p.isInverse then
      flush
      if p.ofBytes then passBytes descriptor Routine.plenty p.count
      else passLines descriptor Routine.plenty p.count
    else
      match ← readWhole descriptor with
      | .error error => return .error error
      | .ok bytes =>
        let stop := if p.ofBytes then bytes.size - p.count
          else endOfLines bytes (lineCount bytes - p.count)
        emitBytes (bytes.extract 0 stop)
        return .ok ()

/-- `tail`. -/
def tail : Tool Unit := do
  let o ← partOptions "n:c:qvzfFs:"
  let o := match o.operands with
    | ('+' :: digits) :: rest =>
      if digits ≠ [] ∧ digits.all Char.isDigit ∧ o.given = [] then
        { o with given := [('n', '+' :: digits)], operands := rest }
      else o
    | _ => o
  let p ← wantedPortion o '+'
  eachPart o fun descriptor => do
    match ← readWhole descriptor with
    | .error error => return .error error
    | .ok bytes =>
      let start :=
        if p.isInverse then
          if p.ofBytes then p.count - 1 else endOfLines bytes (p.count - 1)
        else if p.ofBytes then bytes.size - p.count
        else endOfLines bytes (lineCount bytes - p.count)
      emitBytes (bytes.extract start bytes.size)
      return .ok ()
  if o.has 'f' then
    flush
    iterate (fun _ => do Routine.spend 1000000; return some ()) Routine.plenty ()

/-! ## Counting -/

/-- What `wc` counts. -/
structure Counts where
  lines : Nat := 0
  words : Nat := 0
  bytes : Nat := 0
  widest : Nat := 0
  column : Nat := 0
  inWord : Bool := false

namespace Counts

/-- The counts after one more byte. -/
def step (c : Counts) (b : UInt8) : Counts :=
  let isSpace : Bool := b = 32 || (9 ≤ b && b ≤ 13)
  let column := if b = 10 || b = 13 || b = 12 then 0
    else if b = 9 then (c.column / 8 + 1) * 8
    else if 32 ≤ b && b < 127 then c.column + 1
    else c.column
  { lines := if b = 10 then c.lines + 1 else c.lines
    words := if !isSpace && !c.inWord then c.words + 1 else c.words
    bytes := c.bytes + 1
    widest := max c.widest column
    column
    inWord := !isSpace }

def add (a b : Counts) : Counts where
  lines := a.lines + b.lines
  words := a.words + b.words
  bytes := a.bytes + b.bytes
  widest := max a.widest b.widest

end Counts

/-- Count what a descriptor yields. -/
def countFrom (descriptor : Nat) : Nat → Counts → Tool (Counts × Option SystemError)
  | 0, c => return (c, none)
  | fuel + 1, c => do
    match ← Routine.read descriptor blockSize with
    | .error error => return (c, some error)
    | .ok bytes =>
      if bytes.isEmpty then return (c, none)
      countFrom descriptor fuel (bytes.foldl Counts.step c)

/-- The sizes of some files, as far as they are there. What is no file has none. -/
def sizes (names : List Raw) : Tool (List (Option Nat)) := do
  let infos ← names.mapM fun name => do
    if name = ['-'] then
      match ← Routine.ask (.lookAt 0) with
      | .info info => return some info
      | _ => return none
    else return (← Routine.look (path name) true).toOption
  return infos.filterMap fun info? => info?.map fun info =>
    match info.tree with
    | .file _ | .program _ => some info.size
    | _ => none

/-- `wc`. -/
def wc : Tool Unit := do
  let o ← options {
    letters := "lwcmL"
    names := [
      ("lines", 'l'), ("words", 'w'), ("bytes", 'c'), ("chars", 'm'), ("max-line-length", 'L')] }
  let names := if o.operands = [] then [['-']] else o.operands
  let wanted := ['l', 'w', 'm', 'c', 'L'].filter o.has
  let columns := if wanted = [] then ['l', 'w', 'c'] else wanted
  let width ← if names.length = 1 ∧ columns.length = 1 then pure 1
    else do
      let found ← sizes names
      let total := (found.map (·.getD 0)).foldl (· + ·) 0
      pure (max (Number.shown total).length (if found.any Option.isNone then 7 else 1))
  let print (c : Counts) (name : Raw) : Tool Unit := do
    let column (letter : Char) : Raw :=
      let n := match letter with
        | 'l' => c.lines
        | 'w' => c.words
        | 'L' => c.widest
        | _ => c.bytes
      let digits := Number.shown n
      List.replicate (width - digits.length) ' ' ++ digits
    emit ([' '].intercalate (columns.map column) ++
      (if name = [] then [] else ' ' :: name) ++ ['\n'])
  let rec go (total : Counts) : List Raw → Tool Counts
    | [] => return total
    | name :: rest => do
      match ← openInput name with
      | .error error =>
        grumble s!"{shown name}: {error.text}" 1
        go total rest
      | .ok descriptor =>
        let (c, error?) ← countFrom descriptor Routine.plenty {}
        closeInput descriptor
        match error? with
        | some error => grumble s!"{shown name}: {error.text}" 1
        | none => pure ()
        print c (if o.operands = [] then [] else name)
        go (total.add c) rest
  let total ← go {} names
  if 1 < names.length then print total "total".toList

end Conformance.Tools
