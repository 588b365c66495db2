import Conformance.Text.Format
import Conformance.Tool

/-!
# Tools that print

Tools whose output comes from their arguments alone.
-/

namespace Conformance.Tools

open Tool

/-- `true` and `false`. -/
def succeed : Tool Unit := pure ()

def failing : Tool Unit := note 1

/-! ## Texts -/

def echoEscapes : Format.Escapes where
  octal := false
  leadingZero := true
  hexadecimal := true
  stops := true

/-- `echo`: backslash sequences are carried out only on request. -/
def echo : Tool Unit := do
  let words := (← read).arguments
  let isOption (word : Raw) : Bool := match word with
    | '-' :: c :: letters => (c :: letters).all (· ∈ ['n', 'e', 'E'])
    | _ => false
  let options := (words.takeWhile isOption).flatten.filter (· ≠ '-')
  let text := [' '].intercalate (words.dropWhile isOption)
  let carriesOut := (options.filter (· ≠ 'n')).getLast? = some 'e'
  let (text, stopped) := if carriesOut then Format.unescape echoEscapes text else (text, false)
  emit (if 'n' ∈ options || stopped then text else text ++ ['\n'])

def printfDialect : Format.Dialect where
  format := { hexadecimal := true, quote := true, stops := true }
  argument := { leadingZero := true, hexadecimal := true, quote := true, stops := true }
  notNumber argument := s!"{cited argument}: expected a numeric value"
  notWhole argument := s!"{cited argument}: value not completely converted"
  outOfRange argument := s!"{cited argument}: Numerical result out of range"
  badDirective directive := s!"{Raw.text directive}: invalid conversion specification"
  rounded r := r

/-- `printf`. -/
def printf : Tool Unit := do
  let words := match (← read).arguments with
    | ['-', '-'] :: rest => rest
    | words => words
  match words with
  | [] => misuse "missing operand" 1
  | format :: arguments =>
    let printed := Format.print printfDialect format arguments
    each printed.complaints.reverse complain
    emit printed.text
    if printed.complaints ≠ [] then note 1
    match printed.arguments with
    | extra :: _ =>
      if !printed.stopped then
        complain s!"warning: ignoring excess arguments, starting with {cited extra}"
    | [] => pure ()

/-- `yes`: a line again and again. -/
def yes : Tool Unit := do
  let o ← options { letters := "" }
  let words := if o.operands = [] then [['y']] else o.operands
  let line := Raw.toArray ([' '].intercalate words ++ ['\n'])
  let count := bufferSize / line.size + 1
  let block := (List.range count).foldl (fun block _ => block ++ line) .empty
  iterate (fun _ => do writeOut block; return some ()) Routine.plenty ()

/-! ## Numbers -/

/-- A number for `seq`, with as many digits after the point as it is written with. -/
structure Step where
  /-- The number times a power of ten. -/
  scaled : Int
  /-- The exponent of that power. -/
  places : Nat

namespace Step

/-- The number that a word writes. -/
def ofRaw? (word : Raw) : Option Step :=
  let (negative, digits) := Number.sign (word.dropWhile Number.isSpace)
  let (before, after, rest) := Number.pointed Char.isDigit digits
  let (e, rest) := Number.exponent ['e', 'E'] rest
  if (before = [] ∧ after = []) ∨ rest ≠ [] then none
  else
    let value : Int := Number.value 10 (before ++ after)
    let places : Int := after.length - e
    let scaled := value * Int.pow 10 (-places).toNat
    some ⟨if negative then -scaled else scaled, places.toNat⟩

/-- The number with more places. -/
def scaledTo (s : Step) (places : Nat) : Int := s.scaled * Int.pow 10 (places - s.places)

/-- A number with so many places, as a text. -/
def text (n : Int) (places : Nat) : Raw :=
  (if n < 0 then ['-'] else []) ++ Number.fixed false places ⟨n.natAbs, Nat.pow 10 places⟩

end Step

def seqDialect : Format.Dialect := printfDialect

/-- A number filled with zeros to a width. -/
def widened (width : Nat) (text : Raw) : Raw :=
  match text with
  | '-' :: digits => '-' :: Number.zeroPad (width - 1) digits
  | digits => Number.zeroPad width digits

/-- Whether a word of `seq` is a number rather than an option. -/
def isNumberWord (word : Raw) : Bool :=
  match word with
  | '-' :: c :: _ => c.isDigit || c == '.'
  | _ => true

/-- The options of `seq`, which end at the first number. -/
def seqOptions : Tool Options := do
  let words := (← read).arguments
  let optionWords (words : List Raw) : Nat :=
    let rec count : List Raw → Nat
      | [] => 0
      | ['-', 's'] :: _ :: rest | ['-', 'f'] :: _ :: rest => 2 + count rest
      | word :: rest => if isNumberWord word then 0 else 1 + count rest
    count words
  let n := optionWords words
  let grammar : Grammar := {
    letters := "s:f:w"
    names := [("separator", 's'), ("format", 'f'), ("equal-width", 'w')] }
  let o ← readOptions grammar (n + 1) (words.take n)
  return { o with operands := o.operands ++ words.drop n }

/-- The numbers from the first one to the last one. -/
def seqFrom (render : Int → Raw) (separator : Raw) (step last : Int) : Nat → Int → Bool → Tool Unit
  | 0, _, _ => pure ()
  | fuel + 1, n, isFirst =>
    if (0 ≤ step ∧ last < n) ∨ (step < 0 ∧ n < last) then
      if isFirst then pure () else emit ['\n']
    else do
      if !isFirst then emit separator
      emit (render n)
      seqFrom render separator step last fuel (n + step) false

/-- `seq`. -/
def seq : Tool Unit := do
  let o ← seqOptions
  let number (word : Raw) : Tool Step := do
    match Step.ofRaw? word with
    | some n => return n
    | none => misuse s!"invalid floating point argument: {cited word}" 1
  let one : Step := ⟨1, 0⟩
  let (first, step, last) : Step × Step × Step ← match o.operands with
    | [] => misuse "missing operand" 1
    | [last] => pure (one, one, ← number last)
    | [first, last] => pure (← number first, one, ← number last)
    | [first, step, last] => pure (← number first, ← number step, ← number last)
    | _ :: _ :: _ :: extra :: _ => misuse s!"extra operand {cited extra}" 1
  if step.scaled = 0 then
    misuse s!"invalid Zero increment value: {cited (o.operands.getD 1 [])}" 1
  let places := max first.places step.places
  let common := max places last.places
  let width := max (Step.text (first.scaledTo common) common).length
    (Step.text (last.scaledTo common) common).length
  let width := if common = places then width else width - (common - places)
  let render (n : Int) : Raw :=
    match o.value? 'f' with
    | some format =>
      (Format.print seqDialect format [Step.text n common]).text
    | none =>
      let shownPlaces := Step.text (n / Int.pow 10 (common - places)) places
      if o.has 'w' then widened width shownPlaces else shownPlaces
  seqFrom render ((o.value? 's').getD ['\n']) (step.scaledTo common) (last.scaledTo common)
    Routine.plenty (first.scaledTo common) true

/-! ## Parts of paths -/

/-- The last part of a path. -/
def lastPart (path : Raw) : Raw :=
  if path = [] then []
  else ((path.splitOn '/').filter (· ≠ [])).getLastD ['/']

/-- A name without an ending, unless nothing would be left. -/
def withoutEnding (ending name : Raw) : Raw :=
  if ending.isSuffixOf name ∧ ending ≠ name then name.take (name.length - ending.length) else name

/-- What ends each of the lines that a tool prints. -/
def lineEnd (o : Options) : Raw := if o.has 'z' then [Char.ofNat 0] else ['\n']

/-- `basename`. -/
def basename : Tool Unit := do
  let o ← options {
    letters := "as:z", endsEarly := true
    names := [("multiple", 'a'), ("suffix", 's'), ("zero", 'z')] }
  let print (ending path : Raw) : Tool Unit :=
    emit (withoutEnding ending (lastPart path) ++ lineEnd o)
  match o.operands with
  | [] => misuse "missing operand" 1
  | paths =>
    if o.has 'a' || o.has 's' then each paths (print ((o.value? 's').getD []))
    else
      match paths with
      | _ :: _ :: extra :: _ => misuse s!"extra operand {cited extra}" 1
      | path :: rest => print (rest.headD []) path
      | [] => pure ()

/-- Everything before the last part of a path. -/
def parentPart (path : Raw) : Raw :=
  let fromEnd := (path.reverse.dropWhile (· = '/')).dropWhile (· ≠ '/')
  let parent := (fromEnd.dropWhile (· = '/')).reverse
  if parent ≠ [] then parent else if path.head? = some '/' then ['/'] else ['.']

/-- `dirname`. -/
def dirname : Tool Unit := do
  let o ← options { letters := "z", names := [("zero", 'z')], endsEarly := true }
  if o.operands = [] then misuse "missing operand" 1
  each o.operands fun path => emit (parentPart path ++ lineEnd o)

/-! ## Who and where -/

/-- A tool that prints a fixed line. -/
def fixedLine (line : String) : Tool Unit := emitText (line ++ "\n")

/-- `id`. -/
def identity : Tool Unit := do
  let o ← options { letters := "unrgGa" }
  if o.has 'u' ∨ o.has 'g' ∨ o.has 'G' then fixedLine (if o.has 'n' then "root" else "0")
  else fixedLine "uid=0(root) gid=0(root) groups=0(root)"

/-- `uname`. -/
def uname : Tool Unit := do
  let o ← options { letters := "asnrvmpio" }
  if o.has 'm' then fixedLine "x86_64"
  else if o.has 'n' then fixedLine "localhost"
  else fixedLine "Linux"

/-- `printenv`. -/
def printenv : Tool Unit := do
  let call ← read
  match call.arguments with
  | [] => each call.environment fun entry => emit (entry ++ ['\n'])
  | names =>
    each names fun name => do
      match call.value? (String.ofList name) with
      | some value => emit (value ++ ['\n'])
      | none => note 1

end Conformance.Tools
