import Conformance.Text.Format
import Conformance.Tools.Streams

/-!
# Tools on lines

Tools that sort, compare, cut and join the lines of texts.
-/

namespace Conformance.Tools

open Tool

/-- The texts of some files one after the other; a file that cannot be read is complained about. -/
def readAllOf (names : List Raw) (complaint : Raw → SystemError → Tool Unit) : Tool (List Raw) := do
  match names with
  | [] => return []
  | name :: rest =>
    match ← readFile name with
    | .ok bytes => return .ofArray bytes :: (← readAllOf rest complaint)
    | .error error =>
      complaint name error
      readAllOf rest complaint

/-- The complaint that names a file before a colon. -/
def cannotRead (name : Raw) (error : SystemError) : Tool Unit :=
  grumble s!"{shown name}: {error.text}" 1

/-- The files that a tool reads: those it is called with, or standard input. -/
def inputs (o : Options) : List Raw := if o.operands = [] then [['-']] else o.operands

/-- Go through the lines of some files. -/
def eachLineOf {σ : Type} (names : List Raw) (act : σ → Raw → Bool → Tool (σ × Bool)) (state : σ)
    (complaint : Raw → SystemError → Tool Unit) : Tool σ := do
  match names with
  | [] => return state
  | name :: rest =>
    match ← openInput name with
    | .error error =>
      complaint name error
      eachLineOf rest act state complaint
    | .ok descriptor =>
      let result ← eachLine descriptor act state
      closeInput descriptor
      match result with
      | .ok state => eachLineOf rest act state complaint
      | .error error =>
        complaint name error
        eachLineOf rest act state complaint

/-- Change every line of the input. -/
def mapLines (names : List Raw) (change : Raw → Raw) : Tool Unit :=
  eachLineOf names (fun () line ended => do
    emit (change line ++ if ended then ['\n'] else [])
    return ((), true)) () cannotRead

def isBlank (c : Char) : Bool := c == ' ' || c == '\t'

/-! ## Sorting -/

/-- How keys are compared. -/
structure Ordering where
  isNumeric : Bool := false
  isReverse : Bool := false
  foldsCase : Bool := false
  skipsBlanks : Bool := false

/-- A part of a line that is compared: from some character of some field to some other one. -/
structure SortKey where
  firstField : Nat
  firstChar : Nat
  /-- The last field, and the last character in it, or the end of the field. -/
  last : Option (Nat × Nat)
  ordering : Ordering

/-- The letters of an ordering. -/
def Ordering.ofLetters (letters : List Char) : Ordering where
  isNumeric := 'n' ∈ letters || 'g' ∈ letters || 'h' ∈ letters
  isReverse := 'r' ∈ letters
  foldsCase := 'f' ∈ letters
  skipsBlanks := 'b' ∈ letters

/-- A field number with a character number after it, and the letters after them. -/
def fieldPosition? (word : Raw) : Option (Nat × Nat × List Char) :=
  let field := word.takeWhile Char.isDigit
  let rest := word.drop field.length
  let (char, letters) := match rest with
    | '.' :: rest => (rest.takeWhile Char.isDigit, rest.dropWhile Char.isDigit)
    | rest => ([], rest)
  if field = [] then none
  else some (Number.value 10 field, Number.value 10 char, letters)

/-- The key that the value of an option names. -/
def sortKey (word : Raw) (general : Ordering) (hasGeneral : Bool) : Tool SortKey := do
  let (start, finish) := match word.splitOn ',' with
    | [start] => (start, none)
    | start :: finish :: _ => (start, some finish)
    | [] => ([], none)
  match fieldPosition? start, finish.map fieldPosition? with
  | none, _ => fail s!"invalid number at field start: invalid count at start of {cited word}" 2
  | _, some none => fail s!"invalid number after ',': invalid count at start of {cited word}" 2
  | some (0, _, _), _ => fail s!"field number is zero: invalid field specification {cited word}" 2
  | some (field, char, letters), last =>
    let last? := last.bind id
    let letters := letters ++ (last?.map (·.2.2)).getD []
    let ordering := if letters = [] ∧ hasGeneral then general else Ordering.ofLetters letters
    return {
      firstField := field, firstChar := max char 1
      last := last?.map fun (field, char, _) => (field, char), ordering }

/-- Where each field of a line starts and ends. Without a separator a field starts with the blanks
    before it. -/
def fieldBounds (separator? : Option Char) (line : Raw) : List (Nat × Nat) :=
  match separator? with
  | some c =>
    let lengths := (line.splitOn c).map List.length
    bounds 0 lengths
  | none => blanks (line.length + 1) 0 line
where
  bounds (start : Nat) : List Nat → List (Nat × Nat)
    | [] => []
    | n :: rest => (start, start + n) :: bounds (start + n + 1) rest
  blanks : Nat → Nat → Raw → List (Nat × Nat)
    | 0, _, _ => []
    | fuel + 1, start, rest =>
      if rest = [] then []
      else
        let gap := (rest.takeWhile isBlank).length
        let word := ((rest.drop gap).takeWhile (!isBlank ·)).length
        let stop := start + gap + word
        (start, stop) :: blanks fuel stop (rest.drop (gap + word))

/-- The part of a line that a key compares. -/
def SortKey.part (key : SortKey) (separator? : Option Char) (line : Raw) : Raw :=
  let bounds := fieldBounds separator? line
  let skip (start : Nat) : Nat :=
    if key.ordering.skipsBlanks then start + ((line.drop start).takeWhile isBlank).length else start
  let start := match bounds[key.firstField - 1]? with
    | some (start, _) => min line.length (skip start + (key.firstChar - 1))
    | none => line.length
  let stop := match key.last with
    | none => line.length
    | some (field, char) =>
      match bounds[field - 1]? with
      | some (start, stop) => if char = 0 then stop else min line.length (skip start + char)
      | none => line.length
  (line.take stop).drop start

/-- The number that a text starts with, for comparing. -/
def leadingNumber (text : Raw) : Int × Raw :=
  let (negative, digits) := match text.dropWhile isBlank with
    | '-' :: rest => (true, rest)
    | rest => (false, rest)
  let whole := digits.takeWhile Char.isDigit
  let fraction := match digits.drop whole.length with
    | '.' :: rest => rest.takeWhile Char.isDigit
    | _ => []
  let n : Int := Number.value 10 whole
  (if negative then -n else n, if negative then [] else fraction)

/-- Whether one text comes before another one, with an ordering that is not reversed. -/
def Ordering.before (o : Ordering) (a b : Raw) : Bool :=
  if o.isNumeric then
    let (m, p) := leadingNumber a
    let (n, q) := leadingNumber b
    m < n || (m == n && decide (p < q))
  else if o.foldsCase then decide (a.map Char.toUpper < b.map Char.toUpper)
  else decide (a < b)

/-- Whether a line comes before another one; there may be no telling. -/
def compareLines (keys : List SortKey) (separator? : Option Char) (a b : Raw) : Option Bool :=
  keys.findSome? fun key =>
    let x := key.part separator? a
    let y := key.part separator? b
    if key.ordering.before x y then some (!key.ordering.isReverse)
    else if key.ordering.before y x then some key.ordering.isReverse
    else none

/-- `sort`. -/
def sort : Tool Unit := do
  let o ← options {
    letters := "bfghnrucsmzk:t:o:S:T:V", misuseStatus := 2
    names := [
      ("reverse", 'r'), ("numeric-sort", 'n'), ("unique", 'u'), ("key", 'k'),
      ("field-separator", 't'), ("output", 'o'), ("check", 'c'), ("stable", 's'),
      ("ignore-case", 'f'), ("ignore-leading-blanks", 'b')] }
  let letters := o.given.map Prod.fst
  let general := Ordering.ofLetters letters
  let hasGeneral := letters.any (· ∈ ['b', 'f', 'g', 'h', 'n', 'r'])
  let keys ← (o.values 'k').mapM fun word => sortKey word general hasGeneral
  let keys := if keys = [] then [⟨1, 1, none, general⟩] else keys
  let separator? := (o.value? 't').bind List.head?
  let texts ← readAllOf (inputs o) fun name error =>
    if error = .isDirectory then fail s!"read failed: {shown name}: {error.text}" 2
    else fail s!"cannot read: {shown name}: {error.text}" 2
  let ends := if o.has 'z' then Char.ofNat 0 else '\n'
  let split (text : Raw) : List Raw :=
    let parts := text.splitOn ends
    if parts.getLast? = some [] then parts.dropLast else parts
  let lines := texts.flatMap split
  let isUnique := o.has 'u'
  let mayFollow (a b : Raw) : Bool :=
    match compareLines keys separator? a b with
    | some isBefore => isBefore
    | none =>
      if isUnique || o.has 's' then true
      else if general.isReverse then Raw.isAtMost b a else Raw.isAtMost a b
  if o.has 'c' then
    let rec check (n : Nat) : List Raw → Tool Unit
      | a :: b :: rest => do
        let wrong := !mayFollow a b ||
          (isUnique && (compareLines keys separator? a b).isNone)
        if wrong then fail s!"{shown ((inputs o).headD [])}:{n + 1}: disorder: {Raw.text b}" 1
        check (n + 1) (b :: rest)
      | _ => pure ()
    return ← check 1 lines
  let sorted := lines.mergeSort mayFollow
  let kept := if isUnique then
      sorted.foldr (fun line (kept : List Raw) => match kept with
        | next :: rest =>
          if (compareLines keys separator? line next).isNone then line :: rest
          else line :: next :: rest
        | [] => [line]) []
    else sorted
  let text := kept.flatMap (· ++ [ends])
  match o.value? 'o' with
  | none => emit text
  | some name =>
    match ← Routine.openFile (path name) { writes := true, creates := true, empties := true } with
    | .ok descriptor => Routine.put descriptor text
    | .error error => fail s!"open failed: {shown name}: {error.text}" 2

/-- `uniq`. -/
def uniq : Tool Unit := do
  let o ← options {
    letters := "cduif:s:w:z"
    names := [
      ("count", 'c'), ("repeated", 'd'), ("unique", 'u'), ("ignore-case", 'i'),
      ("skip-fields", 'f'), ("skip-chars", 's'), ("check-chars", 'w')] }
  let number (letter : Char) : Option Nat := (o.value? letter).bind Number.natural?
  let dropField (line : Raw) : Raw := (line.dropWhile isBlank).dropWhile (!isBlank ·)
  let key (line : Raw) : Raw :=
    let rest := (List.range ((number 'f').getD 0)).foldl (fun line _ => dropField line) line
    let rest := rest.drop ((number 's').getD 0)
    let rest := rest.take ((number 'w').getD rest.length)
    if o.has 'i' then rest.map Char.toUpper else rest
  let print (line : Raw) (n : Nat) : Tool Unit := do
    let isWanted := (!o.has 'd' || 1 < n) && (!o.has 'u' || n == 1)
    let digits := Number.shown n
    let count := if o.has 'c' then List.replicate (7 - digits.length) ' ' ++ digits ++ [' ']
      else []
    if isWanted then emit (count ++ line ++ ['\n'])
  match o.operands with
  | _ :: target :: _ =>
    match ← Routine.openFile (path target) { writes := true, creates := true, empties := true } with
    | .ok descriptor => discard (Routine.ask (.replace descriptor 1))
    | .error error => fail s!"{shown target}: {error.text}" 1
  | _ => pure ()
  let last ← eachLineOf [(inputs o).headD ['-']] (fun (state : Option (Raw × Nat)) line _ => do
    match state with
    | some (before, n) =>
      if key before = key line then return (some (before, n + 1), true)
      print before n
      return (some (line, 1), true)
    | none => return (some (line, 1), true)) none fun name error =>
      fail s!"{shown name}: {error.text}" 1
  match last with
  | some (line, n) => print line n
  | none => pure ()

/-- `comm`. -/
def comm : Tool Unit := do
  let o ← options { letters := "123z" }
  match o.operands with
  | [] => misuse "missing operand" 1
  | [only] => misuse s!"missing operand after {cited only}" 1
  | _ :: _ :: extra :: _ => misuse s!"extra operand {cited extra}" 1
  | [a, b] =>
    let texts ← readAllOf [a, b] fun name error => fail s!"{shown name}: {error.text}" 1
    let print (column : Nat) (line : Raw) : Tool Unit := do
      let shownBefore := ['1', '2', '3'].take (column - 1) |>.filter (!o.has ·)
      if !o.has (Char.ofNat (48 + column)) then
        emit (List.replicate shownBefore.length '\t' ++ line ++ ['\n'])
    let rec merge : Nat → List Raw → List Raw → Tool Unit
      | 0, _, _ => pure ()
      | fuel + 1, x :: xs, y :: ys =>
        if x = y then do print 3 x; merge fuel xs ys
        else if x < y then do print 1 x; merge fuel xs (y :: ys)
        else do print 2 y; merge fuel (x :: xs) ys
      | _, xs, ys => do
        each xs (print 1)
        each ys (print 2)
    let first := (texts.headD []).lines
    let second := (texts.getD 1 []).lines
    merge (first.length + second.length + 1) first second

/-! ## Cutting -/

/-- The ranges of a list such as `1,3-5,7-`, each with its last number if it has one. -/
def ranges? (word : Raw) : Option (List (Nat × Option Nat)) :=
  ((word.splitOn ',').flatMap (·.splitOn ' ')).mapM fun part =>
    match part.splitOn '-' with
    | [n] => (Number.natural? n).map fun n => (n, some n)
    | [[], n] => (Number.natural? n).map fun n => (1, some n)
    | [n, []] => (Number.natural? n).map (·, none)
    | [m, n] => do return (← Number.natural? m, some (← Number.natural? n))
    | _ => none

/-- `cut`. -/
def cut : Tool Unit := do
  let o ← options {
    letters := "b:c:f:d:nsO:Cz"
    names := [
      ("bytes", 'b'), ("characters", 'c'), ("fields", 'f'), ("delimiter", 'd'),
      ("only-delimited", 's'), ("output-delimiter", 'O'), ("complement", 'C')] }
  let lists := o.given.filter fun (letter, _) => letter ∈ ['b', 'c', 'f']
  match lists with
  | [] => misuse "you must specify a list of bytes, characters, or fields" 1
  | _ :: _ :: _ => misuse "only one list may be specified" 1
  | [(letter, word)] =>
    let isFields := letter = 'f'
    let ranges ← match ranges? word with
      | some ranges => pure ranges
      | none =>
        let what := if isFields then "field" else "byte or character"
        if isFields then misuse s!"invalid {what} value {cited word}" 1
        else misuse s!"invalid byte or character position {cited word}" 1
    if ranges.any fun (a, b) => a = 0 ∨ b = some 0 then
      misuse (if isFields then "fields are numbered from 1"
        else "byte/character positions are numbered from 1") 1
    if ranges.any fun (a, b) => b.any (· < a) then misuse "invalid decreasing range" 1
    if (o.value? 'd').any fun d => 1 < d.length then
      misuse "the delimiter must be a single character" 1
    let delimiter := ((o.value? 'd').bind List.head?).getD '\t'
    let isWanted (n : Nat) : Bool :=
      (ranges.any fun (a, b) => a ≤ n && b.all (n ≤ ·)) != o.has 'C'
    let select {α : Type} (parts : List α) : List α :=
      (parts.zipIdx 1).filterMap fun (part, n) => if isWanted n then some part else none
    eachLineOf (inputs o) (fun () line _ => do
      if !isFields then emit (select line ++ ['\n'])
      else if delimiter ∉ line then
        if !o.has 's' then emit (line ++ ['\n'])
      else
        let glue := (o.value? 'O').getD [delimiter]
        emit (glue.intercalate (select (line.splitOn delimiter)) ++ ['\n'])
      return ((), true)) () cannotRead

/-- `fold`. -/
def fold : Tool Unit := do
  let o ← options { letters := "bsw:", names := [("width", 'w'), ("spaces", 's')] }
  let width := max 1 (((o.value? 'w').bind Number.natural?).getD 80)
  let rec pieces : Nat → Raw → List Raw
    | 0, line => [line]
    | fuel + 1, line =>
      if line.length ≤ width then [line]
      else
        let piece := line.take width
        let toBlank := (piece.reverse.dropWhile (!isBlank ·)).length
        let n := if o.has 's' && 0 < toBlank then toBlank else width
        line.take n :: pieces fuel (line.drop n)
  mapLines (inputs o) fun line => ['\n'].intercalate (pieces line.length line)

/-! ## Joining and turning round -/

/-- `paste`. -/
def paste : Tool Unit := do
  let o ← options { letters := "d:sz", names := [("delimiters", 'd'), ("serial", 's')] }
  let delimiters := (Format.unescape {} ((o.value? 'd').getD ['\t'])).1
  let glue (n : Nat) : Raw :=
    if delimiters = [] then [] else [delimiters.getD (n % delimiters.length) '\t']
  let rec joined (n : Nat) : List Raw → Raw
    | [] => []
    | [part] => part
    | part :: rest => part ++ glue n ++ joined (n + 1) rest
  let texts ← readAllOf (inputs o) fun name error => fail s!"{shown name}: {error.text}" 1
  let columns := texts.map Raw.lines
  if o.has 's' then each columns fun lines => emit (joined 0 lines ++ ['\n'])
  else
    let height := (columns.map List.length).foldl max 0
    each (List.range height) fun i =>
      emit (joined 0 (columns.map (·.getD i [])) ++ ['\n'])

/-- `rev`. -/
def rev : Tool Unit := do
  let o ← options { letters := "0" }
  eachLineOf (inputs o) (fun () line ended => do
    emit (line.reverse ++ if ended then ['\n'] else [])
    return ((), true)) () fun name error =>
      grumble s!"cannot open {Raw.text name}: {error.text}" 1

/-- `tac`. -/
def tac : Tool Unit := do
  let o ← options { letters := "brs:" }
  each (inputs o) fun name => do
    match ← readFile name with
    | .error .isDirectory => grumble s!"{shown name}: read error: Is a directory" 1
    | .error error => grumble s!"failed to open {quoted name} for reading: {error.text}" 1
    | .ok bytes =>
      let parts := (Raw.ofArray bytes).splitOn '\n'
      let records := parts.dropLast.map (· ++ ['\n']) ++ [parts.getLastD []]
      emit records.reverse.flatten

/-- `nl`. -/
def nl : Tool Unit := do
  let o ← options {
    letters := "b:w:s:v:i:n:d:f:h:p"
    names := [
      ("body-numbering", 'b'), ("number-width", 'w'), ("number-separator", 's'),
      ("starting-line-number", 'v'), ("line-increment", 'i'), ("number-format", 'n')] }
  let number (letter : Char) (default : Nat) : Nat :=
    ((o.value? letter).bind Number.natural?).getD default
  let width := number 'w' 6
  let separator := (o.value? 's').getD ['\t']
  discard (eachLineOf (inputs o) (fun n line _ => do
    let numbers := match o.value? 'b' with
      | some ['a'] => true
      | some ['n'] => false
      | _ => line ≠ []
    let digits := Number.shown n
    let column := match (o.value? 'n').map String.ofList with
      | some "ln" => digits ++ List.replicate (width - digits.length) ' '
      | some "rz" => Number.zeroPad width digits
      | _ => List.replicate (width - digits.length) ' ' ++ digits
    if numbers then
      emit (column ++ separator ++ line ++ ['\n'])
      return (n + number 'i' 1, true)
    emit (List.replicate (width + separator.length) ' ' ++ line ++ ['\n'])
    return (n, true)) (number 'v' 1) cannotRead)

/-! ## Comparing -/

/-- Where two texts first differ, counted in bytes and lines from one, unless one is the start of
    the other. -/
def firstDifference : Raw → Raw → Nat → Nat → Option (Nat × Nat)
  | a :: as, b :: bs, n, line =>
    if a = b then firstDifference as bs (n + 1) (if a = '\n' then line + 1 else line)
    else some (n, line)
  | _, _, _, _ => none

/-- `cmp`. -/
def cmp : Tool Unit := do
  let o ← options { letters := "sl", misuseStatus := 2, names := [("silent", 's'), ("quiet", 's')] }
  match o.operands with
  | [] => misuse "missing operand after 'cmp'" 2
  | a :: rest =>
    let b := rest.headD ['-']
    let texts ← readAllOf [a, b] fun name error =>
      if o.has 's' then exit 2 else fail s!"{Raw.text name}: {error.text}" 2
    let x := texts.headD []
    let y := texts.getD 1 []
    if x = y then return
    if o.has 's' then exit 1
    match firstDifference x y 1 1 with
    | some (n, line) =>
      emitText s!"{Raw.text a} {Raw.text b} differ: char {n}, line {line}\n"
      note 1
    | none =>
      let (short, text) := if x.length < y.length then (a, x) else (b, y)
      let bytes := text.length
      let lines := text.count '\n'
      let place := if text.getLast? = some '\n' then s!"after byte {bytes}, line {lines}"
        else if text = [] then "which is empty"
        else s!"after byte {bytes}, in line {lines + 1}"
      grumble s!"EOF on {Raw.text short} {place}" 1

end Conformance.Tools
