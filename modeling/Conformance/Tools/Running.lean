import Conformance.Host.Signal
import Conformance.Tools.Files
import Conformance.Tools.Lines

/-!
# Tools that run programs

Tools that start other programs, wait, or send signals.
-/

namespace Conformance.Tools

open Tool

/-! ## Waiting -/

/-- A span in microseconds that outlasts every run. -/
def forever : Nat := 1000000000000000000

/-- The span in microseconds that a word names, a number with a letter for its unit or not. -/
def span? (word : Raw) : Option Nat :=
  match Number.real word with
  | (.finite negative r, rest, true) =>
    let unit? : Option Nat := match rest with
      | [] | ['s'] => some 1
      | ['m'] => some 60
      | ['h'] => some 3600
      | ['d'] => some 86400
      | _ => none
    if negative ∧ r.num ≠ 0 then none
    else unit?.map fun unit => min forever (r.num * unit * 1000000 / r.den)
  | (.infinite false, [], true) => some forever
  | _ => none

/-- `sleep`. -/
def sleep : Tool Unit := do
  let o ← options { letters := "" }
  if o.operands = [] then misuse "missing operand" 1
  let wrong := o.operands.filter fun word => (span? word).isNone
  each wrong fun word => complain s!"invalid time interval {cited word}"
  if wrong ≠ [] then
    hint
    exit 1
  Routine.spend ((o.operands.filterMap span?).foldl (· + ·) 0)

/-! ## Starting programs -/

/-- The directories that a program is searched in. -/
def searchFolders (environment : List Raw) : List Raw :=
  let path := (Call.ofWords [] environment).value? "PATH"
  (path.getD "/bin:/usr/bin".toList).splitOn ':'

/-- Become the first program that can be run of some paths. If none can, the result is why. -/
def becomeFirst (words environment : List Raw) (reason : SystemError) :
    List Raw → Routine SystemError
  | [] => return reason
  | name :: rest => do
    match ← Routine.perform (.execute (path name) words environment) with
    | .error .permissionDenied => becomeFirst words environment .permissionDenied rest
    | .error .notFound | .error .notDirectory => becomeFirst words environment reason rest
    | .error error => return error
    | .ok () => return reason

/-- Become the program that some words call. If that cannot be done, the result is why. -/
def become (words environment : List Raw) : Routine SystemError := do
  let name := words.headD []
  if name = [] then return .notFound
  if '/' ∈ name then becomeFirst words environment .notFound [name]
  else
    let folders := (searchFolders environment).map fun folder =>
      if folder = [] then name else within folder name
    becomeFirst words environment .notFound folders

/-- The status of a program that could not be run. -/
def refusedStatus (error : SystemError) : Nat := if error = .notFound then 127 else 126

/-- The status that an ending is reported with. -/
def statusOf : Ending → Nat
  | .exited code => code
  | .signalled signal => 128 + signal

/-- Wait for a child to end. -/
def awaitChild (child : Nat) : Nat → Tool Ending
  | 0 => return .exited 0
  | fuel + 1 => do
    match ← Routine.ask (.wait (some child) true) with
    | .ended _ ending => return ending
    | .refused .interrupted => awaitChild child fuel
    | _ => return .exited 0

/-- Start the program that some words call. If it cannot be run, the child says so and ends. -/
def launch (words environment : List Raw) (said : SystemError → Tool Unit) : Tool Nat := do
  flush
  let call ← read
  let child : Tool Unit := do
    let error ← become words environment
    said error
    exit (refusedStatus error)
  Routine.fork (child.toProcess call)

/-- Become the program that some words call, or say why not. -/
def becomeOrFail (words environment : List Raw) (said : SystemError → Tool Unit) : Tool Unit := do
  flush
  let error ← become words environment
  said error
  exit (refusedStatus error)

/-- The complaint of a tool that cannot run a program. -/
def cannotRun (words : List Raw) (error : SystemError) : Tool Unit :=
  complain s!"failed to run command {cited (words.headD [])}: {error.text}"

/-- Whether a word gives a variable its value. -/
def isAssignment (word : Raw) : Bool := '=' ∈ word

/-- An environment with a variable set, in the place it has if it is there. -/
def setVariable (environment : List Raw) (entry : Raw) : List Raw :=
  let name := entry.takeWhile (· ≠ '=')
  let isSame (other : Raw) : Bool := other.takeWhile (· ≠ '=') = name
  if environment.any isSame then environment.map fun other => if isSame other then entry else other
  else environment ++ [entry]

/-- `env`. -/
def env : Tool Unit := do
  let call ← read
  let words := match call.arguments with
    | ['-'] :: rest => ['-', 'i'] :: rest
    | words => words
  let grammar : Grammar := {
    letters := "iu:0C:vS:", endsEarly := true, misuseStatus := 125
    names := [("ignore-environment", 'i'), ("unset", 'u'), ("null", '0'), ("chdir", 'C')] }
  let o ← readOptions grammar (words.length + 1) words
  let base := if o.has 'i' then [] else call.environment
  let kept := base.filter fun entry => !(o.values 'u').any (· = entry.takeWhile (· ≠ '='))
  let environment := (o.operands.takeWhile isAssignment).foldl setVariable kept
  match o.value? 'C' with
  | some name =>
    match ← Routine.perform (.enter (path name)) with
    | .ok () => pure ()
    | .error error => fail s!"cannot change directory to {quoted name}: {error.text}" 125
  | none => pure ()
  match o.operands.dropWhile isAssignment with
  | [] =>
    each environment fun entry => emit (entry ++ (if o.has '0' then [Char.ofNat 0] else ['\n']))
  | command =>
    becomeOrFail command environment fun error => do
      let name := command.headD []
      complain s!"{cited name}: {error.text}"
      if error = .notFound ∧ ' ' ∈ name then
        complain "use -[v]S to pass options in shebang lines"

/-- `nohup`, `nice` and `setsid`: a program that runs in much the same way. -/
def runPlainly (letters : String) : Tool Unit := do
  let o ← options { letters, endsEarly := true, misuseStatus := 125 }
  if o.operands = [] then misuse "missing operand" 125
  becomeOrFail o.operands (← read).environment (cannotRun o.operands)

/-- `nohup`. -/
def nohup : Tool Unit := do
  discard (Routine.ask (.dispose Signal.hangup .ignored))
  runPlainly ""

/-! ## Time limits -/

/-- Poll a child until it has ended or a moment has come. -/
def pollChild (child moment : Nat) : Nat → Tool (Option Ending)
  | 0 => return none
  | fuel + 1 => do
    match ← Routine.ask (.wait (some child) false) with
    | .ended _ ending => return some ending
    | _ =>
      let now ← Routine.now
      if moment ≤ now then return none
      Routine.spend (min 1000 (moment - now))
      pollChild child moment fuel

/-- The number of a signal that a word names. -/
def signalOf? (word : Raw) : Option Nat :=
  match Number.natural? word with
  | some n => if n < Signal.limit then some n else none
  | none =>
    let name := String.ofList (word.map Char.toUpper)
    let bare := if name.startsWith "SIG" then (name.drop 3).toString else name
    if bare = "EXIT" then some 0
    else (List.range Signal.limit).find? fun n => Signal.name? n = some bare

/-- `timeout`. -/
def timeout : Tool Unit := do
  let o ← options {
    letters := "s:k:fpv", endsEarly := true, misuseStatus := 125
    names := [
      ("signal", 's'), ("kill-after", 'k'), ("foreground", 'f'), ("preserve-status", 'p'),
      ("verbose", 'v')] }
  match o.operands with
  | [] | [_] =>
    hint
    exit 125
  | word :: command =>
    match span? word with
    | none => misuse s!"invalid time interval {cited word}" 125
    | some span =>
      let signal ← match o.value? 's' with
        | none => pure Signal.terminate
        | some name =>
          match signalOf? name with
          | some n => pure n
          | none => misuse s!"{cited name}: invalid signal" 125
      let child ← launch command (← read).environment (cannotRun command)
      let moment := (← Routine.now) + if span = 0 then forever else span
      match ← pollChild child moment Routine.plenty with
      | some ending => exit (statusOf ending)
      | none =>
        discard (Routine.ask (.signal child signal))
        discard (Routine.ask (.signal child Signal.resume))
        let killMoment := ((o.value? 'k').bind span?).map ((← Routine.now) + ·)
        let ending ← match killMoment with
          | none => awaitChild child Routine.plenty
          | some moment =>
            match ← pollChild child moment Routine.plenty with
            | some ending => pure ending
            | none =>
              discard (Routine.ask (.signal child Signal.kill))
              awaitChild child Routine.plenty
        if o.has 'p' then exit (statusOf ending)
        exit (if ending = .signalled Signal.kill then 128 + Signal.kill else 124)

/-! ## Signals -/

/-- `kill`. -/
def kill : Tool Unit := do
  let words := (← read).arguments
  let usage {α : Type} : Tool α := do
    warn "\nUsage:\n kill [options] <pid> [...]\n"
    exit 1
  let send (signal : Nat) (targets : List Raw) : Tool Unit := do
    if targets = [] then usage
    each targets fun target => do
      match Number.decimal? target with
      | none => grumble s!"failed to parse argument: {cited target}" 1
      | some n =>
        match ← Routine.perform (.signal n signal) with
        | .ok () => pure ()
        | .error error => grumble s!"({n}): {error.text}" 1
  let named (word : Raw) : Tool Nat := do
    match signalOf? word with
    | some n => return n
    | none => fail s!"unknown signal {Raw.text word}" 1
  match words with
  | [] => usage
  | ['-', 's'] :: name :: rest => send (← named name) rest
  | ['-', 'l'] :: rest =>
    match rest with
    | [] => emitText (" ".intercalate Signal.names ++ "\n")
    | word :: _ =>
      match Number.natural? word with
      | some n => emitText (((Signal.name? (n % 128)).getD "") ++ "\n")
      | none => emitText (toString (← named word) ++ "\n")
  | ['-', '-'] :: rest => send Signal.terminate rest
  | ('-' :: c :: name) :: rest => send (← named (c :: name)) rest
  | targets => send Signal.terminate targets

/-! ## Lists of arguments -/

/-- The words of a text, in which quotes and backslashes hide blanks, or what is wrong. -/
def quotedWords (text : Raw) : Except String (List Raw) :=
  go (text.length + 1) none text
where
  go : Nat → Option Raw → Raw → Except String (List Raw)
    | 0, word, _ | _, word, [] => .ok (word.map List.reverse).toList
    | fuel + 1, word, c :: rest =>
      let quoted (mark : Char) (kind : String) : Except String (List Raw) :=
        let inner := rest.takeWhile fun d => d ≠ mark && d ≠ '\n'
        match rest.drop inner.length with
        | d :: after =>
          if d = mark then go fuel (some (inner.reverse ++ word.getD [])) after
          else .error kind
        | [] => .error kind
      if Number.isSpace c then do
        let more ← go fuel none rest
        return (word.map List.reverse).toList ++ more
      else if c = '\\' then
        match rest with
        | d :: after => go fuel (some (d :: word.getD [])) after
        | [] => .ok (word.map List.reverse).toList
      else if c = '"' then quoted '"' "double"
      else if c = Char.ofNat 39 then quoted (Char.ofNat 39) "single"
      else go fuel (some (c :: word.getD [])) rest

/-- A word with a text put in place of a mark. -/
def substituted (mark new : Raw) : Nat → Raw → Raw
  | 0, text => text
  | _, [] => []
  | fuel + 1, c :: rest =>
    if mark ≠ [] ∧ mark.isPrefixOf (c :: rest) then
      new ++ substituted mark new fuel ((c :: rest).drop mark.length)
    else c :: substituted mark new fuel rest

/-- Values in groups of at most some size. -/
def grouped {α : Type} (size : Nat) : Nat → List α → List (List α)
  | 0, _ | _, [] => []
  | fuel + 1, values => values.take size :: grouped size fuel (values.drop size)

/-- Run a program for `xargs` and note how it ends. -/
def runOnce (words environment : List Raw) (shows : Bool) : Tool Unit := do
  if shows then warn (Raw.text ([' '].intercalate words) ++ "\n")
  let child ← launch words environment fun error =>
    complain s!"{Raw.text (words.headD [])}: {error.text}"
  match ← awaitChild child Routine.plenty with
  | .exited 0 => pure ()
  | .exited 126 => exit 126
  | .exited 127 => exit 127
  | .exited 255 =>
    fail s!"{Raw.text (words.headD [])}: exited with status 255; aborting" 124
  | .exited _ => note 123
  | .signalled n => fail s!"{Raw.text (words.headD [])}: terminated by signal {n}" 125

/-- `xargs`. -/
def xargs : Tool Unit := do
  let o ← options {
    letters := "0n:L:I:rtP:d:s:a:", endsEarly := true
    names := [
      ("null", '0'), ("max-args", 'n'), ("replace", 'I'), ("no-run-if-empty", 'r'),
      ("verbose", 't'), ("max-procs", 'P'), ("delimiter", 'd'), ("arg-file", 'a')] }
  let text ← match ← readFile ((o.value? 'a').getD ['-']) with
    | .ok bytes => pure (Raw.ofArray bytes)
    | .error error => fail s!"Cannot open input file: {error.text}" 1
  let byMark (mark : Char) : List Raw :=
    let parts := text.splitOn mark
    if parts.getLast? = some [] then parts.dropLast else parts
  let command := if o.operands = [] then ["echo".toList] else o.operands
  let environment := (← read).environment
  let shows := o.has 't'
  match o.value? 'I' with
  | some mark =>
    each (text.lines.map (·.dropWhile isBlank) |>.filter (· ≠ [])) fun line =>
      runOnce (command.map fun word => substituted mark line (word.length + 1) word) environment
        shows
  | none =>
    let words ←
      if o.has '0' then pure (byMark (Char.ofNat 0))
      else
        match o.value? 'd' with
        | some (c :: d :: _) =>
          pure (byMark (if c = '\\' then (Format.letter? d).getD d else c))
        | some (c :: _) => pure (byMark c)
        | _ =>
          match quotedWords text with
          | .ok words => pure words
          | .error kind =>
            let advice := "by default quotes are special to xargs unless you use the -0 option"
            fail s!"unmatched {kind} quote; {advice}" 1
    let size := ((o.value? 'n').or (o.value? 'L')).bind Number.natural?
    let groups := grouped (max 1 (size.getD (words.length + 1))) (words.length + 1) words
    let groups := if groups = [] ∧ !o.has 'r' then [[]] else groups
    each groups fun group => runOnce (command ++ group) environment shows

/-- `which`. -/
def which : Tool Unit := do
  let o ← options { letters := "as" }
  let folders := searchFolders (← read).environment
  each o.operands fun name => do
    let paths := if '/' ∈ name then [name] else folders.map (within · name)
    let found ← paths.filterM fun candidate => do
      return (← info? candidate true).any fun i => !i.tree.isDirectory && i.mode &&& 0o111 != 0
    match found with
    | [] => note 1
    | first :: _ => if !o.has 's' then emit (first ++ ['\n'])

end Conformance.Tools
