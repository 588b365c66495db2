import Conformance.Shell.Builtin.Control
import Conformance.Shell.Input
import Conformance.Shell.Invocation

/-!
# Carrying out commands

A command changes the state of the shell and leaves a status. Commands in a pipeline, between round
brackets, in the background or in a word are carried out by copies of the shell. The fuel bounds how
deep commands nest; a shell that runs out of it breaks down, as one that runs out of memory.
-/

namespace Conformance.Shell

/-! ## How a shell ends -/

/-- Carries out a text as a script. -/
abbrev TextRunner := Raw → Shell Unit

/-- Bring a shell that was stopped to rest. The status of a script that a trap has interrupted
    counts, unless something went wrong in the trap. -/
def settle (stop : Stop) : Shell Unit := do
  modify fun s =>
    let isRegular : Bool := stop = .exit || s.skip = some .callAsIs
    { s with
      status := if isRegular then s.kept.getD s.status else s.status
      kept := none, skip := none, loops := 0, isTracing := false }
  Redirect.finishAll

/-- Carry out what a trap says about the end of the shell. -/
def leave (runText : TextRunner) (stop : Stop) : Shell Unit := do
  settle stop
  match (← get).traps.lookup 0 with
  | none => pure ()
  | some action =>
    modify fun s => { s with kept := some s.status, traps := s.traps.filter (·.1 ≠ 0) }
    let stop ← tryCatch
      (do
        runText action
        modify fun s => { s with skip := some .callAsIs }
        return Stop.finish)
      fun stop => return stop
    settle stop

/-- The process that a shell is when it has only one thing to do. -/
def toProcess (runText : TextRunner) (act : Shell Unit) (s : State) : Process :=
  let whole : Shell Unit := do
    let stop ← tryCatch (do act; return Stop.finish) fun stop => return stop
    leave runText stop
  (StateT.run (ExceptT.run whole) s) fun (_, s) => .exit s.status

/-! ## Traps -/

/-- Whether something is done on a signal or at the end. -/
def State.hasTraps (s : State) : Bool := s.traps.any (·.2 ≠ [])

/-- Whether something is done on a signal. -/
def State.catches (s : State) : Bool :=
  s.traps.any fun (signal, action) => signal ≠ 0 && action ≠ []

/-- Carry out the traps of signals that have come, from the least number on, unless something is
    passed over. The status of the script stays what it was. -/
def runArrived (runText : TextRunner) (status : Nat) : List Nat → Shell Unit
  | [] => pure ()
  | signal :: rest => do
    let s ← get
    if signal ∈ s.arrived ∧ s.skip.isNone then
      set { s with arrived := s.arrived.filter (· ≠ signal) }
      match s.traps.lookup signal with
      | some action =>
        runText action
        modify fun s => if s.skip = some .call then s else { s with status }
      | none => pure ()
    runArrived runText status rest

/-- Carry out the traps of signals that have come. -/
def runTraps (runText : TextRunner) : Shell Unit := do
  if (← get).catches then
    discard Jobs.takeSignals
    let s ← get
    if s.arrived ≠ [] then
      let status := s.kept.getD s.status
      modify fun s => { s with kept := some status }
      runArrived runText status (List.range Signal.limit)
      modify fun after => { after with kept := s.kept }

/-! ## Copies of a shell -/

/-- What a copy of a shell begins with: it has no jobs, and only ignores what is ignored. -/
def State.copied (s : State) : State :=
  { s with
    isCopy := true, jobs := [], undo := [], loops := 0, skip := none, kept := none, arrived := []
    traps := s.traps.filter (·.2 = []) }

/-- Let the signals that are caught have their usual effect again. -/
def forgetTraps : List (Nat × Raw) → Shell Unit
  | [] => pure ()
  | (signal, action) :: rest => do
    if signal ≠ 0 ∧ action ≠ [] then discard (Routine.perform (.dispose signal .default))
    forgetTraps rest

/-- What a process in the background begins with: people cannot interrupt it, and the first one of a
    job has nothing to read. -/
def retreat (isFirst : Bool) : Shell Unit := do
  discard (Routine.perform (.dispose Signal.interrupt .ignored))
  discard (Routine.perform (.dispose Signal.quit .ignored))
  if isFirst then
    Routine.close 0
    discard (Routine.openFile ⟨"/dev/null"⟩ { reads := true })

/-- Start a copy of the shell as a process of a job. -/
def fork (runText : TextRunner) (job : Nat) (inBackground : Bool) (act : Shell Unit) :
    Shell Unit := do
  let s ← get
  let isFirst : Bool := (Jobs.find? s.jobs job).all (·.children = [])
  let child : Shell Unit := do
    forgetTraps s.traps
    if inBackground then retreat isFirst
    act
  let process ← Routine.fork (toProcess runText child s.copied)
  Jobs.join job process
  if inBackground then modify fun s => { s with background := some process }

/-- Let a descriptor of a copy lead where another one leads, which is closed. -/
def redirectTo (target source : Nat) : Shell Unit := do
  if source ≠ target then
    discard (Routine.perform (.replace source target))
    Routine.close source

/-! ## Loops -/

/-- What a loop does after a part of it. -/
inductive Turn where
  | on
  | again
  | done
  deriving DecidableEq

/-- What a loop does because of what is passed over. -/
def turn : Shell Turn := do
  let s ← get
  match s.skip with
  | none => return .on
  | some (.goOn n) =>
    if n ≤ 1 then
      set { s with skip := none }
      return .again
    set { s with skip := some (.goOn (n - 1)) }
    return .done
  | some (.leave n) =>
    set { s with skip := if n ≤ 1 then none else some (.leave (n - 1)) }
    return .done
  | some .call | some .callAsIs => return .done

/-- Do something as a loop. -/
def asLoop (act : Shell Nat) : Shell Unit := do
  modify fun s => { s with loops := s.loops + 1 }
  let status ← act
  modify fun s => { s with loops := s.loops - 1, status }

/-- Go round a loop while its test comes out as expected. The result is the status of the last round
    of the body. The fuel bounds the number of rounds. -/
def rounds (test body : Shell Unit) (expected : Bool) : Nat → Nat → Shell Nat
  | 0, status => return status
  | fuel + 1, status => do
    test
    let tested ← get
    match ← turn with
    | .done => return if tested.skip = some .call then tested.status else status
    | .again => rounds test body expected fuel status
    | .on =>
      if decide (tested.status = 0) != expected then return status
      body
      let status := (← get).status
      match ← turn with
      | .done => return status
      | .again | .on => rounds test body expected fuel status

/-- Go round a loop with one value of a variable after the other. -/
def eachOf (name : Raw) (body : Shell Unit) : List Raw → Nat → Shell Nat
  | [], status => return status
  | value :: rest, _ => do
    setVariable name value
    body
    let status := (← get).status
    match ← turn with
    | .done => return status
    | .again | .on => eachOf name body rest status

/-! ## Simple commands -/

/-- How long a simple command takes at least, in microseconds. -/
def commandSpan : Nat := 2

def setStatus (status : Nat) : Shell Unit := modify fun s => { s with status }

/-- Carry out the assignments in front of a command. The result is how they are shown. -/
def assignments (capture : Capture) (isLocal exports : Bool) : List (Raw × Word) → Shell (List Raw)
  | [] => return []
  | (name, word) :: rest => do
    let value ← Expansion.wordText capture .afterColons word
    if isLocal then makeLocal name (some value) true
    else assign name (some value) exports false
    return (name ++ '=' :: value) :: (← assignments capture isLocal exports rest)

/-- What a trace of a command begins with. -/
def traceStart (capture : Capture) : Shell Raw := do
  let text := ((← get).value? "PS4".toList).getD []
  let reader := Reader.pieces (Reader.substitution Routine.plenty) .document Routine.plenty
  modify fun s => { s with isTracing := true }
  let start ← match StateT.run reader { rest := text } with
    | .ok (word, _) => Expansion.wordText capture .nowhere word
    | .error _ => pure text
  modify fun s => { s with isTracing := false }
  return start

/-- Trace a command to where errors went before it was redirected. -/
def trace (capture : Capture) (isRedirected : Bool) (words : List Raw) : Shell Unit := do
  let s ← get
  if s.has 'x' ∧ !s.isTracing then
    let start ← traceStart capture
    let descriptor := match isRedirected, s.undo with
      | true, frame :: _ => ((frame.lookup 2).getD none).getD 2
      | _, _ => 2
    Routine.put descriptor (start ++ [' '].intercalate words ++ ['\n'])

/-- Carry out a program of the shell's own. What it prints is written at its end. -/
def runBuiltin (act : Builtin) (name : Raw) (arguments : List Raw) : Shell Unit := do
  let before := (← get).program
  modify fun s => { s with program := some name }
  let stop? ← tryCatch
    (do
      let status ← act arguments
      let isWritten ← flush
      if !isWritten then warn (name ++ ": I/O error".toList)
      setStatus (if isWritten then status else status ||| 1)
      return none)
    fun stop => return some stop
  modify fun s => { s with program := before, pending := .empty }
  match stop? with
  | some stop => throw stop
  | none => pure ()

/-- How deep calls of functions nest. -/
def callLimit : Nat := 1000

/-- Carry out the body of a function with arguments of its own. -/
def callFunction (body : Shell Unit) (arguments : List Raw) : Shell Unit := do
  let s ← get
  if callLimit ≤ s.calls then
    fail s!"Maximum function recursion depth ({callLimit}) reached".toList
  set { s with
    arguments, optionWord := 1, optionLetter := none, loops := 0, calls := s.calls + 1 }
  let stop? ← tryCatch (do body; return none) fun stop => return some stop
  modify fun after => { after with
    arguments := s.arguments, optionWord := s.optionWord, optionLetter := s.optionLetter
    loops := s.loops, calls := s.calls
    skip := match after.skip with
      | some .call | some .callAsIs => none
      | other => other }
  match stop? with
  | some stop => throw stop
  | none => pure ()

/-- Forget the variables of calls that have ended, down to a number of calls. -/
def popFrames (kept : Nat) : Nat → Shell Unit
  | 0 => pure ()
  | fuel + 1 => do
    if kept < (← get).frames.length then
      popFrame
      popFrames kept fuel

/-- Undo redirections down to a number of them. -/
def undoRedirections (kept : Nat) : Nat → Shell Unit
  | 0 => pure ()
  | fuel + 1 => do
    if kept < (← get).undo.length then
      Redirect.finish false
      undoRedirections kept fuel

/-- Bring back what was before a command, but for redirections that are to stay. -/
def restore (before : State) (isRedirected keeps : Bool) : Shell Unit := do
  let s ← get
  if isRedirected then
    undoRedirections (before.undo.length + 1) s.undo.length
    Redirect.finish keeps
  undoRedirections before.undo.length s.undo.length
  popFrames before.frames.length s.frames.length
  modify fun s => { s with nextLine := before.nextLine }

/-- Become the program that some words call, or start it and wait for it. -/
def runProgram (runText : TextRunner) (isLast : Bool) (words : List Raw) (path : Raw)
    (place : Nat) : Shell Unit := do
  if isLast && !(← get).hasTraps then Search.execute words path place
  else
    let job ← Jobs.add
    fork runText job false (Search.execute words path place)
    setStatus (← Jobs.finish job)

/-! ## Scripts in place -/

/-- The file that a name stands for, which is looked for along the search path if it is no path. -/
def scriptPath (name : Raw) : Shell Raw := do
  if '/' ∈ name then return name
  firstFile (Search.candidates (← Search.searchPath) name)
where
  /-- The first of some paths at which there is a file. -/
  firstFile : List Raw → Shell Raw
    | [] => failOf name "not found"
    | path :: rest => do
      match ← Routine.look ⟨Raw.text path⟩ true with
      | .ok { tree := .file _, .. } | .ok { tree := .program _, .. } => return path
      | _ => firstFile rest

/-- `.`: a file carried out in place. -/
def source (evaluate : Evaluator) : Builtin := fun arguments => do
  match ← Options.takeNone arguments with
  | [] => return 0
  | name :: _ =>
    let path ← scriptPath name
    let descriptor ← openScript path
    modify fun s => { s with program := some path }
    let status ← runFile evaluate descriptor
    Routine.close descriptor
    return status

/-- `eval`: arguments carried out as a script. -/
def evaluateWords (evaluate : Evaluator) (mode : Mode) : Builtin := fun arguments =>
  if arguments = [] then return 0
  else runText evaluate { mode with isLast := false } ([' '].intercalate arguments)

/-- `exec`: the shell becomes a program. -/
def become : Builtin := fun arguments => do
  match ← Options.takeNone arguments with
  | [] => return 0
  | words => Search.execute words (← Search.searchPath) 0

/-- Any program of the shell's own. -/
def builtin (evaluate : Evaluator) (mode : Mode) (name : Raw) : Builtin :=
  match String.ofList name with
  | "." => source evaluate
  | "eval" => evaluateWords evaluate mode
  | "exec" => become
  | other => (Builtin.find? other).getD (Builtin.give 0)

/-! ## Commands -/

/-- Whether the failure of a command ends a shell that minds failures. -/
def endsOnFailure : Command → Bool
  | .simple _ _ _ _ | .subshell _ _ _ => true
  | .pipeline _ inBackground => !inBackground
  | _ => false

/-- The body of the first branch with a pattern that a text matches. -/
def selected? (capture : Capture) (text : Raw) :
    List (List Word × Command) → Shell (Option Command)
  | [] => return none
  | (patterns, body) :: rest => do
    if ← matchesOne patterns then return some body
    selected? capture text rest
where
  /-- Whether the text matches one of some patterns. -/
  matchesOne : List Word → Shell Bool
    | [] => return false
    | pattern :: rest => do
      if (← Expansion.wordPattern capture pattern).fits text then return true
      matchesOne rest

/-- Start the processes of a pipeline, each of which reads what the one before writes. -/
def startAll (runText : TextRunner) (evaluate : Evaluator) (mode : Mode) (job : Nat)
    (inBackground : Bool) : Option Nat → List Command → Shell Unit
  | _, [] => pure ()
  | input?, command :: rest => do
    let pipe? ← if rest.isEmpty then pure none else
      match ← Routine.ask .pipe with
      | .numbers reader writer => pure (some (reader, writer))
      | _ => fail "Pipe call failed".toList
    fork runText job inBackground do
      match pipe? with
      | some (reader, _) => Routine.close reader
      | none => pure ()
      match input? with
      | some input => redirectTo 0 input
      | none => pure ()
      match pipe? with
      | some (_, writer) => redirectTo 1 writer
      | none => pure ()
      evaluate command { mode with isLast := true }
    match input? with
    | some input => Routine.close input
    | none => pure ()
    match pipe? with
    | some (reader, writer) =>
      Routine.close writer
      startAll runText evaluate mode job inBackground (some reader) rest
    | none => pure ()

mutual

/-- Carry out a command. -/
def evaluate : Nat → Evaluator
  | 0 => fun _ _ => Routine.die Signal.segmentation
  | fuel + 1 => fun command mode => do
    let isIdle : Bool := (command matches .nothing) || (← get).has 'n'
    let act : TextRunner := fun text => discard (runText (evaluate fuel) {} text)
    if !isIdle then
      runTraps act
      carryOut fuel command mode
    let after ← get
    let status := if isIdle then 0 else after.status
    runTraps act
    let isFatal : Bool := endsOnFailure command && !mode.isTested && status != 0 &&
      (← get).has 'e'
    if isFatal || mode.isLast then throw .finish

/-- The output of a command. -/
def capture : Nat → Capture
  | 0 => fun _ => Routine.die Signal.segmentation
  | fuel + 1 => fun command => do
    if command matches .nothing then return []
    match ← Routine.ask .pipe with
    | .numbers reader writer =>
      let job ← Jobs.add
      fork (fun text => discard (runText (evaluate fuel) {} text)) job false do
        Routine.close reader
        redirectTo 1 writer
        evaluate fuel command { isLast := true }
      Routine.close writer
      let bytes ← Routine.readAll reader
      Routine.close reader
      let status ← Jobs.finish job
      modify fun s => { s with outputStatus := status }
      return bytes.toOption.elim [] Raw.ofArray
    | _ => fail "Pipe call failed".toList

/-- Carry out a command, and leave its status. -/
def carryOut : Nat → Evaluator
  | 0 => fun _ _ => Routine.die Signal.segmentation
  | fuel + 1 => fun command mode => do
    let run := evaluate fuel
    let takeOutput := capture fuel
    let act : TextRunner := fun text => discard (runText run {} text)
    let part : Mode := { isTested := mode.isTested }
    let tested : Mode := { isTested := true }
    match command with
    | .nothing => pure ()
    | .simple line assigned words redirections =>
      simple fuel line assigned words redirections mode
    | .negation body =>
      run body tested
      modify fun s =>
        if s.skip.isNone then { s with status := if s.status = 0 then 1 else 0 } else s
    | .both first second =>
      run first tested
      let s ← get
      if s.status = 0 ∧ s.skip.isNone then run second mode
    | .either first second =>
      run first tested
      let s ← get
      if s.status ≠ 0 ∧ s.skip.isNone then run second mode
    | .sequence first second =>
      run first part
      if (← get).skip.isNone then run second mode
    | .conditional test yes no =>
      run test tested
      let s ← get
      if s.skip.isNone then
        if s.status = 0 then run yes mode
        else
          match no with
          | .nothing => setStatus 0
          | _ => run no mode
    | .loop expected test body =>
      asLoop (rounds (run test tested) (run body part) expected Routine.plenty 0)
    | .each line name words body =>
      modify fun s => { s with line }
      let values ← Expansion.allFields takeOutput words
      asLoop (eachOf name (run body part) values 0)
    | .select line word branches =>
      modify fun s => { s with line }
      let text ← Expansion.wordText takeOutput .atStart word
      match ← selected? takeOutput text branches with
      | some .nothing | none => setStatus 0
      | some body => run body mode
    | .function name body =>
      modify fun s =>
        { s with functions := (name, body) :: s.functions.filter (·.1 ≠ name), status := 0 }
    | .redirected line body redirections =>
      modify fun s => { s with line }
      let before ← get
      let ready ← Redirect.allReady takeOutput redirections
      if ← Redirect.begin takeOutput ready then run body part else setStatus 2
      restore before true false
    | .subshell line body redirections =>
      modify fun s => { s with line }
      let ready ← Redirect.allReady takeOutput redirections
      let inside : Shell Unit := do
        Redirect.applyAll takeOutput ready
        run body { mode with isLast := true }
      if mode.isLast && !(← get).hasTraps then inside
      else
        let job ← Jobs.add
        fork act job false inside
        setStatus (← Jobs.finish job)
    | .background line body redirections =>
      modify fun s => { s with line }
      let ready ← Redirect.allReady takeOutput redirections
      let job ← Jobs.add
      fork act job true do
        Redirect.applyAll takeOutput ready
        run body { isLast := true }
      setStatus 0
    | .pipeline commands inBackground =>
      let job ← Jobs.add
      startAll act run mode job inBackground none commands
      setStatus (← if inBackground then pure 0 else Jobs.finish job)

/-- Carry out a simple command. -/
def simple : Nat → Nat → List (Raw × Word) → List Word → List Redirection → Mode → Shell Unit
  | 0, _, _, _, _, _ => Routine.die Signal.segmentation
  | fuel + 1, line, assigned, words, redirections, mode => do
    let takeOutput := capture fuel
    let act : TextRunner := fun text => discard (runText (evaluate fuel) {} text)
    Routine.spend commandSpan
    modify fun s => { s with line, outputStatus := 0 }
    let before ← get
    let i ← Invocation.ofWords takeOutput words
    if i.isLocal then pushFrame
    let ready ← Redirect.allReady takeOutput redirections
    let isRedirected := !ready.isEmpty
    if ← Redirect.begin takeOutput ready then
      let exports := i.isExec && 1 < i.call.length
      let shown ← assignments takeOutput i.isLocal exports assigned
      trace takeOutput isRedirected (shown ++ i.fields)
      if i.call = [] then setStatus (← get).outputStatus
      else
        match ← i.locate with
        | .nothing => setStatus 127
        | .program place =>
          runProgram act mode.isLast i.call (← i.path) (place.getD 0)
        | .own =>
          let run := builtin (evaluate fuel) mode i.name
          tryCatch (runBuiltin run i.name i.call.tail) fun stop =>
            if stop = .error ∧ i.isSpecial ≠ some true then pure () else throw stop
          Jobs.reapEnded Routine.plenty
        | .function body =>
          callFunction (evaluate fuel body { isTested := mode.isTested }) i.call.tail
          Jobs.reapEnded Routine.plenty
    else
      setStatus 2
      if i.isSpecial = some true then throw .error
    restore before isRedirected i.isExec

end

/-- More than commands can nest before a shell breaks down. -/
def depthLimit : Nat := 100000

/-- Carry out a command as deep as it may nest. -/
def evaluateFully : Evaluator := evaluate depthLimit

end Conformance.Shell
