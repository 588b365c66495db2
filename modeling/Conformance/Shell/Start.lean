import Conformance.Shell.Evaluation

/-!
# The shell as a program

A shell takes over the variables of its environment, reads its options, and runs a script: one that
is given as a word, one in a file, or what it reads.
-/

namespace Conformance.Shell

/-- The variables that a shell has in any case. -/
def firstVariables : List (Raw × Variable) :=
  [("IFS", " \t\n"), ("PATH", String.ofList Search.standardPath), ("PS1", "# "), ("PS2", "> "),
    ("PS4", "+ "), ("OPTIND", "1")].map
    fun (name, value) => (name.toList, { value := some value.toList })

/-- Take over the variables of an environment. -/
def takeOver (s : State) (environment : List Raw) : State :=
  environment.foldl
    (fun s entry =>
      match split entry with
      | (name, some value) =>
        if isName name then s.alter name (some { value := some value, isExported := true })
        else s
      | (_, none) => s)
    s

/-- Give a variable a value that it has whatever the environment says. -/
def State.reset (s : State) (name value : String) : State :=
  let before := (s.stored? name.toList).getD { value := none }
  s.alter name.toList (some { before with value := some value.toList })

/-- The directory that a shell takes itself to be in: what the environment says, if that is true. -/
def firstDirectory : Shell Raw := do
  let physical ← Builtin.physicalDirectory
  match (← get).value? "PWD".toList with
  | some ('/' :: rest) =>
    let path : Path := ⟨Raw.text ('/' :: rest)⟩
    match ← Routine.look path true, ← Routine.look ⟨"."⟩ true with
    | .ok there, .ok here =>
      return if there.tree.isDirectory && there.location == here.location then '/' :: rest
        else physical
    | _, _ => return physical
  | _ => return physical

/-- Set up the variables that depend on where the shell runs. -/
def setUp : Shell Unit := do
  match ← Routine.ask .self with
  | .numbers own parent =>
    modify fun s => { s.reset "PPID" (toString parent) with root := own }
  | _ => pure ()
  let directory ← firstDirectory
  modify fun s => { s with directory }
  assign "PWD".toList (some directory) true false

/-- Carry out what a shell is called with: options, a script and its arguments. -/
def obey (words : List Raw) : Shell Unit := do
  setUp
  let given ← Options.putAll true words
  let setNames (name? : Option Raw) (arguments : List Raw) : Shell Unit :=
    modify fun s => { s with name := name?.getD s.name, arguments }
  let readInput : Shell Unit := discard (runFile evaluateFully 0)
  match given.hasScript, given.words with
  | true, [] => fail "-c requires an argument".toList
  | true, script :: rest =>
    setNames rest.head? rest.tail
    let readsOn := (← get).has 's'
    discard (runText evaluateFully { isLast := !readsOn } script)
    if readsOn then readInput
  | false, words =>
    let readsInput := words = [] || (← get).has 's'
    if readsInput then
      Options.put 's' true
      setNames none words
      readInput
    else
      let descriptor ← openScript (words.headD [])
      setNames words.head? words.tail
      discard (runFile evaluateFully descriptor)

/-- The process that a shell is when it is called with some words in an environment. -/
def start (words environment : List Raw) : Process :=
  let s : State := { name := words.headD [], store := firstVariables }
  let ready := ((takeOver s environment).reset "IFS" " \t\n").reset "OPTIND" "1"
  toProcess (fun text => discard (runText evaluateFully {} text)) (obey words.tail) ready

end Conformance.Shell
