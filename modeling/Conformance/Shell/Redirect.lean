import Conformance.Shell.Expansion

/-!
# Redirections

Descriptors are led elsewhere for the time of a command. What they led to before is put aside under
a higher number and brought back afterwards.
-/

namespace Conformance.Shell.Redirect

/-- A redirection whose target is known. -/
inductive Ready where
  | file (descriptor : Nat) (direction : Direction) (target : Raw)
  /-- The descriptor becomes another name of a second one, or is closed. -/
  | copy (descriptor : Nat) (source : Option Nat)
  /-- The descriptor yields the text that a word stands for. -/
  | text (descriptor : Nat) (word : Word)

/-- Find out the target of a redirection. -/
def ready (capture : Capture) : Redirection → Shell Ready
  | .document descriptor number => do
    return .text descriptor (((← get).documents.lookup number).getD [])
  | .file descriptor direction target => do
    let text ← Expansion.wordText capture .atStart target
    if direction ≠ .duplicate then return .file descriptor direction text
    match text with
    | ['-'] => return .copy descriptor none
    | [d] =>
      if d.isDigit then return .copy descriptor (some (d.toNat - '0'.toNat)) else wrong
    | _ => wrong
where
  wrong : Shell Ready := do
    modify fun s => { s with line := s.nextLine }
    fail "Syntax error: Bad fd number".toList

/-- Find out the targets of redirections. -/
def allReady (capture : Capture) : List Redirection → Shell (List Ready)
  | [] => return []
  | first :: rest => do
    let r ← ready capture first
    return r :: (← allReady capture rest)

/-! ## Opening -/

/-- What is said about a file that cannot be opened. -/
def refusal (error : SystemError) (creates : Bool) : String :=
  match error with
  | .notFound | .notDirectory => if creates then "Directory nonexistent" else "No such file"
  | other => other.text

/-- Complain about a file that cannot be opened. -/
def refuse {α : Type} (target : Raw) (error : SystemError) (creates : Bool) : Shell α :=
  fail ((if creates then "cannot create " else "cannot open ").toList ++ target ++
    s!": {refusal error creates}".toList)

/-- Open a file. -/
def openFile (target : Raw) (how : OpenMode) : Shell Nat := do
  match ← Routine.openFile ⟨Raw.text target⟩ how with
  | .ok descriptor => return descriptor
  | .error error => refuse target error how.creates

/-- Open the target of a redirection. Files that are there are kept if an option says so. -/
def openTarget (direction : Direction) (target : Raw) : Shell Nat := do
  let fresh : OpenMode := { writes := true, creates := true, empties := true }
  match direction with
  | .input | .duplicate => openFile target { reads := true }
  | .inputOutput => openFile target { reads := true, writes := true, creates := true }
  | .append => openFile target { writes := true, creates := true, appends := true }
  | .overwrite => openFile target fresh
  | .output =>
    if !(← get).has 'C' then openFile target fresh
    else
      match ← Routine.look ⟨Raw.text target⟩ true with
      | .error _ => openFile target { writes := true, creates := true, isNew := true }
      | .ok info =>
        match info.tree with
        | .file _ | .program _ | .closed _ (some false) => refuse target .exists true
        | .device _ | .pipe _ | .link _ | .closed _ _ | .directory _ =>
          openFile target { writes := true }

/-- The most bytes of a text that are written before it is read. -/
def textLimit : Nat := 4096

/-- A descriptor that yields a text. -/
def openText (text : Raw) : Shell Nat := do
  match ← Routine.ask .pipe with
  | .numbers reader writer =>
    if text.length ≤ textLimit then Routine.put writer text
    else
      discard (Routine.fork (Routine.toProcess do
        Routine.close reader
        Routine.put writer text
        return 0))
    Routine.close writer
    return reader
  | _ => fail "Pipe call failed".toList

/-! ## Carrying out -/

/-- The least number of a descriptor that has been put aside. -/
def firstAside : Nat := 10

/-- Put a descriptor aside, once for all redirections of a command. -/
def putAside (descriptor : Nat) : Shell Unit := do
  match (← get).undo with
  | [] => pure ()
  | frame :: rest =>
    if (frame.lookup descriptor).isSome then pure ()
    else
      let saved? ← match ← Routine.askNumber (.copy descriptor firstAside true) with
        | .ok saved =>
          Routine.close descriptor
          pure (some saved)
        | .error _ => pure none
      modify fun s => { s with undo := ((descriptor, saved?) :: frame) :: rest }

/-- Note that a descriptor was closed before. -/
def noteClosed (descriptor : Nat) : Shell Unit :=
  modify fun s =>
    match s.undo with
    | [] => s
    | frame :: rest =>
      if (frame.lookup descriptor).isSome then s
      else { s with undo := ((descriptor, none) :: frame) :: rest }

/-- Let a descriptor lead where another one leads. -/
def duplicate (descriptor source : Nat) : Shell Unit := do
  match ← Routine.perform (.replace source descriptor) with
  | .ok () => pure ()
  | .error error => fail (shownNat source ++ s!": {error.text}".toList)

/-- Carry out a redirection. -/
def apply (capture : Capture) (r : Ready) : Shell Unit := do
  let lead (descriptor opened : Nat) : Shell Unit := do
    if opened = descriptor then noteClosed descriptor
    else
      putAside descriptor
      duplicate descriptor opened
      Routine.close opened
  match r with
  | .file descriptor direction target => lead descriptor (← openTarget direction target)
  | .text descriptor word =>
    lead descriptor (← openText (← Expansion.wordText capture .nowhere word))
  | .copy descriptor none =>
    putAside descriptor
    Routine.close descriptor
  | .copy descriptor (some source) =>
    if source ≠ descriptor then
      putAside descriptor
      duplicate descriptor source

/-- Carry out redirections one after the other. -/
def applyAll (capture : Capture) : List Ready → Shell Unit
  | [] => pure ()
  | first :: rest => do
    apply capture first
    applyAll capture rest

/-- Carry out redirections that can be undone. The result is whether that went well. -/
def begin (capture : Capture) (redirections : List Ready) : Shell Bool := do
  if redirections.isEmpty then return true
  modify fun s => { s with undo := [] :: s.undo }
  tryCatch (do applyAll capture redirections; return true) fun
    | .error => return false
    | stop => throw stop

/-- Bring back what a descriptor led to. -/
def bringBack (keeps : Bool) : Nat × Option Nat → Shell Unit
  | (descriptor, none) => if keeps then pure () else Routine.close descriptor
  | (descriptor, some saved) => do
    if !keeps then discard (Routine.perform (.replace saved descriptor))
    Routine.close saved

/-- Bring back what descriptors led to. -/
def bringAllBack (keeps : Bool) : List (Nat × Option Nat) → Shell Unit
  | [] => pure ()
  | first :: rest => do
    bringBack keeps first
    bringAllBack keeps rest

/-- Undo the last redirections, or let them stay for good. -/
def finish (keeps : Bool) : Shell Unit := do
  match (← get).undo with
  | [] => pure ()
  | frame :: rest =>
    modify fun s => { s with undo := rest }
    bringAllBack keeps frame

/-- Undo all redirections. -/
def finishAll : Shell Unit := do
  let frames := (← get).undo
  modify fun s => { s with undo := [] }
  bringAllBack false frames.flatten

end Conformance.Shell.Redirect
