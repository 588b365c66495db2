import Conformance.Shell.Token

/-!
# The grammar of scripts

A script is read line by line, each line as far as its commands reach. What is found is a command,
together with the texts that the script holds for it.
-/

namespace Conformance.Shell

namespace Reader

/-- Where a list of commands stands, which says how it ends. -/
inductive ListPlace where
  /-- On a line of the script: it ends with the line. -/
  | line
  /-- Between keywords: it is not empty. -/
  | block
  /-- Where it may be empty. -/
  | branch
  deriving DecidableEq

/-- Whether a token ends a list of commands. -/
def endsList : Token → Bool
  | .endOfFile => true
  | .sign text => text ∈ [")", ";;"]
  | .keyword text =>
    text ∈ ["do", "done", "elif", "else", "esac", "fi", "then", String.singleton closeBrace]
  | .newline | .redirection _ _ | .word _ => false

def isKeyword (text : String) : Token → Bool
  | .keyword found => found == text
  | _ => false

def isSign (text : String) : Token → Bool
  | .sign found => found == text
  | _ => false

/-- Two commands one after the other. -/
def andThen (first second : Command) : Command :=
  match second with
  | .nothing => first
  | _ => .sequence first second

/-- A command that the script does not wait for. -/
def inBackground : Command → Command
  | .pipeline commands _ => .pipeline commands true
  | .redirected line command redirections => .background line command redirections
  | other => .background 0 other []

/-- A list of commands, or any other reader, up to a keyword or sign that is taken too. -/
def closed {α : Type} (nested : Bool → Reader Command) (fuel : Nat) (closing : Token)
    (reader : Reader α) : Reader α := do
  let found ← reader
  let last ← token nested {} fuel
  if last.shown = closing.shown then return found else unexpected last (some closing)

/-- The target of a redirection. -/
def target (nested : Bool → Reader Command) (descriptor : Nat) (sign : String) (fuel : Nat) :
    Reader Redirection := do
  let direction : Direction := match sign with
    | "<" => .input
    | "<>" => .inputOutput
    | ">>" => .append
    | ">|" => .overwrite
    | "<&" | ">&" => .duplicate
    | _ => .output
  match ← token nested {} fuel with
  | .word w =>
    if sign = "<<" ∨ sign = "<<-" then
      let number := (← get).nextDocument
      let announced : Announced := {
        number, mark := markOf w, dropsTabs := sign = "<<-", expands := (isUnquoted w) }
      modify fun s =>
        { s with nextDocument := number + 1, announced := announced :: s.announced }
      return .document descriptor number
    return .file descriptor direction w
  | other => unexpected other none
where
  /-- Whether no part of a word is quoted. -/
  isUnquoted (w : Word) : Bool := w.all fun
    | .mark | .literal _ true => false
    | _ => true

/-- The redirections after a compound command. -/
def redirections (nested : Bool → Reader Command) : Nat → Reader (List Redirection)
  | 0 => return []
  | fuel + 1 => do
    match ← token nested .command fuel with
    | .redirection descriptor sign =>
      let first ← target nested descriptor sign fuel
      return first :: (← redirections nested fuel)
    | other =>
      putBack other
      return []

/-- A command with the redirections after it. -/
def withRedirections (nested : Bool → Reader Command) (line : Nat) (command : Command)
    (fuel : Nat) : Reader Command := do
  match ← redirections nested fuel with
  | [] => return command
  | more =>
    match command with
    | .subshell line body _ => return .subshell line body more
    | other => return .redirected line other more

/-- The words that a variable runs through, up to the end of the line. -/
def values (nested : Bool → Reader Command) : Nat → Reader (List Word)
  | 0 => return []
  | fuel + 1 => do
    match ← token nested {} fuel with
    | .word w => return w :: (← values nested fuel)
    | .newline | .sign ";" => return []
    | other => unexpected other none

/-- The pattern that a token stands for. -/
def patternOf : Token → Word
  | .word w => w
  | .keyword text => [.literal text.toList false]
  | .endOfFile | .newline | .redirection _ _ | .sign _ => []

/-- The patterns of a branch after its first one, up to the bracket after them. -/
def patterns (nested : Bool → Reader Command) : Nat → Reader (List Word)
  | 0 => return []
  | fuel + 1 => do
    match ← token nested {} fuel with
    | .sign "|" =>
      let next ← token nested {} fuel
      return patternOf next :: (← patterns nested fuel)
    | .sign ")" => return []
    | other => unexpected other (some (.sign ")"))

mutual

/-- A command in a word, up to a closing bracket that is taken too, or to the end of the text. -/
def substitution : Nat → Bool → Reader Command
  | 0, _ => refuse .missingBrackets
  | fuel + 1, isBracketed => do
    let found ← list .branch false fuel
    if isBracketed then
      let last ← token (substitution fuel) {} fuel
      if !isSign ")" last then unexpected last (some (.sign ")"))
    return found

/-- A list of commands. The token that ends it is put back, unless it is the end of the line of the
    script. -/
def list (place : ListPlace) (started : Bool) : Nat → Reader Command
  | 0 => return .nothing
  | fuel + 1 => do
    let nested := substitution fuel
    let first ← token nested (if place = .line then .command else .lateCommand) fuel
    match place, first with
    | .line, .newline => return .nothing
    | _, _ =>
      putBack first
      let mayEnd := match place with
        | .line => false
        | .block => started
        | .branch => true
      if mayEnd && endsList first then return .nothing
      if first matches .endOfFile then return .nothing
      let command ← andOr fuel
      let last ← token nested {} fuel
      match last with
      | .sign "&" => return andThen (inBackground command) (← list place true fuel)
      | .sign ";" => return andThen command (← list place true fuel)
      | .newline =>
        putBack last
        return andThen command (← list place true fuel)
      | .endOfFile =>
        putBack last
        return command
      | _ =>
        if place = .line then unexpected last none
        putBack last
        return command

/-- Pipelines joined by `&&` and `||`. -/
def andOr : Nat → Reader Command
  | 0 => return .nothing
  | fuel + 1 => do joined (← pipeline {} fuel) fuel

/-- The rest of pipelines joined by `&&` and `||`. -/
def joined (first : Command) : Nat → Reader Command
  | 0 => return first
  | fuel + 1 => do
    match ← token (substitution fuel) {} fuel with
    | .sign "&&" => joined (.both first (← pipeline .lateCommand fuel)) fuel
    | .sign "||" => joined (.either first (← pipeline .lateCommand fuel)) fuel
    | other =>
      putBack other
      return first

/-- Commands joined by bars, negated or not. -/
def pipeline (manner : Manner) : Nat → Reader Command
  | 0 => return .nothing
  | fuel + 1 => do
    let nested := substitution fuel
    let first ← token nested manner fuel
    if isKeyword "!" first then
      let line := (← get).line
      let body ← command line (← token nested .command fuel) fuel
      return .negation (← piped [body] fuel)
    else
      let body ← command (← get).line first fuel
      piped [body] fuel

/-- The rest of commands joined by bars, of which some are read already, the last one first. -/
def piped (before : List Command) : Nat → Reader Command
  | 0 => return .nothing
  | fuel + 1 => do
    let nested := substitution fuel
    match ← token nested {} fuel with
    | .sign "|" =>
      let line := (← get).line
      let next ← command line (← token nested .lateCommand fuel) fuel
      piped (next :: before) fuel
    | other =>
      putBack other
      match before with
      | [single] => return single
      | _ => return .pipeline before.reverse false

/-- One command, from its first token on. -/
def command (line : Nat) (first : Token) : Nat → Reader Command
  | 0 => return .nothing
  | fuel + 1 => do
    let nested := substitution fuel
    let block := list .block false fuel
    match first with
    | .keyword "if" => withRedirections nested line (← conditional fuel) fuel
    | .keyword "while" => withRedirections nested line (← repetition true fuel) fuel
    | .keyword "until" => withRedirections nested line (← repetition false fuel) fuel
    | .keyword "for" =>
      let name ← match ← token nested {} fuel with
        | .word w =>
          match Word.plain? w with
          | some name => if isName name then pure name else refuse .badLoopVariable
          | none => refuse .badLoopVariable
        | _ => refuse .badLoopVariable
      let words ← match ← token nested .lateCommand fuel with
        | .keyword "in" => values nested fuel
        | .sign ";" => pure [Word.arguments]
        | other =>
          putBack other
          pure [Word.arguments]
      let opening ← token nested .lateCommand fuel
      if !isKeyword "do" opening then unexpected opening (some (.keyword "do"))
      let body ← closed nested fuel (.keyword "done") block
      withRedirections nested line (.each line name words body) fuel
    | .keyword "case" =>
      let subject ← match ← token nested {} fuel with
        | .word w => pure w
        | other => unexpected other (some (.word []))
      let opening ← token nested .lateCommand fuel
      if !isKeyword "in" opening then unexpected opening (some (.keyword "in"))
      let branches ← branches fuel
      withRedirections nested line (.select line subject branches) fuel
    | .sign "(" =>
      let body ← closed nested fuel (.sign ")") block
      withRedirections nested line (.subshell line body []) fuel
    | .word _ | .redirection _ _ =>
      putBack first
      simple (← get).line [] [] [] fuel
    | other =>
      if isKeyword (String.singleton openBrace) other then
        let body ← closed nested fuel (.keyword (String.singleton closeBrace)) block
        withRedirections nested line body fuel
      else unexpected other none

/-- A loop, from after its keyword. -/
def repetition (expected : Bool) : Nat → Reader Command
  | 0 => return .nothing
  | fuel + 1 => do
    let nested := substitution fuel
    let test ← closed nested fuel (.keyword "do") (list .block false fuel)
    let body ← closed nested fuel (.keyword "done") (list .block false fuel)
    return .loop expected test body

/-- The tests and branches of a conditional, from after its keyword. -/
def conditional : Nat → Reader Command
  | 0 => return .nothing
  | fuel + 1 => do
    let nested := substitution fuel
    let test ← closed nested fuel (.keyword "then") (list .block false fuel)
    let yes ← list .block false fuel
    match ← token nested {} fuel with
    | .keyword "elif" => return .conditional test yes (← conditional fuel)
    | .keyword "else" =>
      let no ← closed nested fuel (.keyword "fi") (list .block false fuel)
      return .conditional test yes no
    | .keyword "fi" => return .conditional test yes .nothing
    | other => unexpected other (some (.keyword "fi"))

/-- The branches of a choice, up to the keyword after them. -/
def branches : Nat → Reader (List (List Word × Command))
  | 0 => return []
  | fuel + 1 => do
    let nested := substitution fuel
    let between : Manner := { pastLines := true, keywords := true }
    let first ← token nested between fuel
    if isKeyword "esac" first then return []
    let first ← if isSign "(" first then token nested {} fuel else pure first
    let more ← patterns nested fuel
    let body ← list .branch false fuel
    let branch := (patternOf first :: more, body)
    match ← token nested between fuel with
    | .sign ";;" => return branch :: (← branches fuel)
    | .keyword "esac" => return [branch]
    | other => unexpected other (some (.sign ";;"))

/-- The rest of a simple command, of which some parts are read already, the last ones first. -/
def simple (line : Nat) (assignments : List (Raw × Word)) (words : List Word)
    (redirections : List Redirection) : Nat → Reader Command
  | 0 => return .nothing
  | fuel + 1 => do
    let nested := substitution fuel
    match ← token nested { aliases := words.isEmpty } fuel with
    | .redirection descriptor sign =>
      let r ← target nested descriptor sign fuel
      simple line assignments words (r :: redirections) fuel
    | .word w =>
      match words, w.assignment? with
      | [], some assignment => simple line (assignment :: assignments) [] redirections fuel
      | _, _ => simple line assignments (w :: words) redirections fuel
    | other =>
      match words, assignments, redirections, isSign "(" other with
      | [w], [], [], true =>
        let second ← token nested {} fuel
        if !isSign ")" second then unexpected second (some (.sign ")"))
        match Word.plain? w with
        | some name =>
          if !isName name || String.ofList name ∈ specialNames then refuse .badFunctionName
          let line := (← get).line
          return .function name (← command line (← token nested .lateCommand fuel) fuel)
        | none => refuse .badFunctionName
      | _, _, _, _ =>
        putBack other
        return .simple line assignments.reverse words.reverse redirections.reverse

end

/-- The commands of the next line, unless the script is over. -/
def commandLine : Reader (Option Command) := do
  let command ← list .line false plenty
  let atEnd := (← get).ahead matches some .endOfFile
  match atEnd, command with
  | true, .nothing => return none
  | _, _ => return some command

end Reader
end Conformance.Shell
