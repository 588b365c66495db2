import Conformance.Raw

/-!
# Shell commands

The commands of a script, with the words that they are made of. A word is a list of pieces, of which
some stand for texts that are known only when the command is carried out.
-/

namespace Conformance.Shell

/-- What a word beside the name of a parameter does. -/
inductive Substitute where
  /-- The word stands for a missing value. -/
  | useDefault
  /-- The word stands for a missing value and is assigned. -/
  | assignDefault
  /-- The word says what is wrong if there is no value. -/
  | demand
  /-- The word stands for a value that is there. -/
  | alternative
  /-- The word is a pattern, and what matches it is cut off. -/
  | cut (atEnd longest : Bool)
  /-- None of these; it is an error to get there. -/
  | unknown
  deriving DecidableEq, Repr

/-- What a redirection does with a descriptor. -/
inductive Direction where
  | input
  | output
  /-- Output to a file that may be there whatever the options say. -/
  | overwrite
  | append
  | inputOutput
  /-- The descriptor becomes another name of a second one, or is closed. -/
  | duplicate
  deriving DecidableEq, Inhabited, Repr

mutual

/-- A part of a word. Parts in quotes are not split into fields. -/
inductive Piece where
  | literal (text : Raw) (quoted : Bool)
  /-- A quotation mark. -/
  | mark
  | parameter (name : Raw) (quoted : Bool)
  | substitute (name : Raw) (how : Substitute) (emptyToo : Bool) (word : List Piece) (quoted : Bool)
  | length (name : Raw) (quoted : Bool)
  /-- The output of a command. -/
  | output (command : Command) (quoted : Bool)
  | arithmetic (expression : List Piece) (quoted : Bool)

inductive Redirection where
  | file (descriptor : Nat) (direction : Direction) (target : List Piece)
  /-- The descriptor yields a text that the script holds under a number. -/
  | document (descriptor : Nat) (number : Nat)

/-- A command, with the line that it stands on if that matters. -/
inductive Command where
  | nothing
  | simple (line : Nat) (assignments : List (Raw × List Piece)) (words : List (List Piece))
      (redirections : List Redirection)
  /-- Commands that each read what the one before writes. -/
  | pipeline (commands : List Command) (inBackground : Bool)
  | negation (command : Command)
  | both (first second : Command)
  | either (first second : Command)
  | sequence (first second : Command)
  | background (line : Nat) (command : Command) (redirections : List Redirection)
  | conditional (test yes no : Command)
  /-- Repeats the body while the test succeeds, or while it fails. -/
  | loop (expected : Bool) (test body : Command)
  /-- Carries out the body for each word. -/
  | each (line : Nat) (name : Raw) (words : List (List Piece)) (body : Command)
  /-- Carries out the command of the first pattern that matches the word. -/
  | select (line : Nat) (word : List Piece) (branches : List (List (List Piece) × Command))
  | function (name : Raw) (body : Command)
  | redirected (line : Nat) (command : Command) (redirections : List Redirection)
  | subshell (line : Nat) (command : Command) (redirections : List Redirection)

end

instance : Inhabited Command := ⟨.nothing⟩

abbrev Word := List Piece

/-- The text of a word that is written without quotes and expansions. -/
def Word.plain? (w : Word) : Option Raw :=
  List.flatten <$> w.mapM fun
    | .literal text false => some text
    | .literal _ true | .mark | .parameter _ _ | .substitute _ _ _ _ _ | .length _ _
    | .output _ _ | .arithmetic _ _ => none

def isNameStart (c : Char) : Bool := c.isAlpha || c == '_'

def isNameChar (c : Char) : Bool := c.isAlphanum || c == '_'

/-- Whether a text can name a variable or a function. -/
def isName (raw : Raw) : Bool := raw.head?.any isNameStart && raw.all isNameChar

/-- The names of the shell's own programs that no function can have. -/
def specialNames : List String := [
  ".", ":", "break", "continue", "eval", "exec", "exit", "export", "local", "readonly", "return",
  "set", "shift", "times", "trap", "unset"]

/-- The word for all arguments, each a field of its own. -/
def Word.arguments : Word := [.mark, .parameter ['@'] true, .mark]

/-- The name at the start of a word that is followed by an equals sign, and the word after that. -/
def Word.assignment? (w : Word) : Option (Raw × Word) :=
  match w with
  | .literal text false :: rest =>
    let name := text.takeWhile isNameChar
    match text.drop name.length with
    | '=' :: value =>
      if isName name then
        some (name, if value = [] then rest else .literal value false :: rest)
      else none
    | _ => none
  | _ => none

end Conformance.Shell
