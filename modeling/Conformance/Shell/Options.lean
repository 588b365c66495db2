import Conformance.Shell.State

/-!
# Options

The options of a shell and those of its own programs. An option of the shell has a letter, a name,
or both; options that have only a name are kept under a letter that nobody can give.
-/

namespace Conformance.Shell.Options

/-! ## Options of programs -/

/-- Whether a letter is an option, given the letters that are, each with a colon after it if it has
    a value. If so, the result says whether it has one. -/
def letter? (letter : Char) : List Char → Option Bool
  | [] => none
  | c :: rest =>
    if c = letter ∧ c ≠ ':' then some (rest.head? == some ':') else letter? letter rest

/-- Read the letters of an option word, given the words after it. -/
def takeLetters (letters : List Char) :
    List Char → List Raw → Shell (List (Char × Raw) × List Raw)
  | [], rest => return ([], rest)
  | c :: more, rest => do
    match letter? c letters with
    | none => fail ("Illegal option -".toList ++ [c])
    | some false =>
      let (given, rest) ← takeLetters letters more rest
      return ((c, []) :: given, rest)
    | some true =>
      match more, rest with
      | [], [] => fail ("No arg for -".toList ++ c :: " option".toList)
      | [], value :: rest => return ([(c, value)], rest)
      | value, rest => return ([(c, value)], rest)

/-- Read the options at the start of some words. The fuel bounds their number. -/
def takeWords (letters : List Char) : Nat → List Raw → Shell (List (Char × Raw) × List Raw)
  | 0, words => return ([], words)
  | _, [] => return ([], [])
  | fuel + 1, word :: rest => do
    match word with
    | ['-', '-'] => return ([], rest)
    | '-' :: c :: more =>
      let (given, rest) ← takeLetters letters (c :: more) rest
      let (others, rest) ← takeWords letters fuel rest
      return (given ++ others, rest)
    | _ => return ([], word :: rest)

/-- The options at the start of some words, each with its value, and the words after them. -/
def take (letters : String) (words : List Raw) : Shell (List (Char × Raw) × List Raw) :=
  takeWords letters.toList (words.length + 1) words

/-- The words after the options of a program that has none. -/
def takeNone (words : List Raw) : Shell (List Raw) := do return (← take "" words).2

/-! ## Options of the shell -/

/-- The names of the options with their letters, in the order in which they are listed. -/
def table : List (String × Char) := [
  ("errexit", 'e'), ("noglob", 'f'), ("ignoreeof", 'I'), ("interactive", 'i'), ("monitor", 'm'),
  ("noexec", 'n'), ("stdin", 's'), ("xtrace", 'x'), ("verbose", 'v'), ("vi", 'V'), ("emacs", 'E'),
  ("noclobber", 'C'), ("allexport", 'a'), ("notify", 'b'), ("nounset", 'u'), ("privileged", 'p'),
  ("nolog", '1'), ("debug", '2')]

/-- Set an option, or take it away. Only one way to edit lines can be set. -/
def put (letter : Char) (isOn : Bool) : Shell Unit :=
  modify fun s =>
    let others := s.options.filter (· ≠ letter)
    if !isOn then { s with options := others }
    else if letter = 'V' then { s with options := letter :: others.filter (· ≠ 'E') }
    else if letter = 'E' then { s with options := letter :: others.filter (· ≠ 'V') }
    else { s with options := letter :: others }

def sign (isOn : Bool) : Char := if isOn then '-' else '+'

/-- Set the option with a letter. -/
def putLetter (letter : Char) (isOn : Bool) : Shell Unit :=
  if table.any (·.2 = letter) ∧ !letter.isDigit then put letter isOn
  else fail ("Illegal option ".toList ++ [sign isOn, letter])

/-- Set the option with a name. -/
def putName (name : Raw) (isOn : Bool) : Shell Unit :=
  match table.lookup (String.ofList name) with
  | some letter => put letter isOn
  | none => fail ("Illegal option ".toList ++ sign isOn :: "o ".toList ++ name)

/-- The column in which it is said whether an option is set. -/
def valueColumn : Nat := 16

/-- List the options: for people, or as commands that set them again. -/
def list (forPeople : Bool) : Shell Unit := do
  let s ← get
  let line : String × Char → Raw := fun (name, letter) =>
    if forPeople then
      name.toList ++ List.replicate (valueColumn - name.length) ' ' ++
        (if s.has letter then "on\n" else "off\n").toList
    else "set ".toList ++ sign (s.has letter) :: "o ".toList ++ name.toList ++ ['\n']
  if forPeople then emitText "Current option settings\n"
  emit (table.flatMap line)

/-- What is left of some words after the options at their start. -/
structure Given where
  words : List Raw
  /-- Whether a script is given as a word, which only a shell that starts asks about. -/
  hasScript : Bool := false
  /-- Whether two dashes ended the options. -/
  isMarked : Bool := false

/-- Set the options of one word, given the words after it. -/
def putLetters (starts isOn : Bool) : List Char → Given → Shell Given
  | [], given => return given
  | 'o' :: more, given => do
    match given.words with
    | [] => list isOn
    | name :: _ => putName name isOn
    putLetters starts isOn more { given with words := given.words.tail }
  | c :: more, given => do
    if c = 'c' ∧ starts then putLetters starts isOn more { given with hasScript := true }
    else
      if !(c = 'l' && starts) then putLetter c isOn
      putLetters starts isOn more given

/-- Set the options at the start of some words. The fuel bounds their number. -/
def putWords (starts : Bool) : Nat → Given → Shell Given
  | 0, given => return given
  | fuel + 1, given => do
    match given.words with
    | ['-'] :: rest =>
      if !starts then
        put 'x' false
        put 'v' false
      return { given with words := rest }
    | ['-', '-'] :: rest => return { given with words := rest, isMarked := true }
    | ('-' :: letters) :: rest =>
      putWords starts fuel (← putLetters starts true letters { given with words := rest })
    | ('+' :: letters) :: rest =>
      putWords starts fuel (← putLetters starts false letters { given with words := rest })
    | _ => return given

/-- Set the options at the start of some words. There is nobody who could control jobs. -/
def putAll (starts : Bool) (words : List Raw) : Shell Given := do
  let given ← putWords starts (words.length + 1) { words }
  if (← get).has 'm' then
    put 'm' false
    warn "can't access tty; job control turned off".toList
  return given

end Conformance.Shell.Options
