import Conformance.Shell.Command

/-!
# Tokens

A script is read into tokens from left to right: words, signs, redirections and the ends of lines. A
command in a word is read by the grammar, so every reader of words is given the reader of such a
command, which is told whether a bracket has to close it. A reader that comes to the end of the text
while more of it may follow gives up, and is tried again when there is more. A reader that calls
itself has a fuel argument.
-/

namespace Conformance.Shell

/-- What is wrong with the text of a script. -/
inductive SyntaxError where
  /-- A token that cannot stand here, and the only one that can if there is just one. -/
  | unexpected (found : String) (expected : Option String)
  | unterminatedQuotes
  | unterminatedBackquotes
  | missingBrace
  | missingBrackets
  | badLoopVariable
  | badFunctionName
  deriving DecidableEq, Repr

def SyntaxError.message : SyntaxError → String
  | unexpected found none => s!"{found} unexpected"
  | unexpected found (some expected) => s!"{found} unexpected (expecting {expected})"
  | unterminatedQuotes => "Unterminated quoted string"
  | unterminatedBackquotes => "EOF in backquote substitution"
  | missingBrace => "Missing '\x7d'"
  | missingBrackets => "Missing '))'"
  | badLoopVariable => "Bad for loop variable"
  | badFunctionName => "Bad function name"

/-- A token. -/
inductive Token where
  | endOfFile
  | newline
  | redirection (descriptor : Nat) (sign : String)
  | word (word : Word)
  | sign (text : String)
  | keyword (text : String)
  deriving Inhabited

/-- A token as it is named in an error. -/
def Token.shown : Token → String
  | endOfFile => "end of file"
  | newline => "newline"
  | redirection _ _ => "redirection"
  | word _ => "word"
  | sign text | keyword text => "\"" ++ text ++ "\""

/-- A text in the script that a redirection has announced: it ends before a line that equals the
    mark. -/
structure Announced where
  number : Nat
  mark : Raw
  dropsTabs : Bool
  /-- Whether expansions in the text are carried out. -/
  expands : Bool
  deriving DecidableEq

/-- What is left of a script, and what has been found in it so far. -/
structure Source where
  rest : Raw
  line : Nat := 1
  /-- Whether no more text can follow. -/
  isWhole : Bool := true
  /-- A token that was read ahead. -/
  ahead : Option Token := none
  /-- The texts that were announced on this line, the last one first. -/
  announced : List Announced := []
  /-- The texts that were read, each under its number. -/
  documents : List (Nat × Word) := []
  nextDocument : Nat := 0
  aliases : List (Raw × Raw) := []
  /-- The aliases whose text is being read, each with how much is left when that text is over, and
      whether the word after it may be an alias too. -/
  expanding : List (Raw × Nat × Bool) := []
  /-- Whether the next word may be an alias because of the text of an alias before it. -/
  mayFollow : Bool := false
  /-- The announced text that is being read, and whether it is over. -/
  mark : Option Announced := none
  isOver : Bool := false

/-- Why a reader gives up. -/
inductive Refusal where
  | incomplete
  | malformed (line : Nat) (error : SyntaxError) (rest : Raw)

/-- A reader gives what it found and what is left, or gives up. -/
abbrev Reader (α : Type) := StateT Source (Except Refusal) α

namespace Reader

def backquote : Char := Char.ofNat 0x60
def singleQuote : Char := Char.ofNat 0x27
def openBrace : Char := Char.ofNat 0x7b
def closeBrace : Char := Char.ofNat 0x7d

def isBlank (c : Char) : Bool := c == ' ' || c == '\t'

/-- The characters that end a word. -/
def endsWord (c : Char) : Bool :=
  isBlank c || c ∈ ['\n', ';', '&', '|', '<', '>', '(', ')']

/-- The parameters that are named by a sign. -/
def isSpecial (c : Char) : Bool := c.isDigit || c ∈ ['?', '$', '#', '@', '*', '!', '-']

/-- Refuse the script. -/
def refuse {α : Type} (error : SyntaxError) : Reader α := do
  let s ← get
  throw (.malformed s.line error s.rest)

/-- Give up at the end of the text if more may follow. -/
def requireMore : Reader Unit := do
  if !(← get).isWhole then throw .incomplete

/-- Take the next characters. -/
def skip (n : Nat) : Reader Unit :=
  modify fun s =>
    { s with rest := s.rest.drop n, line := s.line + (s.rest.take n).count '\n' }

/-- The next character. A backslash at the end of a line is passed over with it. -/
def look : Reader (Option Char) := do
  let s ← get
  go s.rest.length
where
  go : Nat → Reader (Option Char)
    | 0 => do
      requireMore
      return (← get).rest.head?
    | fuel + 1 => do
      match (← get).rest with
      | ['\\'] =>
        requireMore
        return some '\\'
      | '\\' :: '\n' :: _ =>
        skip 2
        go fuel
      | c :: _ => return some c
      | [] =>
        requireMore
        return none

/-- The next character of an announced text or of any other one. -/
def lookWithin : Reader (Option Char) := do if (← get).isOver then return none else look

/-- Take a character whose line is not counted. -/
def pass : Reader Unit := modify fun s => { s with rest := s.rest.drop 1 }

/-- Take the longest run of characters of one class. -/
def span (accepts : Char → Bool) : Reader Raw := do
  let rest := (← get).rest
  let taken := rest.takeWhile accepts
  skip taken.length
  if taken.length = rest.length then requireMore
  return taken

/-- Take this character, if it comes next. -/
def accept (c : Char) : Reader Bool := do
  if (← look) = some c then
    skip 1
    return true
  return false

/-- Take characters of one class with backslashes at the ends of lines among them. -/
def spanOver (accepts : Char → Bool) : Nat → Reader Raw
  | 0 => return []
  | fuel + 1 => do
    match ← look with
    | some c =>
      if accepts c then
        skip 1
        return c :: (← spanOver accepts fuel)
      return []
    | none => return []

/-- Take the line at which an announced text ends, if that comes next. -/
def endAtMark : Reader Unit := do
  match (← get).mark with
  | none => pure ()
  | some announced =>
    if announced.dropsTabs then discard (span (· == '\t'))
    let rest := (← get).rest
    if announced.mark.isPrefixOf rest then
      match rest.drop announced.mark.length with
      | '\n' :: _ =>
        skip (announced.mark.length + 1)
        modify fun s => { s with isOver := true }
      | [] =>
        requireMore
        skip announced.mark.length
        modify fun s => { s with isOver := true }
      | _ => pure ()
    else if rest.isPrefixOf announced.mark then requireMore

/-- Take the longest run of characters of one class, in an announced text to the end of the line. -/
def spanWithin (accepts : Char → Bool) : Reader Raw := do
  if (← get).mark.isNone then span accepts
  else
    let line ← span fun c => accepts c && c != '\n'
    if (← get).rest.head? = some '\n' ∧ accepts '\n' then
      skip 1
      endAtMark
      return line ++ ['\n']
    return line

/-- More than any script is long. -/
def plenty : Nat := 0x100000000

/-! ## Words -/

/-- The text between single quotes, from after the first. -/
def quotedText : Reader Raw := do
  let text ← span (· ≠ singleQuote)
  if (← get).rest = [] then refuse .unterminatedQuotes
  skip 1
  return text

/-- The script between backquotes. A backslash goes if it stands before a dollar, a backquote or a
    backslash, or before a double quote in double quotes. -/
def oldSubstitution (quoted : Bool) : Nat → Reader Raw
  | 0 => refuse .unterminatedBackquotes
  | fuel + 1 => do
    match ← look with
    | none => refuse .unterminatedBackquotes
    | some c =>
      skip 1
      if c = backquote then return []
      else if c = '\\' then
        match (← get).rest with
        | d :: _ =>
          skip 1
          let hidden := d = '$' || d = '\\' || d = backquote || (quoted && d = '"')
          let more ← oldSubstitution quoted fuel
          return if hidden then d :: more else c :: d :: more
        | [] =>
          requireMore
          refuse .unterminatedBackquotes
      else return c :: (← oldSubstitution quoted fuel)

/-- Read a text on its own, its lines counted from one. -/
def within {α : Type} (text : Raw) (reader : Reader α) : Reader α := do
  let s ← get
  let inner : Source := {
    rest := text, documents := s.documents, nextDocument := s.nextDocument, aliases := s.aliases }
  match StateT.run reader inner with
  | .ok (found, after) =>
    set { s with documents := after.documents, nextDocument := after.nextDocument }
    return found
  | .error e => throw e

/-- Where the pieces of a word stand, which says how they end. -/
inductive Place where
  | word
  /-- In braces, out of quotes. -/
  | braces
  /-- In double quotes, which may themselves be in braces. -/
  | quotes (inBraces : Bool)
  /-- In braces that are in double quotes, where further quotes may be open. -/
  | quotedBraces (isOpen : Bool)
  /-- A text in the script itself, to its end. -/
  | document
  /-- An arithmetic expression in which so many brackets are open. -/
  | arithmetic (depth : Nat)
  deriving DecidableEq

namespace Place

/-- Whether what stands there counts as quoted. -/
def isQuoted : Place → Bool
  | word | braces => false
  | quotes _ | quotedBraces _ | document | arithmetic _ => true

/-- Whether a backslash in a quoted place hides the meaning of a character. -/
def hides (place : Place) (c : Char) : Bool :=
  c == '$' || c == '\\' || c == backquote || (c == '"' && place != .document) ||
    (c == closeBrace && match place with
      | .quotes inBraces => inBraces
      | .quotedBraces _ => true
      | .word | .braces | .document | .arithmetic _ => false)

/-- Whether a character means only itself. -/
def isPlain (place : Place) (c : Char) : Bool :=
  if c == '\\' || c == '$' || c == backquote then false
  else
    match place with
    | .word => !(endsWord c || c == '"' || c == singleQuote)
    | .braces => !(c == '"' || c == singleQuote || c == closeBrace)
    | .quotes _ => c != '"'
    | .quotedBraces isOpen => !(c == '"' || (c == closeBrace && !isOpen))
    | .document => true
    | .arithmetic _ => !(c == '(' || c == ')')

/-- What is wrong if the text ends there, which may be an announced one. -/
def endError? (isAnnounced : Bool) : Place → Option SyntaxError
  | .word | .document => none
  | .braces => some .missingBrace
  | .quotes _ => if isAnnounced then none else some .unterminatedQuotes
  | .quotedBraces _ => some (if isAnnounced then .missingBrace else .unterminatedQuotes)
  | .arithmetic _ => some .missingBrackets

end Place

/-- A literal text in front of a word. -/
def consLiteral (text : Raw) (quoted : Bool) (word : Word) : Word :=
  match word with
  | .literal more q :: rest =>
    if q = quoted then .literal (text ++ more) q :: rest else .literal text quoted :: word
  | _ => .literal text quoted :: word

/-- What the sign beside the name of a parameter says about the word after it. -/
def substitute? : Char → Option Substitute
  | '-' => some .useDefault
  | '+' => some .alternative
  | '?' => some .demand
  | '=' => some .assignDefault
  | _ => none

mutual

/-- The pieces up to the end that their place has. A closing quote, brace or bracket is taken
    too. -/
def pieces (nested : Bool → Reader Command) (place : Place) : Nat → Reader Word
  | 0 => refuse .unterminatedQuotes
  | fuel + 1 => do
    let quoted := place.isQuoted
    match ← lookWithin with
    | none =>
      match place.endError? (← get).mark.isSome with
      | some error => refuse error
      | none => return []
    | some c =>
      if place.isPlain c then
        let text ← spanWithin place.isPlain
        return consLiteral text quoted (← pieces nested place fuel)
      else if place = .word ∧ endsWord c then return []
      else
        skip 1
        if c = '\\' then
          match (← get).rest with
          | d :: _ =>
            skip 1
            let text := if quoted && !place.hides d then [c, d] else [d]
            return consLiteral text true (← pieces nested place fuel)
          | [] => return consLiteral [c] true (← pieces nested place fuel)
        else if c = '$' then
          let piece ← expansion nested place fuel
          let more ← pieces nested place fuel
          match piece with
          | .literal text q => return consLiteral text q more
          | _ => return piece :: more
        else if c = backquote then
          let script ← oldSubstitution quoted fuel
          let command ← within script (nested false)
          return .output command quoted :: (← pieces nested place fuel)
        else if c = singleQuote then
          let text ← quotedText
          return .mark :: .literal text true :: .mark :: (← pieces nested place fuel)
        else if c = closeBrace then return []
        else
          match place with
          | .word | .braces =>
            let inner ← pieces nested (.quotes (place = .braces)) fuel
            return .mark :: inner ++ .mark :: (← pieces nested place fuel)
          | .quotes _ | .document => return []
          | .quotedBraces isOpen => return .mark :: (← pieces nested (.quotedBraces !isOpen) fuel)
          | .arithmetic depth =>
            if c = '(' then
              return consLiteral [c] true (← pieces nested (.arithmetic (depth + 1)) fuel)
            match depth with
            | 0 =>
              if ← accept ')' then return []
              return consLiteral [c] true (← pieces nested (.arithmetic 0) fuel)
            | depth + 1 => return consLiteral [c] true (← pieces nested (.arithmetic depth) fuel)

/-- What a dollar sign stands for. -/
def expansion (nested : Bool → Reader Command) (place : Place) : Nat → Reader Piece
  | 0 => refuse .unterminatedQuotes
  | fuel + 1 => do
    let quoted := place.isQuoted
    match ← look with
    | some '(' =>
      skip 1
      if ← accept '(' then return .arithmetic (← pieces nested (.arithmetic 0) fuel) quoted
      let before ← get
      modify fun s => { s with announced := [], mark := none }
      let command ← nested true
      modify fun s => { s with announced := before.announced, mark := before.mark }
      return .output command quoted
    | some c =>
      if c = openBrace then
        skip 1
        inBraces nested place fuel
      else if isNameStart c then return .parameter (← spanOver isNameChar fuel) quoted
      else if isSpecial c then
        skip 1
        return .parameter [c] quoted
      else return .literal ['$'] quoted
    | none => return .literal ['$'] quoted

/-- A parameter in braces, from after the opening one. -/
def inBraces (nested : Bool → Reader Command) (place : Place) : Nat → Reader Piece
  | 0 => refuse .missingBrace
  | fuel + 1 => do
    let quoted := place.isQuoted
    let word (isPattern : Bool) : Reader Word :=
      let inner : Place := if quoted && !isPattern then .quotedBraces false else .braces
      pieces nested inner fuel
    let wrong : Reader Piece := return .substitute [] .unknown false (← word false) quoted
    let named : Reader Raw := do
      match ← look with
      | some c =>
        if isNameStart c then spanOver isNameChar fuel
        else if c.isDigit then spanOver Char.isDigit fuel
        else return []
      | none => return []
    let operation (name : Raw) : Reader Piece := do
      match ← look with
      | none => wrong
      | some c =>
        if c = closeBrace then
          skip 1
          return .parameter name quoted
        else if c = '%' ∨ c = '#' then
          skip 1
          let longest ← accept c
          return .substitute name (.cut (c = '%') longest) false (← word true) quoted
        else
          pass
          let emptyToo := c = ':'
          let sign ← if emptyToo then do
              let d ← look
              pass
              pure d
            else pure (some c)
          match sign.bind substitute? with
          | some how => return .substitute name how emptyToo (← word false) quoted
          | none => wrong
    match ← named with
    | [] =>
      match ← look with
      | none => wrong
      | some c =>
        if c = closeBrace then wrong
        else
          pass
          if c ≠ '#' then
            if isSpecial c then operation [c] else wrong
          else
            let size (name : Raw) : Reader Piece := do
              if ← accept closeBrace then return .length name quoted
              wrong
            match ← named with
            | [] =>
              match ← look with
              | none => operation [c]
              | some d =>
                if d ≠ closeBrace ∧ (← followedByBrace) then
                  skip 1
                  if isSpecial d then size [d] else wrong
                else operation [c]
            | name => size name
    | name => operation name
where
  /-- Whether a closing brace stands after the next character. -/
  followedByBrace : Reader Bool := do
    match (← get).rest with
    | _ :: d :: _ => return d = closeBrace
    | _ =>
      requireMore
      return false

end

/-! ## Texts in the script itself -/

/-- The text that is the mark of an announced one. A mark that would have to be expanded is on no
    line. -/
def markOf (word : Word) : Raw :=
  word.flatMap fun
    | .literal text _ => text
    | .mark => []
    | .parameter _ _ | .substitute _ _ _ _ _ | .length _ _ | .output _ _ | .arithmetic _ _ => ['\n']

/-- The lines of an announced text without expansions up to its mark, which is taken too. -/
def documentLines : Nat → Reader Raw
  | 0 => return []
  | fuel + 1 => do
    endAtMark
    let s ← get
    if s.isOver then return []
    let line ← span (· ≠ '\n')
    let hasEnd := (← get).rest ≠ []
    if !hasEnd then return line
    skip 1
    return line ++ '\n' :: (← documentLines fuel)

/-- Read a text that was announced. -/
def document (nested : Bool → Reader Command) (announced : Announced) : Reader Unit := do
  modify fun s => { s with mark := some announced, isOver := false }
  let word ← if announced.expands then do
      endAtMark
      pieces nested .document plenty
    else do pure [.literal (← documentLines plenty) true]
  modify fun s =>
    { s with
      mark := none, isOver := false, documents := (announced.number, word) :: s.documents }

/-- Read texts one after the other. -/
def documentsInOrder (nested : Bool → Reader Command) : List Announced → Reader Unit
  | [] => pure ()
  | first :: rest => do
    document nested first
    documentsInOrder nested rest

/-- Read the texts that were announced on the line that has just ended. -/
def readAnnounced (nested : Bool → Reader Command) : Reader Unit := do
  let announced := (← get).announced
  if announced ≠ [] then
    modify fun s => { s with announced := [] }
    documentsInOrder nested announced.reverse

/-! ## Tokens -/

/-- Pass over blanks, continued lines and a comment. -/
def skipBlanks : Nat → Reader Unit
  | 0 => pure ()
  | fuel + 1 => do
    match ← look with
    | some ' ' | some '\t' =>
      skip 1
      skipBlanks fuel
    | some '#' => discard (span (· ≠ '\n'))
    | _ => pure ()

/-- Note which aliases have been read to their end. -/
def endAliases : Reader Unit := do
  let s ← get
  if s.expanding.isEmpty then return
  let left := s.rest.length
  let (ended, open_) := s.expanding.partition fun (_, after, _) => left ≤ after
  set { s with
    expanding := open_
    mayFollow := s.mayFollow || ended.any fun (_, _, endsInBlank) => endsInBlank }

/-- The next sign of one or two characters. -/
def doubled (first : Char) : Reader Token := do
  skip 1
  if ← accept first then return .sign (String.ofList [first, first])
  return .sign (String.singleton first)

/-- The sign of a redirection. -/
def redirectionSign : Reader String := do
  let c ← look
  skip 1
  match c with
  | some '>' =>
    if ← accept '>' then return ">>"
    if ← accept '|' then return ">|"
    if ← accept '&' then return ">&"
    return ">"
  | _ =>
    if ← accept '<' then
      if ← accept '-' then return "<<-"
      return "<<"
    if ← accept '&' then return "<&"
    if ← accept '>' then return "<>"
    return "<"

/-- The descriptor that a digit before the sign of a redirection names. -/
def descriptor? : Reader (Option Nat) := do
  match (← get).rest with
  | d :: e :: _ =>
    if d.isDigit ∧ (e = '<' ∨ e = '>') then return some (d.toNat - '0'.toNat)
    return none
  | [d] =>
    if d.isDigit then requireMore
    return none
  | [] => return none

/-- Read a token. -/
def lex (nested : Bool → Reader Command) (fuel : Nat) : Reader Token := do
  skipBlanks plenty
  endAliases
  match ← look with
  | none => return .endOfFile
  | some '\n' =>
    skip 1
    readAnnounced nested
    return .newline
  | some '&' => doubled '&'
  | some '|' => doubled '|'
  | some ';' => doubled ';'
  | some '(' =>
    skip 1
    return .sign "("
  | some ')' =>
    skip 1
    return .sign ")"
  | some c =>
    let descriptor ← descriptor?
    if descriptor.isSome then skip 1
    if descriptor.isSome ∨ c = '<' ∨ c = '>' then
      let sign ← redirectionSign
      let standard := if sign.toList.head? = some '<' then 0 else 1
      return .redirection (descriptor.getD standard) sign
    return .word (← pieces nested .word fuel)

/-- The words that mean something where a command may begin. -/
def keywords : List String := [
  "!", "case", "do", "done", "elif", "else", "esac", "fi", "for", "if", "in", "then", "until",
  "while", "\x7b", "\x7d"]

/-- How a token is read. -/
structure Manner where
  /-- Ends of lines are passed over. -/
  pastLines : Bool := false
  /-- Keywords are told from other words. -/
  keywords : Bool := false
  /-- Aliases are replaced by their texts. -/
  aliases : Bool := false

/-- Where a command may begin. -/
def Manner.command : Manner := { keywords := true, aliases := true }

/-- Where a command may begin, on this line or on a later one. -/
def Manner.lateCommand : Manner := { pastLines := true, keywords := true, aliases := true }

/-- The text of an alias that is not being read already. -/
def alias? (name : Raw) : Reader (Option Raw) := do
  let s ← get
  if s.expanding.any (·.1 = name) then return none
  return s.aliases.lookup name

/-- Put the text of an alias in front of what is left. -/
def pushAlias (name text : Raw) : Reader Unit :=
  modify fun s =>
    let endsInBlank := text.getLast?.any isBlank
    { s with
      rest := text ++ s.rest
      expanding := (name, s.rest.length, endsInBlank) :: s.expanding }

/-- Take the next token. -/
def token (nested : Bool → Reader Command) (manner : Manner) : Nat → Reader Token
  | 0 => return .endOfFile
  | fuel + 1 => do
    let first ← match (← get).ahead with
      | some token =>
        modify fun s => { s with ahead := none }
        pure token
      | none => lex nested fuel
    match first with
    | .newline => if manner.pastLines then token nested manner fuel else return .newline
    | .word w =>
      let mayBeAlias := manner.aliases || (← get).mayFollow
      modify fun s => { s with mayFollow := false }
      match Word.plain? w with
      | none => return .word w
      | some text =>
        let name := String.ofList text
        if manner.keywords ∧ name ∈ keywords then return .keyword name
        match ← (if mayBeAlias then alias? text else pure none) with
        | some value =>
          pushAlias text value
          token nested manner fuel
        | none => return .word w
    | other => return other

/-- Put a token back. -/
def putBack (token : Token) : Reader Unit := modify fun s => { s with ahead := some token }

/-- Refuse a token. -/
def unexpected {α : Type} (found : Token) (expected : Option Token) : Reader α :=
  refuse (.unexpected found.shown (expected.map Token.shown))

end Reader
end Conformance.Shell
