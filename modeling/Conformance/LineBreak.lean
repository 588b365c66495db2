import Conformance.LineClass

/-!
# Line breaks

Where a line of text may be broken: the rules of the Unicode line breaking algorithm. A `Context` is
what the text before a position says about a break there; the rules look at it, at the class of the
character that follows, and at the class of the next one that is no mark.
-/

namespace Conformance.LineBreak

open LineClass

/-- What the text before a position says about a break there. -/
structure Context where
  /-- The class before the position and any spaces; none at the start of the text. -/
  last : Option LineClass := none
  /-- Whether spaces stand before the position. -/
  spaced : Bool := false
  /-- Whether the character before the position joins what follows it. -/
  joins : Bool := false
  /-- Whether the last class is a quotation mark that opens a text in quotes. -/
  opensQuote : Bool := false
  /-- Whether the last class is a hyphen after a Hebrew letter. -/
  hebrewHyphen : Bool := false
  /-- Whether the last of an odd number of regional letters stands before the position. -/
  oddRegional : Bool := false
  /-- Whether the last class is a virama after the start of a syllable. -/
  stacked : Bool := false
  deriving Repr

def isQuotation (kind : LineClass) : Bool := kind ∈ [quotation, quotationStart, quotationEnd]

def isOpening (kind : LineClass) : Bool := kind ∈ [opening, wideOpening]

def isLetter (kind : LineClass) : Bool := kind ∈ [alphabetic, hebrew, dottedCircle]

def isIdeographic (kind : LineClass) : Bool :=
  kind ∈ [ideographic, reservedEmoji, emojiBase, emojiModifier]

def isHangul (kind : LineClass) : Bool :=
  kind ∈ [leadingJamo, vowelJamo, trailingJamo, openSyllable, closedSyllable]

/-- Whether a syllable of a script that stacks consonants starts with the class. -/
def startsSyllable (kind : LineClass) : Bool := kind ∈ [aksara, aksaraStart, dottedCircle]

/-- Whether a character belongs to the one before it, if there is one. -/
def isMark (kind : LineClass) : Bool := kind ∈ [combining, joiner]

/-- Whether a class ends a line. -/
def endsLine (kind : LineClass) : Bool := kind ∈ [lineEnd, carriageReturn, lineFeed]

/-- Whether a mark stands on its own after such a class. -/
def bearsNoMark (kind : LineClass) : Bool := endsLine kind || kind ∈ [space, zeroWidthSpace]

/-- Whether an opening quotation mark after such a class opens a text in quotes. -/
def mayPrecedeQuote (kind : LineClass) : Bool :=
  bearsNoMark kind || isOpening kind || isQuotation kind || kind = glue

/-- Whether a closing quotation mark before such a class closes a text in quotes. -/
def mayFollowQuote (kind : LineClass) : Bool :=
  bearsNoMark kind || isQuotation kind ||
    kind ∈ [glue, wordJoiner, closing, bracket, exclamation, separator, slash]

/-- Whether a class stays with what is before it, spaces or not. -/
def staysBehind (kind : LineClass) : Bool :=
  kind ∈ [wordJoiner, closing, bracket, exclamation, separator, slash]

/-- Whether a pair of classes makes up a number. -/
def joinsNumber (before after : LineClass) : Bool :=
  match before, after with
  | closing, afterNumber | bracket, afterNumber | closing, beforeNumber | bracket, beforeNumber
  | numeric, afterNumber | numeric, beforeNumber | afterNumber, numeric | beforeNumber, numeric
  | hyphen, numeric | separator, numeric | numeric, numeric | slash, numeric => true
  | afterNumber, kind | beforeNumber, kind => isOpening kind
  | _, _ => false

/-- Whether a pair of classes makes up a syllable of Hangul. -/
def joinsSyllable (before after : LineClass) : Bool :=
  match before with
  | leadingJamo => after ∈ [leadingJamo, vowelJamo, openSyllable, closedSyllable]
  | vowelJamo | openSyllable => after ∈ [vowelJamo, trailingJamo]
  | trailingJamo | closedSyllable => after = trailingJamo
  | _ => false

/-- Whether a break between neighbours without spaces is ruled out. The class of the next character
    that is no mark comes last. -/
def joined (c : Context) (before after : LineClass) (following : Option LineClass) : Bool :=
  isQuotation before || isQuotation after ||
  (before ≠ contingent && after ≠ contingent &&
    (after ∈ [breakAfter, hyphen, nonstarter, inseparable] || before = breakBefore ||
      c.hebrewHyphen || (before = slash && after = hebrew) ||
      (isLetter before && after = numeric) || (before = numeric && isLetter after) ||
      (before = beforeNumber && isIdeographic after) ||
      (isIdeographic before && after = afterNumber) ||
      (before ∈ [beforeNumber, afterNumber] && isLetter after) ||
      (isLetter before && after ∈ [beforeNumber, afterNumber]) ||
      joinsNumber before after || joinsSyllable before after ||
      (isHangul before && after = afterNumber) || (before = beforeNumber && isHangul after) ||
      (isLetter before && isLetter after) ||
      (before = aksaraPrebase && startsSyllable after) ||
      (startsSyllable before && after ∈ [viramaFinal, virama]) ||
      (c.stacked && after ∈ [aksara, dottedCircle]) ||
      (startsSyllable before && startsSyllable after && following = some viramaFinal) ||
      (before = separator && isLetter after) ||
      ((isLetter before || before = numeric) && after = opening) ||
      (before = bracket && (isLetter after || after = numeric)) ||
      (c.oddRegional && after = regional) ||
      (before ∈ [emojiBase, reservedEmoji] && after = emojiModifier)))

/-- Whether a line may be broken between two classes that are no marks. The class of the next
    character that is no mark comes last. -/
def separable (c : Context) (before after : LineClass) (following : Option LineClass) : Bool :=
  let glued := !c.spaced &&
    (before ∈ [wordJoiner, glue] ||
      (after = glue && (before ∉ [breakAfter, hyphen] || c.hebrewHyphen)))
  !(glued || staysBehind after || isOpening before || c.opensQuote ||
    (after = quotationEnd && following.all mayFollowQuote) ||
    (before ∈ [closing, bracket] && after = nonstarter) ||
    (before = breakBoth && after = breakBoth)) &&
    (c.spaced || !joined c before after following)

/-- Whether a line may be broken before a character of some class. The class of the next one that is
    no mark comes last. -/
def Context.breaks (c : Context) (after : LineClass) (following : Option LineClass) : Bool :=
  let before := c.last.getD space
  if c.last = none ∧ !c.spaced then false
  else if endsLine before ∧ !c.spaced then !(before = carriageReturn && after = lineFeed)
  else if endsLine after ∨ after ∈ [space, zeroWidthSpace] then false
  else if c.joins then false
  else if before = zeroWidthSpace then true
  else if isMark after then c.spaced && separable c before alphabetic following
  else separable c before after following

/-- The context after a character that is no space and no mark on another one. -/
def Context.afterBase (c : Context) (kind : LineClass) : Context :=
  let before := if c.spaced then some space else c.last
  let follows (kind : LineClass) : Bool := before = some kind
  { last := some kind
    opensQuote := kind = quotationStart && before.all mayPrecedeQuote
    hebrewHyphen := follows hebrew && kind ∈ [hyphen, breakAfter]
    oddRegional := kind = regional && !(follows regional && c.oddRegional)
    stacked := kind = virama && before.any startsSyllable }

/-- The context after one more character. -/
def Context.after (c : Context) (kind : LineClass) : Context :=
  if kind = space then { c with spaced := true, joins := false }
  else if isMark kind then
    let alone := c.spaced || c.last.all bearsNoMark
    { (if alone then c.afterBase alphabetic else c) with joins := kind = joiner }
  else c.afterBase kind

/-- Whether a line may be broken before each character of a text, given their classes. -/
def before (c : Context) : List LineClass → List Bool
  | [] => []
  | kind :: rest =>
    c.breaks kind (rest.find? fun next => !isMark next) :: before (c.after kind) rest

/-- Whether a line may be broken before each character of a text. -/
def opportunities (text : List Char) : List Bool := before {} (text.map LineClass.ofChar)

end Conformance.LineBreak
