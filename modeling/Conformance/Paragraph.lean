import Conformance.Alphanumeric
import Conformance.ColumnWidth
import Conformance.LineBreak

/-!
# Paragraphs

A paragraph is text filled into lines of a limited width. Each line takes as many words as fit;
words are broken at hyphens between letters or digits, and anywhere if they are wider than a line.
Escape sequences take no room and stay in one piece.
-/

namespace Conformance.Paragraph

open ColumnWidth (ofText)

/-- A part of a line that is not broken, and the number of spaces after it. -/
structure Fragment where
  text : List Char
  spaces : Nat
  deriving DecidableEq, Repr

/-- The width of a fragment with the spaces after it. -/
def Fragment.extent (f : Fragment) : Nat := ofText f.text + f.spaces

/-- The fragment that a word and the spaces after it make. -/
def Fragment.ofWord (word : List Char) : Fragment :=
  let text := (word.reverse.dropWhile (· == ' ')).reverse
  ⟨text, word.length - text.length⟩

/-! ## Words -/

def softHyphen : Char := Char.ofNat 0xAD

/-- Whether a line is broken after such a character only where its word is broken. -/
def endsPart (c : Char) : Bool := c = '-' || c = softHyphen

/-- Forget the last position at which a line may be broken. -/
def dropLastBreak (breaks : List Bool) : List Bool :=
  match breaks.reverse.span (!·) with
  | (after, _ :: before) => (after ++ false :: before).reverse
  | (_, []) => breaks

/-- Whether a word begins at each character of a text. No word begins after a hyphen, and a text
    that ends in one loses the last break it has. -/
def wordStarts (text : List Char) : List Bool :=
  let afterPart := false :: text.map endsPart
  let starts := (LineBreak.opportunities text).zipWith (fun mayBreak part => mayBreak && !part)
    afterPart
  if text.getLast?.any endsPart then dropLastBreak starts else starts

/-- A text cut where words begin, from what there is of the first word, last character first. The
    hidden characters before a shown one go with it. -/
def cutAt (word hidden : List Char) : List (Char × Bool) → List Bool → List (List Char)
  | (c, false) :: rest, starts => cutAt word (c :: hidden) rest starts
  | (c, true) :: rest, true :: starts =>
    word.reverse :: cutAt (c :: hidden) [] rest starts
  | (c, true) :: rest, starts => cutAt (c :: hidden ++ word) [] rest starts.tail
  | [], _ => if hidden ++ word = [] then [] else [(hidden ++ word).reverse]

/-- The words of a line of text, each with the spaces after it. -/
def words (text : List Char) : List (List Char) :=
  cutAt [] [] (EscapeSequence.mark text) (wordStarts (EscapeSequence.visible text))

/-! ## Parts of words -/

/-- A text cut after every hyphen between two letters or digits, from what there is of the first
    part, last character first. -/
def cutHyphens (part : List Char) : List Char → List (List Char)
  | [] => [part.reverse]
  | '-' :: c :: rest =>
    if part.head?.any Alphanumeric.isAlphanumeric && Alphanumeric.isAlphanumeric c then
      ('-' :: part).reverse :: cutHyphens [] (c :: rest)
    else cutHyphens ('-' :: part) (c :: rest)
  | c :: rest => cutHyphens (c :: part) rest

/-- A text cut into parts of no more than `limit` columns, from what there is of the first part,
    last character first, and its width. -/
def cutWide (limit : Nat) (part : List Char) (width : Nat) :
    List (Char × Bool) → List (List Char)
  | [] => [part.reverse]
  | (c, false) :: rest => cutWide limit (c :: part) width rest
  | (c, true) :: rest =>
    let own := ColumnWidth.ofChar c
    if 0 < width ∧ limit < width + own then part.reverse :: cutWide limit [c] own rest
    else cutWide limit (c :: part) (width + own) rest

/-- The parts of a fragment, the last of which has its spaces after it. -/
def Fragment.split (cut : List Char → List (List Char)) (f : Fragment) : List Fragment :=
  let parts := cut f.text
  parts.dropLast.map (⟨·, 0⟩) ++ [⟨parts.getLast?.getD [], f.spaces⟩]

/-- The fragments of a line of text. -/
def fragments (limit : Nat) (text : List Char) : List Fragment :=
  let parts := ((words text).map Fragment.ofWord).flatMap (Fragment.split (cutHyphens []))
  parts.flatMap fun f =>
    if limit < ofText f.text then f.split fun t => cutWide limit [] 0 (EscapeSequence.mark t)
    else [f]

/-! ## Lines -/

/-- Fragments put into lines, each of which takes as many as fit. The first line has some already,
    last one first, which have some width. -/
def fitFrom (limit : Nat) (line : List Fragment) (width : Nat) :
    List Fragment → List (List Fragment)
  | [] => [line.reverse]
  | f :: rest =>
    if line ≠ [] ∧ limit < width + ofText f.text then
      line.reverse :: fitFrom limit [f] f.extent rest
    else fitFrom limit (f :: line) (width + f.extent) rest

/-- The text of a line, without the spaces at its end. -/
def lineText (line : List Fragment) : List Char :=
  (line.dropLast.flatMap fun f => f.text ++ List.replicate f.spaces ' ') ++
    ((line.getLast?.map Fragment.text).getD [])

/-- The lines of a text, without indentation. -/
def lines (limit : Nat) (text : String) : List String :=
  (text.toList.splitOn '\n').flatMap fun line =>
    (fitFrom limit [⟨[], 0⟩] 0 (fragments limit line)).map fun l => .ofList (lineText l)

/-- A text filled into lines, indented alike, of no more than `width` columns. -/
def fill (width : Nat) (first others text : String) : String :=
  match lines (width - ofText first.toList) text with
  | [] => first
  | line :: rest => "\n".intercalate ((first ++ line) :: rest.map (others ++ ·))

end Conformance.Paragraph
