/-!
# Ranges of characters

A property of characters is given by ranges of code points, written as text: hexadecimal numbers
between blanks, one for a single character and two joined by a hyphen for a range. A `CodeTable`
holds such ranges in order and finds the one that a character lies in.
-/

namespace Conformance

/-- The characters from one code point to another, both included, and what is said of them. -/
structure CodeRange (α : Type) where
  first : Nat
  last : Nat
  value : α
  deriving Repr

namespace CodeRange

def hexDigit (c : Char) : Nat := if c.isDigit then c.toNat - '0'.toNat else c.toNat - 'A'.toNat + 10

/-- The number that hexadecimal digits write. -/
def hexValue (digits : List Char) : Nat := digits.foldl (fun n c => n * 16 + hexDigit c) 0

/-- The ranges that some texts list, of which the same is said. -/
def ofTexts {α : Type} (value : α) (texts : List String) : List (CodeRange α) :=
  texts.flatMap fun text => (text.toList.splitOn ' ').map fun item =>
    match item.splitOn '-' with
    | [first, last] => ⟨hexValue first, hexValue last, value⟩
    | _ => ⟨hexValue item, hexValue item, value⟩

end CodeRange

/-- Ranges of characters in the order of their code points. -/
structure CodeTable (α : Type) where
  ranges : Array (CodeRange α)

namespace CodeTable

variable {α : Type}

/-- The table of some ranges that do not overlap. -/
def ofRanges (ranges : List (CodeRange α)) : CodeTable α :=
  ⟨(ranges.mergeSort fun a b => a.first ≤ b.first).toArray⟩

/-- What is said of a code point by the ranges from number `low` to before number `high`. -/
def search (ranges : Array (CodeRange α)) (code low high : Nat) : Option α :=
  if low < high then
    let middle := (low + high) / 2
    match ranges[middle]? with
    | none => none
    | some range =>
      if code < range.first then search ranges code low middle
      else if range.last < code then search ranges code (middle + 1) high
      else some range.value
  else none
termination_by high - low

/-- What is said of a character. -/
def find? (table : CodeTable α) (c : Char) : Option α :=
  search table.ranges c.toNat 0 table.ranges.size

/-- Whether a character lies in one of the ranges. -/
def contains (table : CodeTable α) (c : Char) : Bool := (table.find? c).isSome

end CodeTable
end Conformance
