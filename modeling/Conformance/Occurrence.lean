/-!
# Occurrences

A recogniser reads something at the front of a text or refuses. `first?` is what it reads at the
first position where it reads something, and `last?` at the last one.
-/

namespace Conformance.Occurrence

variable {α : Type}

/-- What `read` makes of the text at the first position where it accepts. -/
def first? (read : List Char → Option α) : List Char → Option α
  | [] => read []
  | c :: cs =>
    match read (c :: cs) with
    | some found => some found
    | none => first? read cs

/-- What `read` makes of the text at the last position where it accepts. -/
def last? (read : List Char → Option α) : List Char → Option α
  | [] => read []
  | c :: cs =>
    match last? read cs with
    | some found => some found
    | none => read (c :: cs)

/-- The text after the first occurrence of `marker`. -/
def after? (marker : String) (cs : List Char) : Option (List Char) :=
  first? marker.toList.isPrefixOf? cs

end Conformance.Occurrence
