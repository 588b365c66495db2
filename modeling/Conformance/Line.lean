/-!
# Lines

Text is cut into lines in two ways. `segments` cuts at every newline, so a text always has one
more segment than newlines. `physical` gives the lines of a source file: a terminated line also
loses one trailing carriage return, and the text after the last newline is a line only if it is
not empty. `unixNewlines` turns each carriage return and newline pair into a newline.
-/

namespace Conformance.Line

/-- The pieces of a text between newlines. -/
def segments (cs : List Char) : List (List Char) := cs.splitOn '\n'

/-- The pieces of a text between newlines, as texts. -/
def split (text : String) : List String := (segments text.toList).map String.ofList

/-- A line without its trailing carriage return, if it has one. -/
def dropReturn (line : List Char) : List Char :=
  if line.getLast? = some '\r' then line.dropLast else line

/-- Physical lines from segments: only the last segment is not terminated. -/
def ofSegments : List (List Char) → List (List Char)
  | [] => []
  | [last] => if last = [] then [] else [last]
  | segment :: rest => dropReturn segment :: ofSegments rest

/-- The lines of a source file. -/
def physical (cs : List Char) : List (List Char) := ofSegments (segments cs)

/-- Each carriage return before a newline is dropped, from left to right. -/
def unixNewlines : List Char → List Char
  | [] => []
  | '\r' :: '\n' :: rest => '\n' :: unixNewlines rest
  | c :: rest => c :: unixNewlines rest

/-- The segments of captured output, without the empty one that a final newline leaves. -/
def output (text : String) : List String :=
  let lines := split text
  if lines.getLast? = some "" then lines.dropLast else lines

end Conformance.Line
