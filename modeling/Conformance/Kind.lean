/-!
# Kinds of test

The kind says how a test file is handed to the interpreter and how its output is judged.
-/

namespace Conformance

/-- How a test file is run and judged. -/
inductive Kind where
  /-- The file's path is passed, and output is compared line by line. -/
  | test
  /-- The file's path is passed, and only the number of output lines is checked. -/
  | example
  /-- The bare suite name is passed, and output is compared line by line. -/
  | api
  deriving DecidableEq, Repr, Inhabited

namespace Kind

/-- The name of a kind on the command line. -/
def name : Kind → String
  | test => "test"
  | .example => "example"
  | api => "api"

def all : List Kind := [test, .example, api]

/-- The kind of a name, which is written exactly. -/
def ofName? (name : String) : Option Kind := all.find? (·.name == name)

end Kind
end Conformance
