import ClientPlan.Workspace.FileTree

/-!
# Surroundings

All that a command can ask about the place in which it runs: files, the working directory, variables
of the environment, the standard input, and what servers answer.
-/

set_option autoImplicit false

namespace ClientPlan

/-- The variables of the environment. -/
abbrev Environment := OrderedMap String String

/-- What comes back when an address is fetched. -/
inductive Reply where
  /-- The server answered with the octets that `text` has in UTF-8. -/
  | answered (status : Int) (contentType text : String)
  /-- The server could not be reached. -/
  | unreachable (reason : String)
deriving DecidableEq, Repr

/-- How far the stack of the interpreter reaches.  A text whose parts stand so deep inside one another
that it is not enough cannot be read. -/
structure Stack where
  /-- The number of containers that may stand inside one another in JSON. -/
  nesting : Nat := 900
  /-- A list in an object can be read. -/
  two_le_nesting : 2 ≤ nesting := by decide
  /-- Whether reading a text in YAML takes more. -/
  exhausts : String → Bool := fun _ => false

instance : Inhabited Stack := ⟨{}⟩

/-- Where a command runs. -/
structure Surroundings where
  /-- All files. -/
  files : FileTree
  /-- What holds the files. -/
  device : Device := {}
  /-- The stack of the interpreter. -/
  stack : Stack := default
  /-- The working directory. -/
  directory : Path
  /-- The variables of the environment. -/
  environment : Environment
  /-- The standard input. -/
  input : String
  /-- What comes back from an address. -/
  fetch : String → Reply

namespace Surroundings

/-- The value of a variable; an empty one counts as missing. -/
def envValue? (s : Surroundings) (name : String) : Option String :=
  (s.environment.get? name).filter (· != "")

end Surroundings

/-- The text with every line ending as a line feed, after the reversed text before it. -/
def joinLineEndings (before : List Char) : List Char → List Char
  | '\r' :: '\n' :: r => joinLineEndings ('\n' :: before) r
  | '\r' :: r => joinLineEndings ('\n' :: before) r
  | c :: r => joinLineEndings (c :: before) r
  | [] => before.reverse

/-- The text that the octets of a file are. -/
def fileText (octets : List Nat) : Except Failure String :=
  match Text.decode? octets with
  | some s => .ok (String.ofList (joinLineEndings [] s.toList))
  | none => .error (.malformed .undecodable)

end ClientPlan
