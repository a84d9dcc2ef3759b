/-!
# Paths

A path is a root and a sequence of names.  Repeated separators and steps that stay where they are
have no meaning and are not kept; steps to the directory above are kept.
-/

set_option autoImplicit false

namespace ClientPlan

/-- A path. -/
structure Path where
  /-- The separators at the start: none for a path that is relative, otherwise one or two. -/
  root : String := ""
  /-- The names in order. -/
  names : List String
deriving DecidableEq, Repr

namespace Path

/-- Whether a part between separators is a name: it is not empty and no single point. -/
def isName (s : String) : Bool := s != "" && s != "."

/-- The separators that `n` of them at the start of a path stand for. -/
def rootOfSlashes (n : Nat) : String := if n == 0 then "" else if n == 2 then "//" else "/"

/-- The path that a text is. -/
def ofText (s : String) : Path where
  root := rootOfSlashes (s.toList.takeWhile (· == '/')).length
  names := ((s.toList.splitOn '/').map String.ofList).filter isName

/-- The text of a path; a path without names is a single point. -/
def text (p : Path) : String :=
  if p.root == "" && p.names.isEmpty then "." else p.root ++ "/".intercalate p.names

/-- Whether a path has a null character, which no name of a file has. -/
def holdsNull (p : Path) : Bool := p.names.any fun name => name.toList.contains (Char.ofNat 0)

/-- Whether a path starts at the root of the file tree. -/
def isAbsolute (p : Path) : Bool := p.root != ""

/-- The last name. -/
def name (p : Path) : String := p.names.getLastD ""

/-- The path without its last name. -/
def parent (p : Path) : Path := { p with names := p.names.dropLast }

/-- The path `q` seen from the directory `p`. -/
def join (p q : Path) : Path := if q.isAbsolute then q else { p with names := p.names ++ q.names }

/-- What follows the last point of the last name, with the point; the point is neither the first nor
the last character. -/
def extension (p : Path) : String :=
  let reversed := p.name.toList.reverse
  let after := (reversed.takeWhile (· != '.')).reverse
  let before := (reversed.dropWhile (· != '.')).drop 1
  if before.isEmpty || after.isEmpty then "" else String.ofList ('.' :: after)

example : (ofText ".//a/./b/").text = "a/b" := by decide +kernel

example : (ofText "").text = "." := by decide +kernel

end Path

end ClientPlan
