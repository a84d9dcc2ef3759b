/-!
# Path templates

A path template is literal text with placeholders in braces.  A placeholder is an opening brace, a
run of characters that are no braces, and a closing brace; any other brace is literal.
-/

set_option autoImplicit false

namespace ClientPlan.Naming

/-- A part of a path template. -/
inductive Piece where
  /-- A character that stands for itself. -/
  | literal (c : Char)
  /-- A placeholder, given by the text between its braces. -/
  | placeholder (name : List Char)
deriving DecidableEq, Repr

/-- A character that may stand between the braces of a placeholder. -/
def isInner (c : Char) : Bool := c != '\x7b' && c != '\x7d'

/-- The name and the rest if a text goes on, after an opening brace, as a placeholder. -/
def closing? (s : List Char) : Option (List Char × List Char) :=
  match s.dropWhile isInner with
  | '\x7d' :: rest => some (s.takeWhile isInner, rest)
  | _ => none

theorem length_lt_of_closing? {s name rest : List Char} (h : closing? s = some (name, rest)) :
    rest.length < s.length := by
  rw [closing?] at h
  have hs : (s.dropWhile isInner).length ≤ s.length := (List.dropWhile_suffix isInner).length_le
  split at h
  · next r hr =>
    cases h
    rw [hr, List.length_cons] at hs
    omega
  · cases h

/-- The parts of a template from left to right. -/
def pieces : List Char → List Piece
  | [] => []
  | c :: s =>
    if c == '\x7b' then
      match _h : closing? s with
      | some (name, rest) => .placeholder name :: pieces rest
      | none => .literal c :: pieces s
    else .literal c :: pieces s
termination_by s => s.length
decreasing_by
  · have := length_lt_of_closing? (by assumption)
    simp only [List.length_cons]; omega
  · simp
  · simp

/-- The names of the placeholders that have one, in order of appearance. -/
def placeholders (path : String) : List String :=
  (pieces path.toList).filterMap fun
    | .placeholder name => if name.isEmpty then none else some (String.ofList name)
    | .literal _ => none

end ClientPlan.Naming
