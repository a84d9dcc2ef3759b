import ClientPlan.Yaml.Source

/-!
# Block scalars

A block scalar is all text that is indented further than what is around it.  In a literal scalar line
breaks are kept; in a folded one a line break between two lines that start with a character other
than a blank becomes a blank.  A header says what happens to the line breaks at the end and how
deep the text is indented; without an indentation the first line with text decides.
-/

set_option autoImplicit false

namespace ClientPlan.Yaml

/-- What happens to the line breaks at the end. -/
inductive Chomping where
  /-- None is kept. -/
  | strip
  /-- One is kept. -/
  | clip
  /-- All are kept. -/
  | keep
deriving DecidableEq, Repr

/-- What stands after the mark of a block scalar. -/
structure BlockHeader where
  /-- What happens to the line breaks at the end. -/
  chomping : Chomping
  /-- How much deeper the text is indented than what is around it. -/
  increment : Option Nat

/-- What a plus or a minus asks for. -/
def chompingOf? (c : Char) : Option Chomping :=
  if c == '+' then some .keep else if c == '-' then some .strip else none

/-- The digit at the start, if there is one. -/
def digitAt? (s : Source) : Option Nat :=
  if s.peek.isDigit then some (s.peek.toNat - 48) else none

/-- The header, and what follows it; plus, minus and digit stand in either order. -/
def blockHeader (s : Source) : Except Fault (BlockHeader × Source) :=
  let (chomping, increment, t) : Option Chomping × Option Nat × Source :=
    match chompingOf? s.peek with
    | some c =>
      match digitAt? (s.drop 1) with
      | some n => (some c, some n, s.drop 2)
      | none => (some c, none, s.drop 1)
    | none =>
      match digitAt? s with
      | some n =>
        match chompingOf? (s.peekAt 1) with
        | some c => (some c, some n, s.drop 2)
        | none => (none, some n, s.drop 1)
      | none => (none, none, s)
  if increment == some 0 || !endsField t.peek then .error .malformed
  else .ok (⟨chomping.getD .clip, increment⟩, t)

/-- What follows the blanks at the start, as far as they belong to an indentation. -/
def skipIndent (indent : Nat) (s : Source) : Source :=
  s.dropWhile fun c => c.char == ' ' && c.column < indent

/-- The line breaks at the start, and the first line with text, from its indentation on; `acc` holds
the line breaks read so far in reverse. -/
def blockBreaks (indent : Nat) (acc : List Char) (s : Source) : List Char × Source :=
  let t := skipIndent indent s
  if isBreak t.peek then
    let (c, u) := t.lineBreak
    if _h : u.length < s.length then blockBreaks indent (c ++ acc) u else (acc.reverse, t)
  else (acc.reverse, t)
termination_by s.length

/-- The line breaks at the start, the depth of the deepest of the lines that they end, and the first
line with text. -/
def blockIndent (acc : List Char) (deepest : Nat) (s : Source) : List Char × Nat × Source :=
  let t := s.skip (· == ' ')
  let deepest := if s.peek == ' ' then max deepest t.column else deepest
  if isBreak t.peek then
    let (c, u) := t.lineBreak
    if _h : u.length < s.length then blockIndent (c ++ acc) deepest u
    else (acc.reverse, deepest, t)
  else (acc.reverse, deepest, t)
termination_by s.length

/-- The lines of a block scalar. -/
structure BlockLines where
  /-- The text up to the last line, in reverse. -/
  text : List Char
  /-- The line break after the last line. -/
  ending : List Char
  /-- The line breaks after that. -/
  trailing : List Char
  /-- What follows. -/
  rest : Source

/-- Whether a line of a block scalar starts here. -/
def atBlockLine (indent : Nat) (s : Source) : Bool := s.column == indent && s.peek != endMark

/-- Reads the lines that are indented to `indent`; `text` holds what was read in reverse and `breaks`
the line breaks before the next line. -/
def blockLines (folded : Bool) (indent : Nat) (text breaks : List Char) (s : Source) : BlockLines :=
  if atBlockLine indent s then
    let inLine (c : Char) : Bool := !endsLine c
    let text := (s.run inLine).reverse ++ (breaks.reverse ++ text)
    let (ending, t) := (s.skip inLine).lineBreak
    let (breaks, t) := blockBreaks indent [] t
    if atBlockLine indent t then
      let isFolded := folded && ending == ['\n'] && !isBlank s.peek && !isBlank t.peek
      let joint := if !isFolded then ending else if breaks.isEmpty then [' '] else []
      if _h : t.length < s.length then blockLines folded indent (joint ++ text) breaks t
      else ⟨text, ending, breaks, t⟩
    else ⟨text, ending, breaks, t⟩
  else ⟨text, [], breaks, s⟩
termination_by s.length

/-- Reads a block scalar after its mark; `parent` is the indentation of what is around it. -/
def blockScalar (folded : Bool) (parent : Int) (s : Source) : Except Fault (String × Source) := do
  let (header, s) ← blockHeader s
  let s ← s.afterLine
  let least := (max (parent + 1) 1).toNat
  let lines := match header.increment with
    | none =>
      let (breaks, deepest, s) := blockIndent [] 0 s
      blockLines folded (max least deepest) [] breaks s
    | some n =>
      let indent := least + n - 1
      let (breaks, s) := blockBreaks indent [] s
      blockLines folded indent [] breaks s
  let tail := match header.chomping with
    | .strip => []
    | .clip => lines.ending
    | .keep => lines.ending ++ lines.trailing
  return (String.ofList (lines.text.reverse ++ tail), lines.rest)

end ClientPlan.Yaml
