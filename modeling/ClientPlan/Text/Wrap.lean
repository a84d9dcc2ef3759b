import ClientPlan.Text.Blank
import ClientPlan.Text.Width

/-!
# Wrapped text

A text is cut into lines of at most so many columns.  Lines end between words; a word that is wider
than a line is cut where the line is full.  Blanks at the end of a line may reach beyond the limit,
and are cut off as far as the line has more characters than columns are allowed.
-/

set_option autoImplicit false

namespace ClientPlan.Text

/-- The parts of a text between tabs as one text, with every tab filled up with blanks to a multiple of
eight columns; the first part is in the given column. -/
def expandTabs (column : Nat) : List (List Char) → List Char
  | [] => []
  | [part] => part
  | part :: rest =>
    let next := column + width (part ++ [' '])
    let fill := (8 - next % 8) % 8
    part ++ ' ' :: List.replicate fill ' ' ++ expandTabs (next + fill) rest

/-- The words of a text, each with the blanks that follow it; blanks at the start belong to the first
word. -/
def words (s : List Char) : List (List Char) :=
  let start := s.takeWhile isBlank
  let afterStart := s.drop start.length
  let word := afterStart.takeWhile fun c => !isBlank c
  let afterWord := afterStart.drop word.length
  let gap := afterWord.takeWhile isBlank
  let rest := afterWord.drop gap.length
  if word.isEmpty then []
  else if _h : rest.length < s.length then (start ++ word ++ gap) :: words rest
  else []
termination_by s.length
decreasing_by exact _h

/-- Graphemes in parts of at most `limit` columns; `part` is the part before them, of `size` columns.
Graphemes without columns are no part of their own. -/
def chop (limit : Nat) (part : List Char) (size : Nat) : List Grapheme → List (List Char)
  | [] => if size == 0 then [] else [part]
  | g :: r =>
    if limit < size + g.width then part :: chop limit g.chars g.width r
    else chop limit (part ++ g.chars) (size + g.width) r

/-- Where the parts of a word begin, if the word begins at `start`; the start of the text is no such
place. -/
def partStarts (start : Nat) : List (List Char) → List Nat
  | [] => []
  | part :: rest =>
    (if start == 0 then [] else [start]) ++ partStarts (start + part.length) rest

/-- Where lines begin in a text of words, of which the first begins at `start`; `column` is the number
of columns of the line before it. -/
def lineStarts (limit start column : Nat) : List (List Char) → List Nat
  | [] => []
  | word :: rest =>
    let next := start + word.length
    let shown := width (dropEnd isBlank word)
    if column + shown ≤ limit then lineStarts limit next (column + width word) rest
    else if limit < shown then
      let parts := chop limit [] 0 (graphemes word)
      partStarts start parts ++ lineStarts limit next (width (parts.getLastD [])) rest
    else if column != 0 && start != 0 then start :: lineStarts limit next (width word) rest
    else lineStarts limit next column rest

/-- A text cut before the places `starts`; the text begins at `start`. -/
def divideAt (start : Nat) (s : List Char) : List Nat → List (List Char)
  | [] => [s]
  | n :: r => s.take (n - start) :: divideAt n (s.drop (n - start)) r

/-- A line without blanks at its end, as many as it has more characters than `limit`. -/
def trimLine (limit : Nat) (line : List Char) : List Char :=
  let blanks := line.length - (dropEnd isBlank line).length
  line.take (line.length - min blanks (line.length - limit))

/-- The graphemes that fit into `limit` columns; one that fits only in part becomes a blank. -/
def cut : Nat → List Grapheme → List Char
  | 0, _ => []
  | _, [] => []
  | limit, g :: r => if g.width ≤ limit then g.chars ++ cut (limit - g.width) r else [' ']

/-- A line cut off after `limit` columns. -/
def cutLine (limit : Nat) (line : List Char) : List Char :=
  if limit < width line then cut limit (graphemes line) else line

/-- A text without line breaks, cut into lines. -/
def wrapLine (limit : Nat) (s : List Char) : List (List Char) :=
  let expanded := expandTabs 0 (s.splitOn '\t')
  let lines := divideAt 0 expanded (lineStarts limit 0 0 (words expanded))
  lines.map fun line => cutLine limit (trimLine limit line)

/-- A text cut into lines of at most `limit` columns. -/
def wrap (limit : Nat) (s : List Char) : List (List Char) :=
  (s.splitOn '\n').flatMap (wrapLine limit)

example : wrap 4 "foo bar baz".toList = ["foo ".toList, "bar ".toList, "baz".toList] := by
  cbv

end ClientPlan.Text
