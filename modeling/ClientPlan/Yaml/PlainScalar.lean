import ClientPlan.Yaml.Source

/-!
# Plain scalars

A scalar without quotes ends before a comment, before a colon that a blank follows, and before a line
that is not indented far enough.  Inside brackets and braces it also ends before their punctuation.
Line breaks are folded as in quoted scalars.
-/

set_option autoImplicit false

namespace ClientPlan.Yaml

/-- The punctuation of brackets and braces. -/
def isFlowPunctuation (c : Char) : Bool :=
  c == ',' || c == '[' || c == ']' || c == '\x7b' || c == '\x7d'

/-- Whether a plain scalar may start here. -/
def startsPlain (flow : Bool) (s : Source) : Bool :=
  let c := s.peek
  let reserved : List Char :=
    ['-', '?', ':', ',', '[', ']', '\x7b', '\x7d', '#', '&', '*', '!', '|', '>', '\x27', '"', '%',
      '@', '\x60']
  (!endsWord c && !reserved.contains c) ||
    (!endsWord (s.peekAt 1) && (c == '-' || (!flow && (c == '?' || c == ':'))))

/-- Whether a plain scalar ends before `c`, which `next` follows. -/
def endsPlain (flow : Bool) (c next : Char) : Bool :=
  endsWord c || (c == ':' && (endsWord next || (flow && isFlowPunctuation next))) ||
    (flow && (c == '?' || isFlowPunctuation c))

/-- The number of characters of a plain scalar up to a blank or the end. -/
def plainLength (flow : Bool) : Source → Nat
  | [] => 0
  | c :: r => if endsPlain flow c.char (Source.peek r) then 0 else plainLength flow r + 1

/-- The gap between two parts of a plain scalar. -/
structure Gap where
  /-- What the gap stands for; nothing where the scalar ends at a document marker. -/
  text : List Char
  /-- Whether it holds a line break. -/
  crossesLine : Bool
  /-- What follows. -/
  rest : Source

/-- The line breaks and blanks at the start, and what follows; `none` if a document marker comes
first. -/
def plainBreaks (acc : List Char) (s : Source) : Option (List Char) × Source :=
  let t := s.skip (· == ' ')
  if isBreak t.peek then
    let (c, u) := t.lineBreak
    if u.atMarker then (none, u)
    else if _h : u.length < s.length then plainBreaks (c ++ acc) u
    else (some acc.reverse, t)
  else (some acc.reverse, t)
termination_by s.length

/-- The gap at the start. -/
def plainGap (s : Source) : Gap :=
  let t := s.skip (· == ' ')
  if isBreak t.peek then
    let (c, u) := t.lineBreak
    if u.atMarker then ⟨[], true, u⟩
    else
      match plainBreaks [] u with
      | (none, v) => ⟨[], true, v⟩
      | (some breaks, v) =>
        let joint := if c != ['\n'] then c else if breaks.isEmpty then [' '] else []
        ⟨joint ++ breaks, true, v⟩
  else ⟨s.run (· == ' '), false, t⟩

/-- Reads a plain scalar, which is indented at least to `indent`; `acc` holds what was read so far in
reverse and `crossed` tells whether the last gap held a line break.  The answer is the text, whether
a line break follows it, and what follows. -/
def plainText (flow : Bool) (indent : Int) (acc : List Char) (crossed : Bool) (s : Source) :
    List Char × Bool × Source :=
  let length := if s.peek == '#' then 0 else plainLength flow s
  if length == 0 then (acc.reverse, crossed, s)
  else
    let acc := ((s.take length).map Located.char).reverse ++ acc
    let gap := plainGap (s.drop length)
    if gap.text.isEmpty || gap.rest.peek == '#' || (!flow && (gap.rest.column : Int) < indent) then
      (acc.reverse, gap.crossesLine, gap.rest)
    else if endsPlain flow gap.rest.peek (gap.rest.peekAt 1) then
      (acc.reverse, gap.crossesLine, gap.rest)
    else if _h : gap.rest.length < s.length then
      plainText flow indent (gap.text.reverse ++ acc) gap.crossesLine gap.rest
    else (acc.reverse, gap.crossesLine, gap.rest)
termination_by s.length
decreasing_by exact _h

end ClientPlan.Yaml
