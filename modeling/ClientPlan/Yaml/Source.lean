import ClientPlan.Failure
import ClientPlan.Text.Digit

/-!
# YAML source text

The text of a YAML stream as a sequence of located characters: each knows its index, its line and
its column.  The sequence ends in a null character, which cannot occur in the text itself, so that
looking ahead always finds a character.  Line breaks are the line feed, the carriage return, both in
sequence, the next-line character and the two Unicode separators; the separators are kept in the
text of scalars, the others become line feeds.
-/

set_option autoImplicit false

namespace ClientPlan.Yaml

/-- Why a text is no YAML value. -/
inductive Fault where
  /-- The text breaks the grammar, or a value cannot be built as its tag asks. -/
  | malformed
  /-- A scalar cannot be read. -/
  | scalar (m : Malformed)
deriving DecidableEq, Repr

/-- A character and where it stands. -/
structure Located where
  /-- The character. -/
  char : Char
  /-- The number of characters before it. -/
  index : Nat
  /-- The number of lines before it. -/
  line : Nat
  /-- The number of columns before it on its line. -/
  column : Nat

/-- A text of located characters. -/
abbrev Source := List Located

/-- The null character, which ends a source. -/
def endMark : Char := Char.ofNat 0

/-- The byte order mark. -/
def byteOrderMark : Char := Char.ofNat 0xFEFF

/-- A character that ends a line. -/
def isBreak (c : Char) : Bool :=
  c == '\n' || c == '\r' || c.toNat == 0x85 || c.toNat == 0x2028 || c.toNat == 0x2029

/-- A blank or a tab. -/
def isBlank (c : Char) : Bool := c == ' ' || c == '\t'

/-- The end of the text or of a line. -/
def endsLine (c : Char) : Bool := c == endMark || isBreak c

/-- The end of the text or of a line, or a blank. -/
def endsField (c : Char) : Bool := c == ' ' || endsLine c

/-- The end of the text or of a line, a blank or a tab. -/
def endsWord (c : Char) : Bool := isBlank c || endsLine c

/-- A character that a stream may hold. -/
def isAllowed (c : Char) : Bool :=
  let n := c.toNat
  n == 0x09 || n == 0x0A || n == 0x0D || (0x20 ≤ n && n ≤ 0x7E) || n == 0x85 ||
    (0xA0 ≤ n && n ≤ 0xFFFD) || 0x10000 ≤ n

/-- A letter, a digit, a hyphen or an underscore: a character of names. -/
def isNameChar (c : Char) : Bool := c.isAlphanum || c == '-' || c == '_'

/-- The characters of a text with their places, from a given place on. -/
def locateFrom (index line column : Nat) : List Char → Source
  | [] => [⟨endMark, index, line, column⟩]
  | c :: r =>
    ⟨c, index, line, column⟩ ::
      if isBreak c && !(c == '\r' && r.head? == some '\n') then locateFrom (index + 1) (line + 1) 0 r
      else locateFrom (index + 1) line (if c == byteOrderMark then column else column + 1) r

/-- The characters of a text with their places. -/
def locate (cs : List Char) : Source := locateFrom 0 0 0 cs

namespace Source

/-- The next character. -/
def peek (s : Source) : Char :=
  match s with
  | c :: _ => c.char
  | [] => endMark

/-- The character after `n` more. -/
def peekAt (s : Source) (n : Nat) : Char := Source.peek (s.drop n)

/-- The column of the next character. -/
def column (s : Source) : Nat := (s.head?.map Located.column).getD 0

/-- The line of the next character. -/
def line (s : Source) : Nat := (s.head?.map Located.line).getD 0

/-- The index of the next character. -/
def index (s : Source) : Nat := (s.head?.map Located.index).getD 0

/-- The longest run of characters that satisfy `p`. -/
def run (s : Source) (p : Char → Bool) : List Char :=
  (s.takeWhile fun c => p c.char).map Located.char

/-- What follows the longest run of characters that satisfy `p`. -/
def skip (s : Source) (p : Char → Bool) : Source := s.dropWhile fun c => p c.char

/-- What follows the line break at the start. -/
def afterBreak : Source → Source
  | ⟨'\r', _, _, _⟩ :: ⟨'\n', _, _, _⟩ :: r => r
  | _ :: r => r
  | [] => []

/-- The line break at the start, as it is kept in a scalar, and what follows it. -/
def lineBreak (s : Source) : List Char × Source :=
  let c := s.peek
  if isBreak c then ([if 0x2028 ≤ c.toNat then c else '\n'], s.afterBreak) else ([], s)

/-- Whether the text goes on with a document marker: three hyphens or points as a word. -/
def atMarker (s : Source) : Bool :=
  match s with
  | a :: b :: c :: r =>
    ((a.char == '-' && b.char == '-' && c.char == '-') ||
      (a.char == '.' && b.char == '.' && c.char == '.')) && endsWord (peek r)
  | _ => false

/-- What follows the rest of a line that holds nothing but blanks and a comment. -/
def afterLine (s : Source) : Except Fault Source :=
  let t := s.skip (· == ' ')
  let u := if t.peek == '#' then t.skip fun c => !endsLine c else t
  if endsLine u.peek then .ok u.lineBreak.2 else .error .malformed

end Source

end ClientPlan.Yaml
