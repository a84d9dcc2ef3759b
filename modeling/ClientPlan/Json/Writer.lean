import ClientPlan.Document.Shown

/-!
# Writing JSON

Values are written over several lines: an item or a member on a line of its own, indented by two
blanks for each container around it.  Empty containers are written on one line.  `Charset` says
whether characters beyond ASCII are escaped.
-/

set_option autoImplicit false

namespace ClientPlan.Json

/-- The characters that a written text may use. -/
inductive Charset where
  /-- ASCII alone: all other characters are escaped by their UTF-16 code units. -/
  | ascii
  /-- All characters. -/
  | unicode
deriving DecidableEq, Repr

/-- A code unit as an escape. -/
def escapeUnit (n : Nat) : List Char := '\\' :: 'u' :: Text.hexadecimal 4 n

/-- A character as one or two escaped code units. -/
def escapeUnits (c : Char) : List Char :=
  let n := c.toNat
  if n < 0x10000 then escapeUnit n
  else
    let m := n - 0x10000
    escapeUnit (0xD800 + m / 0x400) ++ escapeUnit (0xDC00 + m % 0x400)

/-- A character inside a quoted text. -/
def quoteChar (charset : Charset) (c : Char) : List Char :=
  if c == '"' then ['\\', '"']
  else if c == '\\' then ['\\', '\\']
  else if c == '\n' then ['\\', 'n']
  else if c == '\r' then ['\\', 'r']
  else if c == '\t' then ['\\', 't']
  else if c.toNat == 0x08 then ['\\', 'b']
  else if c.toNat == 0x0C then ['\\', 'f']
  else if c.toNat < 0x20 then escapeUnit c.toNat
  else if charset == .ascii && 0x7F ≤ c.toNat then escapeUnits c
  else [c]

/-- A text in quotes. -/
def quote (charset : Charset) (s : String) : List Char :=
  '"' :: s.toList.flatMap (quoteChar charset) ++ ['"']

/-- Doubles as in `doubleLayout`, with the words for infinity and NaN that the reader takes. -/
def numberLayout : Number.Layout :=
  { doubleLayout with infinity := "Infinity", notANumber := "NaN" }

/-- A line break followed by the indentation at a depth. -/
def newline (depth : Nat) : List Char := '\n' :: List.replicate (2 * depth) ' '

/-- A key of a mapping as the text that it becomes. -/
def keyText : Value → String
  | .str s => s
  | .null => "null"
  | .bool b => if b then "true" else "false"
  | .int n => integerText n
  | .float x => numberLayout.render x
  | v => v.text

mutual

/-- A value at a depth. -/
def render (charset : Charset) (depth : Nat) : Value → List Char
  | .null => "null".toList
  | .bool b => if b then "true".toList else "false".toList
  | .int n => Text.decimalInt n
  | .float x => (numberLayout.render x).toList
  | .str s => quote charset s
  | .list [] => ['[', ']']
  | .list (v :: r) =>
    '[' :: newline (depth + 1) ++ render charset (depth + 1) v ++
      renderItems charset (depth + 1) r ++ newline depth ++ [']']
  | .map [] => ['\x7b', '\x7d']
  | .map ((k, v) :: r) =>
    '\x7b' :: newline (depth + 1) ++ quote charset (keyText k) ++ [':', ' '] ++
      render charset (depth + 1) v ++ renderEntries charset (depth + 1) r ++
      newline depth ++ ['\x7d']
  | v => quote charset v.text

/-- The items after the first, each after a comma and a line break. -/
def renderItems (charset : Charset) (depth : Nat) : List Value → List Char
  | [] => []
  | v :: r => ',' :: newline depth ++ render charset depth v ++ renderItems charset depth r

/-- The members after the first, each after a comma and a line break. -/
def renderEntries (charset : Charset) (depth : Nat) : Entries → List Char
  | [] => []
  | (k, v) :: r =>
    ',' :: newline depth ++ quote charset (keyText k) ++ [':', ' '] ++ render charset depth v ++
      renderEntries charset depth r

end

/-- A value as text. -/
def write (charset : Charset) (v : Value) : String :=
  String.ofList (render charset 0 v)

end ClientPlan.Json
