import ClientPlan.Text.Printable

/-!
# Quoted text

A text is quoted in single quotes, or in double quotes when it holds single quotes and no double
quote.  The backslash and the surrounding quote are escaped by a backslash, line feed, carriage
return and tab by their letters, and every other unprintable character by its code point in two,
four or eight hexadecimal digits.
-/

set_option autoImplicit false

namespace ClientPlan.Text

/-- The lowercase hexadecimal digits of `n`, at least `width` of them. -/
def hexadecimal (width n : Nat) : List Char :=
  let shown := Nat.toDigits 16 n
  List.replicate (width - shown.length) '0' ++ shown

/-- The quote that surrounds a text. -/
def quoteFor (cs : List Char) : Char :=
  if cs.contains '\x27' && !cs.contains '"' then '"' else '\x27'

/-- A character by its code point, in the shortest of the three escaped forms. -/
def escapeCodePoint (n : Nat) : List Char :=
  if n ≤ 0xFF then '\\' :: 'x' :: hexadecimal 2 n
  else if n ≤ 0xFFFF then '\\' :: 'u' :: hexadecimal 4 n
  else '\\' :: 'U' :: hexadecimal 8 n

/-- A character inside quoted text. -/
def quoteChar (quote c : Char) : List Char :=
  if c == quote || c == '\\' then ['\\', c]
  else if c == '\n' then ['\\', 'n']
  else if c == '\r' then ['\\', 'r']
  else if c == '\t' then ['\\', 't']
  else if isPrintable c then [c]
  else escapeCodePoint c.toNat

/-- A text in quotes. -/
def quoted (s : String) : String :=
  let cs := s.toList
  let quote := quoteFor cs
  String.ofList (quote :: cs.flatMap (quoteChar quote) ++ [quote])

/-- An octet inside quoted octets. -/
def quoteOctet (quote : Char) (n : Nat) : List Char :=
  if 0x20 ≤ n && n < 0x7F || n == 0x09 || n == 0x0A || n == 0x0D then quoteChar quote (Char.ofNat n)
  else escapeCodePoint n

/-- A sequence of octets in quotes, marked by a leading `b`. -/
def quotedOctets (octets : List Nat) : String :=
  let quote := quoteFor (octets.map Char.ofNat)
  String.ofList ('b' :: quote :: octets.flatMap (quoteOctet quote) ++ [quote])

end ClientPlan.Text
