/-!
# Decimal digits and integers in text

Decimal digits are the characters of the Unicode category `Nd`; each block of ten starts at one of
the code points of `digitZeros`.  `readInteger` reads an integer the lenient way: blanks around it,
a sign, and single underscores between digits are allowed.
-/

set_option autoImplicit false

namespace ClientPlan.Text

/-- The code points of the decimal digit zero of every script. -/
def digitZeros : List Nat := [
  0x30, 0x660, 0x6F0, 0x7C0, 0x966, 0x9E6, 0xA66, 0xAE6, 0xB66, 0xBE6, 0xC66, 0xCE6, 0xD66, 0xDE6,
  0xE50, 0xED0, 0xF20, 0x1040, 0x1090, 0x17E0, 0x1810, 0x1946, 0x19D0, 0x1A80, 0x1A90, 0x1B50,
  0x1BB0, 0x1C40, 0x1C50, 0xA620, 0xA8D0, 0xA900, 0xA9D0, 0xA9F0, 0xAA50, 0xABF0, 0xFF10, 0x104A0,
  0x10D30, 0x11066, 0x110F0, 0x11136, 0x111D0, 0x112F0, 0x11450, 0x114D0, 0x11650, 0x116C0,
  0x11730, 0x118E0, 0x11950, 0x11C50, 0x11D50, 0x11DA0, 0x16A60, 0x16AC0, 0x16B50, 0x1D7CE,
  0x1D7D8, 0x1D7E2, 0x1D7EC, 0x1D7F6, 0x1E140, 0x1E2F0, 0x1E950, 0x1FBF0]

/-- The value of a decimal digit of any script. -/
def digitValue? (c : Char) : Option Nat :=
  let n := c.toNat
  if 0x30 ≤ n && n ≤ 0x39 then some (n - 0x30)
  else if n < 0x80 then none
  else (digitZeros.find? fun z => z ≤ n && n < z + 10).map (n - ·)

/-- The value of a digit in a base up to 36, in ASCII letters and digits. -/
def baseDigit? (base : Nat) (c : Char) : Option Nat :=
  let n := c.toNat
  let value :=
    if 0x30 ≤ n && n ≤ 0x39 then some (n - 0x30)
    else if 0x61 ≤ n && n ≤ 0x7A then some (n - 0x61 + 10)
    else if 0x41 ≤ n && n ≤ 0x5A then some (n - 0x41 + 10)
    else none
  value.filter (· < base)

/-- Reads digits from the most significant one on, each through `digit`; a single underscore may
stand between two digits. -/
def readDigits (digit : Char → Option Nat) (base : Nat) : Nat → List Char → Option Nat
  | acc, [] => some acc
  | acc, '_' :: c :: r => (digit c).bind fun d => readDigits digit base (acc * base + d) r
  | acc, c :: r => (digit c).bind fun d => readDigits digit base (acc * base + d) r

/-- Reads a non-empty run of digits that starts with a digit. -/
def readNatural (digit : Char → Option Nat) (base : Nat) : List Char → Option Nat
  | [] => none
  | c :: r => (digit c).bind fun d => readDigits digit base d r

/-- The blanks that may surround an integer: white space without the information separators. -/
def isNumberBlank (c : Char) : Bool :=
  let n := c.toNat
  (0x09 ≤ n && n ≤ 0x0D) || n == 0x20 || n == 0x85 || n == 0xA0 || n == 0x1680 ||
    (0x2000 ≤ n && n ≤ 0x200A) || n == 0x2028 || n == 0x2029 || n == 0x202F || n == 0x205F ||
    n == 0x3000

/-- The text without number blanks at either end. -/
def trimNumber (cs : List Char) : List Char :=
  ((cs.dropWhile isNumberBlank).reverse.dropWhile isNumberBlank).reverse

/-- Reads a signed integer whose digits are read by `digit` in the given base. -/
def readSigned (digit : Char → Option Nat) (base : Nat) (cs : List Char) : Option Int :=
  match trimNumber cs with
  | '-' :: r => (readNatural digit base r).map fun n => -(n : Int)
  | '+' :: r => (readNatural digit base r).map fun n => (n : Int)
  | r => (readNatural digit base r).map fun n => (n : Int)

/-- The greatest number of digits of a decimal integer. -/
def maxDigits : Nat := 4300

/-- Reads a decimal integer written in the digits of any script, unless it has too many of them. -/
def readInteger (s : String) : Option Int :=
  if maxDigits < s.toList.countP fun c => (digitValue? c).isSome then none
  else readSigned digitValue? 10 s.toList

/-- The decimal text of a natural number. -/
def decimal (n : Nat) : List Char :=
  Nat.toDigits 10 n

/-- The decimal text of an integer. -/
def decimalInt : Int → List Char
  | .ofNat n => decimal n
  | .negSucc n => '-' :: decimal (n + 1)

end ClientPlan.Text
