/-!
# Octets written in base 64

Four digits of base 64 stand for three octets.  The reader is lenient: it skips every character that
is neither a digit nor the padding sign, and stops at padding that completes a group of four.
-/

set_option autoImplicit false

namespace ClientPlan.Text

/-- The value of a digit of base 64. -/
def sextet? (c : Char) : Option Nat :=
  if c.isUpper then some (c.toNat - 0x41)
  else if c.isLower then some (c.toNat - 0x61 + 26)
  else if c.isDigit then some (c.toNat - 0x30 + 52)
  else if c == '+' then some 62
  else if c == '/' then some 63
  else none

/-- Reads digits.  `octets` are those read so far in reverse, `place` is the number of digits of the
current group, `left` the value of its bits that are not yet part of an octet, and `pads` the number
of padding signs just read. -/
def readSextets (octets : List Nat) (place left pads : Nat) : List Char → Option (List Nat)
  | [] => if place == 0 then some octets.reverse else none
  | '=' :: r =>
    if place < 2 then readSextets octets place left pads r
    else if 4 ≤ place + pads + 1 then some octets.reverse
    else readSextets octets place left (pads + 1) r
  | c :: r =>
    match sextet? c with
    | none => readSextets octets place left pads r
    | some d =>
      if place == 0 then readSextets octets 1 d 0 r
      else
        let unit := Nat.pow 4 (3 - place)
        readSextets ((left * Nat.pow 4 place + d / unit) :: octets) ((place + 1) % 4) (d % unit) 0 r

/-- The octets that a text of base 64 stands for; a group that breaks off stands for none. -/
def octetsOfBase64? (s : List Char) : Option (List Nat) := readSextets [] 0 0 0 s

example : octetsOfBase64? "aGVsbG8=".toList = some [0x68, 0x65, 0x6C, 0x6C, 0x6F] := by decide

example : octetsOfBase64? "aGVsb".toList = none := by decide

end ClientPlan.Text
