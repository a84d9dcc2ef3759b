import ClientPlan.Text.Lower
import ClientPlan.Text.Mark

/-!
# Names of hosts

A host whose name is not in ASCII has a name of labels between points.  A label holds lowercase
letters, marks and digits of any script and hyphens; it does not start with a mark, it neither starts
nor ends with a hyphen, and it has no two hyphens after its second character.  Letters that are only a
way to write other letters are excluded by a table of closed ranges of code points, and characters
that are written from right to left do not mix with others.
-/

set_option autoImplicit false

namespace ClientPlan.HostName

/-- The letters, marks and digits that stand for others or are written in other ways. -/
def excludedRanges : List (Nat × Nat) := [
  (0xAA, 0xBE), (0x133, 0x133), (0x140, 0x140), (0x149, 0x149), (0x17F, 0x17F), (0x1C6, 0x1CC),
  (0x1F3, 0x1F3), (0x2B0, 0x2B8), (0x2E0, 0x2E4), (0x340, 0x341), (0x343, 0x345), (0x34F, 0x34F),
  (0x374, 0x374), (0x37A, 0x37A), (0x3D0, 0x3D6), (0x3F0, 0x3F2), (0x3F5, 0x3F5), (0x587, 0x587),
  (0x640, 0x640), (0x660, 0x669), (0x675, 0x678), (0x6F0, 0x6F9), (0x7FA, 0x7FA), (0x958, 0x95F),
  (0x9DC, 0x9DF), (0x9F4, 0x9F9), (0xA33, 0xA33), (0xA36, 0xA36), (0xA59, 0xA5B), (0xA5E, 0xA5E),
  (0xB5C, 0xB5D), (0xB72, 0xB77), (0xBF0, 0xBF2), (0xC78, 0xC7E), (0xD58, 0xD5E), (0xD70, 0xD78),
  (0xE33, 0xE33), (0xEB3, 0xEB3), (0xEDC, 0xEDD), (0xF2A, 0xF33), (0xF43, 0xF43), (0xF4D, 0xF4D),
  (0xF52, 0xF52), (0xF57, 0xF57), (0xF5C, 0xF5C), (0xF69, 0xF69), (0xF73, 0xF73), (0xF75, 0xF79),
  (0xF81, 0xF81), (0xF93, 0xF93), (0xF9D, 0xF9D), (0xFA2, 0xFA2), (0xFA7, 0xFA7), (0xFAC, 0xFAC),
  (0xFB9, 0xFB9), (0x10FC, 0x10FC), (0x1100, 0x11FF), (0x1369, 0x137C), (0x13F8, 0x13FD),
  (0x16EE, 0x16F0), (0x17B4, 0x17B5), (0x17F0, 0x180F), (0x19DA, 0x19DA), (0x1C80, 0x1C88),
  (0x1D2C, 0x1D2E), (0x1D30, 0x1D3A), (0x1D3C, 0x1D4D), (0x1D4F, 0x1D6A), (0x1D78, 0x1D78),
  (0x1D9B, 0x1DBF), (0x1E9A, 0x1E9B), (0x1F71, 0x1F71), (0x1F73, 0x1F73), (0x1F75, 0x1F75),
  (0x1F77, 0x1F77), (0x1F79, 0x1F79), (0x1F7B, 0x1F7B), (0x1F7D, 0x1FA7), (0x1FB2, 0x1FB4),
  (0x1FB7, 0x1FC4), (0x1FC7, 0x1FC7), (0x1FD3, 0x1FD3), (0x1FE3, 0x1FE3), (0x1FF2, 0x1FF4),
  (0x1FF7, 0x2149), (0x2150, 0x2182), (0x2185, 0x2793), (0x2C7C, 0x2C7D), (0x2CFD, 0x2CFD),
  (0x2D6F, 0x2D6F), (0x3021, 0x3029), (0x302E, 0x303B), (0x309F, 0x309F), (0x30FF, 0x30FF),
  (0x3131, 0x3195), (0x3220, 0x32BF), (0xA69C, 0xA69D), (0xA6E6, 0xA6EF), (0xA770, 0xA770),
  (0xA7F2, 0xA7F4), (0xA7F8, 0xA7F9), (0xA830, 0xA835), (0xA960, 0xA97C), (0xAB5C, 0xAB5F),
  (0xAB69, 0xABBF), (0xD7B0, 0xFA0D), (0xFA10, 0xFA10), (0xFA12, 0xFA12), (0xFA15, 0xFA1E),
  (0xFA20, 0xFA20), (0xFA22, 0xFA22), (0xFA25, 0xFA26), (0xFA2A, 0xFB1D), (0xFB1F, 0xFE0F),
  (0xFE70, 0xFE72), (0xFE74, 0xFFDC), (0x10107, 0x1018B), (0x102E1, 0x102FB), (0x10320, 0x10323),
  (0x10341, 0x10341), (0x1034A, 0x1034A), (0x103D1, 0x103D5), (0x10781, 0x107BA),
  (0x10858, 0x1085F), (0x10879, 0x1087F), (0x108A7, 0x108AF), (0x108FB, 0x108FF),
  (0x10916, 0x1091B), (0x109BC, 0x109BD), (0x109C0, 0x109FF), (0x10A40, 0x10A48),
  (0x10A7D, 0x10A7E), (0x10A9D, 0x10A9F), (0x10AEB, 0x10AEF), (0x10B58, 0x10B5F),
  (0x10B78, 0x10B7F), (0x10BA9, 0x10BAF), (0x10CFA, 0x10CFF), (0x10E60, 0x10E7E),
  (0x10F1D, 0x10F26), (0x10F51, 0x10F54), (0x10FC5, 0x10FCB), (0x11052, 0x11065),
  (0x111E1, 0x111F4), (0x1173A, 0x1173B), (0x118EA, 0x118F2), (0x11C5A, 0x11C6C),
  (0x11FC0, 0x11FD4), (0x12400, 0x1246E), (0x16B5B, 0x16B61), (0x16E80, 0x16E96),
  (0x1D165, 0x1D7FF), (0x1E8C7, 0x1E8CF), (0x1EC71, 0x1FBF9), (0x2F800, 0x2FA1D),
  (0xE0100, 0xE01EF)]

/-- Whether a character is an Arabic digit: `east` tells the Persian digits from the others. -/
def isArabicDigit (east : Bool) (c : Char) : Bool :=
  let first := if east then 0x6F0 else 0x660
  first ≤ c.toNat && c.toNat < first + 10

/-- Whether a character may stand in a label. -/
def isLabelChar (c : Char) : Bool :=
  if c.toNat < 0x80 then c.isDigit || c.isLower || c == '-'
  else if isArabicDigit false c || isArabicDigit true c then true
  else (Text.isAlphanumeric c || Text.isMark c) && Text.lowerChar c == c &&
    !Text.inRanges excludedRanges c.toNat

/-- The scripts that are written from right to left, as closed ranges of code points. -/
def leftwardRanges : List (Nat × Nat) := [
  (0x590, 0x65F), (0x66A, 0x6EF), (0x6FA, 0x8FF), (0xFB1D, 0xFDFF), (0xFE70, 0xFEFF),
  (0x10800, 0x10FFF), (0x1E800, 0x1EFFF)]

/-- Whether a character is written from right to left. -/
def isLeftward (c : Char) : Bool := Text.inRanges leftwardRanges c.toNat && !Text.isMark c

/-- Whether a character may stand beside characters that are written from right to left: it is one of
them, a digit, a hyphen or a mark. -/
def fitsLeftward (c : Char) : Bool :=
  isLeftward c || Text.isMark c || c.isDigit || c == '-' || isArabicDigit false c ||
    isArabicDigit true c

/-- Whether the characters of a label have directions that go together: a label with a character that
is written from right to left starts with one and holds nothing that is written from left to right. -/
def hasOneDirection (label : List Char) : Bool :=
  let european := label.any fun c => c.isDigit || isArabicDigit true c
  if label.any fun c => isLeftward c || isArabicDigit false c then
    label.head?.any isLeftward && label.all fitsLeftward &&
      !(european && label.any (isArabicDigit false))
  else true

/-- Whether a text is a label. -/
def isLabel (label : List Char) : Bool :=
  !label.isEmpty && label.all isLabelChar && label.head? != some '-' && label.getLast? != some '-' &&
    (label.drop 2).take 2 != ['-', '-'] && !label.head?.any Text.isMark && hasOneDirection label &&
    !(label.any (isArabicDigit false) && label.any (isArabicDigit true))

/-- Whether a character separates labels. -/
def isPoint (c : Char) : Bool := [0x2E, 0x3002, 0xFF0E, 0xFF61].contains c.toNat

/-- Whether a text is the name of a host; one point may stand at the end. -/
def isValid (name : String) : Bool :=
  let labels := (Text.lowercase name).toList.splitOnP isPoint
  let named := if labels.getLast? == some [] then labels.dropLast else labels
  !named.isEmpty && named.all isLabel

end ClientPlan.HostName
