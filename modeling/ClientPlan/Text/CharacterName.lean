import ClientPlan.Text.Digit
import ClientPlan.Text.Letter
import ClientPlan.Text.LetterName
import ClientPlan.Text.PictureName
import ClientPlan.Text.SymbolName

/-!
# Characters by name

`characterNamed?` finds a character by its official name or by one of its aliases; the case of ASCII
letters does not count.  Ideographs and Korean syllables have names that follow a rule, and are found
by names in capitals only.
-/

set_option autoImplicit false

namespace ClientPlan.Text

/-- Further names of characters; names of one character are separated by bars. -/
def characterAliases : List (Nat × String) := [
  (0x0, "NUL"), (0x1, "START OF HEADING|SOH"), (0x2, "START OF TEXT|STX"), (0x3, "END OF TEXT|ETX"),
  (0x4, "END OF TRANSMISSION|EOT"), (0x5, "ENQUIRY|ENQ"), (0x6, "ACKNOWLEDGE|ACK"),
  (0x7, "ALERT|BEL"), (0x8, "BACKSPACE|BS"),
  (0x9, "CHARACTER TABULATION|HORIZONTAL TABULATION|HT|TAB"),
  (0xA, "LINE FEED|NEW LINE|END OF LINE|EOL|LF|NL"),
  (0xB, "LINE TABULATION|VERTICAL TABULATION|VT"), (0xC, "FORM FEED|FF"),
  (0xD, "CARRIAGE RETURN|CR"), (0xE, "SHIFT OUT|LOCKING-SHIFT ONE|SO"),
  (0xF, "SHIFT IN|LOCKING-SHIFT ZERO|SI"), (0x10, "DATA LINK ESCAPE|DLE"),
  (0x11, "DEVICE CONTROL ONE|DC1"), (0x12, "DEVICE CONTROL TWO|DC2"),
  (0x13, "DEVICE CONTROL THREE|DC3"), (0x14, "DEVICE CONTROL FOUR|DC4"),
  (0x15, "NEGATIVE ACKNOWLEDGE|NAK"), (0x16, "SYNCHRONOUS IDLE|SYN"),
  (0x17, "END OF TRANSMISSION BLOCK|ETB"), (0x18, "CANCEL|CAN"), (0x19, "END OF MEDIUM|EOM"),
  (0x1A, "SUBSTITUTE|SUB"), (0x1B, "ESCAPE|ESC"),
  (0x1C, "INFORMATION SEPARATOR FOUR|FILE SEPARATOR|FS"),
  (0x1D, "INFORMATION SEPARATOR THREE|GROUP SEPARATOR|GS"),
  (0x1E, "INFORMATION SEPARATOR TWO|RECORD SEPARATOR|RS"),
  (0x1F, "INFORMATION SEPARATOR ONE|UNIT SEPARATOR|US"), (0x20, "SP"), (0x7F, "DELETE|DEL"),
  (0x80, "PADDING CHARACTER|PAD"), (0x81, "HIGH OCTET PRESET|HOP"),
  (0x82, "BREAK PERMITTED HERE|BPH"), (0x83, "NO BREAK HERE|NBH"), (0x84, "INDEX|IND"),
  (0x85, "NEXT LINE|NEL"), (0x86, "START OF SELECTED AREA|SSA"), (0x87, "END OF SELECTED AREA|ESA"),
  (0x88, "CHARACTER TABULATION SET|HORIZONTAL TABULATION SET|HTS"),
  (0x89, "CHARACTER TABULATION WITH JUSTIFICATION|HORIZONTAL TABULATION WITH JUSTIFICATION|HTJ"),
  (0x8A, "LINE TABULATION SET|VERTICAL TABULATION SET|VTS"),
  (0x8B, "PARTIAL LINE FORWARD|PARTIAL LINE DOWN|PLD"),
  (0x8C, "PARTIAL LINE BACKWARD|PARTIAL LINE UP|PLU"), (0x8D, "REVERSE LINE FEED|REVERSE INDEX|RI"),
  (0x8E, "SINGLE SHIFT TWO|SINGLE-SHIFT-2|SS2"), (0x8F, "SINGLE SHIFT THREE|SINGLE-SHIFT-3|SS3"),
  (0x90, "DEVICE CONTROL STRING|DCS"), (0x91, "PRIVATE USE ONE|PRIVATE USE-1|PU1"),
  (0x92, "PRIVATE USE TWO|PRIVATE USE-2|PU2"), (0x93, "SET TRANSMIT STATE|STS"),
  (0x94, "CANCEL CHARACTER|CCH"), (0x95, "MESSAGE WAITING|MW"),
  (0x96, "START OF GUARDED AREA|START OF PROTECTED AREA|SPA"),
  (0x97, "END OF GUARDED AREA|END OF PROTECTED AREA|EPA"), (0x98, "START OF STRING|SOS"),
  (0x99, "SINGLE GRAPHIC CHARACTER INTRODUCER|SGC"), (0x9A, "SINGLE CHARACTER INTRODUCER|SCI"),
  (0x9B, "CONTROL SEQUENCE INTRODUCER|CSI"), (0x9C, "STRING TERMINATOR|ST"),
  (0x9D, "OPERATING SYSTEM COMMAND|OSC"), (0x9E, "PRIVACY MESSAGE|PM"),
  (0x9F, "APPLICATION PROGRAM COMMAND|APC"), (0xA0, "NBSP"), (0xAD, "SHY"),
  (0x1A2, "LATIN CAPITAL LETTER GHA"), (0x1A3, "LATIN SMALL LETTER GHA"), (0x34F, "CGJ"),
  (0x200B, "ZWSP"), (0x200C, "ZWNJ"), (0x200D, "ZWJ"), (0x200E, "LRM"), (0x200F, "RLM"),
  (0x202A, "LRE"), (0x202B, "RLE"), (0x202C, "PDF"), (0x202D, "LRO"), (0x202E, "RLO"),
  (0x202F, "NNBSP"), (0x205F, "MMSP"), (0x2060, "WJ"), (0x2066, "LRI"), (0x2067, "RLI"),
  (0x2068, "FSI"), (0x2069, "PDI"), (0x2118, "WEIERSTRASS ELLIPTIC FUNCTION"),
  (0x2448, "MICR ON US SYMBOL"), (0x2449, "MICR DASH SYMBOL"),
  (0x2B7A, "LEFTWARDS TRIANGLE-HEADED ARROW WITH DOUBLE VERTICAL STROKE"),
  (0x2B7C, "RIGHTWARDS TRIANGLE-HEADED ARROW WITH DOUBLE VERTICAL STROKE"), (0xFE00, "VS1"),
  (0xFE01, "VS2"), (0xFE02, "VS3"), (0xFE03, "VS4"), (0xFE04, "VS5"), (0xFE05, "VS6"),
  (0xFE06, "VS7"), (0xFE07, "VS8"), (0xFE08, "VS9"), (0xFE09, "VS10"), (0xFE0A, "VS11"),
  (0xFE0B, "VS12"), (0xFE0C, "VS13"), (0xFE0D, "VS14"), (0xFE0E, "VS15"), (0xFE0F, "VS16"),
  (0xFE18, "PRESENTATION FORM FOR VERTICAL RIGHT WHITE LENTICULAR BRACKET"),
  (0xFEFF, "BYTE ORDER MARK|BOM|ZWNBSP")]

/-- The ranges of the unified ideographs. -/
def ideographRanges : List (Nat × Nat) := [
  (0x3400, 0x4DBF), (0x4E00, 0x9FFF), (0x20000, 0x2A6DF), (0x2A700, 0x2B738), (0x2B740, 0x2B81D),
  (0x2B820, 0x2CEA1), (0x2CEB0, 0x2EBE0), (0x30000, 0x3134A)]

/-- The sounds that a Korean syllable starts with. -/
def leadingSounds : List String :=
  ["G", "GG", "N", "D", "DD", "R", "M", "B", "BB", "S", "SS", "", "J", "JJ", "C", "K", "T", "P", "H"]

/-- The vowels of Korean syllables. -/
def vowelSounds : List String :=
  ["A", "AE", "YA", "YAE", "EO", "E", "YEO", "YE", "O", "WA", "WAE", "OE", "YO", "U", "WEO", "WE",
    "WI", "YU", "EU", "YI", "I"]

/-- The sounds that a Korean syllable ends with. -/
def trailingSounds : List String :=
  ["", "G", "GG", "GS", "N", "NJ", "NH", "D", "L", "LG", "LM", "LB", "LS", "LT", "LP", "LH", "M", "B",
    "BS", "S", "SS", "NG", "J", "C", "K", "T", "P", "H"]

/-- The longest of some texts that a text starts with: its index and the rest. -/
def longestStart? (sounds : List String) (s : List Char) : Option (Nat × List Char) :=
  (sounds.zipIdx.foldl (fun best (sound, i) =>
    if sound.toList.isPrefixOf s && best.all fun (_, length) => length < sound.length then
      some (i, sound.length)
    else best) (none : Option (Nat × Nat))).map fun (i, length) => (i, s.drop length)

/-- The Korean syllable with the given sounds. -/
def syllable? (s : List Char) : Option Nat := do
  let (leading, s) ← longestStart? leadingSounds s
  let (vowel, s) ← longestStart? vowelSounds s
  let (trailing, s) ← longestStart? trailingSounds s
  if s.isEmpty then some (0xAC00 + (leading * 21 + vowel) * 28 + trailing) else none

/-- The unified ideograph with a code point in capital hexadecimal digits. -/
def ideograph? (s : List Char) : Option Nat := do
  let capital (c : Char) : Option Nat := if c.isLower then none else baseDigit? 16 c
  let n ← if s.contains '_' then none else readNatural capital 16 s
  if (s.length == 4 || s.length == 5) && inRanges ideographRanges n then some n else none

/-- The rest of a text after what it starts with. -/
def afterStart? (start : String) (s : List Char) : Option (List Char) :=
  if start.toList.isPrefixOf s then some (s.drop start.length) else none

/-- The code point in a run of names. -/
def codeInRun? (name : List Char) (run : Nat × String × String) : Option Nat := do
  let rest ← afterStart? run.2.1 name
  ((run.2.2.toList.splitOn '|').findIdx? (· == rest)).map (run.1 + ·)

/-- The code point of the character with the given name. -/
def characterNamed? (name : List Char) : Option Nat :=
  match afterStart? "HANGUL SYLLABLE " name, afterStart? "CJK UNIFIED IDEOGRAPH-" name with
  | some s, _ => syllable? s
  | none, some s => ideograph? s
  | none, none =>
    let name := name.map Char.toUpper
    (letterNames.findSome? (codeInRun? name)).or <|
      (symbolNames.findSome? (codeInRun? name)).or <|
        (pictureNames.findSome? (codeInRun? name)).or <|
          (characterAliases.find? fun e => (e.2.toList.splitOn '|').contains name).map Prod.fst

end ClientPlan.Text
