import ClientPlan.Text.OctetCharset
import ClientPlan.Text.Utf8

/-!
# Charsets

A charset reads octets as a text.  Octets without a meaning become the replacement character.  The
names of charsets are compared without case, and any run of other characters than letters, digits and
points counts as one underscore.

Of the charsets in which a character of a script of East Asia takes several octets only the part is
read that they share with ASCII.
-/

set_option autoImplicit false

namespace ClientPlan.Text

/-- Why octets cannot be read at all. -/
inductive CharsetFault where
  /-- The order of octets is left open, and no mark says what it is. -/
  | missingMark
  /-- Under this name octets are turned into octets. -/
  | octetsToOctets
  /-- Under this name texts are turned into texts. -/
  | textToText
deriving DecidableEq, Repr

/-- A charset. -/
inductive Charset where
  /-- UTF-8; a mark at the start may be skipped. -/
  | utf8 (skipsMark : Bool)
  /-- Characters of one octet: from `first` on in rows of sixteen, before it the code points
  themselves. -/
  | octets (first : Nat) (rows : List String)
  /-- UTF-16, whose units have two octets. -/
  | utf16 (bigEndian : Bool)
  /-- UTF-32, whose units have four octets. -/
  | utf32 (bigEndian : Bool)
  /-- Units of `width` octets in an order that only a mark could tell. -/
  | unordered (width : Nat)
  /-- No charset, though it has a name. -/
  | faulty (fault : CharsetFault)
deriving DecidableEq, Repr

/-! ## Names -/

/-- The names of the charsets that are no table, and what they read. -/
def charsetNames : List (List String × Charset) := [
  (["utf_8", "cp65001", "u8", "utf", "utf8", "utf8_ucs2", "utf8_ucs4"], .utf8 false),
  (["utf_8_sig"], .utf8 true),
  (["ascii", "646", "ansi_x3.4_1968", "ansi_x3.4_1986", "ansi_x3_4_1968", "cp367", "csascii",
    "ibm367", "iso646_us", "iso_646.irv_1991", "iso_ir_6", "us", "us_ascii"], .octets 128 []),
  (["utf_7", "u7", "unicode_1_1_utf_7", "utf7"], .octets 128 []),
  (["latin_1", "8859", "cp819", "csisolatin1", "ibm819", "iso8859", "iso8859_1", "iso_8859_1",
    "iso_8859_1_1987", "iso_ir_100", "l1", "latin", "latin1"], .octets 256 []),
  (["charmap", "unicode_escape", "raw_unicode_escape"], .octets 256 []),
  (["utf_16_le", "unicodelittleunmarked", "utf_16le"], .utf16 false),
  (["utf_16_be", "unicodebigunmarked", "utf_16be"], .utf16 true),
  (["utf_32_le", "utf_32le"], .utf32 false),
  (["utf_32_be", "utf_32be"], .utf32 true),
  (["utf_16", "u16", "utf16"], .unordered 2),
  (["utf_32", "u32", "utf32"], .unordered 4),
  (["idna", "undefined"], .faulty .missingMark),
  (["base64_codec", "base64", "base_64", "bz2_codec", "bz2", "hex_codec", "hex", "quopri_codec",
    "quopri", "quoted_printable", "quotedprintable", "uu_codec", "uu", "zlib_codec", "zip", "zlib"],
    .faulty .octetsToOctets),
  (["rot_13", "rot13"], .faulty .textToText),
  (["gbk", "936", "cp936", "ms936", "gb2312", "chinese", "csiso58gb231280", "euc_cn", "euccn",
    "eucgb2312_cn", "gb2312_1980", "gb2312_80", "iso_ir_58", "x_mac_simp_chinese", "gb18030",
    "gb18030_2000", "big5", "big5_tw", "csbig5", "x_mac_trad_chinese", "big5hkscs", "big5_hkscs",
    "hkscs", "cp950", "950", "ms950", "hz", "hz_gb", "hz_gb_2312", "hzgb"], .octets 128 []),
  (["euc_kr", "euckr", "korean", "ks_c_5601", "ks_c_5601_1987", "ks_x_1001", "ksc5601", "ksx1001",
    "x_mac_korean", "cp949", "949", "ms949", "uhc", "johab", "cp1361", "ms1361", "iso2022_kr",
    "csiso2022kr", "iso2022kr", "iso_2022_kr"], .octets 128 []),
  (["euc_jp", "eucjp", "u_jis", "ujis", "euc_jis_2004", "euc_jis2004", "eucjis2004", "jisx0213",
    "euc_jisx0213", "eucjisx0213", "iso2022_jp", "csiso2022jp", "iso2022jp", "iso_2022_jp",
    "iso2022_jp_1", "iso2022jp_1", "iso_2022_jp_1", "iso2022_jp_2", "iso2022jp_2", "iso_2022_jp_2",
    "iso2022_jp_2004", "iso2022jp_2004", "iso_2022_jp_2004", "iso2022_jp_3", "iso2022jp_3",
    "iso_2022_jp_3", "iso2022_jp_ext", "iso2022jp_ext", "iso_2022_jp_ext"], .octets 128 []),
  (["shift_jis", "csshiftjis", "s_jis", "shiftjis", "sjis", "x_mac_japanese", "cp932", "932", "ms932",
    "ms_kanji", "mskanji", "shift_jis_2004", "s_jis_2004", "shiftjis2004", "sjis_2004",
    "shift_jisx0213", "s_jisx0213", "shiftjisx0213", "sjisx0213"],
    .octets 128 ["�", "�", "�｡｢｣､･ｦｧｨｩｪｫｬｭｮｯ", "ｰｱｲｳｴｵｶｷｸｹｺｻｼｽｾｿ", "ﾀﾁﾂﾃﾄﾅﾆﾇﾈﾉﾊﾋﾌﾍﾎﾏ", "ﾐﾑﾒﾓﾔﾕﾖﾗﾘﾙﾚﾛﾜﾝﾞﾟ"])]

/-- A name in the form in which names are compared; `gap` is whether characters were left out. -/
def charsetKey (gap started : Bool) : List Char → List Char
  | [] => []
  | c :: r =>
    if c.isAlphanum || c == '.' then
      (if gap && started then ['_', c.toLower] else [c.toLower]) ++ charsetKey false true r
    else charsetKey true started r

/-- The charset of a name. -/
def Charset.ofName? (name : String) : Option Charset :=
  let key := String.ofList (charsetKey false false name.toList)
  let known := charsetNames.find? fun entry => entry.1.contains key
  let table := octetCharsets.find? fun entry => entry.1.contains key
  (known.map Prod.snd).orElse fun _ => table.map fun (_, first, rows) => .octets first rows

/-! ## Reading -/

/-- The character that stands for octets without a meaning. -/
def replacement : Char := Char.ofNat 0xFFFD

/-- The character of an octet in a charset of single octets. -/
def octetChar (first : Nat) (rows : List String) (n : Nat) : Char :=
  if n < first then Char.ofNat n
  else match rows[(n - first) / 16]? with
    | none => replacement
    | some row => if row == "" then Char.ofNat n else (row.toList[n % 16]?).getD replacement

/-- The number that two octets are. -/
def unitOf (bigEndian : Bool) (a b : Nat) : Nat := if bigEndian then a * 256 + b else b * 256 + a

/-- A code point as a character; surrogates are none. -/
def scalar (n : Nat) : Char := if n.isValidChar then Char.ofNat n else replacement

/-- Whether a unit of two octets is the first of a pair. -/
def isLead (n : Nat) : Bool := 0xD800 ≤ n && n < 0xDC00

/-- Whether a unit of two octets is the second of a pair. -/
def isTrail (n : Nat) : Bool := 0xDC00 ≤ n && n < 0xE000

/-- The text that octets are in UTF-16. -/
def readUtf16 (bigEndian : Bool) : List Nat → List Char
  | [] => []
  | [_] => [replacement]
  | a :: b :: r =>
    let n := unitOf bigEndian a b
    match r with
    | c :: d :: rest =>
      let m := unitOf bigEndian c d
      if isLead n && isTrail m then
        scalar (0x10000 + (n - 0xD800) * 0x400 + (m - 0xDC00)) :: readUtf16 bigEndian rest
      else scalar n :: readUtf16 bigEndian (c :: d :: rest)
    | r => if isLead n then [replacement] else scalar n :: readUtf16 bigEndian r
termination_by l => l.length

/-- The text that octets are in UTF-32. -/
def readUtf32 (bigEndian : Bool) : List Nat → List Char
  | a :: b :: c :: d :: r =>
    let n := if bigEndian then unitOf true a b * 0x10000 + unitOf true c d
      else unitOf false c d * 0x10000 + unitOf false a b
    scalar n :: readUtf32 bigEndian r
  | [] => []
  | _ => [replacement]

/-- The text that octets are in a charset; `text` is what they are in UTF-8. -/
def Charset.reread (text : String) : Charset → Except CharsetFault String
  | .utf8 skipsMark =>
    .ok (if skipsMark && text.front == Char.ofNat 0xFEFF then (text.drop 1).toString else text)
  | .octets first rows => .ok (String.ofList ((encode text).map (octetChar first rows)))
  | .utf16 bigEndian => .ok (String.ofList (readUtf16 bigEndian (encode text)))
  | .utf32 bigEndian => .ok (String.ofList (readUtf32 bigEndian (encode text)))
  | .unordered width =>
    if text.isEmpty then .ok ""
    else if (encode text).length < width then .ok (String.singleton replacement)
    else .error .missingMark
  | .faulty fault => if text.isEmpty then .ok "" else .error fault

end ClientPlan.Text
