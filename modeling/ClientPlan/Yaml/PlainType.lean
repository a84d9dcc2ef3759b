/-!
# Tags

A tag says what a node stands for.  A plain scalar without a tag gets one by its form, and `Tag.ofPlain`
states these forms: truth values, integers and doubles in several notations, dates and moments, and
the marks for merging and for default values.
-/

set_option autoImplicit false

namespace ClientPlan.Yaml

/-- What a node stands for. -/
inductive Tag where
  | null
  | bool
  | int
  | float
  | timestamp
  | binary
  | str
  | seq
  | map
  | set
  | omap
  | pairs
  /-- The mark in front of mappings to be merged. -/
  | merge
  /-- The mark of a default value. -/
  | value
  /-- Anything else. -/
  | other (name : String)
deriving DecidableEq, Repr

namespace Tag

/-- What the tags of the language start with. -/
def standardStart : String := "tag:yaml.org,2002:"

/-- The tags of the language by their names. -/
def standardNames : List (String × Tag) := [
  ("null", null), ("bool", bool), ("int", int), ("float", float), ("timestamp", timestamp),
  ("binary", binary), ("str", str), ("seq", seq), ("map", map), ("set", set), ("omap", omap),
  ("pairs", pairs), ("merge", merge), ("value", value)]

/-- The tag that is written in full as `s`. -/
def ofText (s : String) : Tag :=
  ((standardNames.find? fun e => standardStart ++ e.1 == s).map Prod.snd).getD (other s)

/-! ## Forms of plain scalars -/

/-- The words for truth values. -/
def booleanWords : List String := [
  "yes", "Yes", "YES", "no", "No", "NO", "true", "True", "TRUE", "false", "False", "FALSE",
  "on", "On", "ON", "off", "Off", "OFF"]

/-- The words for the absent value. -/
def nullWords : List String := ["", "~", "null", "Null", "NULL"]

/-- The text without a sign at the start. -/
def unsigned : List Char → List Char
  | '+' :: r => r
  | '-' :: r => r
  | r => r

/-- A digit or an underscore. -/
def isSpacedDigit (c : Char) : Bool := c.isDigit || c == '_'

/-- Whether a text is a digit followed by digits and underscores. -/
def isSpacedNumber : List Char → Bool
  | [] => false
  | c :: r => c.isDigit && r.all isSpacedDigit

/-- Whether a text is one of the numbers from zero to 59, possibly with a leading zero. -/
def isSixtieth : List Char → Bool
  | [a] => a.isDigit
  | [a, b] => '0' ≤ a && a ≤ '5' && b.isDigit
  | _ => false

/-- Whether a text is a number with further places in base 60, each after a colon. -/
def isSexagesimal (leadingZero : Bool) (s : List Char) : Bool :=
  match s.splitOn ':' with
  | first :: place :: places =>
    isSpacedNumber first && (leadingZero || first.head? != some '0') &&
      (place :: places).all isSixtieth
  | _ => false

/-- Whether a text is a form of an integer. -/
def isInt (s : List Char) : Bool :=
  match unsigned s with
  | '0' :: 'b' :: r => !r.isEmpty && r.all fun c => c == '0' || c == '1' || c == '_'
  | '0' :: 'x' :: r =>
    !r.isEmpty && r.all fun c =>
      isSpacedDigit c || ('a' ≤ c && c ≤ 'f') || ('A' ≤ c && c ≤ 'F')
  | ['0'] => true
  | '0' :: r => r.all fun c => ('0' ≤ c && c ≤ '7') || c == '_'
  | r => isSpacedNumber r || isSexagesimal false r

/-- Whether a text is an exponent with a sign, or empty. -/
def isExponent : List Char → Bool
  | [] => true
  | e :: sign :: r =>
    (e == 'e' || e == 'E') && (sign == '+' || sign == '-') && !r.isEmpty && r.all Char.isDigit
  | _ => false

/-- Whether a text is a fraction, after its point, with an exponent. -/
def isFraction (s : List Char) : Bool := isExponent (s.dropWhile isSpacedDigit)

/-- Whether a text is a form of a double. -/
def isFloat (s : List Char) : Bool :=
  let r := unsigned s
  let whole := r.takeWhile (· != '.')
  match r.dropWhile (· != '.') with
  | _ :: fraction =>
    if whole.isEmpty then
      [".inf", ".Inf", ".INF"].contains (String.ofList r) ||
        (r == s && ([".nan", ".NaN", ".NAN"].contains (String.ofList r) ||
          (fraction.head?.any Char.isDigit && isFraction fraction)))
    else
      (isSpacedNumber whole && isFraction fraction) ||
        (isSexagesimal true whole && fraction.all isSpacedDigit)
  | [] => false

end Tag

end ClientPlan.Yaml
