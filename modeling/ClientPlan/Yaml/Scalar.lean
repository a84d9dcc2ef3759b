import ClientPlan.Document.Value
import ClientPlan.Number.Decimal
import ClientPlan.Text.Base64
import ClientPlan.Text.Lower
import ClientPlan.Yaml.PlainType
import ClientPlan.Yaml.Source
import ClientPlan.Yaml.Timestamp

/-!
# The values of scalars

`scalarValue` reads the text of a scalar as its tag says.  Underscores in numbers are skipped.
-/

set_option autoImplicit false

namespace ClientPlan.Yaml

/-- A text without underscores. -/
def withoutUnderscores (s : List Char) : List Char := s.filter (· != '_')

/-! ## Integers -/

/-- The value of a digit of any script in a base. -/
def digitIn? (base : Nat) (c : Char) : Option Nat :=
  ((Text.digitValue? c).filter (· < base)).or (Text.baseDigit? base c)

/-- The text without the mark of its base, a zero and a letter. -/
def withoutBaseMark (mark : Char) : List Char → List Char
  | '0' :: c :: r => if c.toLower == mark then r else '0' :: c :: r
  | r => r

/-- The integer that a text is in a base with a mark; blanks and a sign may stand in front. -/
def integerIn? (base : Nat) (mark : Char) (s : List Char) : Option Int :=
  let (negative, r) := Number.leadingSign (Text.trimNumber s)
  (Text.readNatural (digitIn? base) base (withoutBaseMark mark r)).map fun n =>
    if negative then -(n : Int) else n

/-- The decimal integer that a text is. -/
def decimalInteger? (s : List Char) : Option Int := Text.readInteger (String.ofList s)

/-- The integer whose places in base 60 are separated by colons. -/
def sexagesimalInteger? (s : List Char) : Option Int := do
  let places ← (s.splitOn ':').mapM decimalInteger?
  return places.foldl (fun n d => n * 60 + d) 0

/-- The integer that a text without sign is, in one of its notations. -/
def unsignedInteger? : List Char → Option Int
  | ['0'] => some 0
  | '0' :: 'b' :: r => integerIn? 2 'b' r
  | '0' :: 'x' :: r => integerIn? 16 'x' r
  | '0' :: r => integerIn? 8 'o' ('0' :: r)
  | s => if s.contains ':' then sexagesimalInteger? s else decimalInteger? s

/-- The integer that a text is. -/
def integer (s : List Char) : Except Fault Int :=
  let (negative, r) := Number.leadingSign (withoutUnderscores s)
  if r.isEmpty then .error (.scalar .emptyScalar)
  else
    match unsignedInteger? r with
    | none => .error (.scalar .badScalar)
    | some n => .ok (if negative then -n else n)

/-! ## Doubles -/

/-- The double whose places in base 60 are separated by colons; the last place is added first.  There is
none if the unit of a place is beyond all doubles. -/
def sexagesimalDouble (s : List Char) : Except Fault Float :=
  match (s.splitOn ':').mapM Number.ofText? with
  | none => .error (.scalar .badScalar)
  | some places =>
    if Number.nearestBits (Nat.pow 60 (places.length - 1)) 1 == Number.infinityBits then
      .error (.scalar .hugeUnit)
    else
      let sum := places.reverse.foldl
        (fun (sum, unit) place => (sum + place * Number.nearest unit 1, unit * 60)) ((0 : Float), 1)
      .ok sum.1

/-- The text of a double in lower case, without its sign, and whether that is a minus. -/
def doubleForm (s : List Char) : Bool × List Char :=
  Number.leadingSign (Text.lowercase (String.ofList (withoutUnderscores s))).toList

/-- The word for what is no number. -/
def nanWord : List Char := ".nan".toList

/-- The double that a text without sign is. -/
def unsignedDouble (s : List Char) : Except Fault Float :=
  if s == ".inf".toList then .ok Number.infinity
  else if s == nanWord then .ok Number.notANumber
  else if s.contains ':' then sexagesimalDouble s
  else
    match Number.ofText? s with
    | some x => .ok x
    | none => .error (.scalar .badScalar)

/-- The double that a text is. -/
def double (s : List Char) : Except Fault Float :=
  if (withoutUnderscores s).isEmpty then .error (.scalar .emptyScalar)
  else do
    let (negative, r) := doubleForm s
    let x ← unsignedDouble r
    return if negative then -x else x

/-! ## Other scalars -/

/-- The truth value that a text is. -/
def truthValue (s : String) : Except Fault Bool :=
  let word := Text.lowercase s
  if ["yes", "true", "on"].contains word then .ok true
  else if ["no", "false", "off"].contains word then .ok false
  else .error (.scalar .unknownWord)

/-- The date or moment that a text is. -/
def calendarValue (s : List Char) : Except Fault Value :=
  match Timestamp.ofText? s with
  | none => .error (.scalar .noMoment)
  | some ⟨date, _, none⟩ =>
    if date.isValid then .ok (.date date) else .error (.scalar .badScalar)
  | some ⟨date, _, some time⟩ =>
    let m := Timestamp.moment date time
    if m.isValid then .ok (.moment m) else .error (.scalar .badScalar)

/-- The octets that a text is. -/
def octets (s : List Char) : Except Fault (List Nat) :=
  if s.all fun c => c.toNat < 0x80 then
    match Text.octetsOfBase64? s with
    | some l => .ok l
    | none => .error .malformed
  else .error .malformed

/-- The value of a scalar with the given tag and text; the tag of a collection has none. -/
def scalarValue (tag : Tag) (text : String) : Except Fault Value :=
  let s := text.toList
  match tag with
  | .null => .ok .null
  | .bool => return .bool (← truthValue text)
  | .int => return .int (← integer s)
  | .float => return .float (← double s)
  | .timestamp => calendarValue s
  | .binary => return .bytes (← octets s)
  | .str => .ok (.str text)
  | .seq | .map | .set | .omap | .pairs | .merge | .value | .other _ => .error .malformed

end ClientPlan.Yaml
