import ClientPlan.Number.Double
import ClientPlan.Text.Digit

/-!
# Doubles in text

`ofText?` reads a double in decimal notation: blanks around it, a sign, digits of any script with at
most one point, and an exponent; or, in lower case, the words for infinity and NaN.
-/

set_option autoImplicit false

namespace ClientPlan.Number

/-- The digits at the start of a text, as their values, and what follows them. -/
def leadingDigits : List Char → List Nat × List Char
  | [] => ([], [])
  | c :: r =>
    match Text.digitValue? c with
    | some d => let (digits, rest) := leadingDigits r; (d :: digits, rest)
    | none => ([], c :: r)

/-- The number that decimal digits write. -/
def ofDigits (digits : List Nat) : Nat := digits.foldl (fun n d => n * 10 + d) 0

/-- A sign at the start of a text, which is negative or not, and what follows it. -/
def leadingSign : List Char → Bool × List Char
  | '-' :: r => (true, r)
  | '+' :: r => (false, r)
  | r => (false, r)

/-- The exponent that a text is; the empty text is zero. -/
def exponent? : List Char → Option Int
  | [] => some 0
  | c :: r =>
    if c == 'e' || c == 'E' then
      let (negative, r) := leadingSign r
      match leadingDigits r with
      | ([], _) => none
      | (digits, []) =>
        let n : Int := ofDigits digits
        some (if negative then -n else n)
      | _ => none
    else none

/-- The double that a text without sign is. -/
def magnitudeOfText? (cs : List Char) : Option Float :=
  if ["inf".toList, "infinity".toList].contains cs then some infinity
  else if cs == "nan".toList then some notANumber
  else
    let (whole, r) := leadingDigits cs
    let (fraction, r) := match r with
      | '.' :: r => leadingDigits r
      | r => ([], r)
    if whole.isEmpty && fraction.isEmpty then none
    else
      (exponent? r).map fun power =>
        ofDecimal (ofDigits (whole ++ fraction)) (power - fraction.length)

/-- The double that a text is. -/
def ofText? (cs : List Char) : Option Float :=
  let (negative, r) := leadingSign (Text.trimNumber cs)
  (magnitudeOfText? r).map fun x => if negative then -x else x

end ClientPlan.Number
