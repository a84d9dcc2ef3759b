import ClientPlan.Number.Double
import ClientPlan.Text.Digit

/-!
# The shortest decimal of a double

`shortest` finds the decimal with the fewest digits that reads back as a given double, and among
those the one nearest to it; an exact tie goes to the even digit.  It tests, for one, two, … digits,
the two neighbours of the value on the decimal grid against the interval of reals that round to the
double.  The interval contains its ends exactly when the significand is even.

`Layout` states how such a decimal is written: which decimal exponents are positional, and how an
exponent is shown.
-/

set_option autoImplicit false

namespace ClientPlan.Number

/-- A positive decimal `digits · 10^exponent`. -/
structure Decimal where
  /-- The digits as one natural number. -/
  digits : Nat
  /-- The power of ten. -/
  exponent : Int
deriving DecidableEq, Repr

/-- The grid point `c · 10^exponent` nearest to the magnitude if a neighbour of the magnitude on that
grid rounds to it.  Everything is scaled so that the magnitude is `4 · significand · down`. -/
def Binary.gridPoint? (b : Binary) (exponent : Int) : Option Nat :=
  let up := tenTo exponent.toNat * twoTo (2 - b.power).toNat
  let down := tenTo (-exponent).toNat * twoTo (b.power - 2).toNat
  let value := 4 * b.significand * down
  let below := if b.significand == twoTo 52 && decide (-1074 < b.power) then down else 2 * down
  let low := value - below
  let high := value + 2 * down
  let inside (c : Nat) : Bool :=
    if b.significand % 2 == 0 then low ≤ c * up && c * up ≤ high
    else low < c * up && c * up < high
  let c := value / up
  match inside c, inside (c + 1) with
  | true, true =>
    let distance := value - c * up
    some (if 2 * distance < up then c else if up < 2 * distance then c + 1 else c + c % 2)
  | true, false => some c
  | false, true => some (c + 1)
  | false, false => none

/-- The exponent of the leading decimal digit of a positive magnitude. -/
def Binary.order (b : Binary) : Int :=
  let num := b.significand * twoTo b.power.toNat
  let den := twoTo (-b.power).toNat
  if den ≤ num then ((Nat.toDigits 10 (num / den)).length : Int) - 1
  else
    let a := (Nat.toDigits 10 (den / num)).length - 1
    if den == num * tenTo a then -(a : Int) else -(a : Int) - 1

/-- The decimal without trailing zeros. -/
def stripZeros : Nat → Nat → Int → Decimal
  | 0, digits, exponent => ⟨digits, exponent⟩
  | fuel + 1, digits, exponent =>
    if digits % 10 == 0 && digits != 0 then stripZeros fuel (digits / 10) (exponent + 1)
    else ⟨digits, exponent⟩

/-- The shortest decimal that reads back as a positive magnitude. -/
def Binary.shortest (b : Binary) : Decimal :=
  let order := b.order
  let hit := (List.range 17).findSome? fun (k : Nat) =>
    (b.gridPoint? (order - k)).map fun c => stripZeros 17 c (order - k)
  hit.getD ⟨0, 0⟩

/-- How the decimal of a double is written. -/
structure Layout where
  /-- The least exponent of the leading digit that is written positionally. -/
  leastPositional : Int
  /-- The greatest exponent of the leading digit that is written positionally. -/
  greatestPositional : Int
  /-- The least number of digits of an exponent. -/
  exponentWidth : Nat
  /-- The text of infinity. -/
  infinity : String
  /-- The text of a NaN. -/
  notANumber : String

/-- A decimal in positional notation, with at least one digit on either side of the point. -/
def Decimal.positional (digits : List Char) (point : Int) : List Char :=
  if point ≤ 0 then '0' :: '.' :: List.replicate (-point).toNat '0' ++ digits
  else
    let n := point.toNat
    let whole := digits.take n ++ List.replicate (n - digits.length) '0'
    let rest := digits.drop n
    whole ++ '.' :: (if rest.isEmpty then ['0'] else rest)

/-- A decimal with one digit before the point and an exponent. -/
def Decimal.scientific (layout : Layout) (digits : List Char) (exponent : Int) : List Char :=
  let mantissa := match digits with
    | [] => []
    | [d] => [d]
    | d :: r => d :: '.' :: r
  let shown := Text.decimal exponent.natAbs
  let padded := List.replicate (layout.exponentWidth - shown.length) '0' ++ shown
  mantissa ++ 'e' :: (if exponent < 0 then '-' else '+') :: padded

/-- The magnitude of a double as text. -/
def Layout.renderBinary (layout : Layout) (b : Binary) : List Char :=
  if b.significand == 0 then ['0', '.', '0']
  else
    let d := b.shortest
    let digits := Text.decimal d.digits
    let leading := d.exponent + digits.length - 1
    if layout.leastPositional ≤ leading && leading ≤ layout.greatestPositional then
      Decimal.positional digits (leading + 1)
    else Decimal.scientific layout digits leading

/-- The text of a double. -/
def Layout.render (layout : Layout) (x : Float) : String :=
  let sign := if isNegative x then ['-'] else []
  match magnitude? x with
  | some b => String.ofList (sign ++ layout.renderBinary b)
  | none =>
    if x.toBits.toNat % twoTo 52 == 0 then String.ofList (sign ++ layout.infinity.toList)
    else layout.notANumber

end ClientPlan.Number
