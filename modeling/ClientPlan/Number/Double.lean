import ClientPlan.Number.Natural

/-!
# Doubles by their binary parts

A finite double is `(-1)^s · m · 2^q` with natural `m` and integral `q`.  This module takes a double
apart into these parts, compares it exactly with an integer, and rounds a quotient of naturals to
the nearest double, ties to the even significand.  All arithmetic is exact arithmetic on `Nat`.
-/

set_option autoImplicit false

namespace ClientPlan.Number

/-- The magnitude of a finite double: `significand · 2^power`. -/
structure Binary where
  /-- The integral significand, below `2^53`. -/
  significand : Nat
  /-- The power of two it is scaled by. -/
  power : Int
deriving DecidableEq, Repr

/-- Whether the sign bit of a double is set. -/
def isNegative (x : Float) : Bool :=
  (x.toBits >>> 63) == 1

/-- The magnitude of a double, or `none` for an infinity or a NaN. -/
def magnitude? (x : Float) : Option Binary :=
  let bits : Nat := x.toBits.toNat
  let fraction : Nat := bits % twoTo 52
  let exponent : Nat := bits / twoTo 52 % twoTo 11
  if exponent == 0x7FF then none
  else if exponent == 0 then some ⟨fraction, -1074⟩
  else some ⟨twoTo 52 + fraction, (exponent : Int) - 1075⟩

/-- Whether a magnitude is the natural number `n`. -/
def Binary.isNat (b : Binary) (n : Nat) : Bool :=
  b.significand * twoTo b.power.toNat == n * twoTo (-b.power).toNat

/-- Whether a double is exactly the integer `n`; both zeros are the integer zero. -/
def isInt (x : Float) (n : Int) : Bool :=
  match magnitude? x with
  | none => false
  | some b => b.isNat n.natAbs && (n == 0 || isNegative x == decide (n < 0))

/-- Whether a double is a zero of either sign. -/
def isZero (x : Float) : Bool :=
  isInt x 0

/-- The integer that a finite double without fractional part is. -/
def toInt? (x : Float) : Option Int :=
  (magnitude? x).bind fun b =>
    let scaled := b.significand * twoTo b.power.toNat
    let unit := twoTo (-b.power).toNat
    if scaled % unit == 0 then
      let n : Int := (scaled / unit : Nat)
      some (if isNegative x then -n else n)
    else none

/-- `a / b` rounded to the nearest natural, a tie to the even one. -/
def roundDiv (a b : Nat) : Nat :=
  let q := a / b
  let r := a % b
  if 2 * r < b then q else if b < 2 * r then q + 1 else q + q % 2

/-- The bit pattern of positive infinity. -/
def infinityBits : Nat := 0x7FF * twoTo 52

/-- The bit pattern of the double nearest to `num / den`, for a positive `den`. -/
def nearestBits (num den : Nat) : Nat :=
  if num == 0 then 0
  else
    let guess : Int := (num.log2 : Int) - den.log2 - 52
    let power : Int :=
      if num * twoTo (-guess).toNat < twoTo 52 * (den * twoTo guess.toNat) then guess - 1
      else guess
    let power := max power (-1074)
    let significand := roundDiv (num * twoTo (-power).toNat) (den * twoTo power.toNat)
    let (significand, power) :=
      if significand == twoTo 53 then (twoTo 52, power + 1) else (significand, power)
    if 971 < power then infinityBits
    else if significand < twoTo 52 then significand
    else (power + 1075).toNat * twoTo 52 + (significand - twoTo 52)

/-- The double nearest to `num / den`, for a positive `den`. -/
def nearest (num den : Nat) : Float :=
  Float.ofBits (UInt64.ofNat (nearestBits num den))

/-- The double nearest to `n · 10^k`.  Exponents far outside the range of doubles are decided by the
number of digits alone. -/
def ofDecimal (n : Nat) (k : Int) : Float :=
  let order : Int := (Nat.toDigits 10 n).length + k
  if n == 0 || order < -400 then Float.ofBits 0
  else if 400 < order then Float.ofBits (UInt64.ofNat infinityBits)
  else nearest (n * tenTo k.toNat) (tenTo (-k).toNat)

/-- Positive infinity. -/
def infinity : Float := Float.ofBits (UInt64.ofNat infinityBits)

/-- The NaN with the usual bit pattern. -/
def notANumber : Float := Float.ofBits 0x7FF8000000000000

end ClientPlan.Number
