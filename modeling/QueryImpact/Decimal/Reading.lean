/-!
# Reading decimal numbers

There are two ways to read a decimal number as a floating-point number.  The nearest one is exact.
The scaled one keeps as many leading digits as fit in 64 bits, and multiplies or divides by one
power of ten at a time; every step rounds, so that the last digit can differ.
-/

namespace QueryImpact.Decimal

/-- The floating-point number nearest to `digits * 10 ^ exponent`, with a sign.  Numbers that are
far out of range are settled without computing the power. -/
def nearest (negative : Bool) (digits : Nat) (exponent : Int) : Float :=
  let places : Int := (Nat.toDigits 10 digits).length + exponent
  let magnitude : Float :=
    if digits = 0 ∨ places < -400 then 0.0
    else if 400 < places then 1.0 / 0.0
    else Float.ofScientific digits (decide (exponent < 0)) exponent.natAbs
  if negative then -magnitude else magnitude

/-! ## Scaled numbers -/

/-- Append digits to a number as long as it fits in 64 bits: the number, and the digits left
over. -/
def appendDigits (value : Nat) : List Char → Nat × List Char
  | [] => (value, [])
  | c :: rest =>
      let next := 10 * value + (c.toNat - '0'.toNat)
      if next < UInt64.size then appendDigits next rest else (value, c :: rest)

/-- A power of ten. -/
def tenTo (power : Nat) : Float :=
  Float.ofScientific 1 false power

/-- The largest power of ten that is a floating-point number. -/
def largestPower : Nat :=
  308

/-- Divide by a power of ten, in steps that are floating-point numbers. -/
def shrink (power : Nat) (value : Float) : Float :=
  if power ≤ largestPower then value / tenTo power
  else if value == 0.0 then value
  else shrink (power - largestPower) (value / tenTo largestPower)
termination_by power
decreasing_by simp only [largestPower] at *; omega

/-- The scaled number `significand * 10 ^ exponent`, unless it is out of range. -/
def scale? (significand : Nat) (exponent : Int) : Option Float :=
  let value := (UInt64.ofNat significand).toFloat
  if exponent < 0 then some (shrink exponent.natAbs value)
  else if exponent ≤ largestPower then
    let grown := value * tenTo exponent.natAbs
    if grown.isInf then none else some grown
  else if significand = 0 then some value
  else none

/-- The scaled number with the given digits before and after the point, times a power of ten.
Digits that do not fit are left out; before the point they still count as places. -/
def scaled? (whole fraction : List Char) (exponent : Int) : Option Float :=
  let (leading, places) := appendDigits 0 whole
  let (significand, dropped) := appendDigits leading fraction
  let taken := fraction.length - dropped.length
  scale? significand ((places.length : Int) - taken + exponent)

end QueryImpact.Decimal
