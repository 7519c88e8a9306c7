/-!
# The shortest decimal of a floating-point number

A finite double is `mantissa · 2 ^ exponent`.  Every real in a small interval around it reads
back as the same double.  Its shortest decimal is the one with the fewest digits inside that
interval, and of two with equally many digits the nearer.  Where both are equally near, a rule for
ties decides.  All arithmetic is exact, on natural numbers.
-/

namespace QueryImpact.Decimal

/-- A finite double without its sign: `mantissa · 2 ^ exponent`. -/
structure Binary where
  /-- The integral significand. -/
  mantissa : Nat
  /-- The power of two it is scaled by. -/
  exponent : Int
deriving DecidableEq

/-- Split the bits of a finite double into significand and exponent. -/
def Binary.ofBits (bits : UInt64) : Binary :=
  let fraction : Nat := bits.toNat % Nat.pow 2 52
  let biased : Nat := bits.toNat / Nat.pow 2 52 % Nat.pow 2 11
  if biased = 0 then ⟨fraction, -1074⟩
  else ⟨Nat.pow 2 52 + fraction, (biased : Int) - 1075⟩

/-- A decimal `digits · 10 ^ exponent`. -/
structure Shortest where
  /-- The significant digits, read as one number. -/
  digits : Nat
  /-- The power of ten they are scaled by. -/
  exponent : Int
deriving DecidableEq

/-- Which of two decimals that are equally near is taken. -/
inductive Tie where
  /-- The larger one. -/
  | up
  /-- The one whose last digit is even. -/
  | even
deriving DecidableEq

/-- Whether the larger of two neighbours is taken, given the smaller one and how the rest compares
with one half. -/
def Tie.takesUpper (tie : Tie) (below : Nat) (fromHalf : Ordering) : Bool :=
  match fromHalf, tie with
  | .lt, _ => false
  | .gt, _ => true
  | .eq, up => true
  | .eq, even => below % 2 = 1

/-- A double and the ends of the interval that reads back as it, as numerators over one common
denominator. -/
structure Interval where
  /-- Numerator of the double itself. -/
  value : Nat
  /-- Numerator of the lower end. -/
  low : Nat
  /-- Numerator of the upper end. -/
  high : Nat
  /-- The common denominator. -/
  denominator : Nat
  /-- Whether the ends themselves read back as the double. -/
  closed : Bool

/-- The interval of reals that read back as a double.  It reaches half way to the neighbours;
the lower neighbour of a power of two is only half as far away. -/
def Binary.interval (binary : Binary) : Interval :=
  let lowerGap := if binary.mantissa = Nat.pow 2 52 ∧ binary.exponent ≠ -1074 then 1 else 2
  let scale := if binary.exponent < 2 then 1 else Nat.pow 2 (binary.exponent - 2).toNat
  let denominator := if binary.exponent < 2 then Nat.pow 2 (2 - binary.exponent).toNat else 1
  { value := 4 * binary.mantissa * scale
    low := (4 * binary.mantissa - lowerGap) * scale
    high := (4 * binary.mantissa + 2) * scale
    denominator
    closed := binary.mantissa % 2 = 0 }

/-- The number of decimal digits of a natural number; zero has one. -/
def digitCount (n : Nat) : Nat :=
  (Nat.toDigits 10 n).length

/-- The position of the leading decimal digit of a positive quotient: the largest `e` with
`10 ^ e ≤ numerator / denominator`. -/
def leadingPosition (numerator denominator : Nat) : Int :=
  if denominator ≤ numerator then (digitCount (numerator / denominator) : Int) - 1
  else -(digitCount ((denominator + numerator - 1) / numerator - 1) : Int)

/-- Whether `digits · 10 ^ exponent` lies in the interval. -/
def Interval.holds (interval : Interval) (digits : Nat) (exponent : Int) : Bool :=
  let up := Nat.pow 10 exponent.toNat
  let down := Nat.pow 10 (-exponent).toNat
  let point := digits * up * interval.denominator
  let low := interval.low * down
  let high := interval.high * down
  if interval.closed then low ≤ point && point ≤ high else low < point && point < high

/-- The two neighbours of the value on the grid of multiples of `10 ^ exponent`, when one of
them lies in the interval: the nearer that does. -/
def Interval.onGrid (interval : Interval) (tie : Tie) (exponent : Int) : Option Nat :=
  let up := Nat.pow 10 exponent.toNat
  let down := Nat.pow 10 (-exponent).toNat
  let numerator := interval.value * down
  let denominator := interval.denominator * up
  let below := numerator / denominator
  let fromHalf := compare (2 * (numerator % denominator)) denominator
  match interval.holds below exponent, interval.holds (below + 1) exponent with
  | true, true => some (if tie.takesUpper below fromHalf then below + 1 else below)
  | true, false => some below
  | false, true => some (below + 1)
  | false, false => none

/-- Try grids with one digit more each time; seventeen digits always suffice. -/
def Interval.search (interval : Interval) (tie : Tie) (leading : Int) : Nat → Nat → Shortest
  | 0, count => ⟨interval.value / interval.denominator, count⟩
  | tries + 1, count =>
      match interval.onGrid tie (leading - count) with
      | some digits => ⟨digits, leading - count⟩
      | none => interval.search tie leading tries (count + 1)

/-- The shortest decimal of a positive finite double. -/
def Binary.shortest (binary : Binary) (tie : Tie) : Shortest :=
  if binary.mantissa = 0 then ⟨0, 0⟩
  else
    let interval := binary.interval
    interval.search tie (leadingPosition interval.value interval.denominator) 17 0

/-- Move the trailing zeros of the digits into the exponent. -/
def Shortest.normalize : Nat → Shortest → Shortest
  | 0, decimal => decimal
  | tries + 1, decimal =>
      if decimal.digits ≠ 0 ∧ decimal.digits % 10 = 0 then
        Shortest.normalize tries ⟨decimal.digits / 10, decimal.exponent + 1⟩
      else decimal

/-- The shortest decimal of the magnitude of a finite double, without trailing zeros. -/
def ofFloat (tie : Tie) (number : Float) : Shortest :=
  ((Binary.ofBits number.toBits).shortest tie).normalize 20

end QueryImpact.Decimal
