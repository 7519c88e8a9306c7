import QueryImpact.Decimal.Shortest

/-!
# Ways to write a floating-point number

Both notations write the shortest decimal.  The exact notation always shows that the number is
a floating-point number, by a fraction or an exponent, and turns to an exponent for very large
and very small numbers; of two decimals equally near it takes the even one.  The plain notation
never has an exponent and drops an empty fraction; it takes the larger one.
-/

namespace QueryImpact.Decimal

/-- Whether the sign bit of a double is set. -/
def isNegative (number : Float) : Bool :=
  decide (Nat.pow 2 63 ≤ number.toBits.toNat)

/-- The digits of a natural number. -/
def digitChars (n : Nat) : List Char :=
  Nat.toDigits 10 n

/-- A decimal written with a point and no exponent; `fraction` is written after a number without
decimals. -/
def positional (decimal : Shortest) (fraction : List Char) : List Char :=
  let digits := digitChars decimal.digits
  if 0 ≤ decimal.exponent then
    digits ++ List.replicate decimal.exponent.toNat '0' ++ fraction
  else
    let places := (-decimal.exponent).toNat
    if places < digits.length then
      digits.take (digits.length - places) ++ '.' :: digits.drop (digits.length - places)
    else
      '0' :: '.' :: (List.replicate (places - digits.length) '0' ++ digits)

/-- A decimal written with one digit before the point and a signed power of ten. -/
def scientific (decimal : Shortest) : List Char :=
  let digits := digitChars decimal.digits
  let power := decimal.exponent + (digits.length - 1 : Nat)
  let mantissa :=
    match digits with
    | first :: second :: rest => first :: '.' :: second :: rest
    | short => short
  mantissa ++ 'e' :: (if power < 0 then '-' else '+') :: digitChars power.natAbs

/-- The exact notation: positional from `10 ^ -5` up to below `10 ^ 16`, with `.0` after a
whole number, and scientific outside of that. -/
def exactChars (number : Float) : List Char :=
  let decimal := ofFloat .even number
  let power := decimal.exponent + ((digitChars decimal.digits).length - 1 : Nat)
  let magnitude :=
    if -5 ≤ power ∧ power ≤ 15 then positional decimal ['.', '0'] else scientific decimal
  if isNegative number then '-' :: magnitude else magnitude

/-- The exact notation of a finite double. -/
def exact (number : Float) : String :=
  String.ofList (exactChars number)

/-- The plain notation of a double. -/
def plain (number : Float) : String :=
  if number.isNaN then "NaN"
  else
    let magnitude :=
      if number.isInf then ['i', 'n', 'f'] else positional (ofFloat .up number) []
    String.ofList (if isNegative number then '-' :: magnitude else magnitude)

end QueryImpact.Decimal
