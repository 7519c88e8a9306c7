import QueryImpact.Decimal.Reading
import QueryImpact.Toml.Text
import QueryImpact.Toml.Value

/-!
# TOML numbers, dates and times

Single underscores may separate digits.  A whole number without leading zero is decimal; after
`0x`, `0o` and `0b` it is hexadecimal, octal and binary.  Integers that do not fit in 64 bits and
floating-point numbers above all finite ones are refused.
-/

namespace QueryImpact.Toml

/-- Digits of which some may have an underscore before them, and the input after them. -/
def digitRun (isDigit : Char → Bool) : List Char → List Char × List Char
  | [] => ([], [])
  | '_' :: c :: rest =>
      if isDigit c then
        let run := digitRun isDigit rest
        (c :: run.1, run.2)
      else ([], '_' :: c :: rest)
  | c :: rest =>
      if isDigit c then
        let run := digitRun isDigit rest
        (c :: run.1, run.2)
      else ([], c :: rest)

/-- At least one digit, the first one without underscore. -/
def readDigits (isDigit : Char → Bool) : List Char → Option (List Char × List Char)
  | c :: rest => if isDigit c then some (digitRun isDigit (c :: rest)) else none
  | [] => none

/-- The number written by digits in a base. -/
def digitsValue (base : Nat) (digits : List Char) : Nat :=
  digits.foldl (fun value c => value * base + (hexValue? c).getD 0) 0

/-- A sign, and whether it is a minus. -/
def readSign : List Char → Bool × List Char
  | '-' :: rest => (true, rest)
  | '+' :: rest => (false, rest)
  | rest => (false, rest)

/-- The digits of a decimal integer without sign: a zero, or digits that do not start with one. -/
def readDecimalDigits : List Char → Option (List Char × List Char)
  | '0' :: rest => some (['0'], rest)
  | rest => readDigits Char.isDigit rest

/-- An integer that fits in 64 bits. -/
def integer? (negative : Bool) (value : Nat) : Option Value :=
  if negative then
    if value ≤ Nat.pow 2 63 then some (.integer (-(value : Int))) else none
  else if value < Nat.pow 2 63 then some (.integer value)
  else none

/-- An integer in the given base; the input starts after the mark of the base. -/
def readBased (base : Nat) (isDigit : Char → Bool) (input : List Char) :
    Option (Value × List Char) :=
  match readDigits isDigit input with
  | some (digits, rest) => (integer? false (digitsValue base digits)).map fun value => (value, rest)
  | none => none

/-- An integer. -/
def readInteger : List Char → Option (Value × List Char)
  | '0' :: 'x' :: rest => readBased 16 (fun c => (hexValue? c).isSome) rest
  | '0' :: 'o' :: rest => readBased 8 (fun c => '0' ≤ c && c ≤ '7') rest
  | '0' :: 'b' :: rest => readBased 2 (fun c => c == '0' || c == '1') rest
  | input =>
      let (negative, unsigned) := readSign input
      match readDecimalDigits unsigned with
      | some (digits, rest) =>
          (integer? negative (digitsValue 10 digits)).map fun value => (value, rest)
      | none => none

/-- The digits after a decimal point. -/
def readFraction : List Char → Option (List Char × List Char)
  | '.' :: rest => readDigits Char.isDigit rest
  | _ => none

/-- The power of ten after an exponent mark. -/
def readExponent : List Char → Option (Int × List Char)
  | c :: rest =>
      if c == 'e' || c == 'E' then
        let (negative, unsigned) := readSign rest
        match readDigits Char.isDigit unsigned with
        | some (digits, rest) =>
            let value : Int := digitsValue 10 digits
            some (if negative then -value else value, rest)
        | none => none
      else none
  | [] => none

/-- The word for a number that is not finite. -/
def readSpecial (negative : Bool) : List Char → Option (Value × List Char)
  | 'i' :: 'n' :: 'f' :: rest =>
      some (.float (if negative then -(1.0 / 0.0) else 1.0 / 0.0), rest)
  | 'n' :: 'a' :: 'n' :: rest => some (.float (0.0 / 0.0), rest)
  | _ => none

/-- A floating-point number from its parts, unless it is above all finite ones. -/
def float? (negative : Bool) (whole fraction : List Char) (exponent : Int) : Option Value :=
  let value := Decimal.nearest negative (digitsValue 10 (whole ++ fraction))
    (exponent - (fraction.length : Int))
  if value == 1.0 / 0.0 then none else some (.float value)

/-- A floating-point number: it has a fraction, an exponent, or both. -/
def readFloat (input : List Char) : Option (Value × List Char) :=
  let (negative, unsigned) := readSign input
  match readDecimalDigits unsigned with
  | none => readSpecial negative unsigned
  | some (whole, rest) =>
      match readFraction rest with
      | some (fraction, rest) =>
          let (exponent, rest) := (readExponent rest).getD (0, rest)
          (float? negative whole fraction exponent).map fun value => (value, rest)
      | none =>
          match readExponent rest with
          | some (exponent, rest) =>
              (float? negative whole [] exponent).map fun value => (value, rest)
          | none => none

/-! ## Dates and times -/

/-- A number of exactly the given number of digits, between two bounds. -/
def readFixed (digits least greatest : Nat) (input : List Char) : Option (Nat × List Char) :=
  let taken := input.take digits
  if taken.length = digits ∧ taken.all Char.isDigit then
    let value := digitsValue 10 taken
    if least ≤ value ∧ value ≤ greatest then some (value, input.drop digits) else none
  else none

/-- The input after a given character. -/
def afterCharacter? (expected : Char) : List Char → Option (List Char)
  | c :: rest => if c == expected then some rest else none
  | [] => none

/-- Whether a year has a leap day. -/
def isLeapYear (year : Nat) : Bool :=
  year % 4 == 0 && (year % 100 != 0 || year % 400 == 0)

/-- The number of days of a month. -/
def daysIn (year month : Nat) : Nat :=
  if month = 2 then if isLeapYear year then 29 else 28
  else if month = 4 ∨ month = 6 ∨ month = 9 ∨ month = 11 then 30
  else 31

/-- The input after a date. -/
def afterDate? (input : List Char) : Option (List Char) := do
  let (year, rest) ← readFixed 4 0 9999 input
  let rest ← afterCharacter? '-' rest
  let (month, rest) ← readFixed 2 1 12 rest
  let rest ← afterCharacter? '-' rest
  let (_, rest) ← readFixed 2 1 (daysIn year month) rest
  pure rest

/-- The input after a time of day. -/
def afterTime? (input : List Char) : Option (List Char) := do
  let (_, rest) ← readFixed 2 0 23 input
  let rest ← afterCharacter? ':' rest
  let (_, rest) ← readFixed 2 0 59 rest
  let rest ← afterCharacter? ':' rest
  let (_, rest) ← readFixed 2 0 60 rest
  match rest with
  | '.' :: fraction =>
      if fraction.head?.any Char.isDigit then pure (fraction.dropWhile Char.isDigit)
      else pure rest
  | _ => pure rest

/-- The input after the offset of a time zone, if there is one here. -/
def skipOffset (input : List Char) : List Char :=
  match input with
  | 'Z' :: rest | 'z' :: rest => rest
  | c :: rest =>
      if c == '+' || c == '-' then
        (do
          let (_, rest) ← readFixed 2 0 23 rest
          let rest ← afterCharacter? ':' rest
          let (_, rest) ← readFixed 2 0 59 rest
          pure rest).getD input
      else input
  | [] => []

/-- The input after the time that may follow a date. -/
def skipTime (input : List Char) : List Char :=
  match input with
  | c :: rest =>
      if c == 'T' || c == 't' || c == ' ' then
        match afterTime? rest with
        | some rest => skipOffset rest
        | none => input
      else input
  | [] => []

/-- The input after a date, a time, or a date with a time. -/
def afterMoment? (input : List Char) : Option (List Char) :=
  match afterDate? input with
  | some rest => some (skipTime rest)
  | none => afterTime? input

/-- A date, a time, or a date with a time. -/
def readMoment (input : List Char) : Option (Value × List Char) :=
  (afterMoment? input).map fun rest =>
    (.moment (String.ofList (input.take (input.length - rest.length))), rest)

/-- A date, a floating-point number or an integer, whichever comes first in this order. -/
def readNumber (input : List Char) : Option (Value × List Char) :=
  ((readMoment input).or (readFloat input)).or (readInteger input)

end QueryImpact.Toml
