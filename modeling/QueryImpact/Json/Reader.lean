import QueryImpact.Decimal.Reading
import QueryImpact.Json.Value
import QueryImpact.OrderedMap

/-!
# Reading JSON text

A reader takes characters from the front of the input and returns a value with the characters
that follow it.  Members of an object are put in key order, and of two members with the same
name the later one counts.  An integer beyond 64 bits is a floating-point number, and so is a
negative zero; one beyond the range of floating-point numbers is refused.
-/

namespace QueryImpact.Json.Reader

/-- Whether the character is white space of the JSON grammar. -/
def isBlank (c : Char) : Bool :=
  c == ' ' || c == '\n' || c == '\r' || c == '\t'

/-- Skip white space. -/
def skipBlanks (input : List Char) : List Char :=
  input.dropWhile isBlank

/-- The value of a hexadecimal digit. -/
def hexDigit? (c : Char) : Option Nat :=
  if c.isDigit then some (c.toNat - '0'.toNat)
  else if 'a' ≤ c && c ≤ 'f' then some (c.toNat - 'a'.toNat + 10)
  else if 'A' ≤ c && c ≤ 'F' then some (c.toNat - 'A'.toNat + 10)
  else none

/-- Four hexadecimal digits. -/
def hexUnit? : List Char → Option (Nat × List Char)
  | a :: b :: c :: d :: rest => do
      let first ← hexDigit? a
      let second ← hexDigit? b
      let third ← hexDigit? c
      let fourth ← hexDigit? d
      pure (((first * 16 + second) * 16 + third) * 16 + fourth, rest)
  | _ => none

/-- The character a simple escape stands for. -/
def simpleEscape? (c : Char) : Option Char :=
  match c with
  | '"' => some '"'
  | '\\' => some '\\'
  | '/' => some '/'
  | 'b' => some (Char.ofNat 8)
  | 'f' => some (Char.ofNat 12)
  | 'n' => some '\n'
  | 'r' => some '\r'
  | 't' => some '\t'
  | _ => none

/-- A character written by its code units, a surrogate pair included; the input starts after
the letter `u`. -/
def unicodeEscape? (input : List Char) : Option (Char × List Char) := do
  let (unit, rest) ← hexUnit? input
  if 0xd800 ≤ unit && unit < 0xdc00 then
    match rest with
    | '\\' :: 'u' :: more =>
        let (second, rest) ← hexUnit? more
        if 0xdc00 ≤ second && second < 0xe000 then
          pure (Char.ofNat (0x10000 + (unit - 0xd800) * 0x400 + (second - 0xdc00)), rest)
        else none
    | _ => none
  else if 0xdc00 ≤ unit && unit < 0xe000 then none
  else pure (Char.ofNat unit, rest)

/-- The rest of a text after its opening quote; `taken` holds the characters read so far, last
first. -/
def readText : Nat → List Char → List Char → Option (String × List Char)
  | 0, _, _ => none
  | _ + 1, _, [] => none
  | steps + 1, taken, c :: rest =>
      if c == '"' then some (String.ofList taken.reverse, rest)
      else if c == '\\' then
        match rest with
        | 'u' :: more =>
            match unicodeEscape? more with
            | some (decoded, rest) => readText steps (decoded :: taken) rest
            | none => none
        | e :: rest =>
            match simpleEscape? e with
            | some decoded => readText steps (decoded :: taken) rest
            | none => none
        | [] => none
      else if c.toNat < 0x20 then none
      else readText steps (c :: taken) rest

/-- The number written by decimal digits. -/
def digitsValue (digits : List Char) : Nat :=
  digits.foldl (fun value c => value * 10 + (c.toNat - '0'.toNat)) 0

/-- A number with a fraction or an exponent, or one that is out of the range of integers. -/
def decimalNumber? (negative : Bool) (whole fraction : List Char) (exponent : Int) :
    Option Json :=
  (Decimal.scaled? whole fraction exponent).map fun value =>
    float (if negative then -value else value)

/-- A whole number, as an integer when it fits in 64 bits. -/
def wholeNumber? (negative : Bool) (digits : List Char) : Option Json :=
  let value := digitsValue digits
  if negative then
    if 0 < value ∧ value ≤ Nat.pow 2 63 then some (integer (-(value : Int)))
    else decimalNumber? negative digits [] 0
  else if value < UInt64.size then some (integer value)
  else decimalNumber? negative digits [] 0

/-- The number with the given parts.  There is at least one digit before the point, a zero there
stands alone, and a point is followed by a digit. -/
def numeral? (negative : Bool) (whole : List Char) (fraction : Option (List Char))
    (exponent : Option Int) : Option Json :=
  if whole.isEmpty || (whole.head? == some '0' && 1 < whole.length) || fraction == some [] then
    none
  else if fraction.isNone && exponent.isNone then wholeNumber? negative whole
  else decimalNumber? negative whole (fraction.getD []) (exponent.getD 0)

/-- A minus sign, when there is one. -/
def readSign : List Char → Bool × List Char
  | '-' :: rest => (true, rest)
  | rest => (false, rest)

/-- The digits after a point, when there is one. -/
def readFraction : List Char → Option (List Char) × List Char
  | '.' :: rest => (some (rest.takeWhile Char.isDigit), rest.dropWhile Char.isDigit)
  | rest => (none, rest)

/-- The exponent part of a number, when there is one. -/
def readExponent (input : List Char) : Option (Option Int × List Char) :=
  match input with
  | c :: rest =>
      if c == 'e' || c == 'E' then
        let (negative, digits) :=
          match rest with
          | '+' :: more => (false, more)
          | '-' :: more => (true, more)
          | more => (false, more)
        let taken := digits.takeWhile Char.isDigit
        if taken.isEmpty then none
        else
          let value : Int := digitsValue taken
          some (some (if negative then -value else value), digits.dropWhile Char.isDigit)
      else some (none, input)
  | [] => some (none, [])

/-- A number. -/
def readNumber (input : List Char) : Option (Json × List Char) := do
  let (negative, input) := readSign input
  let (fraction, rest) := readFraction (input.dropWhile Char.isDigit)
  let (exponent, rest) ← readExponent rest
  let number ← numeral? negative (input.takeWhile Char.isDigit) fraction exponent
  pure (number, rest)

/-- The rest of the input after a fixed word. -/
def afterWord : List Char → List Char → Option (List Char)
  | [], input => some input
  | w :: word, c :: input => if w == c then afterWord word input else none
  | _ :: _, [] => none

mutual

/-- A value, white space before it allowed. -/
def readValue : Nat → List Char → Option (Json × List Char)
  | 0, _ => none
  | steps + 1, input =>
      match skipBlanks input with
      | '"' :: rest => do
          let (text, rest) ← readText (rest.length + 1) [] rest
          pure (string text, rest)
      | '[' :: rest =>
          match skipBlanks rest with
          | ']' :: rest => some (array [], rest)
          | rest => do
              let (items, rest) ← readItems steps rest
              pure (array items, rest)
      | '{' :: rest =>
          match skipBlanks rest with
          | '}' :: rest => some (object [], rest)
          | rest => do
              let (members, rest) ← readMembers steps rest
              pure (object (OrderedMap.ofList members).entries, rest)
      | 'n' :: rest => (afterWord ['u', 'l', 'l'] rest).map fun rest => (null, rest)
      | 't' :: rest => (afterWord ['r', 'u', 'e'] rest).map fun rest => (bool true, rest)
      | 'f' :: rest => (afterWord ['a', 'l', 's', 'e'] rest).map fun rest => (bool false, rest)
      | rest => readNumber rest

/-- The items of an array up to and including its closing bracket. -/
def readItems : Nat → List Char → Option (List Json × List Char)
  | 0, _ => none
  | steps + 1, input => do
      let (item, rest) ← readValue steps input
      match skipBlanks rest with
      | ']' :: rest => pure ([item], rest)
      | ',' :: rest =>
          let (items, rest) ← readItems steps rest
          pure (item :: items, rest)
      | _ => none

/-- The members of an object up to and including its closing brace. -/
def readMembers : Nat → List Char → Option (List (String × Json) × List Char)
  | 0, _ => none
  | steps + 1, input => do
      match skipBlanks input with
      | '"' :: rest =>
          let (name, rest) ← readText (rest.length + 1) [] rest
          match skipBlanks rest with
          | ':' :: rest =>
              let (value, rest) ← readValue steps rest
              match skipBlanks rest with
              | '}' :: rest => pure ([(name, value)], rest)
              | ',' :: rest =>
                  let (members, rest) ← readMembers steps rest
                  pure ((name, value) :: members, rest)
              | _ => none
          | _ => none
      | _ => none

end

end QueryImpact.Json.Reader

namespace QueryImpact.Json

/-- The value a JSON text stands for.  Every bracket takes at least one character, which bounds
the number of steps. -/
def parse? (text : String) : Option Json :=
  let input := text.toList
  match Reader.readValue (2 * input.length + 2) input with
  | some (value, rest) => if (Reader.skipBlanks rest).isEmpty then some value else none
  | none => none

end QueryImpact.Json
