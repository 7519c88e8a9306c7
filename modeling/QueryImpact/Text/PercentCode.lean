/-!
# Percent codes

In an address a byte can be written as a percent sign with two hexadecimal digits.
-/

namespace QueryImpact.Text

/-- The value of a hexadecimal digit. -/
def hexValue? (c : Char) : Option Nat :=
  if c.isDigit then some (c.toNat - '0'.toNat)
  else if 'a' ≤ c && c ≤ 'f' then some (c.toNat - 'a'.toNat + 10)
  else if 'A' ≤ c && c ≤ 'F' then some (c.toNat - 'A'.toNat + 10)
  else none

/-- The bytes of a text, each percent code being one byte.  A percent sign without two digits stands
for itself. -/
def percentBytes : List Char → List UInt8
  | [] => []
  | '%' :: high :: low :: rest =>
      match hexValue? high, hexValue? low with
      | some upper, some lower => UInt8.ofNat (16 * upper + lower) :: percentBytes rest
      | _, _ => String.utf8EncodeChar '%' ++ percentBytes (high :: low :: rest)
  | c :: rest => String.utf8EncodeChar c ++ percentBytes rest

/-- The text that percent codes stand for, when their bytes are a text. -/
def percentDecode? (chars : List Char) : Option (List Char) :=
  (String.fromUTF8? (percentBytes chars).toByteArray).map String.toList

/-- The percent code of a byte. -/
def percentCode (byte : UInt8) : List Char :=
  ['%', (Nat.digitChar (byte.toNat / 16)).toUpper, (Nat.digitChar (byte.toNat % 16)).toUpper]

/-- Whether a character is written as percent codes: control characters and all beyond ASCII. -/
def needsPercentCode (c : Char) : Bool :=
  c.toNat < 0x20 || 0x7f ≤ c.toNat

/-- Write a text with percent codes where they are needed. -/
def percentEncode (chars : List Char) : List Char :=
  chars.flatMap fun c =>
    if needsPercentCode c then (String.utf8EncodeChar c).flatMap percentCode else [c]

end QueryImpact.Text
