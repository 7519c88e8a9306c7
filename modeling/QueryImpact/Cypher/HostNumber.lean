import QueryImpact.Text.Cut
import QueryImpact.Text.PercentCode

/-!
# Numbers of hosts

A host can be given by a number of 32 bits, written in one to four parts with dots between them, or
by a number of 128 bits, written in groups of 16 bits with colons between them.
-/

namespace QueryImpact.Cypher.HostNumber

/-! ## Numbers of 32 bits -/

/-- The value of a row of digits: the base decides which characters are digits. -/
def digitsValue? (base : Nat) (digits : List Char) : Option Nat :=
  digits.foldlM (fun value c => do
    let digit ← Text.hexValue? c
    if digit < base then some (base * value + digit) else none) 0

/-- The value of a part: hexadecimal after `0x`, octal after a zero, and decimal otherwise. -/
def partValue? : List Char → Option Nat
  | [] => none
  | '0' :: 'x' :: digits => digitsValue? 16 digits
  | '0' :: 'X' :: digits => digitsValue? 16 digits
  | '0' :: digits => digitsValue? 8 digits
  | digits => digitsValue? 10 digits

/-- Leave out an empty part at the end. -/
def withoutEmptyEnd (parts : List (List Char)) : List (List Char) :=
  if 1 < parts.length && parts.getLast? = some [] then parts.dropLast else parts

/-- The parts of a host. -/
def parts (chars : List Char) : List (List Char) :=
  withoutEmptyEnd (Text.pieces '.' chars)

/-- Whether the last part of a host is a number, so that the whole of it has to be one. -/
def endsInNumber (chars : List Char) : Bool :=
  (parts chars).getLast?.any fun part =>
    part != [] && (part.all Char.isDigit || (partValue? part).isSome)

/-- Put parts together: each but the last is an octet, and the last fills the octets that are
left. -/
def assemble? (octetsLeft : Nat) : List Nat → Option Nat
  | [] => none
  | [last] => if last < Nat.pow 256 octetsLeft then some last else none
  | octet :: rest =>
      match octetsLeft with
      | 0 => none
      | octetsAfter + 1 =>
          if octet < 256 then
            (assemble? octetsAfter rest).map (octet * Nat.pow 256 octetsAfter + ·)
          else none

/-- The number of 32 bits that a host is. -/
def number? (chars : List Char) : Option Nat := do
  let values ← (parts chars).mapM partValue?
  guard (values.length ≤ 4)
  assemble? 4 values

/-- Whether a text is a number below 256 without a zero in front. -/
def isOctet (chars : List Char) : Bool :=
  match chars with
  | [] => false
  | '0' :: _ :: _ => false
  | digits => digits.all Char.isDigit && Nat.ofDigitChars 10 digits 0 < 256

/-- Whether a text is four octets with dots between them. -/
def isDotted (chars : List Char) : Bool :=
  let octets := Text.pieces '.' chars
  octets.length = 4 && octets.all isOctet

/-! ## Numbers of 128 bits -/

/-- Whether a text is one to four hexadecimal digits. -/
def isHexGroup (chars : List Char) : Bool :=
  chars != [] && chars.length ≤ 4 && chars.all fun c => (Text.hexValue? c).isSome

/-- How many groups of 16 bits are written one after another; the last two may be dotted. -/
def groupCount? (dotted : Bool) : List (List Char) → Option Nat
  | [] => some 0
  | [last] =>
      if isHexGroup last then some 1
      else if dotted && isDotted last then some 2
      else none
  | group :: rest => if isHexGroup group then (groupCount? dotted rest).map (· + 1) else none

/-- How many groups of 16 bits a text without a gap writes. -/
def groupsIn? (dotted : Bool) (chars : List Char) : Option Nat :=
  if chars = [] then some 0 else groupCount? dotted (Text.pieces ':' chars)

/-- What stands before and after the first double colon. -/
def cutGap : List Char → Option (List Char × List Char)
  | ':' :: ':' :: rest => some ([], rest)
  | c :: rest => (cutGap rest).map fun sides => (c :: sides.1, sides.2)
  | [] => none

/-- Whether a text is a number of 128 bits: eight groups, or fewer around a gap. -/
def isGrouped (chars : List Char) : Bool :=
  match cutGap chars with
  | none => groupsIn? true chars = some 8
  | some (left, right) =>
      match groupsIn? false left, groupsIn? true right with
      | some before, some after => before + after ≤ 7
      | _, _ => false

end QueryImpact.Cypher.HostNumber
