/-!
# Labels written in ASCII

A label with characters beyond ASCII is written with the characters of ASCII that it has, a hyphen,
and a row of numbers.  A number says how far to go on, through all places of the text and all
characters in order, to the next character that is put in.  Its digits have weights that adapt to
the size of the numbers before it.
-/

namespace QueryImpact.DomainName

/-- The value of a digit: the letters come first. -/
def digitValue? (c : Char) : Option Nat :=
  if 'a' ≤ c && c ≤ 'z' then some (c.toNat - 'a'.toNat)
  else if c.isDigit then some (c.toNat - '0'.toNat + 26)
  else none

/-- The value below which a digit is the last one of its number. -/
def threshold (bias position : Nat) : Nat :=
  min 26 (max 1 (position - bias))

/-- Numbers of 32 bits and more are refused. -/
def numberLimit : Nat :=
  UInt32.size

/-- Read a number, the lowest digit first, and add it to a total: the total and the rest. -/
def addNumber? (bias position weight total : Nat) : List Char → Option (Nat × List Char)
  | [] => none
  | c :: rest =>
      match digitValue? c with
      | none => none
      | some digit =>
          let sum := total + digit * weight
          let last := threshold bias position
          if numberLimit ≤ sum then none
          else if digit < last then some (sum, rest)
          else if numberLimit ≤ weight * (36 - last) then none
          else addNumber? bias (position + 36) (weight * (36 - last)) sum rest

/-- A number takes at least one digit. -/
theorem length_lt_of_addNumber? {bias position weight total sum : Nat} {chars rest : List Char}
    (read : addNumber? bias position weight total chars = some (sum, rest)) :
    rest.length < chars.length := by
  induction chars generalizing position weight total with
  | nil => simp [addNumber?] at read
  | cons c following ih =>
      simp only [addNumber?] at read
      split at read
      · simp at read
      · split at read
        · simp at read
        · split at read
          · simp only [Option.some.injEq, Prod.mk.injEq] at read
            simp [read.2]
          · split at read
            · simp at read
            · exact Nat.lt_succ_of_lt (ih read)

/-- Scale a step down until it is small: what is left, and the bias that the scaling gives. -/
def scaleDown (step : Nat) (bias : Nat) : Nat × Nat :=
  if 455 < step then scaleDown (step / 35) (bias + 36) else (step, bias)
termination_by step
decreasing_by exact Nat.div_lt_self (by omega) (by omega)

/-- The bias after a step, in a text of so many characters. -/
def adapt (step size : Nat) (isFirst : Bool) : Nat :=
  let damped := if isFirst then step / 700 else step / 2
  let (scaled, bias) := scaleDown (damped + damped / size) 0
  bias + 36 * scaled / (scaled + 38)

/-- The character with a code point, when there is one. -/
def character? (point : Nat) : Option Char :=
  if point.isValidChar then some (Char.ofNat point) else none

/-- Put characters into a text as the numbers say, from a place and a code point on. -/
def putIn (text : List Char) (place point bias : Nat) (numbers : List Char) :
    Option (List Char) :=
  if numbers = [] then some text
  else
    match read : addNumber? bias 36 1 place numbers with
    | none => none
    | some (total, rest) =>
        have := length_lt_of_addNumber? read
        let size := text.length + 1
        let next := point + total / size
        match character? next with
        | none => none
        | some c =>
            putIn (text.insertIdx (total % size) c) (total % size + 1) next
              (adapt (total - place) size (place = 0)) rest
termination_by numbers.length

/-- Divide a label into its characters of ASCII and its numbers: the last hyphen stands between
them, if it has characters in front. -/
def divide (label : List Char) : List Char × List Char :=
  let numbers := (label.reverse.takeWhile (· ≠ '-')).reverse
  let front := (label.take (label.length - numbers.length)).dropLast
  if front = [] then ([], label) else (front, numbers)

/-- The label that is written in ASCII, when it is written properly. -/
def unfoldAscii? (label : List Char) : Option (List Char) :=
  let (front, numbers) := divide label
  putIn front 0 128 72 numbers

end QueryImpact.DomainName
