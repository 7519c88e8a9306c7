import Mathlib
import QueryImpact.Json.Printer
import QueryImpact.Json.Reader

/-!
# Numerals

A numeral is a number as it is written: a sign, digits, a fraction and an exponent.  The reader
takes the whole numeral and nothing of what follows it.  An integer of 64 bits is read back from
its notation, and the exact notation of a floating-point number is a numeral with a fraction or an
exponent, so it is never taken for an integer.
-/

namespace QueryImpact.Json.Reader

/-- What follows cannot be taken for a part of a number. -/
def EndsNumber (rest : List Char) : Prop :=
  ∀ c ∈ rest.head?, c.isDigit = false ∧ c ≠ '.' ∧ c ≠ 'e' ∧ c ≠ 'E'

section Digits

variable {digits rest : List Char} (areDigits : ∀ c ∈ digits, c.isDigit = true)
  (ends : ∀ c ∈ rest.head?, c.isDigit = false)
include areDigits ends

theorem takeWhile_digits : (digits ++ rest).takeWhile Char.isDigit = digits := by
  rw [List.takeWhile_append_of_pos areDigits]
  cases rest with
  | nil => simp
  | cons c more => simp [ends c rfl]

theorem dropWhile_digits : (digits ++ rest).dropWhile Char.isDigit = rest := by
  rw [List.dropWhile_append_of_pos areDigits]
  cases rest with
  | nil => simp
  | cons c more => simp [ends c rfl]

end Digits

/-- A number as it is written. -/
structure Numeral where
  /-- Whether a minus sign comes first. -/
  negative : Bool
  /-- The digits before the point. -/
  whole : List Char
  /-- The digits after the point, if there is one. -/
  fraction : Option (List Char)
  /-- Whether the exponent is negative, and its digits, if there is one. -/
  exponent : Option (Bool × List Char)

namespace Numeral

/-- The exponent with the letter before it. -/
def exponentChars (numeral : Numeral) : List Char :=
  match numeral.exponent with
  | some (negative, digits) => 'e' :: (if negative then '-' else '+') :: digits
  | none => []

/-- The fraction with the point before it. -/
def fractionChars (numeral : Numeral) : List Char :=
  match numeral.fraction with
  | some digits => '.' :: digits
  | none => []

/-- The characters of the numeral. -/
def chars (numeral : Numeral) : List Char :=
  (if numeral.negative then ['-'] else []) ++
    (numeral.whole ++ (numeral.fractionChars ++ numeral.exponentChars))

/-- The power of ten that the exponent stands for. -/
def power? (numeral : Numeral) : Option Int :=
  numeral.exponent.map fun part =>
    if part.1 then -(digitsValue part.2 : Int) else digitsValue part.2

/-- The number that the numeral stands for. -/
def value? (numeral : Numeral) : Option Json :=
  numeral? numeral.negative numeral.whole numeral.fraction numeral.power?

/-- The parts are made of digits, and only the fraction can be empty. -/
structure IsProper (numeral : Numeral) : Prop where
  whole_ne_nil : numeral.whole ≠ []
  whole_digits : ∀ c ∈ numeral.whole, c.isDigit = true
  fraction_digits : ∀ digits ∈ numeral.fraction, ∀ c ∈ digits, c.isDigit = true
  exponent_ne_nil : ∀ part ∈ numeral.exponent, part.2 ≠ []
  exponent_digits : ∀ part ∈ numeral.exponent, ∀ c ∈ part.2, c.isDigit = true

variable {numeral : Numeral} {rest : List Char}

theorem head_exponentChars (numeral : Numeral) (ends : EndsNumber rest) :
    ∀ c ∈ (numeral.exponentChars ++ rest).head?, c.isDigit = false ∧ c ≠ '.' := by
  unfold exponentChars
  split
  · simp
  · intro c member
    exact ⟨(ends c member).1, (ends c member).2.1⟩

theorem head_fractionChars (numeral : Numeral) (ends : EndsNumber rest) :
    ∀ c ∈ (numeral.fractionChars ++ (numeral.exponentChars ++ rest)).head?, c.isDigit = false := by
  unfold fractionChars
  split
  · simp
  · intro c member
    exact (head_exponentChars numeral ends c member).1

theorem readSign_chars (proper : numeral.IsProper) (tail : List Char) :
    readSign ((if numeral.negative then ['-'] else []) ++ (numeral.whole ++ tail)) =
      (numeral.negative, numeral.whole ++ tail) := by
  cases numeral.negative with
  | true => rfl
  | false =>
      obtain ⟨first, others, isWhole⟩ := List.exists_cons_of_ne_nil proper.whole_ne_nil
      have notSign : first ≠ '-' := by
        rintro rfl
        have isDigit := proper.whole_digits '-' (by simp [isWhole])
        exact absurd isDigit (by decide)
      simp [isWhole, readSign, notSign]

theorem readFraction_chars (proper : numeral.IsProper) (ends : EndsNumber rest) :
    readFraction (numeral.fractionChars ++ (numeral.exponentChars ++ rest)) =
      (numeral.fraction, numeral.exponentChars ++ rest) := by
  have headExponent := head_exponentChars numeral ends
  unfold fractionChars
  split
  · rename_i digits isFraction
    have areDigits := proper.fraction_digits digits isFraction
    have notDigit := fun c member => (headExponent c member).1
    simp [readFraction, isFraction, takeWhile_digits areDigits notDigit,
      dropWhile_digits areDigits notDigit]
  · rename_i isFraction
    cases tail : numeral.exponentChars ++ rest with
    | nil => simp [readFraction, isFraction]
    | cons c more =>
        rw [tail] at headExponent
        simp [readFraction, isFraction, (headExponent c rfl).2]

theorem readExponent_chars (proper : numeral.IsProper) (ends : EndsNumber rest) :
    readExponent (numeral.exponentChars ++ rest) = some (numeral.power?, rest) := by
  unfold exponentChars power?
  split
  · rename_i negative digits isExponent
    have nonempty := proper.exponent_ne_nil _ isExponent
    have areDigits := proper.exponent_digits _ isExponent
    have notDigit := fun c member => (ends c member).1
    cases negative <;>
      simp [readExponent, isExponent, nonempty, takeWhile_digits areDigits notDigit,
        dropWhile_digits areDigits notDigit]
  · rename_i isExponent
    cases rest with
    | nil => simp [readExponent, isExponent]
    | cons c more =>
        obtain ⟨_, _, notLower, notUpper⟩ := ends c rfl
        simp [readExponent, isExponent, notLower, notUpper]

/-- A numeral is read as the number that it stands for. -/
theorem readNumber_chars (proper : numeral.IsProper) (ends : EndsNumber rest) :
    readNumber (numeral.chars ++ rest) = numeral.value?.map fun number => (number, rest) := by
  have headFraction := head_fractionChars numeral ends
  simp only [readNumber, chars, List.append_assoc, readSign_chars proper,
    dropWhile_digits proper.whole_digits headFraction,
    takeWhile_digits proper.whole_digits headFraction, readFraction_chars proper ends,
    readExponent_chars proper ends, Option.bind_eq_bind, Option.bind_some]
  exact Option.map_eq_bind.symm

end Numeral

/-! ## Whole numbers -/

theorem areDigits_toDigits (value : Nat) : ∀ c ∈ Nat.toDigits 10 value, c.isDigit = true :=
  fun _ member => Nat.isDigit_of_mem_toDigits (by decide) (by decide) member

theorem digitsValue_toDigits (value : Nat) : digitsValue (Nat.toDigits 10 value) = value := by
  have read := Nat.ofDigitChars_toDigits (b := 10) (n := value) (by decide) (by decide)
  rw [Nat.ofDigitChars] at read
  simpa only [digitsValue, Nat.mul_comm] using read

/-- A positive number is not written with a leading zero. -/
theorem head_toDigits_ne_zero {value : Nat} (positive : 0 < value) :
    (Nat.toDigits 10 value).head? ≠ some '0' := by
  have single : ∀ digit < 10, 0 < digit → [Nat.digitChar digit].head? ≠ some '0' := by decide
  induction value using Nat.strongRecOn with
  | ind value ih =>
      by_cases below : value < 10
      · rw [Nat.toDigits_of_lt_base below]
        exact single value below positive
      · have shorter := ih (value / 10) (by omega) (by omega)
        rw [Nat.toDigits_of_base_le (by decide) (by omega),
          List.head?_append_of_ne_nil _ Nat.toDigits_ne_nil]
        exact shorter

theorem length_toDigits_of_leadingZero {value : Nat}
    (zero : (Nat.toDigits 10 value).head? = some '0') : ¬ 1 < (Nat.toDigits 10 value).length := by
  rcases Nat.eq_zero_or_pos value with rfl | positive
  · decide
  · exact absurd zero (head_toDigits_ne_zero positive)

/-- An integer of 64 bits, with or without a sign. -/
def IsWord (value : Int) : Prop :=
  Int64.minValue.toInt ≤ value ∧ value < UInt64.size

namespace Numeral

/-- A whole number as it is written. -/
def ofInt (value : Int) : Numeral :=
  ⟨decide (value < 0), Nat.toDigits 10 value.natAbs, none, none⟩

theorem isProper_ofInt (value : Int) : (ofInt value).IsProper where
  whole_ne_nil := Nat.toDigits_ne_nil
  whole_digits := areDigits_toDigits _
  fraction_digits := by simp [ofInt]
  exponent_ne_nil := by simp [ofInt]
  exponent_digits := by simp [ofInt]

theorem chars_ofInt (value : Int) : (ofInt value).chars = (toString value).toList := by
  rw [Int.toString_eq_repr, Int.repr_eq_if]
  by_cases negative : value < 0
  · have magnitude : value.natAbs = (-value).toNat := by omega
    simp [ofInt, chars, fractionChars, exponentChars, negative, magnitude, not_le.mpr negative]
  · have magnitude : value.natAbs = value.toNat := by omega
    simp [ofInt, chars, fractionChars, exponentChars, negative, magnitude, not_lt.mp negative]

/-- A whole number of 64 bits is read back as an integer. -/
theorem value?_ofInt {value : Int} (isWord : IsWord value) :
    (ofInt value).value? = some (.integer value) := by
  have nonempty : Nat.toDigits 10 value.natAbs ≠ [] := Nat.toDigits_ne_nil
  have read : (ofInt value).value? =
      wholeNumber? (decide (value < 0)) (Nat.toDigits 10 value.natAbs) := by
    change numeral? _ (Nat.toDigits 10 value.natAbs) none none = _
    rw [numeral?, if_neg]
    · rfl
    · simp only [Bool.or_eq_true, Bool.and_eq_true, decide_eq_true_eq, beq_iff_eq, not_or,
        List.isEmpty_iff, reduceCtorEq, not_and]
      exact ⟨⟨nonempty, length_toDigits_of_leadingZero⟩, not_false⟩
  obtain ⟨low, high⟩ := isWord
  rw [read, wholeNumber?, digitsValue_toDigits]
  by_cases negative : value < 0
  · have fits : 0 < value.natAbs ∧ value.natAbs ≤ Nat.pow 2 63 := by
      have least : Int64.minValue.toInt = -(Nat.pow 2 63 : Nat) := by decide
      omega
    have same : -(value.natAbs : Int) = value := by omega
    simp only [negative, decide_true, if_true, if_pos fits, same]
  · have fits : value.natAbs < UInt64.size := by omega
    have same : (value.natAbs : Int) = value := by omega
    simp only [negative, decide_false, Bool.false_eq_true, if_false, if_pos fits, same]

end Numeral

/-! ## Floating-point numbers -/

namespace Numeral

open Decimal (Shortest digitChars)

theorem digitChars_ne_nil (value : Nat) : digitChars value ≠ [] :=
  Nat.toDigits_ne_nil

/-- The characters are a numeral without a sign that has a fraction or an exponent. -/
def IsMagnitude (chars : List Char) : Prop :=
  ∃ numeral : Numeral, numeral.IsProper ∧ numeral.negative = false ∧ numeral.chars = chars ∧
    (numeral.fraction ≠ none ∨ numeral.exponent ≠ none)

theorem isMagnitude_point {whole fraction : List Char} (nonempty : whole ≠ [])
    (wholeDigits : ∀ c ∈ whole, c.isDigit = true)
    (fractionDigits : ∀ c ∈ fraction, c.isDigit = true) :
    IsMagnitude (whole ++ '.' :: fraction) := by
  refine ⟨⟨false, whole, some fraction, none⟩, ⟨nonempty, wholeDigits, ?_, ?_, ?_⟩, rfl, ?_, ?_⟩
  · rintro digits ⟨⟩
    exact fractionDigits
  · simp
  · simp
  · simp [chars, fractionChars, exponentChars]
  · simp

theorem isMagnitude_positional (decimal : Shortest) :
    IsMagnitude (Decimal.positional decimal ['.', '0']) := by
  have areDigits := areDigits_toDigits decimal.digits
  have nonempty := digitChars_ne_nil decimal.digits
  have areZeros : ∀ count, ∀ c ∈ List.replicate count '0', c.isDigit = true := by
    intro count c member
    rw [List.eq_of_mem_replicate member]
    decide
  unfold Decimal.positional
  dsimp only
  split
  · apply isMagnitude_point
    · simp [nonempty]
    · intro c member
      rcases List.mem_append.mp member with digit | padding
      · exact areDigits c digit
      · exact areZeros _ c padding
    · exact areZeros 1
  · split
    · rename_i inside
      apply isMagnitude_point
      · simp only [ne_eq, List.take_eq_nil_iff, nonempty, or_false]
        omega
      · intro c member
        exact areDigits c (List.mem_of_mem_take member)
      · intro c member
        exact areDigits c (List.mem_of_mem_drop member)
    · refine isMagnitude_point (List.cons_ne_nil '0' []) ?_ ?_
      · exact areZeros 1
      · intro c member
        rcases List.mem_append.mp member with padding | digit
        · exact areZeros _ c padding
        · exact areDigits c digit

theorem isMagnitude_scientific (decimal : Shortest) :
    IsMagnitude (Decimal.scientific decimal) := by
  have areDigits := areDigits_toDigits decimal.digits
  unfold Decimal.scientific
  dsimp only
  generalize decimal.exponent + ((digitChars decimal.digits).length - 1 : Nat) = power
  have powerDigits := areDigits_toDigits power.natAbs
  have powerNonempty := digitChars_ne_nil power.natAbs
  have sign : (if decide (power < 0) = true then '-' else '+') =
      if power < 0 then '-' else '+' := by
    simp
  cases digits : digitChars decimal.digits with
  | nil => exact absurd digits (digitChars_ne_nil _)
  | cons first others =>
      rw [← digitChars, digits] at areDigits
      cases others with
      | nil =>
          refine ⟨⟨false, [first], none, some (decide (power < 0), digitChars power.natAbs)⟩,
            ⟨by simp, areDigits, by simp, ?_, ?_⟩, rfl, ?_, by simp⟩
          · rintro part ⟨⟩
            exact powerNonempty
          · rintro part ⟨⟩
            exact powerDigits
          · simp [chars, fractionChars, exponentChars]
      | cons second more =>
          refine ⟨⟨false, [first], some (second :: more),
            some (decide (power < 0), digitChars power.natAbs)⟩, ⟨by simp, ?_, ?_, ?_, ?_⟩, rfl, ?_,
            by simp⟩
          · intro c member
            exact areDigits c (List.mem_cons.mpr (Or.inl (List.mem_singleton.mp member)))
          · rintro part ⟨⟩ c member
            exact areDigits c (List.mem_cons_of_mem _ member)
          · rintro part ⟨⟩
            exact powerNonempty
          · rintro part ⟨⟩
            exact powerDigits
          · simp [chars, fractionChars, exponentChars]

/-- The exact notation is a numeral with a fraction or an exponent. -/
theorem exists_exactChars (number : Float) : ∃ numeral : Numeral, numeral.IsProper ∧
    numeral.chars = Decimal.exactChars number ∧
      (numeral.fraction ≠ none ∨ numeral.exponent ≠ none) := by
  have magnitude : ∀ chars, IsMagnitude chars → ∃ numeral : Numeral, numeral.IsProper ∧
      numeral.chars = (if Decimal.isNegative number then '-' :: chars else chars) ∧
        (numeral.fraction ≠ none ∨ numeral.exponent ≠ none) := by
    rintro _ ⟨numeral, proper, positive, rfl, isFloat⟩
    refine ⟨{ numeral with negative := Decimal.isNegative number },
      ⟨proper.1, proper.2, proper.3, proper.4, proper.5⟩, ?_, isFloat⟩
    cases Decimal.isNegative number <;> simp [chars, fractionChars, exponentChars, positive]
  unfold Decimal.exactChars
  dsimp only
  apply magnitude
  split
  · exact isMagnitude_positional _
  · exact isMagnitude_scientific _

/-- A numeral with a fraction or an exponent stands for a floating-point number, if for any. -/
theorem value?_of_isFloat {numeral : Numeral} {value : Json}
    (isFloat : numeral.fraction ≠ none ∨ numeral.exponent ≠ none)
    (isValue : numeral.value? = some value) : ∃ number, value = .float number := by
  rw [value?, numeral?] at isValue
  split at isValue
  · cases isValue
  · rw [if_neg (by simpa [power?, imp_iff_not_or] using isFloat)] at isValue
    obtain ⟨number, _, rfl⟩ := Option.map_eq_some_iff.mp isValue
    exact ⟨_, rfl⟩

end Numeral

end QueryImpact.Json.Reader
