import Mathlib
import QueryImpact.Proofs.Location

/-!
# Parts of source locations

What the strategies for locations have in common.  A location can end with a line, written by
decimal digits.  Class and method stand on the two sides of the last dot of a name, or they are the
stem of the file and the whole name.  Each relation is told by the text alone, and the functions
that read these parts decide it.
-/

namespace QueryImpact

open QueryImpact.Text

/-! ## File names -/

namespace Path

variable {path : List Char}

/-- A last part of more than two characters is the file name. -/
theorem fileName?_of_pieces (others : List (List Char)) {name : List Char}
    (parts : pieces '/' path = others ++ [name]) (long : 2 < name.length) :
    fileName? path = some name := by
  have nonempty : name ≠ [] := by
    rintro rfl
    exact absurd long (by decide)
  have notHere : name ≠ ['.'] := by
    rintro rfl
    exact absurd long (by decide)
  have notParent : name ≠ ['.', '.'] := by
    rintro rfl
    exact absurd long (by decide)
  rw [fileName?, parts, List.filter_append, List.filter_singleton]
  simp [nonempty, notHere, notParent]

/-- A path that ends with more than two characters and no slash among them has a stem. -/
theorem exists_stem?_append (start : List Char) {ending : List Char} (noSlash : '/' ∉ ending)
    (long : 2 < ending.length) : ∃ stem, stem? (start ++ ending) = some stem := by
  have named : ∃ name, fileName? (start ++ ending) = some name := by
    cases cut : cutLast '/' start with
    | none =>
        have free : '/' ∉ start ++ ending :=
          mt List.mem_append.mp (not_or.mpr ⟨cutLast_eq_none_iff.mp cut, noSlash⟩)
        refine ⟨start ++ ending, fileName?_of_pieces [] (pieces_eq_singleton free) ?_⟩
        rw [List.length_append]
        omega
    | some sides =>
        obtain ⟨rfl, noSlashBefore⟩ := cutLast_eq_some_iff.mp cut
        have free : '/' ∉ sides.2 ++ ending :=
          mt List.mem_append.mp (not_or.mpr ⟨noSlashBefore, noSlash⟩)
        refine ⟨sides.2 ++ ending, fileName?_of_pieces (pieces '/' sides.1) ?_ ?_⟩
        · rw [List.append_assoc, List.cons_append, pieces_append_cons, pieces_eq_singleton free]
        · rw [List.length_append]
          omega
  obtain ⟨name, isName⟩ := named
  exact ⟨_, by rw [stem?, isName, Option.map_some]⟩

/-- A stem is never empty. -/
theorem stem_ne_nil {stem : List Char} (found : stem? path = some stem) : stem ≠ [] := by
  obtain ⟨name, named, rfl⟩ := Option.map_eq_some_iff.mp found
  have nonempty : name ≠ [] := by
    rw [fileName?] at named
    split at named
    · rename_i last isLast
      split at named
      · cases named
      · cases named
        have kept := (List.mem_filter.mp (List.mem_of_getLast? isLast)).2
        exact (of_decide_eq_true kept).1
    · cases named
  rw [splitName]
  split
  · rename_i stem extension cut
    split
    · exact nonempty
    · assumption
  · exact nonempty

end Path

/-! ## Lines -/

namespace Location

/-- The line of a location with the colon before it. -/
def Parts.lineText (parts : Parts) : List Char :=
  match parts.line with
  | some digits => ':' :: digits
  | none => []

/-- The number of a line: none stands for zero, and decimal digits for the number that they write,
if it fits in 32 bits. -/
inductive IsLine : Option (List Char) → UInt32 → Prop
  /-- There is no line. -/
  | absent : IsLine none 0
  /-- A line is written. -/
  | written {digits : List Char} {line : UInt32} (nonempty : digits ≠ [])
      (decimal : ∀ c ∈ digits, c.isDigit = true)
      (value : Nat.ofDigitChars 10 digits 0 = line.toNat) : IsLine (some digits) line

theorem lineNumber?_eq_some_iff {digits : List Char} {line : UInt32} :
    lineNumber? digits = some line ↔ digits ≠ [] ∧ (∀ c ∈ digits, c.isDigit = true) ∧
      Nat.ofDigitChars 10 digits 0 = line.toNat := by
  have value : digits.foldl (fun value c => value * 10 + (c.toNat - '0'.toNat)) 0 =
      Nat.ofDigitChars 10 digits 0 := by
    rw [Nat.ofDigitChars_eq_foldl]
    simp only [Nat.mul_comm]
  have checked : (digits ≠ [] ∧ digits.all Char.isDigit = true) ↔
      digits ≠ [] ∧ ∀ c ∈ digits, c.isDigit = true := by
    rw [List.all_eq_true]
  rw [lineNumber?, value, ← and_assoc, ← checked]
  by_cases decimal : digits ≠ [] ∧ digits.all Char.isDigit = true
  · rw [if_pos decimal]
    by_cases fits : Nat.ofDigitChars 10 digits 0 < UInt32.size
    · rw [if_pos fits, Option.some.injEq]
      constructor
      · rintro rfl
        exact ⟨decimal, (UInt32.toNat_ofNat_of_lt' fits).symm⟩
      · rintro ⟨_, same⟩
        rw [same, UInt32.ofNat_toNat]
    · rw [if_neg fits]
      constructor
      · rintro ⟨⟩
      · rintro ⟨_, same⟩
        rw [same] at fits
        exact absurd line.toNat_lt fits
  · rw [if_neg decimal]
    constructor
    · rintro ⟨⟩
    · rintro ⟨isDecimal, _⟩
      exact absurd isDecimal decimal

theorem Parts.lineNumber?_eq_some_iff {parts : Parts} {line : UInt32} :
    parts.lineNumber? = some line ↔ IsLine parts.line line := by
  rw [Parts.lineNumber?]
  cases parts.line with
  | none =>
      constructor
      · rintro ⟨⟩
        exact .absent
      · rintro ⟨⟩
        rfl
  | some digits =>
      refine Iff.trans Location.lineNumber?_eq_some_iff ?_
      constructor
      · rintro ⟨nonempty, decimal, value⟩
        exact .written nonempty decimal value
      · rintro ⟨⟩
        exact ⟨‹_›, ‹_›, ‹_›⟩

/-- The text after a path is cut at its first colon. -/
theorem Parts.ofRest_eq_iff {path rest : List Char} {parts : Parts} :
    Parts.ofRest path rest = parts ↔
      parts.path = path ∧ rest = parts.member ++ parts.lineText ∧ ':' ∉ parts.member := by
  constructor
  · rintro rfl
    rw [Parts.ofRest]
    cases cut : cutFirst ':' rest with
    | none => exact ⟨rfl, (List.append_nil rest).symm, cutFirst_eq_none_iff.mp cut⟩
    | some sides =>
        obtain ⟨split, free⟩ := cutFirst_eq_some_iff.mp cut
        exact ⟨rfl, split, free⟩
  · obtain ⟨partsPath, member, line⟩ := parts
    rintro ⟨rfl, rfl, free⟩
    cases line with
    | none =>
        change Parts.ofRest partsPath (member ++ []) = _
        rw [List.append_nil, Parts.ofRest, cutFirst_eq_none_iff.mpr free]
    | some digits =>
        change Parts.ofRest partsPath (member ++ ':' :: digits) = _
        rw [Parts.ofRest, cutFirst_append_cons free]

/-! ## Classes and methods -/

/-- The class and the method that a name stands for in a file. -/
inductive Names (path : List Char) : List Char → List Char → List Char → Prop
  /-- The two sides of the last dot. -/
  | dotted {className methodName : List Char} (hasClass : className ≠ [])
      (hasMethod : methodName ≠ []) (last : '.' ∉ methodName) :
      Names path (className ++ '.' :: methodName) className methodName
  /-- Without a dot, the stem of the file and the name. -/
  | undotted {name stem : List Char} (hasName : name ≠ []) (noDot : '.' ∉ name)
      (ofFile : Path.stem? path = some stem) : Names path name stem name

/-! ## Readings -/

/-- What is read of a text is told by its parts: some parts make it a location, at most one choice
of parts does, and they describe one place. -/
structure Reads (parsed : Option SourceLocation) (IsLocation : Parts → Prop)
    (Describes : Parts → SourceLocation → Prop) : Prop where
  /-- What is read is described by the parts of a location. -/
  sound : ∀ {place}, parsed = some place → ∃ parts, IsLocation parts ∧ Describes parts place
  /-- What the parts of a location describe is read. -/
  complete : ∀ {parts place}, IsLocation parts → Describes parts place → parsed = some place
  /-- The parts of a location describe a place. -/
  describes : ∀ {parts}, IsLocation parts → ∃ place, Describes parts place
  /-- A location has its parts in one way. -/
  unique : ∀ {one other}, IsLocation one → IsLocation other → one = other

namespace Reads

variable {parsed : Option SourceLocation} {IsLocation : Parts → Prop}
  {Describes : Parts → SourceLocation → Prop}

theorem isSome_iff (reads : Reads parsed IsLocation Describes) :
    parsed.isSome = true ↔ ∃ parts, IsLocation parts := by
  rw [Option.isSome_iff_exists]
  constructor
  · rintro ⟨place, read⟩
    obtain ⟨parts, isLocation, _⟩ := reads.sound read
    exact ⟨parts, isLocation⟩
  · rintro ⟨parts, isLocation⟩
    obtain ⟨place, described⟩ := reads.describes isLocation
    exact ⟨place, reads.complete isLocation described⟩

theorem eq_some_iff (reads : Reads parsed IsLocation Describes) {parts : Parts}
    {place : SourceLocation} (isLocation : IsLocation parts) :
    parsed = some place ↔ Describes parts place := by
  constructor
  · intro read
    obtain ⟨others, isAlso, described⟩ := reads.sound read
    rwa [reads.unique isAlso isLocation] at described
  · exact reads.complete isLocation

end Reads

end Location

/-- The reading of a name decides what it stands for. -/
theorem QualifiedStrategy.classAndMethod?_eq_some_iff
    {path name className methodName : List Char} :
    classAndMethod? path name = some (className, methodName) ↔
      Location.Names path name className methodName := by
  constructor
  · intro read
    cases cut : cutLast '.' name with
    | none =>
        cases found : Path.stem? path with
        | none => simp only [classAndMethod?, cut, found, reduceCtorEq] at read
        | some stem =>
            simp only [classAndMethod?, cut, found] at read
            split at read
            · cases read
            · rename_i complete
              cases read
              exact .undotted (not_or.mp complete).2 (cutLast_eq_none_iff.mp cut) found
    | some sides =>
        simp only [classAndMethod?, cut] at read
        split at read
        · cases read
        · rename_i complete
          cases read
          obtain ⟨rfl, last⟩ := cutLast_eq_some_iff.mp cut
          exact .dotted (not_or.mp complete).1 (not_or.mp complete).2 last
  · intro names
    cases names with
    | dotted hasClass hasMethod last =>
        rw [classAndMethod?, cutLast_append_cons last]
        simp [hasClass, hasMethod]
    | undotted hasName noDot ofFile =>
        rw [classAndMethod?, cutLast_eq_none_iff.mpr noDot, ofFile]
        simp [hasName, Path.stem_ne_nil ofFile]

end QueryImpact
