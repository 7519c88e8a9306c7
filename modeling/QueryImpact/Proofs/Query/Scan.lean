import Mathlib
import QueryImpact.Proofs.Text.LetterCase
import QueryImpact.Query.Entity

/-!
# The references of a text

A reference occurs in a text where a keyword in any letter case is followed by white space and a
run of other characters as long as possible, and no word character stands before the keyword.  The
scan finds such occurrences one after the other: each is the leftmost one that does not overlap
those found before, and when it ends there is no further one.
-/

namespace QueryImpact.Query

open QueryImpact.Text

/-! ## Keywords -/

/-- A keyword is passed over exactly where it is written, in whatever letter case. -/
theorem afterKeyword_eq_some_iff {keyword chars rest : List Char} :
    afterKeyword keyword chars = some rest ↔
      ∃ written, chars = written ++ rest ∧ written.map Char.toUpper = keyword := by
  induction keyword generalizing chars with
  | nil =>
      simp only [afterKeyword, Option.some.injEq, List.map_eq_nil_iff]
      constructor
      · rintro rfl
        exact ⟨[], rfl, rfl⟩
      · rintro ⟨written, rfl, rfl⟩
        rfl
  | cons letter keyword ih =>
      cases chars with
      | nil =>
          simp only [afterKeyword, reduceCtorEq, false_iff, not_exists, not_and]
          intro written empty same
          rw [(List.append_eq_nil_iff.mp empty.symm).1] at same
          cases same
      | cons c chars =>
          simp only [afterKeyword]
          constructor
          · intro passed
            split at passed
            · rename_i sameLetter
              obtain ⟨written, rfl, same⟩ := ih.mp passed
              exact ⟨c :: written, rfl, by rw [List.map_cons, sameLetter, same]⟩
            · cases passed
          · rintro ⟨written, whole, same⟩
            cases written with
            | nil => cases same
            | cons first written =>
                obtain ⟨rfl, rfl⟩ := List.cons.inj whole
                obtain ⟨sameLetter, sameRest⟩ := List.cons.inj same
                rw [if_pos sameLetter]
                exact ih.mpr ⟨written, rfl, sameRest⟩

/-- The first letter tells the keyword. -/
theorem referenceKeywords_inj : ∀ one ∈ referenceKeywords, ∀ other ∈ referenceKeywords,
    one.head? = other.head? → one = other := by
  decide

theorem ne_nil_of_mem_referenceKeywords : ∀ keyword ∈ referenceKeywords, keyword ≠ [] := by
  decide

/-- At most one keyword is written at the start of a text. -/
theorem findSome?_afterKeyword_eq_some_iff {chars rest : List Char} :
    (referenceKeywords.findSome? fun keyword => afterKeyword keyword chars) = some rest ↔
      ∃ written, chars = written ++ rest ∧ written.map Char.toUpper ∈ referenceKeywords := by
  constructor
  · intro found
    obtain ⟨keyword, member, passed⟩ := List.exists_of_findSome?_eq_some found
    obtain ⟨written, whole, rfl⟩ := afterKeyword_eq_some_iff.mp passed
    exact ⟨written, whole, member⟩
  · rintro ⟨written, whole, member⟩
    have passed : afterKeyword (written.map Char.toUpper) chars = some rest :=
      afterKeyword_eq_some_iff.mpr ⟨written, whole, rfl⟩
    cases found : referenceKeywords.findSome? fun keyword => afterKeyword keyword chars with
    | none =>
        have notPassed := List.findSome?_eq_none_iff.mp found _ member
        rw [passed] at notPassed
        cases notPassed
    | some other =>
        obtain ⟨keyword, isKeyword, otherPassed⟩ := List.exists_of_findSome?_eq_some found
        obtain ⟨otherWritten, otherWhole, rfl⟩ := afterKeyword_eq_some_iff.mp otherPassed
        have heads : (otherWritten.map Char.toUpper).head? = (written.map Char.toUpper).head? := by
          have isWritten := ne_nil_of_mem_referenceKeywords _ member
          have isOtherWritten := ne_nil_of_mem_referenceKeywords _ isKeyword
          rw [ne_eq, List.map_eq_nil_iff] at isWritten isOtherWritten
          rw [List.head?_map, List.head?_map, ← List.head?_append_of_ne_nil _ isOtherWritten,
            ← List.head?_append_of_ne_nil _ isWritten, ← otherWhole, ← whole]
        rw [referenceKeywords_inj _ isKeyword _ member heads, passed] at otherPassed
        rw [otherPassed]

/-! ## References -/

/-- A character that cannot be part of a reference: white space, a comma, a semicolon or a
parenthesis. -/
def EndsReference (c : Char) : Prop :=
  isSpace c = true ∨ c = ',' ∨ c = ';' ∨ c = '(' ∨ c = ')'

theorem isReferenceCharacter_eq_true_iff {c : Char} :
    isReferenceCharacter c = true ↔ ¬EndsReference c := by
  simp [isReferenceCharacter, EndsReference, not_or, and_assoc]

theorem isReferenceCharacter_eq_false_iff {c : Char} :
    isReferenceCharacter c = false ↔ EndsReference c := by
  rw [← Bool.not_eq_true, isReferenceCharacter_eq_true_iff, not_not]

/-- A keyword, white space and a reference, in front of the rest of a text. -/
structure IsPhrase (keyword blanks reference rest : List Char) : Prop where
  /-- The keyword is written in any letter case. -/
  keyword : keyword.map Char.toUpper ∈ referenceKeywords
  /-- White space follows it. -/
  hasBlanks : blanks ≠ []
  /-- Nothing but white space does. -/
  blanks : ∀ c ∈ blanks, isSpace c = true
  /-- The reference is not empty. -/
  hasReference : reference ≠ []
  /-- No character of the reference ends it. -/
  reference : ∀ c ∈ reference, ¬EndsReference c
  /-- The reference is as long as possible. -/
  maximal : ∀ c ∈ rest.head?, EndsReference c

namespace IsPhrase

variable {keyword blanks reference rest : List Char}

theorem hasKeyword (phrase : IsPhrase keyword blanks reference rest) : keyword ≠ [] := by
  have nonempty := ne_nil_of_mem_referenceKeywords _ phrase.keyword
  rwa [ne_eq, List.map_eq_nil_iff] at nonempty

/-- A keyword holds no white space. -/
theorem isSpace_of_mem_keyword (phrase : IsPhrase keyword blanks reference rest) {c : Char}
    (member : c ∈ keyword) : isSpace c = false := by
  have letters : ∀ keyword ∈ referenceKeywords, keyword.all fun letter => !isSpace letter := by
    decide
  have letter := List.all_eq_true.mp (letters _ phrase.keyword) _ (List.mem_map_of_mem member)
  rwa [isSpace_toUpper, Bool.not_eq_true'] at letter

end IsPhrase

/-- A run that is as long as possible is what is taken and what is dropped. -/
theorem span_append {p : Char → Bool} {run rest : List Char} (all : ∀ c ∈ run, p c = true)
    (maximal : ∀ c ∈ rest.head?, p c = false) :
    (run ++ rest).takeWhile p = run ∧ (run ++ rest).dropWhile p = rest := by
  have none : rest.takeWhile p = [] ∧ rest.dropWhile p = rest := by
    cases rest with
    | nil => exact ⟨rfl, rfl⟩
    | cons c rest => simp [maximal c rfl]
  rw [List.takeWhile_append_of_pos all, List.dropWhile_append_of_pos all, none.1, none.2,
    List.append_nil]
  exact ⟨rfl, rfl⟩

theorem eq_false_of_mem_head?_dropWhile {p : Char → Bool} {chars : List Char} {c : Char}
    (isHead : c ∈ (chars.dropWhile p).head?) : p c = false := by
  have stopped := List.head?_dropWhile_not p chars
  rw [Option.mem_def.mp isHead] at stopped
  simpa using stopped

/-- A reference is found exactly where a keyword, white space and the reference are written. -/
theorem reference?_eq_some_iff {chars reference rest : List Char} :
    reference? chars = some (reference, rest) ↔
      ∃ keyword blanks, chars = keyword ++ (blanks ++ (reference ++ rest)) ∧
        IsPhrase keyword blanks reference rest := by
  constructor
  · intro found
    rw [reference?] at found
    split at found
    · rename_i after passed
      obtain ⟨keyword, rfl, isKeyword⟩ := findSome?_afterKeyword_eq_some_iff.mp passed
      dsimp only at found
      split at found
      · rename_i checked
        obtain ⟨shorter, hasReference⟩ := checked
        obtain ⟨rfl, rfl⟩ := Prod.mk.inj (Option.some.inj found)
        refine ⟨keyword, after.takeWhile isSpace, ?_, ?_⟩
        · rw [List.takeWhile_append_dropWhile, List.takeWhile_append_dropWhile]
        constructor
        case keyword => exact isKeyword
        case hasBlanks =>
          intro empty
          have whole := List.takeWhile_append_dropWhile (p := isSpace) (l := after)
          rw [empty, List.nil_append] at whole
          rw [whole] at shorter
          exact absurd shorter (Nat.lt_irrefl _)
        case blanks => exact fun c member => List.mem_takeWhile_imp member
        case hasReference => exact hasReference
        case reference =>
          intro c member
          exact isReferenceCharacter_eq_true_iff.mp (List.mem_takeWhile_imp member)
        case maximal =>
          intro c isHead
          exact isReferenceCharacter_eq_false_iff.mp (eq_false_of_mem_head?_dropWhile isHead)
      · cases found
    · cases found
  · rintro ⟨keyword, blanks, rfl, phrase⟩
    have passed := findSome?_afterKeyword_eq_some_iff.mpr
      ⟨keyword, Eq.refl (keyword ++ (blanks ++ (reference ++ rest))), phrase.keyword⟩
    have blanksEnd : ∀ c ∈ (reference ++ rest).head?, isSpace c = false := by
      intro c isHead
      rw [List.head?_append_of_ne_nil _ phrase.hasReference] at isHead
      have inside := phrase.reference c (List.mem_of_mem_head? isHead)
      exact Bool.eq_false_iff.mpr fun space => inside (Or.inl space)
    have dropped := (span_append phrase.blanks blanksEnd).2
    have taken := span_append
      (fun c member => isReferenceCharacter_eq_true_iff.mpr (phrase.reference c member))
      (fun c isHead => isReferenceCharacter_eq_false_iff.mpr (phrase.maximal c isHead))
    have shorter : (reference ++ rest).length < (blanks ++ (reference ++ rest)).length := by
      have positive := List.length_pos_iff.mpr phrase.hasBlanks
      rw [List.length_append, List.length_append, List.length_append]
      omega
    rw [reference?, passed]
    simp only [dropped, taken.1, taken.2]
    rw [if_pos ⟨shorter, phrase.hasReference⟩]

/-! ## Occurrences in a text -/

/-- A place in a text where a reference may occur, with all that stands around it. -/
structure Occurrence where
  /-- What stands before the keyword. -/
  left : List Char
  /-- The keyword as it is written. -/
  keyword : List Char
  /-- The white space after it. -/
  blanks : List Char
  /-- The reference. -/
  reference : List Char
  /-- What stands after the reference. -/
  right : List Char

namespace Occurrence

/-- Where the keyword starts. -/
def start (occurrence : Occurrence) : Nat :=
  occurrence.left.length

/-- Where the reference ends. -/
def stop (occurrence : Occurrence) : Nat :=
  (occurrence.left ++ occurrence.keyword ++ occurrence.blanks ++ occurrence.reference).length

/-- The reference occurs in the text. -/
structure IsIn (occurrence : Occurrence) (text : List Char) : Prop
    extends IsPhrase occurrence.keyword occurrence.blanks occurrence.reference
      occurrence.right where
  /-- The parts are the whole text. -/
  text : text = occurrence.left ++ (occurrence.keyword ++ (occurrence.blanks ++
    (occurrence.reference ++ occurrence.right)))
  /-- No word character stands before the keyword. -/
  apart : ∀ c ∈ occurrence.left.getLast?, isWordCharacter c = false

/-- An occurrence at a place is what is found there. -/
theorem IsIn.found {occurrence : Occurrence} {left chars : List Char}
    (isIn : occurrence.IsIn (left ++ chars)) (here : occurrence.start = left.length) :
    occurrence.left = left ∧ isWordStart left.getLast? = true ∧
      reference? chars = some (occurrence.reference, occurrence.right) := by
  obtain ⟨rfl, rfl⟩ := List.append_inj isIn.text here.symm
  refine ⟨rfl, ?_, reference?_eq_some_iff.mpr ⟨_, _, rfl, isIn.toIsPhrase⟩⟩
  cases last : occurrence.left.getLast? with
  | none => rfl
  | some c => rw [isWordStart, isIn.apart c last, Bool.not_false]

theorem IsIn.start_lt_length {occurrence : Occurrence} {text : List Char}
    (isIn : occurrence.IsIn text) : occurrence.start < text.length := by
  have positive := List.length_pos_iff.mpr isIn.hasReference
  rw [isIn.text, start]
  simp only [List.length_append]
  omega

/-- The keyword ends where the white space starts. -/
theorem IsIn.takeWhile_eq {occurrence : Occurrence} {text : List Char}
    (isIn : occurrence.IsIn text) :
    (occurrence.keyword ++
      (occurrence.blanks ++ (occurrence.reference ++ occurrence.right))).takeWhile
        (fun c => !isSpace c) = occurrence.keyword := by
  refine (span_append (fun c member => ?_) (fun c isHead => ?_)).1
  · rw [isIn.isSpace_of_mem_keyword member, Bool.not_false]
  · rw [List.head?_append_of_ne_nil _ isIn.hasBlanks] at isHead
    rw [isIn.blanks c (List.mem_of_mem_head? isHead), Bool.not_true]

/-- A text holds at most one occurrence at a place. -/
theorem IsIn.eq_of_start_eq {one other : Occurrence} {text : List Char} (isOne : one.IsIn text)
    (isOther : other.IsIn text) (same : one.start = other.start) : one = other := by
  obtain ⟨lefts, tails⟩ := List.append_inj (isOne.text.symm.trans isOther.text) same
  have keywords : one.keyword = other.keyword := by
    rw [← isOne.takeWhile_eq, ← isOther.takeWhile_eq, tails]
  have found : some (one.reference, one.right) = some (other.reference, other.right) := by
    rw [← reference?_eq_some_iff.mpr ⟨_, _, rfl, isOne.toIsPhrase⟩, tails]
    exact reference?_eq_some_iff.mpr ⟨_, _, rfl, isOther.toIsPhrase⟩
  obtain ⟨references, rights⟩ := Prod.mk.inj (Option.some.inj found)
  rw [keywords, references, rights] at tails
  have blanks := List.append_cancel_right (List.append_cancel_left tails)
  cases one
  cases other
  cases lefts
  cases keywords
  cases blanks
  cases references
  cases rights
  rfl

end Occurrence

/-! ## The scan -/

/-- Occurrences in a text that follow each other from a place on: each is the leftmost one that
starts there or later, the next place is where it ends, and after the last there is none. -/
inductive Successive (text : List Char) : Nat → List Occurrence → Prop
  /-- There is no occurrence from the place on. -/
  | done {place : Nat} (none : ∀ occurrence : Occurrence, occurrence.IsIn text →
      occurrence.start < place) : Successive text place []
  /-- The leftmost occurrence, then those that follow it. -/
  | next {place : Nat} {occurrence : Occurrence} {others : List Occurrence}
      (isIn : occurrence.IsIn text) (here : place ≤ occurrence.start)
      (leftmost : ∀ other : Occurrence, other.IsIn text → place ≤ other.start →
        occurrence.start ≤ other.start)
      (rest : Successive text occurrence.stop others) :
      Successive text place (occurrence :: others)

namespace Successive

variable {text : List Char} {place : Nat}

/-- Where no occurrence starts, the search can go on at the next place. -/
theorem skip {occurrences : List Occurrence} (successive : Successive text (place + 1) occurrences)
    (none : ∀ occurrence : Occurrence, occurrence.IsIn text → occurrence.start ≠ place) :
    Successive text place occurrences := by
  have later : ∀ occurrence : Occurrence, occurrence.IsIn text → place ≤ occurrence.start →
      place + 1 ≤ occurrence.start := by
    intro occurrence isIn here
    exact Nat.lt_of_le_of_ne here (none occurrence isIn).symm
  cases successive with
  | done nowhere =>
      refine .done fun occurrence isIn => ?_
      by_contra here
      have further := later occurrence isIn (Nat.le_of_not_lt here)
      exact absurd (nowhere occurrence isIn) (Nat.not_lt.mpr further)
  | next isIn here leftmost rest =>
      refine .next isIn (Nat.le_of_succ_le here) (fun other isOther alsoHere => ?_) rest
      exact leftmost other isOther (later other isOther alsoHere)

/-- Where no occurrence starts, the search can go on after the next character. -/
theorem skipCharacter {left rest : List Char} {c : Char} {occurrences : List Occurrence}
    (successive : Successive (left ++ [c] ++ rest) (left ++ [c]).length occurrences)
    (none : ∀ occurrence : Occurrence, occurrence.IsIn (left ++ c :: rest) →
      occurrence.start ≠ left.length) :
    Successive (left ++ c :: rest) left.length occurrences := by
  rw [List.append_assoc, List.singleton_append, List.length_append, List.length_singleton]
    at successive
  exact successive.skip none

theorem isIn_of_mem {occurrences : List Occurrence} (successive : Successive text place occurrences)
    {occurrence : Occurrence} (member : occurrence ∈ occurrences) : occurrence.IsIn text := by
  induction successive with
  | done _ => exact absurd member List.not_mem_nil
  | next isIn _ _ _ ih =>
      rcases List.mem_cons.mp member with rfl | later
      · exact isIn
      · exact ih later

/-- Occurrences follow each other in one way. -/
theorem unique {one other : List Occurrence} (isOne : Successive text place one)
    (isOther : Successive text place other) : one = other := by
  induction isOne generalizing other with
  | done nowhere =>
      cases isOther with
      | done _ => rfl
      | next isIn here _ _ => exact absurd (nowhere _ isIn) (Nat.not_lt.mpr here)
  | next isIn here leftmost _ ih =>
      cases isOther with
      | done nowhere => exact absurd (nowhere _ isIn) (Nat.not_lt.mpr here)
      | next isAlsoIn alsoHere alsoLeftmost rest =>
          have starts := Nat.le_antisymm (leftmost _ isAlsoIn alsoHere)
            (alsoLeftmost _ isIn here)
          obtain rfl := isIn.eq_of_start_eq isAlsoIn starts
          rw [ih rest]

end Successive

/-- The references that are found from a place on are those of the occurrences that follow each
other from there. -/
theorem exists_successive_of_referencesFrom {before : Option Char} {left chars : List Char}
    (isBefore : before = left.getLast?) :
    ∃ occurrences, Successive (left ++ chars) left.length occurrences ∧
      referencesFrom before chars = occurrences.map Occurrence.reference := by
  fun_induction referencesFrom before chars generalizing left with
  | case1 before =>
      refine ⟨[], .done fun occurrence isIn => ?_, rfl⟩
      have bound := isIn.start_lt_length
      rwa [List.append_nil] at bound
  | case2 before c rest starts reference after found ih =>
      obtain ⟨keyword, blanks, whole, phrase⟩ := reference?_eq_some_iff.mp found
      let occurrence : Occurrence := ⟨left, keyword, blanks, reference, after⟩
      have isIn : occurrence.IsIn (left ++ c :: rest) := by
        refine ⟨phrase, by rw [whole], ?_⟩
        intro last isLast
        rw [isBefore, Option.mem_def.mp isLast] at starts
        simpa [isWordStart] using starts
      have ends : reference.getLast? = (left ++ keyword ++ blanks ++ reference).getLast? :=
        (List.getLast?_append_of_ne_nil _ phrase.hasReference).symm
      have joined : left ++ keyword ++ blanks ++ reference ++ after = left ++ c :: rest := by
        rw [whole]
        simp only [List.append_assoc]
      obtain ⟨others, successive, read⟩ := ih ends
      rw [joined] at successive
      exact ⟨occurrence :: others, .next isIn (Nat.le_refl _) (fun _ _ here => here) successive,
        by rw [read]; rfl⟩
  | case3 before c rest starts none ih =>
      obtain ⟨occurrences, successive, read⟩ := @ih (left ++ [c]) List.getLast?_concat.symm
      refine ⟨occurrences, successive.skipCharacter fun occurrence isIn here => ?_, read⟩
      rw [(isIn.found here).2.2] at none
      cases none
  | case4 before c rest notStart ih =>
      obtain ⟨occurrences, successive, read⟩ := @ih (left ++ [c]) List.getLast?_concat.symm
      refine ⟨occurrences, successive.skipCharacter fun occurrence isIn here => ?_, read⟩
      rw [isBefore] at notStart
      exact notStart (isIn.found here).2.1

/-- The scan finds the references of the occurrences that follow each other in the text. -/
theorem exists_successive_of_references (text : String) :
    ∃ occurrences, Successive text.toList 0 occurrences ∧
      references text = occurrences.map Occurrence.reference :=
  @exists_successive_of_referencesFrom none [] text.toList rfl

end QueryImpact.Query
