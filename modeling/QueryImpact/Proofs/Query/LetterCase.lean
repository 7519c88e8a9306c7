import Mathlib
import QueryImpact.Proofs.Query.Scan
import QueryImpact.Proofs.Text.Pieces

/-!
# Letter case and surrounding white space of a query

What a query is found to be does not depend on the case of its ASCII letters, nor on white space
around it: its words are the same, and the scan finds the same references up to letter case, which
are cleaned to the same names.
-/

namespace QueryImpact

open QueryImpact.Text

namespace Text

/-! ## Runs and white space -/

/-- What is added behind a text does not count if it stops the run. -/
theorem span_append_right {p : Char → Bool} {right : List Char}
    (stops : ∀ c ∈ right.head?, p c = false) (chars : List Char) :
    (chars ++ right).takeWhile p = chars.takeWhile p ∧
      (chars ++ right).dropWhile p = chars.dropWhile p ++ right := by
  induction chars with
  | nil =>
      cases right with
      | nil => exact ⟨rfl, rfl⟩
      | cons c right => simp [stops c rfl]
  | cons c chars ih =>
      rw [List.cons_append, List.takeWhile_cons, List.takeWhile_cons, List.dropWhile_cons,
        List.dropWhile_cons]
      split
      · exact ⟨by rw [ih.1], ih.2⟩
      · exact ⟨rfl, rfl⟩

/-- A text is its trimmed form between white space. -/
theorem exists_trimChars_append (chars : List Char) :
    ∃ left right, chars = left ++ (trimChars chars ++ right) ∧
      (∀ c ∈ left, isSpace c = true) ∧ ∀ c ∈ right, isSpace c = true := by
  refine ⟨chars.takeWhile isSpace, (chars.dropWhile isSpace).rtakeWhile isSpace, ?_, ?_, ?_⟩
  · have ending : trimChars chars ++ (chars.dropWhile isSpace).rtakeWhile isSpace =
        chars.dropWhile isSpace := List.rdropWhile_append_rtakeWhile
    rw [ending, List.takeWhile_append_dropWhile]
  · exact fun c member => List.mem_takeWhile_imp member
  · exact fun c member => List.mem_rtakeWhile_imp member

end Text

namespace Query

/-! ## Words -/

theorem runs_cons (p : Char → Bool) (c : Char) (rest : List Char) :
    runs p (c :: rest) =
      if p c then (c :: rest.takeWhile p) :: runs p (rest.dropWhile p) else runs p rest := by
  rw [runs]

theorem runs_append_left {p : Char → Bool} {left : List Char}
    (none : ∀ c ∈ left, p c = false) (chars : List Char) :
    runs p (left ++ chars) = runs p chars := by
  induction left with
  | nil => rfl
  | cons c left ih =>
      rw [List.cons_append, runs_cons, none c List.mem_cons_self]
      exact ih fun d member => none d (List.mem_cons_of_mem _ member)

theorem runs_append_right {p : Char → Bool} {right : List Char}
    (none : ∀ c ∈ right, p c = false) (chars : List Char) :
    runs p (chars ++ right) = runs p chars := by
  have stops : ∀ c ∈ right.head?, p c = false := fun c isHead =>
    none c (List.mem_of_mem_head? isHead)
  fun_induction runs p chars with
  | case1 =>
      have whole := runs_append_left none []
      rwa [List.append_nil, runs] at whole
  | case2 c rest inRun ih =>
      rw [List.cons_append, runs_cons, if_pos inRun, (span_append_right stops rest).1,
        (span_append_right stops rest).2, ih]
  | case3 c rest notInRun ih =>
      rw [List.cons_append, runs_cons, if_neg notInRun, ih]

theorem runs_map {p : Char → Bool} {f : Char → Char} (blind : ∀ c, p (f c) = p c)
    (chars : List Char) : runs p (chars.map f) = (runs p chars).map (List.map f) := by
  have same : p ∘ f = p := funext blind
  fun_induction runs p chars with
  | case1 => simp [runs]
  | case2 c rest inRun ih =>
      rw [List.map_cons, runs_cons, blind, if_pos inRun, List.takeWhile_map, List.dropWhile_map,
        same, ih]
      rfl
  | case3 c rest notInRun ih =>
      rw [List.map_cons, runs_cons, blind, if_neg notInRun, ih]

/-- White space around a text is no part of its words. -/
theorem words_trimChars (chars : List Char) : words (trimChars chars) = words chars := by
  obtain ⟨left, right, whole, isLeft, isRight⟩ := exists_trimChars_append chars
  have same : runs isPlainLetter chars = runs isPlainLetter (trimChars chars) := by
    rw [whole, runs_append_left fun c member => isPlainLetter_of_isSpace (isLeft c member),
      runs_append_right fun c member => isPlainLetter_of_isSpace (isRight c member), ← whole]
  rw [words, words, same]

/-- Words are told apart from letter case. -/
theorem words_map_toLower (chars : List Char) : words (chars.map Char.toLower) = words chars := by
  have blind : ∀ c : Char, isPlainLetter c.toLower = isPlainLetter c :=
    apply_toLower (by decide)
  rw [words, words, runs_map blind, List.map_map]
  apply List.map_congr_left
  intro word _
  simp only [Function.comp_apply, List.map_map]
  congr 1
  apply List.map_congr_left
  intro c _
  exact Char.toUpper_toLower_eq_toUpper c

/-- The type of a statement is told by all its words. -/
theorem statementType_eq (text : String) : statementType text = .ofWords (words text.toList) := by
  rw [statementType, words_trimChars]

/-! ## The scan -/

theorem referencesFrom_of_found {before : Option Char} {chars reference rest : List Char}
    (starts : isWordStart before = true) (found : reference? chars = some (reference, rest)) :
    referencesFrom before chars = reference :: referencesFrom reference.getLast? rest := by
  cases chars with
  | nil => cases found
  | cons c chars =>
      rw [referencesFrom, if_pos starts]
      split
      · rename_i other after isOther
        rw [found] at isOther
        cases isOther
        rfl
      · rename_i none
        rw [found] at none
        cases none

theorem referencesFrom_of_not_found {before : Option Char} {c : Char} {chars : List Char}
    (none : isWordStart before = true → reference? (c :: chars) = none) :
    referencesFrom before (c :: chars) = referencesFrom (some c) chars := by
  rw [referencesFrom]
  split
  · rename_i starts
    split
    · rename_i reference after found
      rw [none starts] at found
      cases found
    · rfl
  · rfl

theorem referencesFrom_congr {before other : Option Char}
    (same : isWordStart before = isWordStart other) (chars : List Char) :
    referencesFrom before chars = referencesFrom other chars := by
  cases chars with
  | nil => rw [referencesFrom, referencesFrom]
  | cons c chars => rw [referencesFrom, referencesFrom, same]

theorem reference?_eq_none_of_isSpace {c : Char} (space : isSpace c = true) (chars : List Char) :
    reference? (c :: chars) = none := by
  rw [Option.eq_none_iff_forall_ne_some]
  rintro ⟨reference, rest⟩ found
  obtain ⟨keyword, blanks, whole, phrase⟩ := reference?_eq_some_iff.mp found
  obtain ⟨letter, letters, rfl⟩ := List.exists_cons_of_ne_nil phrase.hasKeyword
  obtain ⟨rfl, _⟩ := List.cons.inj whole
  rw [phrase.isSpace_of_mem_keyword List.mem_cons_self] at space
  cases space

/-- A text of white space holds no reference. -/
theorem referencesFrom_of_isSpace {before : Option Char} {chars : List Char}
    (spaces : ∀ c ∈ chars, isSpace c = true) : referencesFrom before chars = [] := by
  induction chars generalizing before with
  | nil => rw [referencesFrom]
  | cons c chars ih =>
      rw [referencesFrom_of_not_found fun _ =>
        reference?_eq_none_of_isSpace (spaces c List.mem_cons_self) chars]
      exact ih fun d member => spaces d (List.mem_cons_of_mem _ member)

/-- White space before a text separates no less than the start of the text. -/
theorem referencesFrom_append_left {left : List Char} (spaces : ∀ c ∈ left, isSpace c = true)
    (chars : List Char) : referencesFrom none (left ++ chars) = referencesFrom none chars := by
  have passed : ∀ before, isWordStart before = true →
      referencesFrom before (left ++ chars) = referencesFrom none chars := by
    induction left with
    | nil => exact fun before starts => referencesFrom_congr starts chars
    | cons c left ih =>
        intro before _
        have space := spaces c List.mem_cons_self
        rw [List.cons_append, referencesFrom_of_not_found fun _ =>
          reference?_eq_none_of_isSpace space (left ++ chars)]
        apply ih fun d member => spaces d (List.mem_cons_of_mem _ member)
        rw [isWordStart, isWordCharacter_of_isSpace space, Bool.not_false]
  exact passed none rfl

/-- White space behind a text changes nothing but the end of what is left over. -/
theorem reference?_append_right {right : List Char} (spaces : ∀ c ∈ right, isSpace c = true)
    (chars : List Char) :
    reference? (chars ++ right) =
      (reference? chars).map fun found => (found.1, found.2 ++ right) := by
  apply Option.ext
  rintro ⟨reference, rest⟩
  simp only [Option.map_eq_some_iff, Prod.mk.injEq, Prod.exists, reference?_eq_some_iff]
  constructor
  · rintro ⟨keyword, blanks, whole, phrase⟩
    have joined : chars ++ right = keyword ++ (blanks ++ reference) ++ rest := by
      rw [whole]
      simp only [List.append_assoc]
    rcases List.append_eq_append_iff.mp joined with ⟨ending, split, isRight⟩ | ⟨after, rfl, rfl⟩
    · -- The reference ends with no white space, so it ends where the text does.
      have empty : ending = [] := by
        by_contra nonempty
        have lasts := congrArg List.getLast? split
        rw [List.getLast?_append_of_ne_nil _ (by simp [phrase.hasReference]),
          List.getLast?_append_of_ne_nil _ phrase.hasReference,
          List.getLast?_append_of_ne_nil _ nonempty,
          List.getLast?_eq_some_getLast nonempty] at lasts
        have inRight : ending.getLast nonempty ∈ right := by
          rw [isRight]
          exact List.mem_append_left _ (List.getLast_mem nonempty)
        exact phrase.reference _ (List.mem_of_getLast? lasts) (Or.inl (spaces _ inRight))
      rw [empty, List.append_nil] at split
      rw [empty, List.nil_append] at isRight
      refine ⟨reference, [], ⟨keyword, blanks, ?_, ?_⟩, rfl, isRight⟩
      · rw [← split, List.append_nil]
      · exact { phrase with maximal := fun c isHead => absurd isHead (by simp) }
    · refine ⟨reference, after, ⟨keyword, blanks, by simp only [List.append_assoc], ?_⟩, rfl, rfl⟩
      refine { phrase with maximal := fun c isHead => phrase.maximal c ?_ }
      rw [List.head?_append, Option.mem_def.mp isHead]
      rfl
  · rintro ⟨_, after, ⟨keyword, blanks, rfl, phrase⟩, rfl, rfl⟩
    refine ⟨keyword, blanks, by simp only [List.append_assoc], ?_⟩
    refine { phrase with maximal := fun c isHead => ?_ }
    cases after with
    | nil => exact Or.inl (spaces c (List.mem_of_mem_head? isHead))
    | cons first after => exact phrase.maximal c isHead

theorem referencesFrom_append_right {right : List Char} (spaces : ∀ c ∈ right, isSpace c = true)
    (before : Option Char) (chars : List Char) :
    referencesFrom before (chars ++ right) = referencesFrom before chars := by
  fun_induction referencesFrom before chars with
  | case1 before => exact referencesFrom_of_isSpace spaces
  | case2 before c rest starts reference after found ih =>
      have also : reference? (c :: rest ++ right) = some (reference, after ++ right) := by
        rw [reference?_append_right spaces, found]
        rfl
      rw [referencesFrom_of_found starts also, ih]
  | case3 before c rest starts none ih =>
      rw [List.cons_append, referencesFrom_of_not_found, ih]
      intro _
      rw [← List.cons_append, reference?_append_right spaces, none]
      rfl
  | case4 before c rest notStart ih =>
      rw [List.cons_append, referencesFrom_of_not_found, ih]
      exact fun starts => absurd starts notStart

/-- White space around a text does not matter to the scan. -/
theorem references_trim (text : String) : references (trim text) = references text := by
  obtain ⟨left, right, whole, isLeft, isRight⟩ := exists_trimChars_append text.toList
  rw [references, references, trim, String.toList_ofList, whole,
    referencesFrom_append_left isLeft, referencesFrom_append_right isRight, ← whole]

theorem afterKeyword_map_toLower (keyword chars : List Char) :
    afterKeyword keyword (chars.map Char.toLower) =
      (afterKeyword keyword chars).map (List.map Char.toLower) := by
  fun_induction afterKeyword keyword chars with
  | case1 chars => rfl
  | case2 letter keyword => rfl
  | case3 keyword c chars ih =>
      rw [List.map_cons, afterKeyword, Char.toUpper_toLower_eq_toUpper, if_pos rfl, ih]
  | case4 letter keyword c chars differ =>
      rw [List.map_cons, afterKeyword, Char.toUpper_toLower_eq_toUpper, if_neg differ]
      rfl

theorem reference?_map_toLower (chars : List Char) :
    reference? (chars.map Char.toLower) = (reference? chars).map fun found =>
      (found.1.map Char.toLower, found.2.map Char.toLower) := by
  have passed : (referenceKeywords.findSome? fun keyword =>
      afterKeyword keyword (chars.map Char.toLower)) =
        (referenceKeywords.findSome? fun keyword => afterKeyword keyword chars).map
          (List.map Char.toLower) := by
    rw [List.map_findSome?]
    congr 1
    funext keyword
    exact afterKeyword_map_toLower keyword chars
  have space : isSpace ∘ Char.toLower = isSpace := funext isSpace_toLower
  have character : isReferenceCharacter ∘ Char.toLower = isReferenceCharacter :=
    funext (apply_toLower (by decide))
  rw [reference?, reference?, passed]
  cases referenceKeywords.findSome? fun keyword => afterKeyword keyword chars with
  | none => rfl
  | some after =>
      simp only [Option.map_some, List.dropWhile_map, List.takeWhile_map, space, character,
        List.length_map, ne_eq, List.map_eq_nil_iff]
      split
      · rfl
      · rfl

theorem isWordStart_map_toLower (before : Option Char) :
    isWordStart (before.map Char.toLower) = isWordStart before := by
  cases before with
  | none => rfl
  | some c => rw [Option.map_some, isWordStart, isWordStart, isWordCharacter_toLower]

/-- The scan finds the same references, up to letter case. -/
theorem referencesFrom_map_toLower (before : Option Char) (chars : List Char) :
    referencesFrom (before.map Char.toLower) (chars.map Char.toLower) =
      (referencesFrom before chars).map (List.map Char.toLower) := by
  fun_induction referencesFrom before chars with
  | case1 before => simp [referencesFrom]
  | case2 before c rest starts reference after found ih =>
      have also : reference? ((c :: rest).map Char.toLower) =
          some (reference.map Char.toLower, after.map Char.toLower) := by
        rw [reference?_map_toLower, found]
        rfl
      rw [referencesFrom_of_found ((isWordStart_map_toLower before).trans starts) also,
        List.getLast?_map, ih, List.map_cons]
  | case3 before c rest starts none ih =>
      rw [List.map_cons, referencesFrom_of_not_found, ← ih, Option.map_some]
      intro _
      rw [← List.map_cons, reference?_map_toLower, none]
      rfl
  | case4 before c rest notStart ih =>
      rw [List.map_cons, referencesFrom_of_not_found, ← ih, Option.map_some]
      intro starts
      rw [isWordStart_map_toLower] at starts
      exact absurd starts notStart

/-! ## Names -/

theorem bareReference_map_toLower (reference : List Char) :
    bareReference (reference.map Char.toLower) = (bareReference reference).map Char.toLower := by
  have quoting : (fun c => !isQuoting c) ∘ Char.toLower = fun c => !isQuoting c :=
    funext (apply_toLower (f := fun c => !isQuoting c) (by decide))
  have dot : (· == '.') ∘ Char.toLower = (· == '.') :=
    funext (apply_toLower (f := fun c => c == '.') (by decide))
  simp only [bareReference, dropEndWhile, List.filter_map, List.dropWhile_map, quoting, dot,
    ← List.map_reverse]

/-- References that differ in letter case are cleaned to one name. -/
theorem cleanReference?_map_toLower (reference : List Char) :
    cleanReference? (reference.map Char.toLower) = cleanReference? reference := by
  have lowered := lowercaseFrom_map_toLower [] (bareReference reference)
  rw [List.map_nil] at lowered
  rw [cleanReference?, cleanReference?, bareReference_map_toLower, lowered]

theorem entities_trim (text : String) : entities (trim text) = entities text := by
  rw [entities, entities, references_trim]

/-- Entities are found apart from letter case. -/
theorem entities_map_toLower (chars : List Char) :
    entities (String.ofList (chars.map Char.toLower)) = entities (String.ofList chars) := by
  have scanned := referencesFrom_map_toLower none chars
  have same : cleanReference? ∘ List.map Char.toLower = cleanReference? :=
    funext cleanReference?_map_toLower
  rw [Option.map_none] at scanned
  rw [entities, entities, references, references, String.toList_ofList, String.toList_ofList,
    scanned, List.filterMap_map, same]

/-! ## Queries that are equal apart from letter case -/

/-- A text of ASCII characters. -/
def IsAscii (text : String) : Prop :=
  ∀ c ∈ text.toList, c.toNat < 128

instance (text : String) : Decidable (IsAscii text) :=
  List.decidableBAll (fun c : Char => c.toNat < 128) text.toList

theorem toList_lowercase_trim {text : String} (ascii : IsAscii text) :
    (lowercase (trim text)).toList = (trimChars text.toList).map Char.toLower := by
  rw [lowercase, trim, String.toList_ofList, String.toList_ofList]
  apply lowercaseFrom_eq_map
  intro c member beyond
  exact absurd (ascii c (trimChars_subset _ member)) (Nat.not_lt.mpr beyond)

theorem words_lowercase_trim {text : String} (ascii : IsAscii text) :
    words (lowercase (trim text)).toList = words text.toList := by
  rw [toList_lowercase_trim ascii, words_map_toLower, words_trimChars]

theorem entities_lowercase_trim {text : String} (ascii : IsAscii text) :
    entities (lowercase (trim text)) = entities text := by
  rw [← String.ofList_toList (s := lowercase (trim text)), toList_lowercase_trim ascii,
    entities_map_toLower]
  exact entities_trim text

/-- ASCII texts that are equal after trimming and lower-casing are of one type, name the same
entities in the same order, and are equally complex. -/
theorem analysis_eq_of_lowercase_trim_eq {first second : String} (firstAscii : IsAscii first)
    (secondAscii : IsAscii second) (same : lowercase (trim first) = lowercase (trim second)) :
    statementType first = statementType second ∧ entities first = entities second ∧
      complexity first = complexity second := by
  have sameWords : words first.toList = words second.toList := by
    rw [← words_lowercase_trim firstAscii, same, words_lowercase_trim secondAscii]
  have sameType : statementType first = statementType second := by
    rw [statementType_eq, statementType_eq, sameWords]
  refine ⟨sameType, ?_, ?_⟩
  · rw [← entities_lowercase_trim firstAscii, same, entities_lowercase_trim secondAscii]
  · rw [complexity, complexity, sameWords, sameType]

/-- A query as it is written by hand, and the same query in other letter case and on a line of its
own. -/
def joinedUsers : String × String :=
  (" Select * From Users u JOIN \"orders\" o", "SELECT * FROM users U join \"ORDERS\" O\n")

theorem analysis_eq_of_lowercase_trim_eq_joined :
    IsAscii joinedUsers.1 ∧ IsAscii joinedUsers.2 ∧
      lowercase (trim joinedUsers.1) = lowercase (trim joinedUsers.2) ∧
      joinedUsers.1 ≠ joinedUsers.2 ∧
      statementType joinedUsers.1 = statementType joinedUsers.2 ∧
      entities joinedUsers.1 = entities joinedUsers.2 ∧
      complexity joinedUsers.1 = complexity joinedUsers.2 := by
  have firstAscii : IsAscii joinedUsers.1 := by decide +kernel
  have secondAscii : IsAscii joinedUsers.2 := by decide +kernel
  have same : lowercase (trim joinedUsers.1) = lowercase (trim joinedUsers.2) := by
    rw [← String.toList_inj, toList_lowercase_trim firstAscii, toList_lowercase_trim secondAscii]
    decide +kernel
  exact ⟨firstAscii, secondAscii, same, by decide +kernel,
    analysis_eq_of_lowercase_trim_eq firstAscii secondAscii same⟩

end Query

end QueryImpact
