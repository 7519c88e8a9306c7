import Mathlib
import QueryImpact.Proofs.Graph.Key
import QueryImpact.Proofs.Query.Scan
import QueryImpact.Proofs.Text.Pieces

/-!
# The entities of a query

The entities of a query are what the references that the scan finds are cleaned to, each once and
in the order of first appearance.  A cleaned reference is a proper name: it starts with a letter or
an underscore, does not end with a dot, and holds neither quoting nor any character that would end
a reference.
-/

namespace QueryImpact.Query

open QueryImpact.Text

/-! ## Cleaned references -/

/-- A character that only quotes an identifier. -/
def Quotes (c : Char) : Prop :=
  c = '"' ∨ c = '`' ∨ c = '[' ∨ c = ']' ∨ c = '\''

/-- What the name of an entity looks like. -/
structure IsEntityName (name : String) : Prop where
  /-- It is not empty. -/
  nonempty : name ≠ ""
  /-- It starts with a letter or an underscore. -/
  start : ∀ c ∈ name.toList.head?, isAlphabetic c = true ∨ c = '_'
  /-- It does not end with a dot. -/
  ending : name.toList.getLast? ≠ some '.'
  /-- It holds neither quoting nor a character that ends a reference. -/
  plain : ∀ c ∈ name.toList, ¬EndsReference c ∧ ¬Quotes c
  /-- It is not a word that may follow a keyword. -/
  notStopWord : name ∉ stopWords

theorem isQuoting_eq_true_iff {c : Char} : isQuoting c = true ↔ Quotes c := by
  simp [isQuoting, Quotes, or_assoc]

/-- From the small letters on there is neither punctuation nor quoting. -/
theorem plain_of_letter {c : Char} (letter : 0x61 ≤ c.toNat) (notSpace : isSpace c = false) :
    ¬EndsReference c ∧ ¬Quotes c := by
  constructor
  · rintro (space | rfl | rfl | rfl | rfl)
    · rw [notSpace] at space
      cases space
    all_goals exact absurd letter (by decide)
  · rintro (rfl | rfl | rfl | rfl | rfl)
    all_goals exact absurd letter (by decide)

/-- A bare reference is made of the characters of the reference that do not quote. -/
theorem of_mem_bareReference {reference : List Char} {c : Char}
    (member : c ∈ bareReference reference) : c ∈ reference ∧ ¬Quotes c := by
  have kept := (List.dropWhile_suffix _).subset (dropEndWhile_subset _ _ member)
  rw [List.mem_filter, Bool.not_eq_true', ← Bool.not_eq_true, isQuoting_eq_true_iff] at kept
  exact kept

theorem getLast?_bareReference (reference : List Char) :
    (bareReference reference).getLast? ≠ some '.' := by
  intro isLast
  rw [bareReference, dropEndWhile, List.getLast?_reverse] at isLast
  have stopped := eq_false_of_mem_head?_dropWhile isLast
  exact absurd stopped (by decide)

/-- What a reference is cleaned to: its bare form in lower case, if it is a proper name. -/
theorem cleanReference?_eq_some_iff {reference : List Char} {name : String} :
    cleanReference? reference = some name ↔
      name.toList = lowercaseFrom [] (bareReference reference) ∧
        (∃ c ∈ name.toList.head?, isAlphabetic c = true ∨ c = '_') ∧ name ∉ stopWords := by
  rw [cleanReference?]
  cases lowercaseFrom [] (bareReference reference) with
  | nil =>
      constructor
      · rintro ⟨⟩
      · rintro ⟨empty, ⟨c, isHead, _⟩, _⟩
        rw [empty] at isHead
        cases isHead
  | cons first rest =>
      simp only [Option.ite_none_right_eq_some, Option.some.injEq, Bool.and_eq_true,
        Bool.or_eq_true, beq_iff_eq, Bool.not_eq_true', List.contains_eq_mem,
        decide_eq_false_iff_not]
      constructor
      · rintro ⟨⟨letter, notStopWord⟩, rfl⟩
        rw [String.toList_ofList]
        exact ⟨rfl, ⟨first, rfl, letter⟩, notStopWord⟩
      · rintro ⟨written, ⟨c, isHead, letter⟩, notStopWord⟩
        rw [written] at isHead
        cases isHead
        have same : String.ofList (first :: rest) = name := by
          rw [← written, String.ofList_toList]
        rw [same]
        exact ⟨⟨letter, notStopWord⟩, rfl⟩

/-- A mark below the small letters is at the end of a text in lower case only if it was before. -/
theorem getLast?_lowercaseFrom {before chars : List Char} {mark : Char} (below : mark.toNat < 0x61)
    (free : chars.getLast? ≠ some mark) : (lowercaseFrom before chars).getLast? ≠ some mark := by
  rcases List.eq_nil_or_concat chars with rfl | ⟨start, last, rfl⟩
  · exact free
  · rw [List.concat_eq_append, List.getLast?_concat, ne_eq, Option.some.injEq] at free
    obtain ⟨lowered, passed, split⟩ := exists_lowercaseFrom_append before start last
    rw [List.concat_eq_append, split]
    intro isLast
    have member : mark ∈ lowercaseFrom passed [last] := by
      rw [List.getLast?_append_of_ne_nil _ (lowercaseFrom_singleton_ne_nil passed last)] at isLast
      exact List.mem_of_getLast? isLast
    rcases (of_mem_lowercaseFrom member).2 with same | ⟨letter, _⟩
    · exact free (List.mem_singleton.mp same).symm
    · omega

/-- A cleaned reference is a proper name. -/
theorem isEntityName_of_cleanReference? {reference : List Char} {name : String}
    (inside : ∀ c ∈ reference, ¬EndsReference c) (cleaned : cleanReference? reference = some name) :
    IsEntityName name := by
  obtain ⟨written, ⟨first, isFirst, letter⟩, notStopWord⟩ := cleanReference?_eq_some_iff.mp cleaned
  constructor
  case nonempty =>
    rintro rfl
    cases isFirst
  case start =>
    intro c isHead
    cases (Option.mem_def.mp isFirst).symm.trans (Option.mem_def.mp isHead)
    exact letter
  case ending =>
    rw [written]
    exact getLast?_lowercaseFrom (by decide) (getLast?_bareReference reference)
  case plain =>
    intro c member
    rw [written] at member
    rcases (of_mem_lowercaseFrom member).2 with kept | ⟨isLetter, notSpace⟩
    · exact (of_mem_bareReference kept).imp_left (inside c)
    · exact plain_of_letter isLetter notSpace
  case notStopWord => exact notStopWord

/-! ## Each entity once -/

/-- The items of a list, each once and in the order of first appearance. -/
structure FirstAppearances {α : Type} [DecidableEq α] (all distinct : List α) : Prop where
  /-- No item is listed twice. -/
  nodup : distinct.Nodup
  /-- All items are listed. -/
  mem_iff : ∀ item, item ∈ distinct ↔ item ∈ all
  /-- An item that appears earlier is listed earlier. -/
  ordered : distinct.Pairwise fun first second => all.idxOf first < all.idxOf second

/-- Adding what is new, item by item, lists the first appearances. -/
theorem firstAppearances_foldl_addNew {α : Type} [DecidableEq α] (all : List α) :
    FirstAppearances all (all.foldl addNew []) := by
  have ordered : (all.foldl addNew []).Pairwise
      fun first second => all.idxOf first < all.idxOf second := by
    induction all using List.reverseRecOn with
    | nil => exact .nil
    | append_singleton all last ih =>
        have members : ∀ item ∈ all.foldl addNew [], item ∈ all := by
          intro item listed
          simpa using mem_foldl_addNew.mp listed
        have known : (all.foldl addNew []).Pairwise fun first second =>
            (all ++ [last]).idxOf first < (all ++ [last]).idxOf second := by
          apply ih.imp_of_mem
          intro first second isFirst isSecond earlier
          rwa [List.idxOf_append_of_mem (members first isFirst),
            List.idxOf_append_of_mem (members second isSecond)]
        rw [List.foldl_append, List.foldl_cons, List.foldl_nil, addNew]
        split
        · exact known
        · rename_i fresh
          refine List.pairwise_append.mpr ⟨known, List.pairwise_singleton _ _, ?_⟩
          intro first isFirst second isSecond
          rw [List.mem_singleton.mp isSecond]
          have notBefore : last ∉ all := fun member =>
            fresh (mem_foldl_addNew.mpr (Or.inr member))
          rw [List.idxOf_append_of_mem (members first isFirst),
            List.idxOf_append_of_notMem notBefore]
          exact Nat.lt_add_right _ (List.idxOf_lt_length_of_mem (members first isFirst))
  refine ⟨ordered.imp fun earlier same => ?_, fun item => ?_, ordered⟩
  · rw [same] at earlier
    exact absurd earlier (Nat.lt_irrefl _)
  · rw [mem_foldl_addNew]
    simp

/-- The entities of a text are what the references of its occurrences are cleaned to, each once and
in the order of first appearance.  The occurrences are those that follow each other from the start
of the text, which they do in one way, and every entity has a proper name. -/
theorem entities_of_occurrences (text : String) :
    ∃ occurrences, Successive text.toList 0 occurrences ∧
      (∀ others, Successive text.toList 0 others → others = occurrences) ∧
      FirstAppearances
        (occurrences.filterMap fun occurrence => cleanReference? occurrence.reference)
        (entities text) ∧
      ∀ name ∈ entities text, IsEntityName name := by
  obtain ⟨occurrences, successive, read⟩ := exists_successive_of_references text
  have appear : FirstAppearances
      (occurrences.filterMap fun occurrence => cleanReference? occurrence.reference)
      (entities text) := by
    rw [entities, read, List.filterMap_map]
    exact firstAppearances_foldl_addNew _
  refine ⟨occurrences, successive, fun others also => also.unique successive, appear, ?_⟩
  intro name member
  obtain ⟨occurrence, found, cleaned⟩ := List.mem_filterMap.mp ((appear.mem_iff name).mp member)
  exact isEntityName_of_cleanReference? (successive.isIn_of_mem found).reference cleaned

/-- A reference that is a keyword itself hides the one behind it. -/
example : entities "FROM update users JOIN b" = ["update", "b"] := by
  decide +kernel

end QueryImpact.Query
