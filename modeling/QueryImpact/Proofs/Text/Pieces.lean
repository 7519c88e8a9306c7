import Mathlib
import QueryImpact.Text.Cut
import QueryImpact.Text.Space

/-!
# Pieces of texts

Trimming and cutting bring no new characters, and a text that is trimmed stays as it is when it is
trimmed again.  Two texts put together with a mark between them are cut apart again at the mark, and
the pieces of a text make up the text when they are joined.
-/

namespace QueryImpact.Text

/-! ## Trimming -/

theorem dropEndWhile_subset (drops : Char → Bool) (chars : List Char) :
    dropEndWhile drops chars ⊆ chars :=
  (List.rdropWhile_prefix drops chars).subset

theorem trimChars_subset (chars : List Char) : trimChars chars ⊆ chars := by
  intro c member
  have kept := dropEndWhile_subset isSpace _ member
  exact (List.dropWhile_suffix isSpace).subset kept

/-- A text without the characters of one sort before it and those of another sort behind it. -/
structure Strips (before behind : Char → Bool) (chars core : List Char) : Prop where
  /-- Nothing else is taken away. -/
  whole : ∃ start ending, chars = start ++ core ++ ending ∧
    (∀ c ∈ start, before c = true) ∧ ∀ c ∈ ending, behind c = true
  /-- Nothing is left to be taken away in front. -/
  first : ∀ c ∈ core.head?, before c = false
  /-- Nothing is left to be taken away at the end. -/
  last : ∀ c ∈ core.getLast?, behind c = false

theorem not_of_head?_dropWhile {drops : Char → Bool} {chars : List Char} {c : Char}
    (starts : (chars.dropWhile drops).head? = some c) : drops c = false := by
  have stops := List.head?_dropWhile_not drops chars
  rwa [starts] at stops

theorem strips_dropEndWhile (before behind : Char → Bool) (chars : List Char) :
    Strips before behind chars (dropEndWhile behind (chars.dropWhile before)) where
  whole := by
    refine ⟨chars.takeWhile before, (chars.dropWhile before).rtakeWhile behind, ?_, ?_, ?_⟩
    · have ending := List.rdropWhile_append_rtakeWhile (p := behind) (l := chars.dropWhile before)
      rw [List.append_assoc]
      exact (List.takeWhile_append_dropWhile.symm).trans (congrArg _ ending.symm)
    · exact fun c => List.mem_takeWhile_imp
    · exact fun c => List.mem_rtakeWhile_imp
  first := by
    intro c isFirst
    obtain ⟨ending, whole⟩ : dropEndWhile behind (chars.dropWhile before) <+:
        chars.dropWhile before := List.rdropWhile_prefix behind _
    have starts : (chars.dropWhile before).head? = some c := by
      rw [← whole, List.head?_append, Option.mem_def.mp isFirst, Option.some_or]
    exact not_of_head?_dropWhile starts
  last := by
    intro c isLast
    rw [dropEndWhile, List.getLast?_reverse] at isLast
    exact not_of_head?_dropWhile isLast

/-- A trimmed text does not start with white space. -/
theorem dropWhile_trimChars (chars : List Char) :
    (trimChars chars).dropWhile isSpace = trimChars chars := by
  obtain ⟨ending, whole⟩ : trimChars chars <+: chars.dropWhile isSpace :=
    List.rdropWhile_prefix isSpace _
  cases trimmed : trimChars chars with
  | nil => rfl
  | cons first rest =>
      have leading := List.dropWhile_idempotent isSpace chars
      rw [← whole, trimmed, List.cons_append, List.dropWhile_eq_self_iff] at leading
      rw [List.dropWhile_eq_self_iff]
      intro _
      exact leading (Nat.succ_pos _)

/-- Trimming a trimmed text changes nothing. -/
theorem trimChars_trimChars (chars : List Char) :
    trimChars (trimChars chars) = trimChars chars := by
  calc
    trimChars (trimChars chars) = dropEndWhile isSpace ((trimChars chars).dropWhile isSpace) := rfl
    _ = dropEndWhile isSpace (trimChars chars) := by rw [dropWhile_trimChars]
    _ = trimChars chars := List.rdropWhile_idempotent isSpace _

@[simp]
theorem trim_trim (text : String) : trim (trim text) = trim text := by
  rw [trim, trim, String.toList_ofList, trimChars_trimChars]

/-! ## Cutting -/

theorem cutFirst_append_cons {mark : Char} {left : List Char} (free : mark ∉ left)
    (right : List Char) : cutFirst mark (left ++ mark :: right) = some (left, right) :=
  cutFirst_eq_some_iff.mpr ⟨rfl, free⟩

theorem cutLast_append_cons {mark : Char} {right : List Char} (free : mark ∉ right)
    (left : List Char) : cutLast mark (left ++ mark :: right) = some (left, right) :=
  cutLast_eq_some_iff.mpr ⟨rfl, free⟩

/-- Cutting at the last occurrence fails exactly on texts without the character. -/
theorem cutLast_eq_none_iff {mark : Char} {chars : List Char} :
    cutLast mark chars = none ↔ mark ∉ chars := by
  rw [cutLast, Option.map_eq_none_iff, cutFirst_eq_none_iff, List.mem_reverse]

theorem subset_of_cutFirst {mark : Char} {chars left right : List Char}
    (cut : cutFirst mark chars = some (left, right)) : left ⊆ chars ∧ right ⊆ chars := by
  obtain ⟨rfl, _⟩ := cutFirst_eq_some_iff.mp cut
  refine ⟨List.subset_append_left _ _, ?_⟩
  exact List.Subset.trans (List.subset_cons_self _ _) (List.subset_append_right _ _)

theorem subset_of_cutLast {mark : Char} {chars left right : List Char}
    (cut : cutLast mark chars = some (left, right)) : left ⊆ chars ∧ right ⊆ chars := by
  obtain ⟨rfl, _⟩ := cutLast_eq_some_iff.mp cut
  refine ⟨List.subset_append_left _ _, ?_⟩
  exact List.Subset.trans (List.subset_cons_self _ _) (List.subset_append_right _ _)

/-- A text without the mark is one piece. -/
theorem pieces_eq_singleton {mark : Char} {chars : List Char} (free : mark ∉ chars) :
    pieces mark chars = [chars] :=
  List.splitOn_eq_singleton free

theorem pieces_append_cons (mark : Char) (left right : List Char) :
    pieces mark (left ++ mark :: right) = pieces mark left ++ pieces mark right :=
  List.splitOn_append_cons_self left right

theorem subset_of_mem_pieces {mark : Char} {chars piece : List Char}
    (member : piece ∈ pieces mark chars) : piece ⊆ chars := by
  induction chars generalizing piece with
  | nil =>
      rw [pieces, List.splitOnP_nil, List.mem_singleton] at member
      rw [member]
      exact List.nil_subset _
  | cons first rest ih =>
      rw [pieces, List.splitOnP_cons_eq_if_modifyHead] at member
      split at member
      · rcases List.mem_cons.mp member with rfl | later
        · exact List.nil_subset _
        · exact List.subset_cons_of_subset first (ih later)
      · cases split : rest.splitOnP (· == mark) with
        | nil => exact absurd split (List.splitOnP_ne_nil _ rest)
        | cons head tail =>
            rw [split, List.modifyHead_cons] at member
            have restSubset : ∀ other ∈ head :: tail, other ⊆ rest := by
              intro other otherMember
              rw [← split] at otherMember
              exact ih otherMember
            rcases List.mem_cons.mp member with rfl | later
            · exact List.cons_subset_cons first (restSubset head List.mem_cons_self)
            · exact List.subset_cons_of_subset first
                (restSubset piece (List.mem_cons_of_mem _ later))

theorem pieces_ne_nil (mark : Char) (chars : List Char) : pieces mark chars ≠ [] :=
  List.splitOnP_ne_nil _ chars

/-- The pieces of a text hold no mark, and with marks between them they make up the text. -/
theorem joinWith_pieces (mark : Char) (chars : List Char) :
    joinWith mark (pieces mark chars) = chars ∧ ∀ piece ∈ pieces mark chars, mark ∉ piece := by
  by_cases held : mark ∈ chars
  · obtain ⟨left, right, whole, free⟩ := List.eq_append_cons_of_mem held
    have shorter : right.length < chars.length := by
      rw [whole, List.length_append, List.length_cons]
      omega
    obtain ⟨joined, marked⟩ := joinWith_pieces mark right
    rw [whole, pieces_append_cons, pieces_eq_singleton free, List.singleton_append]
    constructor
    · cases later : pieces mark right with
      | nil => exact absurd later (pieces_ne_nil mark right)
      | cons next rest => rw [joinWith, ← later, joined]
    · exact List.forall_mem_cons.mpr ⟨free, marked⟩
  · rw [pieces_eq_singleton held]
    exact ⟨rfl, List.forall_mem_singleton.mpr held⟩
termination_by chars.length

theorem mem_joinWith {mark c : Char} {parts : List (List Char)} (member : c ∈ joinWith mark parts) :
    c = mark ∨ ∃ part ∈ parts, c ∈ part := by
  fun_induction joinWith mark parts with
  | case1 => exact absurd member List.not_mem_nil
  | case2 part => exact Or.inr ⟨part, List.mem_singleton_self part, member⟩
  | case3 part next rest ih =>
      rcases List.mem_append.mp member with here | later
      · exact Or.inr ⟨part, List.mem_cons_self, here⟩
      · rcases List.mem_cons.mp later with same | further
        · exact Or.inl same
        · rcases ih further with same | ⟨found, foundMember, inFound⟩
          · exact Or.inl same
          · exact Or.inr ⟨found, List.mem_cons_of_mem _ foundMember, inFound⟩

end QueryImpact.Text
