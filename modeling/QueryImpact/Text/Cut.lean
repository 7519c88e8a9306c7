/-!
# Cutting a text at a character

A text is cut at the first or the last occurrence of a character, or into all its pieces.  The
character itself belongs to neither side.
-/

namespace QueryImpact.Text

/-- Cut at the first occurrence of a character: what stands before it and after it. -/
def cutFirst (mark : Char) : List Char → Option (List Char × List Char)
  | [] => none
  | c :: rest =>
      if c = mark then some ([], rest)
      else (cutFirst mark rest).map fun sides => (c :: sides.1, sides.2)

/-- Cut at the last occurrence of a character: what stands before it and after it. -/
def cutLast (mark : Char) (chars : List Char) : Option (List Char × List Char) :=
  (cutFirst mark chars.reverse).map fun sides => (sides.2.reverse, sides.1.reverse)

/-- The pieces between the occurrences of a character; one piece more than occurrences. -/
def pieces (mark : Char) (chars : List Char) : List (List Char) :=
  chars.splitOnP (· == mark)

/-- Join texts with one character between neighbours. -/
def joinWith (mark : Char) : List (List Char) → List Char
  | [] => []
  | [piece] => piece
  | piece :: next :: rest => piece ++ mark :: joinWith mark (next :: rest)

/-- The text after a beginning, when it has that beginning. -/
def afterStart : List Char → List Char → Option (List Char)
  | [], chars => some chars
  | _ :: _, [] => none
  | s :: start, c :: chars => if s = c then afterStart start chars else none

/-- Cutting at the first occurrence succeeds exactly on texts that hold the character, and the
left side then holds no occurrence of it. -/
theorem cutFirst_eq_some_iff {mark : Char} {chars left right : List Char} :
    cutFirst mark chars = some (left, right) ↔
      chars = left ++ mark :: right ∧ mark ∉ left := by
  induction chars generalizing left with
  | nil => simp [cutFirst]
  | cons c rest ih =>
      by_cases same : c = mark
      · subst same
        cases left with
        | nil => simp [cutFirst, eq_comm]
        | cons l left => simp only [cutFirst, if_true]; grind
      · cases left with
        | nil => simp [cutFirst, same]
        | cons l left =>
            simp only [cutFirst, same, if_false, Option.map_eq_some_iff]
            constructor
            · rintro ⟨⟨first, second⟩, found, equal⟩
              simp only [Prod.mk.injEq, List.cons.injEq] at equal
              obtain ⟨⟨rfl, rfl⟩, rfl⟩ := equal
              obtain ⟨rfl, absent⟩ := ih.mp found
              refine ⟨rfl, ?_⟩
              simp [absent, Ne.symm same]
            · rintro ⟨equal, absent⟩
              simp only [List.cons_append, List.cons.injEq] at equal
              obtain ⟨rfl, rfl⟩ := equal
              exact ⟨(left, right), ih.mpr ⟨rfl, by grind⟩, rfl⟩

/-- Cutting at the first occurrence fails exactly on texts without the character. -/
theorem cutFirst_eq_none_iff {mark : Char} {chars : List Char} :
    cutFirst mark chars = none ↔ mark ∉ chars := by
  induction chars with
  | nil => simp [cutFirst]
  | cons c rest ih =>
      by_cases same : c = mark
      · simp [cutFirst, same]
      · simp [cutFirst, same, ih, Ne.symm same]

/-- Cutting at the last occurrence succeeds exactly on texts that hold the character, and the
right side then holds no occurrence of it. -/
theorem cutLast_eq_some_iff {mark : Char} {chars left right : List Char} :
    cutLast mark chars = some (left, right) ↔
      chars = left ++ mark :: right ∧ mark ∉ right := by
  simp only [cutLast, Option.map_eq_some_iff, Prod.mk.injEq]
  constructor
  · rintro ⟨⟨first, second⟩, found, rfl, rfl⟩
    obtain ⟨reversed, absent⟩ := cutFirst_eq_some_iff.mp found
    refine ⟨?_, by simpa using absent⟩
    have := congrArg List.reverse reversed
    simpa using this
  · rintro ⟨rfl, absent⟩
    exact ⟨(right.reverse, left.reverse),
      cutFirst_eq_some_iff.mpr ⟨by simp, by simpa using absent⟩, by simp, by simp⟩

end QueryImpact.Text
