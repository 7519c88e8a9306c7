import Mathlib
import QueryImpact.Text.Lowercase
import QueryImpact.Text.Space
import QueryImpact.Text.WordCharacter

/-!
# Letter case

What is blind to ASCII letter case is so at the 26 letters, and white space is no part of a word.
The lower-case form of a text is made of characters that are their own lower-case forms; it brings
no white space and no punctuation, and it differs from the text in its ASCII letters only if all
other characters are lower case already.
-/

namespace QueryImpact.Text

/-! ## ASCII letters -/

theorem isUpper_iff {c : Char} : c.isUpper = true ↔ 0x41 ≤ c.toNat ∧ c.toNat ≤ 0x5a := by
  simp [Char.isUpper, UInt32.le_iff_toNat_le]

theorem isLower_iff {c : Char} : c.isLower = true ↔ 0x61 ≤ c.toNat ∧ c.toNat ≤ 0x7a := by
  simp [Char.isLower, UInt32.le_iff_toNat_le]

/-- A capital letter has a place in the alphabet. -/
theorem exists_of_isUpper {c : Char} (upper : c.isUpper = true) :
    ∃ index < 26, c = Char.ofNat (0x41 + index) ∧ c.toLower = Char.ofNat (0x61 + index) := by
  have letters : ∀ index < 26,
      (Char.ofNat (0x41 + index)).toLower = Char.ofNat (0x61 + index) := by
    decide
  obtain ⟨low, high⟩ := isUpper_iff.mp upper
  have isCapital : c = Char.ofNat (0x41 + (c.toNat - 0x41)) := by
    rw [Nat.add_sub_cancel' low, Char.ofNat_toNat]
  have inAlphabet : c.toNat - 0x41 < 26 := by omega
  refine ⟨c.toNat - 0x41, inAlphabet, isCapital, ?_⟩
  rw [← letters _ inAlphabet, ← isCapital]

/-- What is blind to the case of the 26 letters is blind to letter case. -/
theorem apply_toLower {α : Type} {f : Char → α}
    (blind : ∀ index < 26, f (Char.ofNat (0x61 + index)) = f (Char.ofNat (0x41 + index)))
    (c : Char) : f c.toLower = f c := by
  by_cases upper : c.isUpper = true
  · obtain ⟨index, bound, isCapital, isSmall⟩ := exists_of_isUpper upper
    rw [isSmall, blind index bound, ← isCapital]
  · rw [Char.toLower_eq_of_not_isUpper upper]

/-- Beyond ASCII there is nothing to change. -/
theorem toLower_of_beyond {c : Char} (beyond : 128 ≤ c.toNat) : c.toLower = c := by
  apply Char.toLower_eq_of_not_isUpper
  rw [isUpper_iff]
  omega

theorem isSpace_toLower (c : Char) : isSpace c.toLower = isSpace c :=
  apply_toLower (by decide) c

theorem isWordCharacter_toLower (c : Char) : isWordCharacter c.toLower = isWordCharacter c :=
  apply_toLower (by decide) c

theorem isSpace_toUpper (c : Char) : isSpace c.toUpper = isSpace c := by
  rw [← isSpace_toLower c.toUpper, Char.toLower_toUpper_eq_toLower, isSpace_toLower]

/-! ## White space -/

/-- Whether no range meets a gap, both in increasing order. -/
def avoid : List (Nat × Nat) → List (Nat × Nat) → Bool
  | [], _ => true
  | (low, high) :: ranges, gaps =>
      match gaps.dropWhile fun gap => Nat.blt gap.2 low with
      | [] => true
      | gap :: later => Nat.blt high gap.1 && avoid ranges (gap :: later)

/-- No code point of a gap is in ranges that avoid it. -/
theorem inRanges_of_avoid {ranges gaps : List (Nat × Nat)}
    (ordered : gaps.Pairwise fun one other => one.1 ≤ other.1) (apart : avoid ranges gaps = true)
    {gap : Nat × Nat} (isGap : gap ∈ gaps) {point : Nat} (low : gap.1 ≤ point)
    (high : point ≤ gap.2) : inRanges ranges point = false := by
  induction ranges generalizing gaps with
  | nil => rfl
  | cons range ranges ih =>
      obtain ⟨first, last⟩ := range
      rw [inRanges]
      by_cases below : point < first
      · rw [if_pos below]
      · rw [if_neg below]
        -- The gap of the point does not end before the range, so it has not been dropped.
        have kept : gap ∈ gaps.dropWhile fun gap => Nat.blt gap.2 first := by
          rw [← List.takeWhile_append_dropWhile (p := fun gap => Nat.blt gap.2 first) (l := gaps),
            List.mem_append] at isGap
          rcases isGap with dropped | kept
          · have ended := List.mem_takeWhile_imp dropped
            rw [Nat.blt_eq] at ended
            omega
          · exact kept
        have orderedLater :=
          ordered.sublist (List.dropWhile_suffix fun gap => Nat.blt gap.2 first).sublist
        rw [avoid] at apart
        split at apart
        · rename_i none
          rw [none] at kept
          exact absurd kept List.not_mem_nil
        · rename_i next later split
          rw [split] at kept orderedLater
          rw [Bool.and_eq_true, Nat.blt_eq] at apart
          have after : next.1 ≤ gap.1 := by
            rcases List.mem_cons.mp kept with rfl | isLater
            · exact Nat.le_refl _
            · exact List.rel_of_pairwise_cons orderedLater isLater
          have above : ¬point ≤ last := by omega
          rw [decide_eq_false above, Bool.false_or]
          exact ih orderedLater apart.2 kept

/-- The code points of white space. -/
def spaceRanges : List (Nat × Nat) :=
  [(0x9, 0xd), (0x20, 0x20), (0x85, 0x85), (0xa0, 0xa0), (0x1680, 0x1680), (0x2000, 0x200a),
    (0x2028, 0x2028), (0x2029, 0x2029), (0x202f, 0x202f), (0x205f, 0x205f), (0x3000, 0x3000)]

theorem exists_mem_spaceRanges {c : Char} (space : isSpace c = true) :
    ∃ gap ∈ spaceRanges, gap.1 ≤ c.toNat ∧ c.toNat ≤ gap.2 := by
  simp only [isSpace, Bool.or_eq_true, Bool.and_eq_true, decide_eq_true_eq, beq_iff_eq] at space
  rcases space with (((((((((tab | same) | same) | same) | same) | quad) | same) | same) | same) |
    same) | same
  · exact ⟨(0x9, 0xd), by decide, tab⟩
  · exact ⟨(0x20, 0x20), by decide, same.ge, same.le⟩
  · exact ⟨(0x85, 0x85), by decide, same.ge, same.le⟩
  · exact ⟨(0xa0, 0xa0), by decide, same.ge, same.le⟩
  · exact ⟨(0x1680, 0x1680), by decide, same.ge, same.le⟩
  · exact ⟨(0x2000, 0x200a), by decide, quad⟩
  · exact ⟨(0x2028, 0x2028), by decide, same.ge, same.le⟩
  · exact ⟨(0x2029, 0x2029), by decide, same.ge, same.le⟩
  · exact ⟨(0x202f, 0x202f), by decide, same.ge, same.le⟩
  · exact ⟨(0x205f, 0x205f), by decide, same.ge, same.le⟩
  · exact ⟨(0x3000, 0x3000), by decide, same.ge, same.le⟩

/-- White space is no part of a word. -/
theorem isWordCharacter_of_isSpace {c : Char} (space : isSpace c = true) :
    isWordCharacter c = false := by
  have apart : ∀ ranges ∈ [alphabeticRanges, markRanges, decimalDigitRanges, connectorRanges,
      joinControlRanges], avoid ranges spaceRanges = true := by
    decide +kernel
  have ordered : spaceRanges.Pairwise fun one other => one.1 ≤ other.1 := by
    decide
  obtain ⟨gap, isGap, low, high⟩ := exists_mem_spaceRanges space
  have none : ∀ ranges ∈ [alphabeticRanges, markRanges, decimalDigitRanges, connectorRanges,
      joinControlRanges], inRanges ranges c.toNat = false := fun ranges member =>
    inRanges_of_avoid ordered (apart ranges member) isGap low high
  simp only [List.forall_mem_cons] at none
  obtain ⟨alphabetic, mark, digit, connector, joinControl, _⟩ := none
  rw [isWordCharacter, isWordKind, isAlphabetic, isMark, isDecimalDigit, alphabetic, mark, digit,
    connector, joinControl]
  rfl

theorem isPlainLetter_of_isSpace {c : Char} (space : isSpace c = true) :
    isPlainLetter c = false := by
  have notLine : c ≠ '_' := by
    rintro rfl
    exact absurd space (by decide)
  obtain ⟨gap, isGap, low, high⟩ := exists_mem_spaceRanges space
  have notLetter : ∀ gap ∈ spaceRanges, gap.2 < 0x41 ∨ 0x7a < gap.1 := by
    decide
  have apart := notLetter gap isGap
  have notUpper : ¬c.isUpper = true := by
    rw [isUpper_iff]
    omega
  have notLower : ¬c.isLower = true := by
    rw [isLower_iff]
    omega
  simp [isPlainLetter, Char.isAlpha, notUpper, notLower, notLine]

/-! ## Lower-case forms of characters -/

namespace CaseRun

/-- The lower-case forms that a run lists. -/
def targets (run : CaseRun) : List Nat :=
  (List.range ((run.last - run.first) / run.stride + 1)).map fun index =>
    run.target + index * run.stride

/-- Whether the forms of a run lie between the mapped code points of another one, both going by
steps of two. -/
def interleaves (run other : CaseRun) : Bool :=
  (Nat.beq run.stride 2 || Nat.beq run.first run.last) && Nat.beq other.stride 2 &&
    Nat.beq ((run.target + other.first) % 2) 1

/-- Whether no form of the run is mapped any further. -/
def isSettled (run : CaseRun) : List CaseRun → Bool
  | [] => true
  | other :: rest =>
      bif Nat.blt other.last run.target then run.isSettled rest
      else Nat.blt (run.target + (run.last - run.first)) other.first ||
        run.interleaves other && run.isSettled rest

/-- Whether all forms of a run lie in a zone. -/
def isWithin (run : CaseRun) (zone : Nat × Nat) : Bool :=
  Nat.ble zone.1 run.target && Nat.ble (run.target + (run.last - run.first)) zone.2

/-- Where the forms of a run are. -/
theorem of_mem_targets {run : CaseRun} {point : Nat} (listed : point ∈ run.targets) :
    run.target ≤ point ∧ point ≤ run.target + (run.last - run.first) ∧
      (run.stride = 2 ∨ run.first = run.last → point % 2 = run.target % 2) := by
  obtain ⟨index, bound, rfl⟩ := List.mem_map.mp listed
  rw [List.mem_range, Nat.lt_succ_iff] at bound
  have reach : index * run.stride ≤ run.last - run.first :=
    (Nat.mul_le_mul_right _ bound).trans (Nat.div_mul_le_self _ _)
  refine ⟨Nat.le_add_right _ _, Nat.add_le_add_left reach _, ?_⟩
  rintro (byTwo | single)
  · rw [byTwo, Nat.add_mul_mod_self_right]
  · have none : index * run.stride = 0 := by omega
    rw [none, Nat.add_zero]

/-- The forms of a settled run are their own lower-case forms. -/
theorem lowercasePoint_of_isSettled {run : CaseRun} {runs : List CaseRun}
    (settled : run.isSettled runs = true) {point : Nat} (listed : point ∈ run.targets) :
    lowercasePoint runs point = point := by
  obtain ⟨low, high, parity⟩ := of_mem_targets listed
  induction runs with
  | nil => rfl
  | cons other rest ih =>
      rw [isSettled] at settled
      rw [lowercasePoint]
      by_cases under : point < other.first
      · rw [if_pos under]
      · rw [if_neg under]
        cases passed : Nat.blt other.last run.target with
        | true =>
            rw [passed, cond_true] at settled
            have above : ¬point ≤ other.last := by
              rw [Nat.blt_eq] at passed
              omega
            rw [decide_eq_false above, Bool.false_and, if_neg Bool.false_ne_true]
            exact ih settled
        | false =>
            simp only [passed, cond_false, interleaves, Bool.or_eq_true, Bool.and_eq_true,
              Nat.blt_eq, Nat.beq_eq] at settled
            rcases settled with below | ⟨⟨⟨steps, byTwo⟩, odd⟩, later⟩
            · omega
            · have sameParity := parity steps
              have offGrid : ¬(point - other.first) % other.stride = 0 := by
                rw [byTwo]
                omega
              rw [beq_false_of_ne offGrid, Bool.and_false, if_neg Bool.false_ne_true]
              exact ih later

end CaseRun

/-- A code point is its own lower-case form, or the form is listed. -/
theorem lowercasePoint_eq_or (runs : List CaseRun) (point : Nat) :
    lowercasePoint runs point = point ∨
      ∃ run ∈ runs, lowercasePoint runs point ∈ run.targets := by
  induction runs with
  | nil => exact Or.inl rfl
  | cons run runs ih =>
      rw [lowercasePoint]
      split
      · exact Or.inl rfl
      · rename_i notBelow
        split
        · rename_i mapped
          right
          simp only [Bool.and_eq_true, decide_eq_true_eq, beq_iff_eq] at mapped
          obtain ⟨inside, onGrid⟩ := mapped
          refine ⟨run, List.mem_cons_self, List.mem_map.mpr
            ⟨(point - run.first) / run.stride, ?_, ?_⟩⟩
          · have within : point - run.first ≤ run.last - run.first := by omega
            rw [List.mem_range, Nat.lt_succ_iff]
            exact Nat.div_le_div_right within
          · rw [Nat.div_mul_cancel (Nat.dvd_of_mod_eq_zero onGrid)]
        · rcases ih with same | ⟨other, member, listed⟩
          · exact Or.inl same
          · exact Or.inr ⟨other, List.mem_cons_of_mem _ member, listed⟩

/-- Stretches of code points that are characters, neither white space nor punctuation of ASCII, and
not the capital dotted I. -/
def letterZones : List (Nat × Nat) :=
  [(0x61, 0x7a), (0xdf, 0x12f), (0x131, 0x15ff), (0x1c80, 0x1fff), (0x2100, 0x2fff),
    (0xa000, 0xd7ff), (0xe000, 0x10ffff)]

theorem of_mem_letterZones {zone : Nat × Nat} (isZone : zone ∈ letterZones) {point : Nat}
    (low : zone.1 ≤ point) (high : point ≤ zone.2) :
    (Char.ofNat point).toNat = point ∧ 0x61 ≤ point ∧ point ≠ 0x130 ∧
      isSpace (Char.ofNat point) = false := by
  simp only [letterZones, List.mem_cons, List.not_mem_nil, or_false] at isZone
  have valid : point.isValidChar := by
    rw [Nat.isValidChar]
    rcases isZone with rfl | rfl | rfl | rfl | rfl | rfl | rfl <;> omega
  have toNat : (Char.ofNat point).toNat = point := by rw [Char.toNat_ofNat, if_pos valid]
  refine ⟨toNat, ?_⟩
  rw [← Bool.not_eq_true]
  simp only [isSpace, toNat, Bool.or_eq_true, Bool.and_eq_true, decide_eq_true_eq, beq_iff_eq]
  rcases isZone with rfl | rfl | rfl | rfl | rfl | rfl | rfl <;> omega

theorem all_lowercaseRuns : (lowercaseRuns.all fun run =>
    run.isSettled lowercaseRuns && letterZones.any run.isWithin) = true := by
  decide +kernel

/-- Every listed form is its own lower-case form. -/
theorem of_mem_targets_lowercaseRuns {run : CaseRun} (isRun : run ∈ lowercaseRuns) {point : Nat}
    (listed : point ∈ run.targets) :
    lowercaseChar (Char.ofNat point) = [Char.ofNat point] ∧
      0x61 ≤ (Char.ofNat point).toNat ∧ isSpace (Char.ofNat point) = false := by
  have checked := List.all_eq_true.mp all_lowercaseRuns run isRun
  rw [Bool.and_eq_true, List.any_eq_true] at checked
  obtain ⟨settled, zone, isZone, within⟩ := checked
  rw [CaseRun.isWithin, Bool.and_eq_true, Nat.ble_eq, Nat.ble_eq] at within
  obtain ⟨low, high, _⟩ := CaseRun.of_mem_targets listed
  obtain ⟨toNat, letter, notDotted, notSpace⟩ :=
    of_mem_letterZones isZone (within.1.trans low) (high.trans within.2)
  refine ⟨?_, toNat.symm ▸ letter, notSpace⟩
  rw [lowercaseChar, toNat, CaseRun.lowercasePoint_of_isSettled settled listed]
  simp [notDotted]

/-- What the lower-case form of a character is made of. -/
theorem of_mem_lowercaseChar {c d : Char} (member : d ∈ lowercaseChar c) :
    lowercaseChar d = [d] ∧ (d = c ∨ 0x61 ≤ d.toNat ∧ isSpace d = false) := by
  rw [lowercaseChar] at member
  split at member
  · have both : ∀ d ∈ ['i', Char.ofNat 0x307],
        lowercaseChar d = [d] ∧ 0x61 ≤ d.toNat ∧ isSpace d = false := by
      simp only [List.forall_mem_cons, List.not_mem_nil, false_implies, implies_true, and_true]
      decide
    exact (both d member).imp_right Or.inr
  · rename_i notDotted
    rw [List.mem_singleton] at member
    rcases lowercasePoint_eq_or lowercaseRuns c.toNat with same | ⟨run, isRun, listed⟩
    · rw [same, Char.ofNat_toNat] at member
      rw [member]
      refine ⟨?_, Or.inl rfl⟩
      rw [lowercaseChar, if_neg notDotted, same, Char.ofNat_toNat]
    · rw [member]
      exact (of_mem_targets_lowercaseRuns isRun listed).imp_right Or.inr

theorem lowercasePoint_of_ascii {point : Nat} (ascii : point < 128)
    (notCapital : ¬(0x41 ≤ point ∧ point ≤ 0x5a)) : lowercasePoint lowercaseRuns point = point := by
  -- Only the first run holds ASCII letters, and the second is beyond ASCII.
  rw [lowercaseRuns, lowercasePoint, lowercasePoint]
  dsimp only
  by_cases below : point < 0x41
  · rw [if_pos below]
  · have above : ¬point ≤ 0x5a := by omega
    have beyond : point < 0xc0 := by omega
    rw [if_neg below, decide_eq_false above, Bool.false_and, if_neg Bool.false_ne_true,
      if_pos beyond]

/-- The lower-case form of an ASCII character is the ASCII one. -/
theorem lowercaseChar_of_ascii {c : Char} (ascii : c.toNat < 128) :
    lowercaseChar c = [c.toLower] := by
  have letters : ∀ index < 26,
      lowercaseChar (Char.ofNat (0x41 + index)) = [Char.ofNat (0x61 + index)] := by
    decide
  by_cases upper : c.isUpper = true
  · obtain ⟨index, bound, isCapital, isSmall⟩ := exists_of_isUpper upper
    rw [isSmall, ← letters index bound, ← isCapital]
  · have notDotted : ¬(c.toNat == 0x130) = true := by
      rw [beq_iff_eq]
      omega
    rw [Char.toLower_eq_of_not_isUpper upper, lowercaseChar, if_neg notDotted,
      lowercasePoint_of_ascii ascii (isUpper_iff.not.mp upper), Char.ofNat_toNat]

/-- A character that is its own lower-case form is no ASCII capital. -/
theorem toLower_of_lowercaseChar {c : Char} (lowered : lowercaseChar c = [c]) : c.toLower = c := by
  by_cases ascii : c.toNat < 128
  · rw [lowercaseChar_of_ascii ascii] at lowered
    exact List.singleton_inj.mp lowered
  · exact toLower_of_beyond (Nat.le_of_not_lt ascii)

theorem ne_capitalSigma_of_lowercaseChar {c : Char} (lowered : lowercaseChar c = [c]) :
    c ≠ capitalSigma := by
  rintro rfl
  exact absurd lowered (by decide)

/-! ## Lower-case forms of texts -/

/-- What the lower-case form of a text is made of. -/
theorem of_mem_lowercaseFrom {before chars : List Char} {d : Char}
    (member : d ∈ lowercaseFrom before chars) :
    lowercaseChar d = [d] ∧ (d ∈ chars ∨ 0x61 ≤ d.toNat ∧ isSpace d = false) := by
  have sigmas : ∀ d ∈ [Char.ofNat 0x3c2, Char.ofNat 0x3c3],
      lowercaseChar d = [d] ∧ 0x61 ≤ d.toNat ∧ isSpace d = false := by
    simp only [List.forall_mem_cons, List.not_mem_nil, false_implies, implies_true, and_true]
    decide
  induction chars generalizing before with
  | nil => exact absurd member List.not_mem_nil
  | cons c rest ih =>
      rw [lowercaseFrom, List.mem_append] at member
      rcases member with here | later
      · split at here
        · split at here
          · rw [List.mem_singleton.mp here]
            exact (sigmas _ (by simp)).imp_right Or.inr
          · rw [List.mem_singleton.mp here]
            exact (sigmas _ (by simp)).imp_right Or.inr
        · refine (of_mem_lowercaseChar here).imp_right (Or.imp_left ?_)
          rintro rfl
          exact List.mem_cons_self
      · exact (ih later).imp_right (Or.imp_left (List.mem_cons_of_mem _))

/-- If every other character is lower case already, only ASCII letters change. -/
theorem lowercaseFrom_eq_map {chars : List Char}
    (lowered : ∀ c ∈ chars, 128 ≤ c.toNat → lowercaseChar c = [c]) (before : List Char) :
    lowercaseFrom before chars = chars.map Char.toLower := by
  induction chars generalizing before with
  | nil => rfl
  | cons c rest ih =>
      have notSigma : (c == capitalSigma) = false := by
        rw [beq_eq_false_iff_ne]
        by_cases ascii : c.toNat < 128
        · rintro rfl
          exact absurd ascii (by decide)
        · exact ne_capitalSigma_of_lowercaseChar
            (lowered c List.mem_cons_self (Nat.le_of_not_lt ascii))
      have form : lowercaseChar c = [c.toLower] := by
        by_cases ascii : c.toNat < 128
        · exact lowercaseChar_of_ascii ascii
        · have beyond := Nat.le_of_not_lt ascii
          rw [toLower_of_beyond beyond]
          exact lowered c List.mem_cons_self beyond
      have others := ih (fun d member => lowered d (List.mem_cons_of_mem _ member)) (c :: before)
      rw [lowercaseFrom, List.map_cons, others, notSigma, form]
      rfl

/-- Lower-casing a text changes nothing but ASCII letters exactly if every other character is lower
case already. -/
theorem lowercase_eq_toLower_iff {text : String} :
    lowercase text = text.toLower ↔ ∀ c ∈ text.toList, 128 ≤ c.toNat → lowercaseChar c = [c] := by
  rw [lowercase, String.toLower, ← String.toList_inj, String.toList_ofList, String.toList_map]
  constructor
  · intro same c member beyond
    have kept : c ∈ text.toList.map Char.toLower :=
      List.mem_map.mpr ⟨c, member, toLower_of_beyond beyond⟩
    rw [← same] at kept
    exact (of_mem_lowercaseFrom kept).1
  · exact fun lowered => lowercaseFrom_eq_map lowered []

theorem lowercaseFrom_singleton_ne_nil (before : List Char) (c : Char) :
    lowercaseFrom before [c] ≠ [] := by
  rw [lowercaseFrom, lowercaseChar]
  split
  · split <;> simp
  · split <;> simp

/-- The lower-case form of a text does not depend on the case of its ASCII letters. -/
theorem lowercaseFrom_map_toLower (before chars : List Char) :
    lowercaseFrom (before.map Char.toLower) (chars.map Char.toLower) =
      lowercaseFrom before chars := by
  have cased : ∀ chars : List Char, startsCased (chars.map Char.toLower) = startsCased chars := by
    have blind : isCaseIgnorable ∘ Char.toLower = isCaseIgnorable :=
      funext (apply_toLower (by decide))
    have alsoBlind : ∀ c : Char, isCased c.toLower = isCased c := apply_toLower (by decide)
    intro chars
    rw [startsCased, startsCased, List.dropWhile_map, blind]
    cases chars.dropWhile isCaseIgnorable with
    | nil => rfl
    | cons c rest => exact alsoBlind c
  have sigma : ∀ c : Char, (c.toLower == capitalSigma) = (c == capitalSigma) :=
    apply_toLower (f := fun c => c == capitalSigma) (by decide)
  have form : ∀ c : Char, lowercaseChar c.toLower = lowercaseChar c :=
    apply_toLower (by decide)
  induction chars generalizing before with
  | nil => rfl
  | cons c rest ih =>
      rw [List.map_cons, lowercaseFrom, lowercaseFrom, sigma, form, cased, cased,
        ← List.map_cons, ih]

/-- The lower-case form of a text ends with that of its last character. -/
theorem exists_lowercaseFrom_append (before chars : List Char) (c : Char) :
    ∃ start passed, lowercaseFrom before (chars ++ [c]) = start ++ lowercaseFrom passed [c] := by
  induction chars generalizing before with
  | nil => exact ⟨[], before, rfl⟩
  | cons first rest ih =>
      obtain ⟨start, passed, split⟩ := ih (first :: before)
      rw [List.cons_append, lowercaseFrom, split]
      exact ⟨_, passed, (List.append_assoc _ _ _).symm⟩

end QueryImpact.Text
