import Mathlib
import QueryImpact.Build.Draft
import QueryImpact.Proofs.Location.Python
import QueryImpact.Proofs.Location.Qualified

/-!
# The strategies exclude each other

The path of a Python location can hold a number sign, and the path of a qualified location a colon
and the ending of a Python file.  Still no text is both: the number sign would stand in the path of
the Python file, so the dotted name after the colon would be the line of the qualified location.  A
builder for both kinds of locations can therefore try the strategies in either order.
-/

namespace QueryImpact

open QueryImpact.Text QueryImpact.Location

/-! ## No text is both -/

/-- No letter is a digit. -/
theorem Location.isDigit_of_isAlpha {c : Char} (letter : c.isAlpha = true) : c.isDigit = false := by
  simp only [Char.isAlpha, Char.isUpper, Char.isLower, Char.isDigit, Bool.or_eq_true,
    Bool.and_eq_true, Bool.and_eq_false_iff, decide_eq_true_eq, decide_eq_false_iff_not, ge_iff_le,
    UInt32.le_iff_toNat_le, UInt32.reduceToNat, Char.reduceVal, Bool.decide_and] at letter ⊢
  omega

/-- A line is written with a colon and digits. -/
theorem Location.IsLine.of_mem_lineText {parts : Parts} {line : UInt32}
    (isLine : IsLine parts.line line) {c : Char} (member : c ∈ parts.lineText) :
    c = ':' ∨ c.isDigit = true := by
  obtain ⟨path, name, digits⟩ := parts
  cases isLine with
  | absent => exact absurd member List.not_mem_nil
  | written _ decimal _ => exact (List.mem_cons.mp member).imp_right (decimal c)

/-- The number sign of a Python location is in its path. -/
theorem PythonLocation.IsLocation.number_mem_path {location : List Char} {parts : Parts}
    (isLocation : PythonLocation.IsLocation location parts) (numbered : '#' ∈ location) :
    '#' ∈ parts.path := by
  have dotted := PythonLocation.isDottedName_iff.mpr ⟨isLocation.start, isLocation.rest⟩
  have notInMember : '#' ∉ parts.member :=
    PythonLocation.not_mem_of_isDottedName dotted (by decide +kernel) (by decide)
      (by decide +kernel)
  rw [isLocation.text, List.mem_append, List.mem_cons, List.mem_append] at numbered
  rcases numbered with inPath | isColon | inMember | inLine
  · exact inPath
  · exact absurd isColon (by decide)
  · exact absurd inMember notInMember
  · obtain ⟨line, isLine⟩ := isLocation.line
    exact absurd (isLine.of_mem_lineText inLine) (by decide)

/-- If the path of a Python location holds the number sign of a qualified location, what stands
after the colon is the line of the latter. -/
theorem QualifiedStrategy.Cuts.line_eq {location path rest : List Char} {parts : Parts}
    (cuts : QualifiedStrategy.Cuts location parts) (text : location = path ++ ':' :: rest)
    (colonFree : ':' ∉ path) (numbered : '#' ∈ path) : parts.line = some rest := by
  have numberFree : '#' ∉ parts.path := fun member => (cuts.path '#' member).1 rfl
  have memberFree : ':' ∉ parts.member := fun member => (cuts.member ':' member).1 rfl
  cases cut : cutFirst '#' path with
  | none => exact absurd numbered (cutFirst_eq_none_iff.mp cut)
  | some sides =>
      obtain ⟨rfl, free⟩ := cutFirst_eq_some_iff.mp cut
      -- The text is cut at its first number sign in only one way.
      have sides_eq : some (parts.path, parts.member ++ parts.lineText) =
          some (sides.1, sides.2 ++ ':' :: rest) := by
        rw [← cutFirst_append_cons numberFree, ← cutFirst_append_cons free, ← cuts.text, text]
        simp
      have after := (Prod.mk.inj (Option.some.inj sides_eq)).2
      have sideFree : ':' ∉ sides.2 := fun member =>
        colonFree (List.mem_append_right _ (List.mem_cons_of_mem _ member))
      have isCut : Parts.ofRest parts.path (sides.2 ++ ':' :: rest) = parts :=
        Parts.ofRest_eq_iff.mpr ⟨rfl, after.symm, memberFree⟩
      rw [← isCut, Parts.ofRest, cutFirst_append_cons sideFree]

/-- No text is both a Python location and a qualified one. -/
theorem PythonLocation.IsLocation.not_qualified {location : List Char} {one other : Parts}
    (isPython : PythonLocation.IsLocation location one) {strategy : QualifiedStrategy}
    (isQualified : strategy.IsLocation location other) : False := by
  have numbered : '#' ∈ location := by
    rw [isQualified.text]
    exact List.mem_append_right _ List.mem_cons_self
  have colonFree : ':' ∉ one.path := fun member => (isPython.path ':' member).1 rfl
  have line := isQualified.toCuts.line_eq isPython.text colonFree
    (isPython.number_mem_path numbered)
  obtain ⟨first, isFirst, letter⟩ := isPython.start
  obtain ⟨number, isLine⟩ := isQualified.line
  rw [line] at isLine
  cases isLine with
  | written _ decimal _ =>
      have isDigit := decimal first (List.mem_append_left _ (List.mem_of_mem_head? isFirst))
      rcases letter with isAlpha | rfl
      · rw [isDigit_of_isAlpha isAlpha] at isDigit
        cases isDigit
      · exact absurd isDigit (by decide)

/-- A text that one strategy reads is not read by the other. -/
theorem PythonLocation.parse?_eq_none_or (strategy : QualifiedStrategy) (text : String) :
    PythonLocation.parse? text = none ∨ strategy.parse? text = none := by
  cases isPython : PythonLocation.parse? text with
  | none => exact Or.inl rfl
  | some place =>
      right
      cases isQualified : strategy.parse? text with
      | none => rfl
      | some other =>
          obtain ⟨one, first, _⟩ := PythonLocation.exists_describes_of_parse? isPython
          obtain ⟨_, second, _⟩ := QualifiedStrategy.exists_describes_of_parse? isQualified
          exact (first.not_qualified second).elim

/-- Strategies that exclude each other can be tried in either order. -/
theorem LocationStrategy.parseFirst?_swap {one other : LocationStrategy} {text : String}
    (excluded : one.parse? text = none ∨ other.parse? text = none) :
    parseFirst? [one, other] text = parseFirst? [other, one] text := by
  simp only [parseFirst?, List.findSome?_cons, List.findSome?_nil]
  rcases excluded with none | none
  · rw [none]
  · rw [none]

/-! ## Builders that read alike -/

/-- Builders that read every location alike and put entities in the same place. -/
structure Builder.ReadsAlike (one other : Builder) : Prop where
  /-- Locations are read alike. -/
  parse? : ∀ location, one.parse? location = other.parse? location
  /-- Entities live in the same place. -/
  storeKind : one.storeKind = other.storeKind

namespace Builder.ReadsAlike

variable {one other : Builder} (alike : one.ReadsAlike other)

include alike

theorem addFinding (draft : Draft) (index : Nat) (finding : Finding) :
    draft.addFinding one index finding = draft.addFinding other index finding := by
  have fragment : Fragment.ofFinding one finding = Fragment.ofFinding other finding := by
    rw [Fragment.ofFinding, Fragment.ofFinding, alike.parse?, alike.storeKind]
  rw [Draft.addFinding, Draft.addFinding, fragment]

theorem addLink (draft : Draft) (link : Link) :
    draft.addLink one link = draft.addLink other link := by
  have fragment : Fragment.ofLink? one link = Fragment.ofLink? other link := by
    rw [Fragment.ofLink?, Fragment.ofLink?, alike.parse?, alike.parse?]
  rw [Draft.addLink, Draft.addLink, fragment]

theorem addFindings (draft : Draft) (start : Nat) (findings : List Finding) :
    draft.addFindings one start findings = draft.addFindings other start findings := by
  induction findings generalizing draft start with
  | nil => rfl
  | cons finding rest ih => rw [Draft.addFindings, Draft.addFindings, alike.addFinding, ih]

theorem ofReports (findings : List Finding) (links : List Link) :
    Draft.ofReports one findings links = Draft.ofReports other findings links := by
  have sameLinks : Draft.addLink one = Draft.addLink other := by
    funext draft link
    exact alike.addLink draft link
  rw [Draft.ofReports, Draft.ofReports, alike.addFindings, sameLinks]

theorem mergeChunks (size : Nat) (draft : Draft) (number : Nat) (chunks : List (List Finding)) :
    draft.mergeChunks one size number chunks = draft.mergeChunks other size number chunks := by
  induction chunks generalizing draft number with
  | nil => rfl
  | cons chunk rest ih => rw [Draft.mergeChunks, Draft.mergeChunks, alike.addFindings, ih]

theorem addFindingsJson (draft : Draft) (start : Nat) (values : List Json) :
    draft.addFindingsJson one start values = draft.addFindingsJson other start values := by
  induction values generalizing draft start with
  | nil => rfl
  | cons value rest ih =>
      have first :
          draft.addFindingJson one start value = draft.addFindingJson other start value := by
        rw [Draft.addFindingJson, Draft.addFindingJson]
        cases Finding.ofJson value with
        | ok finding => exact alike.addFinding draft start finding
        | error cause => rfl
      rw [Draft.addFindingsJson, Draft.addFindingsJson, first, ih]

theorem ofPayload (payload : Json) :
    Draft.ofPayload one payload = Draft.ofPayload other payload := by
  have sameLinks : Draft.addLinkJson one = Draft.addLinkJson other := by
    funext draft value
    rw [Draft.addLinkJson, Draft.addLinkJson]
    cases Link.decode value with
    | ok link => exact alike.addLink draft link
    | error cause => rfl
  rw [Draft.ofPayload, Draft.ofPayload]
  cases Draft.reportsOfPayload payload with
  | error cause => rfl
  | ok reports => simp only [alike.addFindingsJson, sameLinks]

end Builder.ReadsAlike

/-- No text is read both as a Python location and as a qualified one, whatever the settings of the
latter.  So builders that try the two strategies in different orders collect the same drafts: of
findings and links, of findings in chunks, and of payloads. -/
theorem LocationStrategy.python_excludes_qualified (strategy : QualifiedStrategy)
    (storeKind : StoreKind) :
    let pythonFirst : Builder := ⟨[.python, .qualified strategy], storeKind⟩
    let qualifiedFirst : Builder := ⟨[.qualified strategy, .python], storeKind⟩
    (∀ text, ¬((PythonLocation.parse? text).isSome = true ∧
        (strategy.parse? text).isSome = true)) ∧
      (∀ findings links, Draft.ofReports pythonFirst findings links =
        Draft.ofReports qualifiedFirst findings links) ∧
      (∀ findings, Draft.ofFindingsInChunks pythonFirst findings =
        Draft.ofFindingsInChunks qualifiedFirst findings) ∧
      ∀ payload, Draft.ofPayload pythonFirst payload = Draft.ofPayload qualifiedFirst payload := by
  intro pythonFirst qualifiedFirst
  have alike : pythonFirst.ReadsAlike qualifiedFirst :=
    ⟨fun text => parseFirst?_swap (PythonLocation.parse?_eq_none_or strategy text), rfl⟩
  refine ⟨?_, alike.ofReports, fun findings => alike.mergeChunks _ _ _ _, alike.ofPayload⟩
  rintro text ⟨isPython, isQualified⟩
  rcases PythonLocation.parse?_eq_none_or strategy text with none | none
  · rw [none] at isPython
    cases isPython
  · rw [none] at isQualified
    cases isQualified

/-- A number sign in the path of a Python file, and the ending of a Python file and a colon in a
qualified path. -/
example : (PythonLocation.parse? "jobs#1.py:run:7").isSome = true ∧
    (QualifiedStrategy.java.parse? "jobs.py:1#run:7").isSome = true := by
  decide +kernel

end QueryImpact
