import QueryImpact.Location
import QueryImpact.Proofs.Text.Pieces

/-!
# Marks in source locations

The marks `:` and `#` divide a location text, so the parts that a strategy reads between them do
not hold them.  Where the path holds no colon either, neither class nor signature does.
-/

namespace QueryImpact

open QueryImpact.Text

/-- A location whose parts do not hold the marks that keys are made with. -/
structure SourceLocation.IsPlain (location : SourceLocation) : Prop where
  /-- No colon in the path. -/
  filePath : ':' ∉ location.filePath.toList
  /-- No colon in the class. -/
  className : ':' ∉ location.className.toList
  /-- No colon in the signature. -/
  signature : ':' ∉ location.signature.toList
  /-- No number sign in the signature. -/
  unnumbered : '#' ∉ location.signature.toList

/-- Whether a strategy is one of those that come with the library. -/
def LocationStrategy.IsBuiltIn : LocationStrategy → Prop
  | qualified _ => True
  | python => True
  | custom _ _ => False

theorem Path.stem_subset {path stem : List Char} (found : Path.stem? path = some stem) :
    stem ⊆ path := by
  simp only [Path.stem?, Option.map_eq_some_iff] at found
  obtain ⟨name, named, rfl⟩ := found
  have nameSubset : name ⊆ path := by
    simp only [Path.fileName?] at named
    split at named
    · rename_i last lastFound
      split at named
      · contradiction
      · obtain rfl := Option.some.inj named
        have member := List.mem_of_getLast? lastFound
        exact subset_of_mem_pieces (List.mem_filter.mp member).1
    · contradiction
  refine List.Subset.trans ?_ nameSubset
  simp only [Path.splitName]
  split
  · rename_i stem extension cut
    split
    · exact List.Subset.refl _
    · exact (subset_of_cutLast cut).1
  · exact List.Subset.refl _

namespace Location

/-- The member of a cut location ends before the colon of the line. -/
theorem Parts.colon_not_mem_member (path rest : List Char) :
    ':' ∉ (Parts.ofRest path rest).member := by
  unfold Parts.ofRest
  split
  · rename_i cut
    exact (cutFirst_eq_some_iff.mp cut).2
  · rename_i uncut
    exact cutFirst_eq_none_iff.mp uncut

theorem Parts.path_ofRest (path rest : List Char) : (Parts.ofRest path rest).path = path := by
  unfold Parts.ofRest
  split
  · rfl
  · rfl

end Location

namespace QualifiedStrategy

theorem marks_not_mem_of_cut {location : List Char} {parts : Location.Parts}
    (cut : cut? location = some parts) : ':' ∉ parts.member ∧ '#' ∉ parts.member := by
  unfold cut? at cut
  split at cut
  · rename_i path rest _
    dsimp only at cut
    split at cut
    · rename_i checked
      obtain rfl := Option.some.inj cut
      exact ⟨Location.Parts.colon_not_mem_member path rest, checked.2.2.1⟩
    · contradiction
  · contradiction

theorem subset_of_splitParameters {member head : List Char} {parameters : Option (List Char)}
    (split : splitParameters? member = some (head, parameters)) :
    head ⊆ member ∧ ∀ list ∈ parameters, list ⊆ member := by
  unfold splitParameters? at split
  split at split
  · rename_i before after cut
    split at split
    · obtain ⟨rfl, rfl⟩ := Prod.mk.inj (Option.some.inj split)
      constructor
      · exact (subset_of_cutFirst cut).1
      · intro list listed
        obtain rfl := Option.mem_some.mp listed
        exact List.drop_subset _ _
    · contradiction
  · obtain ⟨rfl, rfl⟩ := Prod.mk.inj (Option.some.inj split)
    exact ⟨List.Subset.refl _, fun _ listed => absurd listed (by simp)⟩

theorem mem_normalizeParameters {parameters : List Char} {c : Char}
    (member : c ∈ normalizeParameters parameters) :
    c ∈ parameters ∨ c = '(' ∨ c = ',' ∨ c = ')' := by
  simp only [normalizeParameters, List.cons_append, List.mem_cons, List.mem_append,
    List.not_mem_nil, or_false] at member
  rcases member with opening | joined | closing
  · exact Or.inr (Or.inl opening)
  · rcases mem_joinWith joined with comma | ⟨name, named, inName⟩
    · exact Or.inr (Or.inr (Or.inl comma))
    · obtain ⟨trimmed, trimmedMember, rfl⟩ := List.mem_map.mp (List.mem_filter.mp named).1
      left
      have inPiece := trimChars_subset _ inName
      have inInner := subset_of_mem_pieces trimmedMember inPiece
      exact (List.dropWhile_suffix _).subset (dropEndWhile_subset _ _ inInner)
  · exact Or.inr (Or.inr (Or.inr closing))

theorem subset_of_classAndMethod {path head className methodName : List Char}
    (named : classAndMethod? path head = some (className, methodName)) :
    methodName ⊆ head ∧ (className ⊆ head ∨ className ⊆ path) := by
  unfold classAndMethod? at named
  split at named
  · rename_i left right cut
    split at named
    · contradiction
    · obtain ⟨rfl, rfl⟩ := Prod.mk.inj (Option.some.inj named)
      obtain ⟨classSubset, methodSubset⟩ := subset_of_cutLast cut
      exact ⟨methodSubset, Or.inl classSubset⟩
  · split at named
    · rename_i stem stemFound
      split at named
      · contradiction
      · obtain ⟨rfl, rfl⟩ := Prod.mk.inj (Option.some.inj named)
        exact ⟨List.Subset.refl _, Or.inr (Path.stem_subset stemFound)⟩
    · contradiction

/-- The path of a cut location ends before its number sign. -/
theorem number_not_mem_path {location : List Char} {parts : Location.Parts}
    (cut : cut? location = some parts) : '#' ∉ parts.path := by
  unfold cut? at cut
  split at cut
  · rename_i path rest cutAtSign
    dsimp only at cut
    split at cut
    · obtain rfl := Option.some.inj cut
      rw [Location.Parts.path_ofRest]
      exact (cutFirst_eq_some_iff.mp cutAtSign).2
    · contradiction
  · contradiction

theorem mem_completePath {strategy : QualifiedStrategy} {path : List Char} {c : Char}
    (member : c ∈ strategy.completePath path) :
    c ∈ path ∨ c = '.' ∨ ∃ extension ∈ strategy.extension, c ∈ extension.toList := by
  unfold completePath at member
  split at member
  · rename_i extension _ given
    rcases List.mem_append.mp member with inPath | later
    · exact Or.inl inPath
    · rcases List.mem_cons.mp later with dot | inExtension
      · exact Or.inr (Or.inl dot)
      · exact Or.inr (Or.inr ⟨extension, given, inExtension⟩)
  · exact Or.inl member

section Parsing

variable {strategy : QualifiedStrategy} {text : String} {place : SourceLocation}

/-- Of the two marks, the signature holds none. -/
theorem marks_not_mem_signature (parsed : strategy.parse? text = some place) :
    ':' ∉ place.signature.toList ∧ '#' ∉ place.signature.toList := by
  simp only [parse?, Option.bind_eq_bind, Option.bind_eq_some_iff, Option.pure_def,
    Option.some.injEq] at parsed
  obtain ⟨parts, cut, ⟨head, parameters⟩, split, ⟨className, methodName⟩, named, line, _, rfl⟩ :=
    parsed
  obtain ⟨memberColon, memberNumber⟩ := marks_not_mem_of_cut cut
  obtain ⟨headSubset, listSubset⟩ := subset_of_splitParameters split
  obtain ⟨methodSubset, _⟩ := subset_of_classAndMethod named
  have inMember : ∀ {chars : List Char}, chars ⊆ trimChars parts.member → chars ⊆ parts.member :=
    fun subset => List.Subset.trans subset (trimChars_subset _)
  have signatureFree : ∀ mark ∉ parts.member, mark ≠ '(' → mark ≠ ',' → mark ≠ ')' →
      mark ∉ methodName ++ (parameters.map normalizeParameters).getD [] := by
    intro mark free notOpening notComma notClosing member
    rcases List.mem_append.mp member with inMethod | inList
    · exact free (inMember headSubset (methodSubset inMethod))
    · cases parameters with
      | none => exact List.not_mem_nil inList
      | some list =>
          rcases mem_normalizeParameters inList with inside | opening | comma | closing
          · exact free (inMember (listSubset list rfl) inside)
          · exact notOpening opening
          · exact notComma comma
          · exact notClosing closing
  rw [String.toList_ofList]
  constructor
  · exact signatureFree ':' memberColon (by decide) (by decide) (by decide)
  · exact signatureFree '#' memberNumber (by decide) (by decide) (by decide)

/-- A mark that neither the path nor a member can hold is not in the class. -/
theorem mark_not_mem_className (parsed : strategy.parse? text = some place) {mark : Char}
    (isMark : mark = ':' ∨ mark = '#') (free : mark ∉ place.filePath.toList) :
    mark ∉ place.className.toList := by
  simp only [parse?, Option.bind_eq_bind, Option.bind_eq_some_iff, Option.pure_def,
    Option.some.injEq] at parsed
  obtain ⟨parts, cut, ⟨head, parameters⟩, split, ⟨className, methodName⟩, named, line, _, rfl⟩ :=
    parsed
  obtain ⟨memberColon, memberNumber⟩ := marks_not_mem_of_cut cut
  obtain ⟨headSubset, _⟩ := subset_of_splitParameters split
  rw [String.toList_ofList] at free ⊢
  rcases (subset_of_classAndMethod named).2 with inHead | inPath
  · have memberFree : mark ∉ parts.member := by
      rcases isMark with rfl | rfl
      · exact memberColon
      · exact memberNumber
    exact fun member => memberFree (trimChars_subset _ (headSubset (inHead member)))
  · exact fun member => free (inPath member)

/-- What a qualified location is read as is plain when its path holds no colon. -/
theorem isPlain_of_parse (parsed : strategy.parse? text = some place)
    (colonFree : ':' ∉ place.filePath.toList) : place.IsPlain where
  filePath := colonFree
  className := mark_not_mem_className parsed (Or.inl rfl) colonFree
  signature := (marks_not_mem_signature parsed).1
  unnumbered := (marks_not_mem_signature parsed).2

/-- The path holds no number sign, unless the strategy adds one. -/
theorem number_not_mem_filePath (parsed : strategy.parse? text = some place)
    (free : ∀ extension ∈ strategy.extension, '#' ∉ extension.toList) :
    '#' ∉ place.filePath.toList := by
  simp only [parse?, Option.bind_eq_bind, Option.bind_eq_some_iff, Option.pure_def,
    Option.some.injEq] at parsed
  obtain ⟨parts, cut, _, _, _, _, line, _, rfl⟩ := parsed
  rw [String.toList_ofList]
  intro member
  rcases mem_completePath member with inPath | dot | ⟨extension, given, inExtension⟩
  · exact number_not_mem_path cut inPath
  · exact absurd dot (by decide)
  · exact free extension given inExtension

end Parsing

end QualifiedStrategy

namespace PythonLocation

theorem not_mem_of_isDottedName {chars : List Char} (dotted : isDottedName chars = true)
    {mark : Char} (notWord : isWordCharacter mark = false) (notDot : mark ≠ '.')
    (notLetter : isPlainLetter mark = false) : mark ∉ chars := by
  cases chars with
  | nil => exact List.not_mem_nil
  | cons first rest =>
      simp only [isDottedName, Bool.and_eq_true, List.all_eq_true] at dotted
      intro member
      rcases List.mem_cons.mp member with rfl | later
      · exact absurd dotted.1 (by simp [notLetter])
      · exact absurd (dotted.2 mark later) (by simp [notWord, notDot])

/-- The parts of a cut location hold no colon, and the member no number sign. -/
theorem marks_not_mem_of_cut {location : List Char} {parts : Location.Parts}
    (cut : cut? location = some parts) :
    ':' ∉ parts.path ∧ ':' ∉ parts.member ∧ '#' ∉ parts.member := by
  unfold cut? at cut
  split at cut
  · rename_i path rest cutAtColon
    dsimp only at cut
    split at cut
    · rename_i checked
      obtain rfl := Option.some.inj cut
      refine ⟨?_, Location.Parts.colon_not_mem_member path rest, ?_⟩
      · rw [Location.Parts.path_ofRest]
        exact (cutFirst_eq_some_iff.mp cutAtColon).2
      · exact not_mem_of_isDottedName checked.2.2.2 (by decide +kernel) (by decide)
          (by decide +kernel)
    · contradiction
  · contradiction

theorem subset_of_classAndMethod {path member className methodName : List Char}
    (named : classAndMethod? path member = some (className, methodName)) :
    methodName ⊆ member ∧ (className ⊆ member ∨ className ⊆ path) := by
  unfold classAndMethod? at named
  split at named
  · rename_i left right cut
    split at named
    · contradiction
    · obtain ⟨rfl, rfl⟩ := Prod.mk.inj (Option.some.inj named)
      obtain ⟨classSubset, methodSubset⟩ := subset_of_cutLast cut
      exact ⟨methodSubset, Or.inl classSubset⟩
  · obtain ⟨stem, stemFound, same⟩ := Option.map_eq_some_iff.mp named
    obtain ⟨rfl, rfl⟩ := Prod.mk.inj same
    exact ⟨List.Subset.refl _, Or.inr (Path.stem_subset stemFound)⟩

/-- What a Python location is read as is plain. -/
theorem isPlain_of_parse {text : String} {place : SourceLocation}
    (parsed : parse? text = some place) : place.IsPlain := by
  simp only [parse?, Option.bind_eq_bind, Option.bind_eq_some_iff, Option.pure_def,
    Option.some.injEq] at parsed
  obtain ⟨parts, cut, ⟨className, methodName⟩, named, line, _, rfl⟩ := parsed
  obtain ⟨pathColon, memberColon, memberNumber⟩ := marks_not_mem_of_cut cut
  obtain ⟨methodSubset, classSubset⟩ := subset_of_classAndMethod named
  constructor
  · rwa [String.toList_ofList]
  · rw [String.toList_ofList]
    rcases classSubset with inMember | inPath
    · exact fun member => memberColon (inMember member)
    · exact fun member => pathColon (inPath member)
  · rw [String.toList_ofList]
    exact fun member => memberColon (methodSubset member)
  · rw [String.toList_ofList]
    exact fun member => memberNumber (methodSubset member)

end PythonLocation

/-- A location read by strategies of the library is plain when its path holds no colon. -/
theorem LocationStrategy.isPlain_of_parseFirst {strategies : List LocationStrategy}
    (builtIn : ∀ strategy ∈ strategies, strategy.IsBuiltIn) {text : String}
    {place : SourceLocation} (parsed : parseFirst? strategies text = some place)
    (colonFree : ':' ∉ place.filePath.toList) : place.IsPlain := by
  obtain ⟨strategy, member, read⟩ := List.exists_of_findSome?_eq_some parsed
  cases strategy with
  | qualified strategy => exact QualifiedStrategy.isPlain_of_parse read colonFree
  | python => exact PythonLocation.isPlain_of_parse read
  | custom name parse => exact (builtIn _ member).elim

end QueryImpact
