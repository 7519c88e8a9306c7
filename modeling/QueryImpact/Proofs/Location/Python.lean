import Mathlib
import QueryImpact.Proofs.Location.Grammar

/-!
# Python locations

A Python location is the path of a Python file, a colon, a dotted name and possibly a line.  The
strategy reads exactly the texts that can be cut in this way; there is only one such cut of a text,
and the place that is read is described by its parts.  The file always has a stem, so a name without
a dot always has a class to belong to.
-/

namespace QueryImpact.PythonLocation

open QueryImpact.Text QueryImpact.Location

/-! ## The cut at the colon -/

/-- A text cut at its first colon into the path of a Python file, a dotted name and a line. -/
structure Cuts (location : List Char) (parts : Parts) : Prop where
  /-- The parts are the whole text. -/
  text : location = parts.path ++ ':' :: (parts.member ++ parts.lineText)
  /-- The path holds neither a colon nor white space. -/
  path : ∀ c ∈ parts.path, c ≠ ':' ∧ isSpace c = false
  /-- The path is that of a Python file, with something before the ending. -/
  ending : ∃ start, start ≠ [] ∧ parts.path = start ++ ['.', 'p', 'y']
  /-- The name starts with a plain letter or an underscore. -/
  start : ∃ c ∈ parts.member.head?, c.isAlpha = true ∨ c = '_'
  /-- The name goes on with word characters and dots. -/
  rest : ∀ c ∈ parts.member.tail, isWordCharacter c = true ∨ c = '.'

theorem drop_eq_fileEnding_iff {path : List Char} :
    (fileEnding.length < path.length ∧
        path.drop (path.length - fileEnding.length) = fileEnding) ↔
      ∃ start, start ≠ [] ∧ path = start ++ ['.', 'p', 'y'] := by
  constructor
  · rintro ⟨longer, ends⟩
    obtain ⟨start, rfl⟩ := List.suffix_iff_eq_drop.mpr ends.symm
    refine ⟨start, ?_, rfl⟩
    rintro rfl
    exact absurd longer (Nat.lt_irrefl _)
  · rintro ⟨start, nonempty, rfl⟩
    constructor
    · rw [List.length_append]
      exact Nat.lt_add_of_pos_left (List.length_pos_iff.mpr nonempty)
    · exact (List.suffix_iff_eq_drop.mp (List.suffix_append start fileEnding)).symm

theorem isDottedName_iff {name : List Char} :
    isDottedName name = true ↔ (∃ c ∈ name.head?, c.isAlpha = true ∨ c = '_') ∧
      ∀ c ∈ name.tail, isWordCharacter c = true ∨ c = '.' := by
  cases name with
  | nil => simp [isDottedName]
  | cons first rest => simp [isDottedName, isPlainLetter]

/-- Cutting succeeds exactly on the texts that can be cut so. -/
theorem cut?_eq_some_iff {location : List Char} {parts : Parts} :
    cut? location = some parts ↔ Cuts location parts := by
  constructor
  · intro cut
    cases found : cutFirst ':' location with
    | none => simp only [cut?, found, reduceCtorEq] at cut
    | some sides =>
        simp only [cut?, found] at cut
        split at cut
        · rename_i checked
          have isCut := Option.some.inj cut
          rw [isCut] at checked
          obtain ⟨noSpace, longer, ends, dotted⟩ := checked
          obtain ⟨rfl, free⟩ := cutFirst_eq_some_iff.mp found
          obtain ⟨samePath, rest, _⟩ := Parts.ofRest_eq_iff.mp isCut
          rw [← samePath] at noSpace longer ends free
          simp only [List.all_eq_true, Bool.not_eq_true'] at noSpace
          obtain ⟨start, others⟩ := isDottedName_iff.mp dotted
          constructor
          case text => rw [samePath, rest]
          case path =>
            intro c member
            exact ⟨fun equal => free (equal ▸ member), noSpace c member⟩
          case ending => exact drop_eq_fileEnding_iff.mp ⟨longer, ends⟩
          case start => exact start
          case rest => exact others
        · cases cut
  · intro cuts
    have free : ':' ∉ parts.path := fun member => (cuts.path ':' member).1 rfl
    have dotted : isDottedName parts.member = true := isDottedName_iff.mpr ⟨cuts.start, cuts.rest⟩
    have noColon : ':' ∉ parts.member :=
      not_mem_of_isDottedName dotted (by decide +kernel) (by decide) (by decide +kernel)
    have isCut : Parts.ofRest parts.path (parts.member ++ parts.lineText) = parts :=
      Parts.ofRest_eq_iff.mpr ⟨rfl, rfl, noColon⟩
    have noSpace : parts.path.all (fun c => !isSpace c) = true := by
      simp only [List.all_eq_true, Bool.not_eq_true']
      exact fun c member => (cuts.path c member).2
    obtain ⟨longer, ends⟩ := drop_eq_fileEnding_iff.mpr cuts.ending
    rw [cuts.text, cut?, cutFirst_append_cons free]
    simp only [isCut]
    rw [if_pos ⟨noSpace, longer, ends, dotted⟩]

theorem Cuts.unique {location : List Char} {one other : Parts} (first : Cuts location one)
    (second : Cuts location other) : one = other :=
  Option.some.inj ((cut?_eq_some_iff.mpr first).symm.trans (cut?_eq_some_iff.mpr second))

/-! ## Names in a Python file -/

theorem Cuts.hasMember {location : List Char} {parts : Parts} (cuts : Cuts location parts) :
    parts.member ≠ [] := by
  obtain ⟨first, isFirst, _⟩ := cuts.start
  intro empty
  rw [empty] at isFirst
  cases isFirst

/-- The file of a location has a stem. -/
theorem Cuts.exists_stem? {location : List Char} {parts : Parts} (cuts : Cuts location parts) :
    ∃ stem, Path.stem? parts.path = some stem := by
  obtain ⟨start, _, isPath⟩ := cuts.ending
  rw [isPath]
  exact Path.exists_stem?_append start (by decide) (by decide)

/-- A name is never empty, so it is read as a member of a qualified location would be. -/
theorem classAndMethod?_eq {path member : List Char} (hasMember : member ≠ []) :
    classAndMethod? path member = QualifiedStrategy.classAndMethod? path member := by
  rw [classAndMethod?, QualifiedStrategy.classAndMethod?]
  cases cutLast '.' member with
  | some sides => rfl
  | none =>
      cases found : Path.stem? path with
      | none => rfl
      | some stem => simp [Path.stem_ne_nil found, hasMember]

/-- A name that stands for a class and a method does not end with a dot. -/
theorem getLast?_ne_dot_of_names {path name className methodName : List Char}
    (names : Names path name className methodName) : name.getLast? ≠ some '.' := by
  cases names with
  | dotted hasClass hasMethod last =>
      rw [List.append_cons, List.getLast?_append_of_ne_nil _ hasMethod]
      intro ends
      exact last (List.mem_of_getLast? ends)
  | undotted hasName noDot ofFile =>
      intro ends
      exact noDot (List.mem_of_getLast? ends)

/-- A name that does not end with a dot stands for a class and a method. -/
theorem Cuts.exists_names {location : List Char} {parts : Parts} (cuts : Cuts location parts)
    (complete : parts.member.getLast? ≠ some '.') :
    ∃ className methodName, Names parts.path parts.member className methodName := by
  obtain ⟨first, isFirst, letter⟩ := cuts.start
  cases cut : cutLast '.' parts.member with
  | none =>
      obtain ⟨stem, ofFile⟩ := cuts.exists_stem?
      exact ⟨stem, parts.member, .undotted cuts.hasMember (cutLast_eq_none_iff.mp cut) ofFile⟩
  | some sides =>
      obtain ⟨isMember, last⟩ := cutLast_eq_some_iff.mp cut
      rw [isMember] at isFirst complete ⊢
      refine ⟨sides.1, sides.2, .dotted ?_ ?_ last⟩
      · intro empty
        rw [empty] at isFirst
        cases isFirst
        rcases letter with isLetter | isLine
        · exact absurd isLetter (by decide)
        · exact absurd isLine (by decide)
      · intro empty
        rw [empty, List.getLast?_concat] at complete
        exact complete rfl

/-! ## Reading a location -/

/-- A trimmed text that names a place, cut into its parts. -/
structure IsLocation (location : List Char) (parts : Parts) : Prop
    extends Cuts location parts where
  /-- The name does not end with a dot. -/
  complete : parts.member.getLast? ≠ some '.'
  /-- The line can be read. -/
  line : ∃ line, IsLine parts.line line

/-- A place as the parts of a location describe it. -/
structure Describes (parts : Parts) (place : SourceLocation) : Prop where
  /-- The path is the written one. -/
  filePath : place.filePath.toList = parts.path
  /-- Class and method are the two sides of the last dot, or the stem of the file and the name. -/
  names : Names parts.path parts.member place.className.toList place.methodName.toList
  /-- The signature is the method. -/
  signature : place.signature = place.methodName
  /-- The line is the written one, or zero. -/
  line : IsLine parts.line place.line
  /-- The language is always the same. -/
  language : place.language = "python"
  /-- The package is told by the path. -/
  package : place.package.toList = Path.package parts.path

variable {text : String} {place : SourceLocation}

/-- What is read is described by the parts of the text. -/
theorem exists_describes_of_parse? (parsed : parse? text = some place) :
    ∃ parts, IsLocation (trimChars text.toList) parts ∧ Describes parts place := by
  simp only [parse?, Option.bind_eq_bind, Option.bind_eq_some_iff, Option.pure_def,
    Option.some.injEq] at parsed
  obtain ⟨parts, cut, ⟨className, methodName⟩, named, line, lined, rfl⟩ := parsed
  have cuts := cut?_eq_some_iff.mp cut
  rw [classAndMethod?_eq cuts.hasMember] at named
  have names := QualifiedStrategy.classAndMethod?_eq_some_iff.mp named
  have isLine := Parts.lineNumber?_eq_some_iff.mp lined
  refine ⟨parts, ⟨cuts, getLast?_ne_dot_of_names names, line, isLine⟩, ?_⟩
  constructor
  case filePath => exact String.toList_ofList
  case names => simpa only [String.toList_ofList] using names
  case signature => rfl
  case line => exact isLine
  case language => rfl
  case package => exact String.toList_ofList

/-- A text that names a place is read, and only as the place that its parts describe. -/
theorem parse?_of_describes {parts : Parts}
    (isLocation : IsLocation (trimChars text.toList) parts) (describes : Describes parts place) :
    parse? text = some place := by
  have cut := cut?_eq_some_iff.mpr isLocation.toCuts
  have named := QualifiedStrategy.classAndMethod?_eq_some_iff.mpr describes.names
  rw [← classAndMethod?_eq isLocation.hasMember] at named
  have lined := Parts.lineNumber?_eq_some_iff.mpr describes.line
  have path : String.ofList parts.path = place.filePath := by
    rw [← describes.filePath, String.ofList_toList]
  have package : String.ofList (Path.package parts.path) = place.package := by
    rw [← describes.package, String.ofList_toList]
  simp only [parse?, cut, named, lined, Option.bind_eq_bind, Option.bind_some, Option.pure_def,
    path, package, String.ofList_toList, ← describes.language]
  cases place
  cases describes.signature
  rfl

theorem IsLocation.exists_describes {location : List Char} {parts : Parts}
    (isLocation : IsLocation location parts) : ∃ place, Describes parts place := by
  obtain ⟨line, isLine⟩ := isLocation.line
  obtain ⟨className, methodName, names⟩ := isLocation.exists_names isLocation.complete
  refine ⟨⟨String.ofList parts.path, "python", String.ofList (Path.package parts.path),
    String.ofList className, String.ofList methodName, String.ofList methodName, line⟩, ?_⟩
  constructor
  case filePath => exact String.toList_ofList
  case names => simpa only [String.toList_ofList] using names
  case signature => rfl
  case line => exact isLine
  case language => rfl
  case package => exact String.toList_ofList

theorem reads_parse? (text : String) :
    Reads (parse? text) (IsLocation (trimChars text.toList)) Describes where
  sound := exists_describes_of_parse?
  complete := parse?_of_describes
  describes := IsLocation.exists_describes
  unique first second := first.toCuts.unique second.toCuts

/-- A text is read exactly when the trimmed text is the path of a Python file, a colon, a dotted
name and possibly a line.  There is one way to see it so, the file has a stem, and the place that
is read is the one which the parts describe. -/
theorem reads_python_locations (text : String) :
    let location := trimChars text.toList
    ((parse? text).isSome = true ↔ ∃ parts, IsLocation location parts) ∧
      (∀ one other, IsLocation location one → IsLocation location other → one = other) ∧
      (∀ parts, IsLocation location parts →
        ∃ stem, Path.stem? parts.path = some stem ∧ stem ≠ []) ∧
      ∀ parts place, IsLocation location parts →
        (parse? text = some place ↔ Describes parts place) := by
  have reads := reads_parse? text
  refine ⟨reads.isSome_iff, fun _ _ => reads.unique, ?_, fun _ _ => reads.eq_some_iff⟩
  intro parts isLocation
  obtain ⟨stem, ofFile⟩ := isLocation.exists_stem?
  exact ⟨stem, ofFile, Path.stem_ne_nil ofFile⟩

/-- A file that is named by its ending alone is its own stem. -/
example : (parse? "jobs/.py:run:7").map (·.className) = some ".py" := by
  decide +kernel

end QueryImpact.PythonLocation
