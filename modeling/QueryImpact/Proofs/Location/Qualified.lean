import Mathlib
import QueryImpact.Proofs.Location.Grammar

/-!
# Qualified locations

A qualified location is a path, a number sign, a member and possibly a line.  The member can end
with a parameter list, and what stands before the list names class and method.  The strategy reads
exactly the texts that can be cut in this way; there is only one such cut of a text, and the place
that is read is described by its parts.
-/

namespace QueryImpact

open QueryImpact.Text

namespace Location.Parts

/-- The member without white space around it. -/
def core (parts : Parts) : List Char :=
  trimChars parts.member

/-- What stands before the parameter list of the member. -/
def head (parts : Parts) : List Char :=
  parts.core.takeWhile (· ≠ '(')

/-- The parameter list of the member, from its parenthesis on. -/
def parameters (parts : Parts) : List Char :=
  parts.core.dropWhile (· ≠ '(')

end Location.Parts

namespace QualifiedStrategy

open QueryImpact.Location

/-! ## The cut at the number sign -/

/-- A text cut at its number sign into path, member and line. -/
structure Cuts (location : List Char) (parts : Parts) : Prop where
  /-- The parts are the whole text. -/
  text : location = parts.path ++ '#' :: (parts.member ++ parts.lineText)
  /-- There is a path. -/
  hasPath : parts.path ≠ []
  /-- The path holds neither a number sign nor white space. -/
  path : ∀ c ∈ parts.path, c ≠ '#' ∧ isSpace c = false
  /-- There is a member. -/
  hasMember : parts.member ≠ []
  /-- The member holds neither a colon nor a number sign. -/
  member : ∀ c ∈ parts.member, c ≠ ':' ∧ c ≠ '#'
  /-- The member does not start with white space. -/
  start : ∀ c ∈ parts.member.head?, isSpace c = false

/-- Cutting succeeds exactly on the texts that can be cut so. -/
theorem cut?_eq_some_iff {location : List Char} {parts : Parts} :
    cut? location = some parts ↔ Cuts location parts := by
  constructor
  · intro cut
    cases found : cutFirst '#' location with
    | none => simp only [cut?, found, reduceCtorEq] at cut
    | some sides =>
        simp only [cut?, found] at cut
        split at cut
        · rename_i checked
          have isCut := Option.some.inj cut
          rw [isCut] at checked
          obtain ⟨hasPath, noSpace, noNumber, start⟩ := checked
          obtain ⟨rfl, free⟩ := cutFirst_eq_some_iff.mp found
          obtain ⟨samePath, rest, noColon⟩ := Parts.ofRest_eq_iff.mp isCut
          rw [← samePath] at hasPath noSpace free
          simp only [List.all_eq_true, Bool.not_eq_true'] at noSpace
          simp only [Option.any_eq_true, Bool.not_eq_true'] at start
          obtain ⟨first, isFirst, notSpace⟩ := start
          constructor
          case text => rw [samePath, rest]
          case hasPath => exact hasPath
          case path =>
            intro c member
            exact ⟨fun equal => free (equal ▸ member), noSpace c member⟩
          case hasMember =>
            intro empty
            rw [empty] at isFirst
            cases isFirst
          case member =>
            intro c member
            exact ⟨fun equal => noColon (equal ▸ member), fun equal => noNumber (equal ▸ member)⟩
          case start =>
            intro c isHead
            rw [isFirst] at isHead
            cases isHead
            exact notSpace
        · cases cut
  · intro cuts
    have free : '#' ∉ parts.path := fun member => (cuts.path '#' member).1 rfl
    have noColon : ':' ∉ parts.member := fun member => (cuts.member ':' member).1 rfl
    have noNumber : '#' ∉ parts.member := fun member => (cuts.member '#' member).2 rfl
    have isCut : Parts.ofRest parts.path (parts.member ++ parts.lineText) = parts :=
      Parts.ofRest_eq_iff.mpr ⟨rfl, rfl, noColon⟩
    have noSpace : parts.path.all (fun c => !isSpace c) = true := by
      simp only [List.all_eq_true, Bool.not_eq_true']
      exact fun c member => (cuts.path c member).2
    have start : parts.member.head?.any (fun c => !isSpace c) = true := by
      obtain ⟨first, others, isMember⟩ := List.exists_cons_of_ne_nil cuts.hasMember
      rw [isMember]
      simp [cuts.start first (by rw [isMember]; rfl)]
    rw [cuts.text, cut?, cutFirst_append_cons free]
    simp only [isCut]
    rw [if_pos ⟨cuts.hasPath, noSpace, noNumber, start⟩]

/-! ## The member -/

/-- A member is split at its first parenthesis, and then it has to end with one. -/
theorem splitParameters?_eq_some_iff {member head : List Char} {parameters : Option (List Char)} :
    splitParameters? member = some (head, parameters) ↔
      ('(' ∈ member → member.getLast? = some ')') ∧ head = member.takeWhile (· ≠ '(') ∧
        parameters = if '(' ∈ member then some (member.dropWhile (· ≠ '(')) else none := by
  cases found : cutFirst '(' member with
  | none =>
      have free := cutFirst_eq_none_iff.mp found
      have whole : member.takeWhile (· ≠ '(') = member := by
        rw [List.takeWhile_eq_self_iff]
        intro c isMember
        exact decide_eq_true fun equal => free (equal ▸ isMember)
      simp only [splitParameters?, found, whole, if_neg free, Option.some.injEq, Prod.mk.injEq]
      constructor
      · rintro ⟨rfl, rfl⟩
        exact ⟨fun isMember => absurd isMember free, rfl, rfl⟩
      · rintro ⟨_, rfl, rfl⟩
        exact ⟨rfl, rfl⟩
  | some sides =>
      obtain ⟨rfl, free⟩ := cutFirst_eq_some_iff.mp found
      have before : ∀ c ∈ sides.1, decide (c ≠ '(') = true := fun c isMember =>
        decide_eq_true fun equal => free (equal ▸ isMember)
      have opened : '(' ∈ sides.1 ++ '(' :: sides.2 :=
        List.mem_append_right _ List.mem_cons_self
      have headPart : (sides.1 ++ '(' :: sides.2).takeWhile (· ≠ '(') = sides.1 := by
        rw [List.takeWhile_append_of_pos before]
        simp
      have listPart : (sides.1 ++ '(' :: sides.2).dropWhile (· ≠ '(') = '(' :: sides.2 := by
        rw [List.dropWhile_append_of_pos before]
        simp
      simp only [splitParameters?, found, headPart, listPart, if_pos opened, List.drop_left]
      by_cases closed : (sides.1 ++ '(' :: sides.2).getLast? = some ')'
      · rw [if_pos closed, Option.some.injEq, Prod.mk.injEq]
        constructor
        · rintro ⟨rfl, rfl⟩
          exact ⟨fun _ => closed, rfl, rfl⟩
        · rintro ⟨_, rfl, rfl⟩
          exact ⟨rfl, rfl⟩
      · rw [if_neg closed]
        constructor
        · rintro ⟨⟩
        · rintro ⟨isClosed, _⟩
          exact absurd (isClosed opened) closed

/-- The parameter list of a split member, as it is written in a signature. -/
theorem getD_map_normalizeParameters (member : List Char) :
    ((if '(' ∈ member then some (member.dropWhile (· ≠ '(')) else none).map
        normalizeParameters).getD [] =
      if '(' ∈ member then normalizeParameters (member.dropWhile (· ≠ '(')) else [] := by
  split
  · rfl
  · rfl

/-- A parameter list that lists names: in the parentheses stand texts with commas between them, and
the names are these texts, in order and without the white space around them. -/
structure Lists (parameters : List Char) (names : List (List Char)) : Prop where
  /-- The names as they are written. -/
  written : ∃ texts, Strips (· == '(') (· == ')') parameters (joinWith ',' texts) ∧
    (∀ text ∈ texts, ',' ∉ text) ∧ List.Forall₂ (Strips isSpace isSpace) texts names

/-- A normalized parameter list has the listed names that are not empty, in order, in one pair of
parentheses and with bare commas between them. -/
theorem exists_lists_normalizeParameters (parameters : List Char) :
    ∃ names, Lists parameters names ∧ normalizeParameters parameters =
      '(' :: joinWith ',' (names.filter fun name => name ≠ []) ++ [')'] := by
  let inner := dropEndWhile (· == ')') (parameters.dropWhile (· == '('))
  obtain ⟨joined, bare⟩ := joinWith_pieces ',' inner
  refine ⟨(pieces ',' inner).map trimChars, ⟨pieces ',' inner, ?_, bare, ?_⟩, rfl⟩
  · rw [joined]
    exact strips_dropEndWhile _ _ parameters
  · rw [List.forall₂_map_right_iff, List.forall₂_same]
    exact fun text _ => strips_dropEndWhile isSpace isSpace text

theorem completePath_eq (strategy : QualifiedStrategy) (path : List Char) :
    strategy.completePath path = path ++ if Path.extension? path = none then
      (strategy.extension.map fun extension => '.' :: extension.toList).getD [] else [] := by
  rw [completePath]
  cases Path.extension? path with
  | some extension => simp
  | none => cases strategy.extension <;> simp

/-! ## Reading a location -/

/-- A trimmed text that names a place, cut into its parts. -/
structure IsLocation (strategy : QualifiedStrategy) (location : List Char) (parts : Parts) :
    Prop extends Cuts location parts where
  /-- The line can be read. -/
  line : ∃ line, IsLine parts.line line
  /-- A parameter list ends the member. -/
  closed : '(' ∈ parts.core → parts.core.getLast? = some ')'
  /-- What stands before the parameter list names a class and a method. -/
  named : ∃ className methodName,
    Names (strategy.completePath parts.path) parts.head className methodName

/-- A place as the parts of a location describe it. -/
structure Describes (strategy : QualifiedStrategy) (parts : Parts) (place : SourceLocation) :
    Prop where
  /-- The path is the written one, with the extension of the strategy if it has none. -/
  filePath : place.filePath.toList = parts.path ++ if Path.extension? parts.path = none then
    (strategy.extension.map fun extension => '.' :: extension.toList).getD [] else []
  /-- Class and method are the two sides of the last dot, or the stem of the file and the whole. -/
  names : Names place.filePath.toList parts.head place.className.toList place.methodName.toList
  /-- The signature is the method, with the parameter list if there is one. -/
  signature : place.signature.toList = place.methodName.toList ++
    if '(' ∈ parts.core then normalizeParameters parts.parameters else []
  /-- The line is the written one, or zero. -/
  line : IsLine parts.line place.line
  /-- The language is told by the path, else by the strategy. -/
  language : place.language = (Path.language? place.filePath.toList).getD strategy.language
  /-- The package is told by the path. -/
  package : place.package.toList = Path.package place.filePath.toList

variable {strategy : QualifiedStrategy} {text : String} {place : SourceLocation}

/-- What is read is described by the parts of the text. -/
theorem exists_describes_of_parse? (parsed : strategy.parse? text = some place) :
    ∃ parts, strategy.IsLocation (trimChars text.toList) parts ∧
      strategy.Describes parts place := by
  simp only [parse?, Option.bind_eq_bind, Option.bind_eq_some_iff, Option.pure_def,
    Option.some.injEq] at parsed
  obtain ⟨parts, cut, ⟨head, parameters⟩, split, ⟨className, methodName⟩, named, line, lined,
    rfl⟩ := parsed
  obtain ⟨closed, rfl, rfl⟩ := splitParameters?_eq_some_iff.mp split
  have names : Names (strategy.completePath parts.path) parts.head className methodName :=
    classAndMethod?_eq_some_iff.mp named
  have cuts := cut?_eq_some_iff.mp cut
  have isLine := Parts.lineNumber?_eq_some_iff.mp lined
  refine ⟨parts, ⟨cuts, ⟨line, isLine⟩, closed, className, methodName, names⟩, ?_⟩
  constructor
  case filePath => rw [String.toList_ofList, completePath_eq]
  case names => simpa only [String.toList_ofList] using names
  case signature =>
    simp only [String.toList_ofList]
    rw [getD_map_normalizeParameters]
    rfl
  case line => exact isLine
  case language => rw [String.toList_ofList]
  case package => simp only [String.toList_ofList]

/-- A text that names a place is read, and only as the place that its parts describe. -/
theorem parse?_of_describes {parts : Parts}
    (isLocation : strategy.IsLocation (trimChars text.toList) parts)
    (describes : strategy.Describes parts place) : strategy.parse? text = some place := by
  have cut := cut?_eq_some_iff.mpr isLocation.toCuts
  have split := splitParameters?_eq_some_iff.mpr ⟨isLocation.closed, rfl, rfl⟩
  have path : strategy.completePath parts.path = place.filePath.toList :=
    (completePath_eq strategy parts.path).trans describes.filePath.symm
  have named := classAndMethod?_eq_some_iff.mpr describes.names
  have lined := Parts.lineNumber?_eq_some_iff.mpr describes.line
  have signature := describes.signature
  rw [Parts.parameters, Parts.core, ← getD_map_normalizeParameters] at signature
  rw [Parts.head] at named
  rw [Parts.core] at split named
  simp only [parse?, cut, split, path, named, lined, Option.bind_eq_bind, Option.bind_some,
    Option.pure_def, ← signature, ← describes.package, ← describes.language, String.ofList_toList]

theorem IsLocation.exists_describes {location : List Char} {parts : Parts}
    (isLocation : strategy.IsLocation location parts) :
    ∃ place, strategy.Describes parts place := by
  obtain ⟨line, isLine⟩ := isLocation.line
  obtain ⟨className, methodName, names⟩ := isLocation.named
  let path := strategy.completePath parts.path
  let list := if '(' ∈ parts.core then normalizeParameters parts.parameters else []
  refine ⟨⟨String.ofList path, (Path.language? path).getD strategy.language,
    String.ofList (Path.package path), String.ofList className, String.ofList methodName,
    String.ofList (methodName ++ list), line⟩, ?_⟩
  constructor
  case filePath =>
    rw [String.toList_ofList]
    exact completePath_eq strategy parts.path
  case names => simpa only [String.toList_ofList] using names
  case signature => simp only [String.toList_ofList, list]
  case line => exact isLine
  case language => rw [String.toList_ofList]
  case package => simp only [String.toList_ofList]

/-- A text has one cut into path, member and line. -/
theorem Cuts.unique {location : List Char} {one other : Parts} (first : Cuts location one)
    (second : Cuts location other) : one = other :=
  Option.some.inj ((cut?_eq_some_iff.mpr first).symm.trans (cut?_eq_some_iff.mpr second))

theorem reads_parse? (strategy : QualifiedStrategy) (text : String) :
    Reads (strategy.parse? text) (strategy.IsLocation (trimChars text.toList))
      strategy.Describes where
  sound := exists_describes_of_parse?
  complete := parse?_of_describes
  describes := IsLocation.exists_describes
  unique first second := first.toCuts.unique second.toCuts

/-- The strategy reads a text exactly when the trimmed text is a path, a number sign, a member that
names class and method, and possibly a line.  There is one way to see it so, and the place that is
read is the one which the parts describe. -/
theorem reads_qualified_locations (strategy : QualifiedStrategy) (text : String) :
    let location := trimChars text.toList
    ((strategy.parse? text).isSome = true ↔ ∃ parts, strategy.IsLocation location parts) ∧
      (∀ one other, strategy.IsLocation location one → strategy.IsLocation location other →
        one = other) ∧
      ∀ parts place, strategy.IsLocation location parts →
        (strategy.parse? text = some place ↔ strategy.Describes parts place) := by
  have reads := strategy.reads_parse? text
  exact ⟨reads.isSome_iff, fun _ _ => reads.unique, fun _ _ => reads.eq_some_iff⟩

/-- White space and empty parameters leave no trace in a signature. -/
example : (java.parse? " dao/UserDao#find( Long, , String ) :042").map
    (fun place => (place.filePath, place.signature, place.line)) =
      some ("dao/UserDao.java", "find(Long,String)", 42) := by
  decide +kernel

end QualifiedStrategy

end QueryImpact
