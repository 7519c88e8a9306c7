import Mathlib
import QueryImpact.Proofs.Build.Ownership

/-!
# Classes and their files

The key of a class is the path of its file, two colons and its name.  A name that a member gives
holds no colon, but a class that is named after its file may have colons in its name.  Then a
beginning of the name can as well be the end of another path, and two classes in two files have one
key.  This file says exactly when that happens, and what it means for drafts: the class stands once
and is contained in both files.  Everywhere else a class is contained in its own file alone.
-/

namespace QueryImpact

open QueryImpact.Text

/-! ## Places of classes -/

/-- Where a class is: the path of its file, and its name. -/
structure ClassPlace where
  /-- The path of the file. -/
  path : String
  /-- The name of the class. -/
  name : String
deriving DecidableEq

namespace ClassPlace

/-- The key of the class at a place. -/
def key (place : ClassPlace) : String :=
  place.path ++ "::" ++ place.name

/-- The class is named after its file. -/
def IsNamedAfterFile (place : ClassPlace) : Prop :=
  Path.stem? place.path.toList = some place.name.toList

/-- The path of another class goes on with a beginning of the name of this one, and the colons
behind that beginning are the colons in the key of the other class. -/
def Overlaps (place other : ClassPlace) : Prop :=
  (other.path = place.path ++ ":" ∧ place.name = ":" ++ other.name) ∨
    ∃ part, other.path = place.path ++ "::" ++ part ∧ place.name = part ++ "::" ++ other.name

/-- The class is named after its file and its name overlaps with the path of another class. -/
def RunsInto (place other : ClassPlace) : Prop :=
  place.IsNamedAfterFile ∧ place.Overlaps other

theorem toList_key (place : ClassPlace) :
    place.key.toList = place.path.toList ++ ':' :: ':' :: place.name.toList := by
  simp [key]

theorem ext_toList {place other : ClassPlace} (paths : place.path.toList = other.path.toList)
    (names : place.name.toList = other.name.toList) : place = other := by
  cases place
  cases other
  rw [mk.injEq]
  exact ⟨String.toList_inj.mp paths, String.toList_inj.mp names⟩

/-- Where one path goes on from another one, the difference stands at the start of the name. -/
theorem eq_or_overlaps {place other : ClassPlace} {part : List Char}
    (paths : other.path.toList = place.path.toList ++ part)
    (names : ':' :: ':' :: place.name.toList = part ++ ':' :: ':' :: other.name.toList) :
    place = other ∨ place.Overlaps other := by
  cases part with
  | nil =>
      left
      rw [List.append_nil] at paths
      rw [List.nil_append, List.cons.injEq, List.cons.injEq] at names
      exact ext_toList paths.symm names.2.2
  | cons first rest =>
      right
      cases rest with
      | nil =>
          rw [List.singleton_append, List.cons.injEq, List.cons.injEq] at names
          obtain ⟨rfl, -, name⟩ := names
          left
          rw [← String.toList_inj, ← String.toList_inj, paths, name]
          simp
      | cons second part =>
          rw [List.cons_append, List.cons_append, List.cons.injEq, List.cons.injEq] at names
          obtain ⟨rfl, rfl, name⟩ := names
          right
          use String.ofList part
          rw [← String.toList_inj, ← String.toList_inj, paths, name]
          simp

theorem Overlaps.key_eq {place other : ClassPlace} (overlaps : place.Overlaps other) :
    place.key = other.key := by
  rcases overlaps with ⟨path, name⟩ | ⟨part, path, name⟩
  · rw [← String.toList_inj, toList_key, toList_key, path, name]
    simp
  · rw [← String.toList_inj, toList_key, toList_key, path, name]
    simp

/-- Classes have one key if they are the same class or the name of one overlaps with the path of the
other. -/
theorem key_eq_iff {place other : ClassPlace} :
    place.key = other.key ↔ place = other ∨ place.Overlaps other ∨ other.Overlaps place := by
  constructor
  · intro same
    rw [← String.toList_inj, toList_key, toList_key, List.append_eq_append_iff] at same
    rcases same with ⟨part, paths, names⟩ | ⟨part, paths, names⟩
    · rcases eq_or_overlaps paths names with equal | overlaps
      · exact Or.inl equal
      · exact Or.inr (Or.inl overlaps)
    · rcases eq_or_overlaps paths names with equal | overlaps
      · exact Or.inl equal.symm
      · exact Or.inr (Or.inr overlaps)
  · rintro (rfl | overlaps | overlaps)
    · rfl
    · exact overlaps.key_eq
    · exact overlaps.key_eq.symm

/-- A name that overlaps with a path holds a colon. -/
theorem Overlaps.colon_mem {place other : ClassPlace} (overlaps : place.Overlaps other) :
    ':' ∈ place.name.toList := by
  rcases overlaps with ⟨-, name⟩ | ⟨part, -, name⟩
  · simp [name]
  · simp [name]

/-- The two paths differ. -/
theorem Overlaps.path_ne {place other : ClassPlace} (overlaps : place.Overlaps other) :
    place.path ≠ other.path := by
  intro same
  have lengths := congrArg (fun path : String => path.toList.length) same
  rcases overlaps with ⟨path, -⟩ | ⟨part, path, -⟩
  · simp [path] at lengths
  · simp [path] at lengths

end ClassPlace

/-! ## Names with colons -/

/-- The place of the class of a location. -/
def SourceLocation.classPlace (location : SourceLocation) : ClassPlace :=
  ⟨location.filePath, location.className⟩

theorem SourceLocation.key_classPlace (location : SourceLocation) :
    location.classPlace.key = location.classNode.key :=
  rfl

/-- A qualified location names a class with a colon only after its file. -/
theorem QualifiedStrategy.isNamedAfterFile_of_parse {strategy : QualifiedStrategy} {text : String}
    {place : SourceLocation} (parsed : strategy.parse? text = some place)
    (colon : ':' ∈ place.className.toList) : place.classPlace.IsNamedAfterFile := by
  simp only [parse?, Option.bind_eq_bind, Option.bind_eq_some_iff, Option.pure_def,
    Option.some.injEq] at parsed
  obtain ⟨parts, cut, ⟨head, parameters⟩, split, ⟨className, methodName⟩, named, line, -, rfl⟩ :=
    parsed
  rw [String.toList_ofList] at colon
  rw [ClassPlace.IsNamedAfterFile, SourceLocation.classPlace, String.toList_ofList,
    String.toList_ofList]
  unfold classAndMethod? at named
  split at named
  · rename_i left right cutHead
    split at named
    · contradiction
    · obtain ⟨rfl, rfl⟩ := Prod.mk.inj (Option.some.inj named)
      -- The name comes from the member, which ends before the first colon.
      have inMember := trimChars_subset _
        ((subset_of_splitParameters split).1 ((subset_of_cutLast cutHead).1 colon))
      exact absurd inMember (marks_not_mem_of_cut cut).1
  · split at named
    · rename_i stem found
      split at named
      · contradiction
      · obtain ⟨rfl, rfl⟩ := Prod.mk.inj (Option.some.inj named)
        exact found
    · contradiction

namespace Builder

variable {builder : Builder} (builtIn : ∀ strategy ∈ builder.strategies, strategy.IsBuiltIn)

include builtIn

/-- The strategies of the library name a class with a colon only after its file. -/
theorem isNamedAfterFile_of_parse {text : String} {location : SourceLocation}
    (read : builder.parse? text = some location) (colon : ':' ∈ location.className.toList) :
    location.classPlace.IsNamedAfterFile := by
  obtain ⟨strategy, member, parsed⟩ := List.exists_of_findSome?_eq_some read
  cases strategy with
  | qualified strategy => exact QualifiedStrategy.isNamedAfterFile_of_parse parsed colon
  | python => exact absurd colon (PythonLocation.isPlain_of_parse parsed).className
  | custom name parse => exact (builtIn _ member).elim

theorem runsInto_of_overlaps {text : String} {location : SourceLocation}
    (read : builder.parse? text = some location) {other : ClassPlace}
    (overlaps : location.classPlace.Overlaps other) : location.classPlace.RunsInto other :=
  ⟨isNamedAfterFile_of_parse builtIn read overlaps.colon_mem, overlaps⟩

/-- Locations give one key to their classes exactly if they name the same class of the same file, or
if one names its class after its file and runs into the path of the other. -/
theorem classKey_eq_iff_of_parse {text otherText : String} {first second : SourceLocation}
    (firstRead : builder.parse? text = some first)
    (secondRead : builder.parse? otherText = some second) :
    first.classNode.key = second.classNode.key ↔
      first.classPlace = second.classPlace ∨ first.classPlace.RunsInto second.classPlace ∨
        second.classPlace.RunsInto first.classPlace := by
  rw [← SourceLocation.key_classPlace, ← SourceLocation.key_classPlace, ClassPlace.key_eq_iff]
  constructor
  · rintro (same | overlaps | overlaps)
    · exact Or.inl same
    · exact Or.inr (Or.inl (runsInto_of_overlaps builtIn firstRead overlaps))
    · exact Or.inr (Or.inr (runsInto_of_overlaps builtIn secondRead overlaps))
  · rintro (same | runsInto | runsInto)
    · exact Or.inl same
    · exact Or.inr (Or.inl runsInto.2)
    · exact Or.inr (Or.inr runsInto.2)

end Builder

/-! ## Classes that are mentioned -/

namespace SourceLocation

variable {location : SourceLocation} {isTarget : Bool}

theorem eq_of_class_mem_fragment {node : ClassNode}
    (member : .classDef node ∈ (location.fragment isTarget).nodes) : node = location.classNode := by
  simpa [fragment] using member

theorem eq_of_contains_mem_fragment {relationship : Relationship}
    (member : relationship ∈ (location.fragment isTarget).relationships)
    (contains : relationship.type = .contains) :
    relationship = .plain location.filePath location.classNode.key .contains := by
  simp only [fragment, List.mem_cons, List.not_mem_nil, or_false] at member
  rcases member with rfl | rfl
  · rfl
  · cases contains

end SourceLocation

namespace Builder

variable {builder : Builder} {fragment : Fragment}

/-- A fragment mentions a class with the file of its location. -/
theorem Yields.exists_location_of_class (yields : builder.Yields fragment) {node : ClassNode}
    (member : .classDef node ∈ fragment.nodes) :
    ∃ text location, builder.parse? text = some location ∧ node = location.classNode ∧
      .plain location.filePath location.classNode.key .contains ∈ fragment.relationships := by
  cases yields with
  | ofFinding finding accepted =>
      obtain ⟨-, location, read, rfl⟩ := Fragment.ofFinding_eq_ok_iff.mp accepted
      rcases Fragment.mem_nodes_ofLocatedFinding.mp member with
        isFile | isClass | isMethod | isQuery | ⟨issue, -, isIssue⟩ | ⟨name, -, isEntity⟩
      · cases isFile
      · exact ⟨_, location, read, Node.classDef.inj isClass,
          Fragment.mem_relationships_ofLocatedFinding.mpr (Or.inl rfl)⟩
      · cases isMethod
      · cases isQuery
      · cases isIssue
      · cases isEntity
  | ofLink link accepted =>
      rcases Fragment.ofLink?_eq_some accepted with
        ⟨source, target, rfl⟩ | ⟨caller, callee, callerRead, calleeRead, rfl⟩
      · simp at member
      · simp only [Fragment.nodes_append, Fragment.relationships_append, List.append_nil,
          List.mem_append] at member ⊢
        rcases member with ofCaller | ofCallee
        · exact ⟨_, caller, callerRead, SourceLocation.eq_of_class_mem_fragment ofCaller,
            Or.inl (Or.inl List.mem_cons_self)⟩
        · exact ⟨_, callee, calleeRead, SourceLocation.eq_of_class_mem_fragment ofCallee,
            Or.inl (Or.inr List.mem_cons_self)⟩

/-- What a fragment mentions as contained is the class of a location in its file. -/
theorem Yields.exists_location_of_contains (yields : builder.Yields fragment)
    {relationship : Relationship} (member : relationship ∈ fragment.relationships)
    (contains : relationship.type = .contains) :
    ∃ text location, builder.parse? text = some location ∧
      relationship = .plain location.filePath location.classNode.key .contains := by
  cases yields with
  | ofFinding finding accepted =>
      obtain ⟨-, location, read, rfl⟩ := Fragment.ofFinding_eq_ok_iff.mp accepted
      rcases Fragment.mem_relationships_ofLocatedFinding.mp member with
        rfl | rfl | rfl | ⟨issue, -, rfl⟩ | ⟨name, -, rfl⟩
      · exact ⟨_, location, read, rfl⟩
      all_goals cases contains
  | ofLink link accepted =>
      rcases Fragment.ofLink?_eq_some accepted with
        ⟨source, target, rfl⟩ | ⟨caller, callee, callerRead, calleeRead, rfl⟩
      · rw [List.mem_singleton.mp member] at contains
        cases contains
      · simp only [Fragment.relationships_append, List.mem_append, List.mem_singleton] at member
        rcases member with (ofCaller | ofCallee) | rfl
        · exact ⟨_, caller, callerRead,
            SourceLocation.eq_of_contains_mem_fragment ofCaller contains⟩
        · exact ⟨_, callee, calleeRead,
            SourceLocation.eq_of_contains_mem_fragment ofCallee contains⟩
        · cases contains

end Builder

/-! ## Files of classes in drafts -/

/-- The key and the place that a class has by itself. -/
def Node.keyedPlace? : Node → Option (String × ClassPlace)
  | classDef node => some (node.key, ⟨node.fileRef, node.name⟩)
  | file _ | method _ | query _ | entity _ | issue _ => none

@[simp]
theorem Node.keyedPlace?_absorb (first second : Node) :
    (first.absorb second).keyedPlace? = first.keyedPlace? := by
  cases first <;> cases second <;> rfl

namespace Draft

variable {builder : Builder} {draft : Draft}

/-- A draft has the class at a place in its file. -/
def HasClass (draft : Draft) (place : ClassPlace) : Prop :=
  .plain place.path place.key .contains ∈ draft.relationships

theorem HasClass.mem_incoming {place : ClassPlace} (has : draft.HasClass place) :
    .plain place.path place.key .contains ∈ draft.incoming .contains place.key :=
  mem_incoming_iff.mpr ⟨has, rfl, rfl⟩

/-- What a draft has as contained is the class of a location in its file. -/
theorem Collected.exists_location_of_contains (collected : draft.Collected builder)
    {relationship : Relationship} (member : relationship ∈ draft.relationships)
    (contains : relationship.type = .contains) :
    ∃ text location, builder.parse? text = some location ∧
      relationship = .plain location.filePath location.classNode.key .contains := by
  obtain ⟨fragment, yields, mentioned⟩ := collected.exists_fragment member
  exact yields.exists_location_of_contains mentioned contains

/-- A class of a draft is the class of a location, and the draft has it in the file of that
location. -/
theorem Collected.exists_location_of_class (collected : draft.Collected builder)
    {node : ClassNode} (member : .classDef node ∈ draft.nodes) :
    ∃ text location, builder.parse? text = some location ∧ node.key = location.classNode.key ∧
      node.fileRef = location.filePath ∧ draft.HasClass location.classPlace := by
  obtain ⟨fragment, yields, ⟨mention, mentioned, sameView⟩, kept⟩ :=
    collected.exists_mention Node.keyedPlace? Node.keyedPlace?_absorb member
  cases mention with
  | file _ | method _ | query _ | entity _ | issue _ => contradiction
  | classDef first =>
      obtain ⟨text, location, read, rfl, inFragment⟩ := yields.exists_location_of_class mentioned
      obtain ⟨sameKey, samePlace⟩ := Prod.mk.inj (Option.some.inj sameView)
      obtain ⟨known, knownMember, sameKnown⟩ := kept _ inFragment
      obtain ⟨sameSource, sameTarget, sameType⟩ := RelationshipKey.mk.inj sameKnown
      obtain ⟨-, other, -, rfl⟩ := collected.exists_location_of_contains knownMember sameType
      have equal : Relationship.plain other.filePath other.classNode.key .contains =
          .plain location.filePath location.classNode.key .contains :=
        congrArg₂ (Relationship.plain · · .contains) sameSource sameTarget
      rw [equal] at knownMember
      exact ⟨text, location, read, sameKey.symm, (ClassPlace.mk.inj samePlace).1.symm, knownMember⟩

/-- A draft in which each class is contained in its own file alone. -/
def FilesOnce (draft : Draft) : Prop :=
  ∀ node, .classDef node ∈ draft.nodes →
    draft.incoming .contains node.key = [.plain node.fileRef node.key .contains]

/-- A class of a draft is contained in its own file. -/
theorem Collected.mem_incoming_of_class (collected : draft.Collected builder) {node : ClassNode}
    (member : .classDef node ∈ draft.nodes) :
    .plain node.fileRef node.key .contains ∈ draft.incoming .contains node.key := by
  obtain ⟨-, location, -, sameKey, samePath, has⟩ := collected.exists_location_of_class member
  rw [sameKey, samePath]
  exact has.mem_incoming

/-- Two places in a draft whose classes have one key share a class that has two files. -/
theorem FilesOnce.not_overlaps (once : draft.FilesOnce) (collected : draft.Collected builder)
    {place other : ClassPlace} (has : draft.HasClass place) (hasOther : draft.HasClass other) :
    ¬ place.Overlaps other := by
  intro overlaps
  obtain ⟨node, member, sameKey, isClass⟩ := (collected.joinsKinds _ has).2
  cases node with
  | file _ | method _ | query _ | entity _ | issue _ => cases isClass
  | classDef node =>
      have first := has.mem_incoming
      have second := hasOther.mem_incoming
      rw [← overlaps.key_eq] at second
      change node.key = place.key at sameKey
      rw [← sameKey, once node member, List.mem_singleton] at first second
      exact overlaps.path_ne (congrArg Relationship.source (first.trans second.symm))

/-- Where no class runs into the path of another one, each class is contained in its own file
alone. -/
theorem Collected.filesOnce (collected : draft.Collected builder)
    (builtIn : ∀ strategy ∈ builder.strategies, strategy.IsBuiltIn)
    (apart : ∀ place other, draft.HasClass place → draft.HasClass other → ¬ place.RunsInto other) :
    draft.FilesOnce := by
  intro node member
  obtain ⟨text, location, read, sameKey, samePath, has⟩ := collected.exists_location_of_class member
  apply collected.incoming_eq_singleton (collected.mem_incoming_of_class member)
  intro other isIncoming
  obtain ⟨otherMember, sameType, otherTarget⟩ := mem_incoming_iff.mp isIncoming
  obtain ⟨otherText, otherLocation, otherRead, rfl⟩ :=
    collected.exists_location_of_contains otherMember sameType
  have hasOther : draft.HasClass otherLocation.classPlace := otherMember
  have oneKey : otherLocation.classNode.key = location.classNode.key := otherTarget.trans sameKey
  rcases (Builder.classKey_eq_iff_of_parse builtIn otherRead read).mp oneKey with
    same | runsInto | runsInto
  · have samePaths : otherLocation.filePath = location.filePath := congrArg ClassPlace.path same
    rw [samePaths, samePath, oneKey, sameKey]
  · exact absurd runsInto (apart _ _ hasOther has)
  · exact absurd runsInto (apart _ _ has hasOther)

/-- Keys tell classes and their files apart, for locations that are read by strategies of the
library, up to one exception: a class that is named after its file runs into the path of another
class.  In a draft each class is contained in its own file, and in no other one exactly if no class
of the draft runs into the path of another class of the draft. -/
theorem IsOutput.filesOnce_iff (builtIn : ∀ strategy ∈ builder.strategies, strategy.IsBuiltIn)
    (output : draft.IsOutput builder) {text otherText : String} {first second : SourceLocation}
    (firstRead : builder.parse? text = some first)
    (secondRead : builder.parse? otherText = some second) :
    (first.classNode.key = second.classNode.key ↔
        first.classPlace = second.classPlace ∨ first.classPlace.RunsInto second.classPlace ∨
          second.classPlace.RunsInto first.classPlace) ∧
      (∀ node, .classDef node ∈ draft.nodes →
        .plain node.fileRef node.key .contains ∈ draft.incoming .contains node.key) ∧
      (draft.FilesOnce ↔
        ∀ place other, draft.HasClass place → draft.HasClass other → ¬ place.RunsInto other) := by
  constructor
  · exact Builder.classKey_eq_iff_of_parse builtIn firstRead secondRead
  · constructor
    · intro node member
      exact output.collected.mem_incoming_of_class member
    · constructor
      · intro once place other has hasOther runsInto
        exact once.not_overlaps output.collected has hasOther runsInto.2
      · exact output.collected.filesOnce builtIn

/-- A query in a class that is named after its file, with colons, and a query in a file whose path
goes on with a part of that name. -/
def overlappingFindings : List Finding :=
  [{ sourceLocation := "acme::UserDao#find:10", queryText := "SELECT 1", severity := .low },
    { sourceLocation := "acme::UserDao.java::acme#UserDao.load:20", queryText := "SELECT 2",
      severity := .low }]

/-- The class that is named after its file. -/
def overlappingLocation : SourceLocation :=
  ⟨"acme::UserDao.java", "java", "", "acme::UserDao", "find", "find", 10⟩

/-- The class in the file whose path goes on. -/
def overlappedLocation : SourceLocation :=
  ⟨"acme::UserDao.java::acme", "java", "", "UserDao", "load", "load", 20⟩

theorem IsOutput.filesOnce_iff_overlapping :
    let draft := ofFindings .java overlappingFindings
    (∀ strategy ∈ Builder.java.strategies, strategy.IsBuiltIn) ∧ draft.IsOutput .java ∧
      Builder.java.parse? "acme::UserDao#find:10" = some overlappingLocation ∧
      Builder.java.parse? "acme::UserDao.java::acme#UserDao.load:20" = some overlappedLocation ∧
      overlappingLocation.classPlace.RunsInto overlappedLocation.classPlace ∧
      overlappingLocation.classNode.key = overlappedLocation.classNode.key ∧
      ¬ draft.FilesOnce := by
  intro draft
  have builtIn : ∀ strategy ∈ Builder.java.strategies, strategy.IsBuiltIn := by
    simp [Builder.java, LocationStrategy.java, LocationStrategy.IsBuiltIn]
  have output : draft.IsOutput .java := .ofReports overlappingFindings []
  have firstRead : Builder.java.parse? "acme::UserDao#find:10" = some overlappingLocation := by
    decide +kernel
  have secondRead : Builder.java.parse? "acme::UserDao.java::acme#UserDao.load:20" =
      some overlappedLocation := by
    decide +kernel
  have runsInto : overlappingLocation.classPlace.RunsInto overlappedLocation.classPlace := by
    constructor
    · unfold ClassPlace.IsNamedAfterFile
      decide +kernel
    · right
      use "acme"
      decide
  have has : draft.HasClass overlappingLocation.classPlace := by
    unfold HasClass
    decide +kernel
  have hasOther : draft.HasClass overlappedLocation.classPlace := by
    unfold HasClass
    decide +kernel
  obtain ⟨keys, -, files⟩ := output.filesOnce_iff builtIn firstRead secondRead
  have oneKey := keys.mpr (Or.inr (Or.inl runsInto))
  exact ⟨builtIn, output, firstRead, secondRead, runsInto, oneKey,
    fun once => files.mp once _ _ has hasOther runsInto⟩

/-- Two classes of two files with one key: the draft of the findings has both files as files of the
one class. -/
theorem incoming_overlapping :
    Builder.java.parse? "acme::UserDao#find:10" = some overlappingLocation ∧
      Builder.java.parse? "acme::UserDao.java::acme#UserDao.load:20" = some overlappedLocation ∧
      overlappingLocation.classNode.key = overlappedLocation.classNode.key ∧
      overlappingLocation.filePath ≠ overlappedLocation.filePath ∧
      overlappingLocation.className ≠ overlappedLocation.className ∧
      ((ofFindings .java overlappingFindings).nodesOf .classDef).length = 1 ∧
      (ofFindings .java overlappingFindings).incoming .contains
          overlappingLocation.classNode.key =
        [.plain "acme::UserDao.java" overlappingLocation.classNode.key .contains,
          .plain "acme::UserDao.java::acme" overlappingLocation.classNode.key .contains] := by
  decide +kernel

end Draft

end QueryImpact
