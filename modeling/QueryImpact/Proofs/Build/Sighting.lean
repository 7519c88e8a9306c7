import QueryImpact.Proofs.Build.Merge

/-!
# What a draft collects

The accepted findings, each with the place its location names, are the sightings of a list of
findings.  The draft of the findings has the nodes and relationships that the sightings mention:
each of them once, and nothing else.
-/

namespace QueryImpact

/-- An accepted finding, and the place that its location names. -/
structure Sighting where
  /-- The place. -/
  location : SourceLocation
  /-- The finding. -/
  finding : Finding
deriving DecidableEq

namespace Sighting

/-- The text of the query, trimmed. -/
def text (sighting : Sighting) : String :=
  Text.trim sighting.finding.queryText

/-- Whether the query reads. -/
def isRead (sighting : Sighting) : Bool :=
  (Query.statementType sighting.text).isRead

/-- Whether the query names an entity, apart from the case of ASCII letters. -/
def names (sighting : Sighting) (name : String) : Bool :=
  (Query.entities sighting.text).any fun entity => entity.toLower == name.toLower

/-- The class that is seen: its file and its name. -/
def seenClass (sighting : Sighting) : String × String :=
  (sighting.location.filePath, sighting.location.className)

/-- The method that is seen: its file, its class and its signature. -/
def seenMethod (sighting : Sighting) : String × String × String :=
  (sighting.location.filePath, sighting.location.className, sighting.location.signature)

/-- The query that is seen: its method, its line and its text. -/
def seenQuery (sighting : Sighting) : (String × String × String) × UInt32 × String :=
  (sighting.seenMethod, sighting.location.line, sighting.text)

/-- What the sighting mentions. -/
def fragment (sighting : Sighting) (storeKind : StoreKind) : Fragment :=
  .ofLocatedFinding storeKind sighting.location sighting.finding

end Sighting

namespace Builder

/-- The sighting that a finding is, when it keeps the rules and its location can be read. -/
def sighting? (builder : Builder) (finding : Finding) : Option Sighting :=
  match finding.validate with
  | .ok _ => (builder.parse? finding.sourceLocation).map fun location => ⟨location, finding⟩
  | .error _ => none

/-- The sightings among some findings. -/
def sightings (builder : Builder) (findings : List Finding) : List Sighting :=
  findings.filterMap builder.sighting?

/-- The digests of the query texts among some findings tell the texts apart. -/
def DigestsTell (builder : Builder) (findings : List Finding) : Prop :=
  ∀ first ∈ builder.sightings findings, ∀ second ∈ builder.sightings findings,
    Digest.textIdentifier first.text = Digest.textIdentifier second.text → first.text = second.text

theorem digestsTell_iff {builder : Builder} {findings : List Finding} :
    builder.DigestsTell findings ↔
      ∀ first ∈ (builder.sightings findings).map Sighting.text,
        ∀ second ∈ (builder.sightings findings).map Sighting.text,
          Digest.textIdentifier first = Digest.textIdentifier second → first = second := by
  simp [DigestsTell]

theorem parse?_of_mem_sightings {builder : Builder} {findings : List Finding}
    {sighting : Sighting} (member : sighting ∈ builder.sightings findings) :
    builder.parse? sighting.finding.sourceLocation = some sighting.location := by
  obtain ⟨finding, _, found⟩ := List.mem_filterMap.mp member
  unfold sighting? at found
  split at found
  · obtain ⟨location, parsed, rfl⟩ := Option.map_eq_some_iff.mp found
    exact parsed
  · contradiction

end Builder

namespace Draft

/-- Collecting a finding is collecting what its sighting mentions, if it is one. -/
theorem addFinding_eq (builder : Builder) (draft : Draft) (index : Nat) (finding : Finding) :
    (draft.addFinding builder index finding).nodes =
        ((builder.sighting? finding).toList.flatMap fun sighting =>
          (sighting.fragment builder.storeKind).nodes).foldl insertNode draft.nodes ∧
      (draft.addFinding builder index finding).relationships =
        ((builder.sighting? finding).toList.flatMap fun sighting =>
          (sighting.fragment builder.storeKind).relationships).foldl insertRelationship
            draft.relationships := by
  unfold addFinding Fragment.ofFinding Builder.sighting?
  cases finding.validate with
  | error cause => exact ⟨rfl, rfl⟩
  | ok value =>
      cases builder.parse? finding.sourceLocation with
      | none => exact ⟨rfl, rfl⟩
      | some location => simp [add, Sighting.fragment]

/-- Collecting findings is collecting what their sightings mention. -/
theorem addFindings_eq (builder : Builder) (draft : Draft) (start : Nat)
    (findings : List Finding) :
    (addFindings builder draft start findings).nodes =
        ((builder.sightings findings).flatMap fun sighting =>
          (sighting.fragment builder.storeKind).nodes).foldl insertNode draft.nodes ∧
      (addFindings builder draft start findings).relationships =
        ((builder.sightings findings).flatMap fun sighting =>
          (sighting.fragment builder.storeKind).relationships).foldl insertRelationship
            draft.relationships := by
  induction findings generalizing draft start with
  | nil => exact ⟨rfl, rfl⟩
  | cons finding rest ih =>
      obtain ⟨nodes, relationships⟩ := ih (draft.addFinding builder start finding) (start + 1)
      obtain ⟨firstNodes, firstRelationships⟩ := addFinding_eq builder draft start finding
      have split : builder.sightings (finding :: rest) =
          (builder.sighting? finding).toList ++ builder.sightings rest := by
        rw [Builder.sightings, List.filterMap_cons]
        cases builder.sighting? finding with
        | none => rfl
        | some sighting => rfl
      rw [addFindings, nodes, relationships, firstNodes, firstRelationships, split,
        List.flatMap_append, List.flatMap_append, List.foldl_append, List.foldl_append]
      exact ⟨rfl, rfl⟩

/-- What absorbing leaves alone in a node, some mention has as well. -/
theorem exists_mention_of_mem {β : Type} (view : Node → β)
    (stable : ∀ first second, view (first.absorb second) = view first)
    {base mentions : List Node} {node : Node}
    (member : node ∈ mentions.foldl insertNode base) :
    ∃ mention, (mention ∈ base ∨ mention ∈ mentions) ∧ view mention = view node := by
  induction mentions generalizing base with
  | nil => exact ⟨node, Or.inl member, rfl⟩
  | cons first rest ih =>
      rcases ih member with ⟨mention, inBase | later, same⟩
      · rcases mem_insertNode inBase with before | rfl | ⟨known, knownMember, rfl⟩
        · exact ⟨mention, Or.inl before, same⟩
        · exact ⟨mention, Or.inr List.mem_cons_self, same⟩
        · exact ⟨known, Or.inl knownMember, (stable known first).symm.trans same⟩
      · exact ⟨mention, Or.inr (List.mem_cons_of_mem _ later), same⟩

theorem knows_foldl_insertNode_of_knows {base : List Node} {node : Node} (known : Knows base node)
    (mentions : List Node) : Knows (mentions.foldl insertNode base) node := by
  induction mentions generalizing base with
  | nil => exact known
  | cons first rest ih => exact ih (knows_insertNode_of_knows known first)

/-- Every mention is known afterwards. -/
theorem knows_foldl_insertNode {base mentions : List Node} {node : Node}
    (member : node ∈ mentions) : Knows (mentions.foldl insertNode base) node := by
  induction mentions generalizing base with
  | nil => exact absurd member List.not_mem_nil
  | cons first rest ih =>
      rcases List.mem_cons.mp member with rfl | later
      · exact knows_foldl_insertNode_of_knows (knows_insertNode base node) rest
      · exact ih later

theorem mem_of_mem_foldl_insertRelationship {base mentions : List Relationship}
    {relationship : Relationship}
    (member : relationship ∈ mentions.foldl insertRelationship base) :
    relationship ∈ base ∨ relationship ∈ mentions := by
  induction mentions generalizing base with
  | nil => exact Or.inl member
  | cons first rest ih =>
      rcases ih member with inserted | later
      · unfold insertRelationship at inserted
        split at inserted
        · exact Or.inl inserted
        · rcases List.mem_append.mp inserted with before | here
          · exact Or.inl before
          · exact Or.inr (List.mem_cons.mpr (Or.inl (List.mem_singleton.mp here)))
      · exact Or.inr (List.mem_cons_of_mem _ later)

theorem distinct_foldl_insertNode {nodes : List Node} (distinct : Distinct nodes)
    (mentions : List Node) : Distinct (mentions.foldl insertNode nodes) := by
  induction mentions generalizing nodes with
  | nil => exact distinct
  | cons mention rest ih => exact ih (distinct_insertNode distinct mention)

theorem nodup_keys_insertRelationship {relationships : List Relationship}
    (nodup : (relationships.map Relationship.key).Nodup) (relationship : Relationship) :
    ((insertRelationship relationships relationship).map Relationship.key).Nodup := by
  unfold insertRelationship
  split
  · exact nodup
  · rename_i unknown
    rw [List.map_append, List.map_singleton]
    apply List.Nodup.append nodup (List.nodup_singleton _)
    intro key known here
    obtain ⟨other, otherMember, rfl⟩ := List.mem_map.mp known
    apply unknown
    exact List.any_eq_true.mpr
      ⟨other, otherMember, decide_eq_true (List.mem_singleton.mp here)⟩

theorem nodup_keys_foldl_insertRelationship {relationships : List Relationship}
    (nodup : (relationships.map Relationship.key).Nodup) (mentions : List Relationship) :
    ((mentions.foldl insertRelationship relationships).map Relationship.key).Nodup := by
  induction mentions generalizing relationships with
  | nil => exact nodup
  | cons mention rest ih => exact ih (nodup_keys_insertRelationship nodup mention)

section Contents

variable {builder : Builder} {findings : List Finding}

/-- A node of a draft is one that a sighting mentions, with what absorbing leaves alone. -/
theorem exists_sighting_of_mem_nodes {β : Type} (view : Node → β)
    (stable : ∀ first second, view (first.absorb second) = view first) {node : Node}
    (member : node ∈ (ofFindings builder findings).nodes) :
    ∃ sighting ∈ builder.sightings findings,
      ∃ mention ∈ (sighting.fragment builder.storeKind).nodes, view mention = view node := by
  have collected := (addFindings_eq builder empty 0 findings).1
  rw [ofFindings, ofReports, List.foldl_nil, collected] at member
  rcases exists_mention_of_mem view stable member with ⟨mention, inBase | mentioned, same⟩
  · exact absurd inBase List.not_mem_nil
  · obtain ⟨sighting, sighted, inFragment⟩ := List.mem_flatMap.mp mentioned
    exact ⟨sighting, sighted, mention, inFragment, same⟩

/-- A draft knows every node that a sighting mentions. -/
theorem knows_of_mem_sightings {sighting : Sighting}
    (sighted : sighting ∈ builder.sightings findings) {mention : Node}
    (mentioned : mention ∈ (sighting.fragment builder.storeKind).nodes) :
    Knows (ofFindings builder findings).nodes mention := by
  have collected := (addFindings_eq builder empty 0 findings).1
  rw [ofFindings, ofReports, List.foldl_nil, collected]
  exact knows_foldl_insertNode (List.mem_flatMap.mpr ⟨sighting, sighted, mentioned⟩)

/-- A relationship of a draft is one that a sighting mentions. -/
theorem exists_sighting_of_mem_relationships {relationship : Relationship}
    (member : relationship ∈ (ofFindings builder findings).relationships) :
    ∃ sighting ∈ builder.sightings findings,
      relationship ∈ (sighting.fragment builder.storeKind).relationships := by
  have collected := (addFindings_eq builder empty 0 findings).2
  rw [ofFindings, ofReports, List.foldl_nil, collected] at member
  rcases mem_of_mem_foldl_insertRelationship member with inBase | mentioned
  · exact absurd inBase List.not_mem_nil
  · exact List.mem_flatMap.mp mentioned

/-- A draft has the key of every relationship that a sighting mentions. -/
theorem exists_relationship_of_mem_sightings {sighting : Sighting}
    (sighted : sighting ∈ builder.sightings findings) {mention : Relationship}
    (mentioned : mention ∈ (sighting.fragment builder.storeKind).relationships) :
    ∃ relationship ∈ (ofFindings builder findings).relationships,
      relationship.key = mention.key := by
  have collected := (addFindings_eq builder empty 0 findings).2
  rw [ofFindings, ofReports, List.foldl_nil, collected, exists_key_foldl_insertRelationship]
  exact Or.inr ⟨mention, List.mem_flatMap.mpr ⟨sighting, sighted, mentioned⟩, rfl⟩

end Contents

end Draft

end QueryImpact
