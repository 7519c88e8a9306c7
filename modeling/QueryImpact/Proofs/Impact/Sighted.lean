import QueryImpact.Proofs.Build.Collected
import QueryImpact.Proofs.Graph.Route
import QueryImpact.Proofs.Store.Contents
import QueryImpact.Store.Lookup

/-!
# Graphs of sightings

The draft of findings at plain locations can be imported without loss.  A graph that holds a draft
has the edges and entities of every fragment in it.  In the graph that holds the draft of findings,
an edge of a type joins two keys exactly when a sighting says so.
-/

namespace QueryImpact

namespace Sighting

/-- The key of the class. -/
def classKey (sighting : Sighting) : String :=
  sighting.location.classNode.key

/-- The key of the method. -/
def methodKey (sighting : Sighting) : String :=
  sighting.location.methodNode.key

/-- The key of the query. -/
def queryKey (sighting : Sighting) : String :=
  (Fragment.queryOf sighting.location sighting.finding).key

/-- How the query uses its entities. -/
def operation (sighting : Sighting) : AccessOperation :=
  Fragment.operationOf sighting.text

/-- The ends of the edge of a type on the way from the file down to the query. -/
def descent? (sighting : Sighting) : RelationshipType → Option (String × String)
  | .contains => some (sighting.location.filePath, sighting.classKey)
  | .defines => some (sighting.classKey, sighting.methodKey)
  | .executes => some (sighting.methodKey, sighting.queryKey)
  | _ => none

end Sighting

/-- The name of a node that is an entity. -/
def Node.entityName? : Node → Option String
  | .entity node => some node.name
  | _ => none

@[simp]
theorem Node.entityName?_absorb (first second : Node) :
    (first.absorb second).entityName? = first.entityName? := by
  cases first <;> cases second <;> rfl

/-- The key of an entity. -/
def Builder.entityKey (builder : Builder) (name : String) : String :=
  (EntityNode.ofName name builder.storeKind).key

theorem Builder.entityKey_inj {builder : Builder} {first second : String}
    (same : builder.entityKey first = builder.entityKey second) : first = second := by
  have chars := congrArg String.toList same
  simpa [entityKey, EntityNode.ofName, String.toList_inj] using chars

namespace Draft

variable {builder : Builder} {draft : Draft} {fragment : Fragment}

/-! ## What a draft includes -/

/-- A draft that has everything that a fragment mentions. -/
structure Includes (draft : Draft) (fragment : Fragment) : Prop where
  /-- It knows the nodes. -/
  nodes : ∀ node ∈ fragment.nodes, Knows draft.nodes node
  /-- It has the keys of the relationships. -/
  relationships : ∀ mention ∈ fragment.relationships,
    ∃ relationship ∈ draft.relationships, relationship.key = mention.key

/-- What is included stays so when more is collected. -/
theorem Includes.add (includes : draft.Includes fragment) (other : Fragment) :
    (draft.add other).Includes fragment where
  nodes node member := knows_foldl_insertNode_of_knows (includes.nodes node member) other.nodes
  relationships mention member := (exists_key_foldl_insertRelationship _ _ _).mpr
    (Or.inl (includes.relationships mention member))

theorem Includes.addLink (includes : draft.Includes fragment) (link : Link) :
    (draft.addLink builder link).Includes fragment := by
  unfold Draft.addLink
  split
  · exact includes.add _
  · exact ⟨includes.nodes, includes.relationships⟩

/-- A draft of reports includes what each accepted finding mentions. -/
theorem includes_ofReports {findings : List Finding} (links : List Link) {sighting : Sighting}
    (sighted : sighting ∈ builder.sightings findings) :
    (ofReports builder findings links).Includes (sighting.fragment builder.storeKind) := by
  have found : (ofFindings builder findings).Includes (sighting.fragment builder.storeKind) :=
    ⟨fun _ mentioned => knows_of_mem_sightings sighted mentioned,
      fun _ mentioned => exists_relationship_of_mem_sightings sighted mentioned⟩
  exact List.foldlRecOn (motive := (Includes · (sighting.fragment builder.storeKind))) links _ found
    fun _ includes link _ => includes.addLink link

/-! ## The entities of a draft -/

/-- An entity that a fragment mentions is one that a query names. -/
theorem of_entityName?_of_yields (yields : builder.Yields fragment) {node : Node}
    (member : node ∈ fragment.nodes) {name : String} (isEntity : node.entityName? = some name) :
    node.key = builder.entityKey name ∧ ∃ text, name ∈ Query.entities text := by
  cases yields with
  | ofFinding finding accepted =>
      obtain ⟨_, location, _, rfl⟩ := Fragment.ofFinding_eq_ok_iff.mp accepted
      rcases Fragment.mem_nodes_ofLocatedFinding.mp member with
        rfl | rfl | rfl | rfl | ⟨issue, _, rfl⟩ | ⟨entity, named, rfl⟩
      · contradiction
      · contradiction
      · contradiction
      · contradiction
      · contradiction
      · obtain rfl : entity = name := Option.some.inj isEntity
        exact ⟨rfl, _, named⟩
  | ofLink link accepted =>
      have noEntity : ∀ node ∈ fragment.nodes, node.entityName? = none := by
        rcases Fragment.ofLink?_eq_some accepted with
          ⟨source, target, rfl⟩ | ⟨caller, callee, _, _, rfl⟩
        · simp [Node.entityName?]
        · simp [SourceLocation.fragment, Node.entityName?]
      rw [noEntity node member] at isEntity
      contradiction

/-- An entity of a draft is one that a query names. -/
theorem Collected.of_entityName? (collected : draft.Collected builder) :
    ∀ node ∈ draft.nodes, ∀ name, node.entityName? = some name →
      node.key = builder.entityKey name ∧ ∃ text, name ∈ Query.entities text := by
  induction collected with
  | empty =>
      intro node member
      exact absurd member List.not_mem_nil
  | @add draft fragment collected yields ih =>
      intro node member name isEntity
      obtain ⟨mention, mentioned, same⟩ :=
        exists_mention_of_mem (fun node => (node.entityName?, node.key)) (by simp) member
      obtain ⟨names, keys⟩ := Prod.mk.inj same
      rw [← names] at isEntity
      rw [← keys]
      rcases mentioned with before | here
      · exact ih mention before name isEntity
      · exact of_entityName?_of_yields yields here isEntity
  | leaveOut collected skipped skippedLinks ih => exact ih

/-! ## Drafts that can be imported -/

variable {findings : List Finding}

/-- At plain locations, nodes with one key have one kind. -/
theorem kindsAgree_ofFindings
    (plain : ∀ sighting ∈ builder.sightings findings, sighting.location.IsPlain) :
    KindsAgree (ofFindings builder findings).nodes := by
  apply kindsAgree_of_tells fun key => (KeyParts.read key.toList).kind
  intro node member
  obtain ⟨sighting, sighted, mention, mentioned, same⟩ :=
    exists_sighting_of_mem_nodes (fun node => (node.kind, node.key)) (by simp) member
  obtain ⟨kinds, keys⟩ := Prod.mk.inj same
  rw [← kinds, ← keys]
  exact Fragment.kind_of_mem_nodes (plain sighting sighted) mentioned

/-- Every relationship of a draft has its ends in the draft. -/
theorem hasEnds_ofFindings {relationship : Relationship}
    (member : relationship ∈ (ofFindings builder findings).relationships) :
    relationship.HasEnds (ofFindings builder findings).nodes :=
  (IsOutput.ofReports findings []).collected.hasEnds relationship member

end Draft

/-! ## Graphs that hold a draft -/

namespace Graph.Holds

variable {builder : Builder} {draft : Draft} {graph : Graph}
  (holds : graph.Holds draft.nodes draft.relationships)

include holds

theorem keyed : graph.Keyed :=
  fun key node found => (holds.node_written key node found).2

/-- What a fragment mentions is an edge of a graph that holds a draft with the fragment. -/
theorem joins_of_includes {fragment : Fragment} (includes : draft.Includes fragment)
    {mention : Relationship} (mentioned : mention ∈ fragment.relationships) :
    graph.Joins mention.type mention.source mention.target := by
  obtain ⟨known, member, sameKey⟩ := includes.relationships mention mentioned
  obtain ⟨edge, found⟩ := OrderedMap.contains_iff.mp (holds.relationship_stored known member)
  have edgeKey := (holds.relationship_written _ edge found).2.trans sameKey
  obtain ⟨sources, targets, types⟩ := RelationshipKey.mk.inj edgeKey
  exact ⟨edge, mem_edges_iff.mpr ⟨⟨_, found⟩, types⟩, sources, targets⟩

variable (collected : draft.Collected builder)

include collected

/-- A stored entity is one that a query names. -/
theorem exists_text_of_entity {key : String} {node : EntityNode}
    (found : graph.nodes.find? key = some (.entity node)) :
    key = builder.entityKey node.name ∧ ∃ text, node.name ∈ Query.entities text := by
  obtain ⟨member, sameKey⟩ := holds.node_written key _ found
  rw [← sameKey]
  exact collected.of_entityName? _ member node.name rfl

/-- An entity that a fragment mentions is stored, under its name. -/
theorem exists_entity_of_includes (agree : KindsAgree draft.nodes) {fragment : Fragment}
    (includes : draft.Includes fragment) {name : String}
    (mentioned : .entity (.ofName name builder.storeKind) ∈ fragment.nodes) :
    ∃ node, graph.nodes.find? (builder.entityKey name) = some (.entity node) ∧
      node.name = name := by
  obtain ⟨known, knownMember, same⟩ := includes.nodes _ mentioned
  obtain ⟨knownKind, knownKey⟩ := Node.isSame_iff.mp same
  obtain ⟨node, found⟩ := OrderedMap.contains_iff.mp (holds.node_stored known knownMember)
  obtain ⟨nodeMember, nodeKey⟩ := holds.node_written _ node found
  have kind : node.kind = .entity :=
    (agree node nodeMember known knownMember nodeKey).trans knownKind
  have isKey : known.key = builder.entityKey name := knownKey
  rw [isKey] at found
  cases node with
  | entity node =>
      have keys := (holds.exists_text_of_entity collected found).1
      exact ⟨node, found, (Builder.entityKey_inj keys).symm⟩
  | _ => contradiction

end Graph.Holds

/-! ## Graphs that hold the draft of findings -/

namespace Graph

section Sighted

variable {builder : Builder} {findings : List Finding} {graph : Graph}
  (holds : graph.Holds (Draft.ofFindings builder findings).nodes
    (Draft.ofFindings builder findings).relationships)

include holds

/-- An edge of the graph is one that a sighting mentions. -/
theorem Holds.exists_sighting_of_mem_edges {type : RelationshipType} {edge : Relationship}
    (member : edge ∈ graph.edges type) :
    ∃ sighting ∈ builder.sightings findings,
      edge ∈ (sighting.fragment builder.storeKind).relationships := by
  obtain ⟨⟨key, found⟩, _⟩ := mem_edges_iff.mp member
  exact Draft.exists_sighting_of_mem_relationships (holds.relationship_written key edge found).1

/-- What a sighting mentions is an edge of the graph. -/
theorem Holds.exists_edge_of_mem_sightings {sighting : Sighting}
    (sighted : sighting ∈ builder.sightings findings) {mention : Relationship}
    (mentioned : mention ∈ (sighting.fragment builder.storeKind).relationships) :
    ∃ edge ∈ graph.edges mention.type,
      edge.source = mention.source ∧ edge.target = mention.target :=
  holds.joins_of_includes (Draft.includes_ofReports [] sighted) mentioned

/-- The edges from files down to queries are those that the sightings descend by. -/
theorem Holds.mem_sourcesOf_iff {type : RelationshipType}
    (descends : type ∈ [RelationshipType.contains, .defines, .executes])
    {source target : String} :
    source ∈ graph.sourcesOf type target ↔
      ∃ sighting ∈ builder.sightings findings,
        sighting.descent? type = some (source, target) := by
  rw [Graph.mem_sourcesOf_iff]
  constructor
  · rintro ⟨edge, member, rfl, rfl⟩
    obtain ⟨sighting, sighted, mentioned⟩ := holds.exists_sighting_of_mem_edges member
    refine ⟨sighting, sighted, ?_⟩
    obtain rfl := (mem_edges_iff.mp member).2
    rcases Fragment.mem_relationships_ofLocatedFinding.mp mentioned with
      rfl | rfl | rfl | ⟨issue, _, rfl⟩ | ⟨name, _, rfl⟩
    · rfl
    · rfl
    · rfl
    · exact absurd descends (by simp [Relationship.plain])
    · exact absurd descends (by simp [Relationship.accesses])
  · rintro ⟨sighting, sighted, found⟩
    have mentioned : Relationship.plain source target type ∈
        (sighting.fragment builder.storeKind).relationships := by
      apply Fragment.mem_relationships_ofLocatedFinding.mpr
      unfold Sighting.descent? at found
      split at found
      · obtain ⟨rfl, rfl⟩ := Prod.mk.inj (Option.some.inj found)
        exact Or.inl rfl
      · obtain ⟨rfl, rfl⟩ := Prod.mk.inj (Option.some.inj found)
        exact Or.inr (Or.inl rfl)
      · obtain ⟨rfl, rfl⟩ := Prod.mk.inj (Option.some.inj found)
        exact Or.inr (Or.inr (Or.inl rfl))
      · contradiction
    exact holds.exists_edge_of_mem_sightings sighted mentioned

/-- The edges from queries to entities are those that the sightings mention; an edge that several
of them mention is the one of the first. -/
theorem Holds.exists_sighting_of_access {access : Relationship}
    (member : access ∈ graph.edges .accesses) :
    ∃ sighting ∈ builder.sightings findings, ∃ name ∈ Query.entities sighting.text,
      access = .accesses sighting.queryKey (builder.entityKey name) sighting.operation := by
  obtain ⟨sighting, sighted, mentioned⟩ := holds.exists_sighting_of_mem_edges member
  have typed := (mem_edges_iff.mp member).2
  rcases Fragment.mem_relationships_ofLocatedFinding.mp mentioned with
    rfl | rfl | rfl | ⟨issue, _, rfl⟩ | ⟨name, named, rfl⟩
  · contradiction
  · contradiction
  · contradiction
  · contradiction
  · exact ⟨sighting, sighted, name, named, rfl⟩

theorem Holds.exists_access_of_mem_sightings {sighting : Sighting}
    (sighted : sighting ∈ builder.sightings findings) {name : String}
    (named : name ∈ Query.entities sighting.text) :
    ∃ access ∈ graph.edges .accesses,
      access.source = sighting.queryKey ∧ access.target = builder.entityKey name := by
  have mentioned : Relationship.accesses sighting.queryKey (builder.entityKey name)
      sighting.operation ∈ (sighting.fragment builder.storeKind).relationships :=
    Fragment.mem_relationships_ofLocatedFinding.mpr
      (Or.inr (Or.inr (Or.inr (Or.inr ⟨name, named, rfl⟩))))
  exact holds.exists_edge_of_mem_sightings sighted mentioned

/-- An entity of the graph is one that a sighting names. -/
theorem Holds.exists_sighting_of_entity {key : String} {node : EntityNode}
    (found : graph.nodes.find? key = some (.entity node)) :
    ∃ sighting ∈ builder.sightings findings, node.name ∈ Query.entities sighting.text ∧
      node.key = builder.entityKey node.name := by
  obtain ⟨sighting, sighted, mention, mentioned, same⟩ :=
    Draft.exists_sighting_of_mem_nodes (fun node => (node.entityName?, node.key)) (by simp)
      (holds.node_written key _ found).1
  obtain ⟨names, keys⟩ := Prod.mk.inj same
  rcases Fragment.mem_nodes_ofLocatedFinding.mp mentioned with
    rfl | rfl | rfl | rfl | ⟨issue, _, rfl⟩ | ⟨entity, named, rfl⟩
  · contradiction
  · contradiction
  · contradiction
  · contradiction
  · contradiction
  · have sameName : entity = node.name := Option.some.inj names
    rw [← sameName]
    exact ⟨sighting, sighted, named, keys.symm⟩

/-- The entity that a sighting names is stored. -/
theorem Holds.exists_entity_of_mem_sightings
    (agree : KindsAgree (Draft.ofFindings builder findings).nodes) {sighting : Sighting}
    (sighted : sighting ∈ builder.sightings findings) {name : String}
    (named : name ∈ Query.entities sighting.text) :
    ∃ node, graph.nodes.find? (builder.entityKey name) = some (.entity node) ∧
      node.name = name := by
  have mentioned : Node.entity (.ofName name builder.storeKind) ∈
      (sighting.fragment builder.storeKind).nodes :=
    Fragment.mem_nodes_ofLocatedFinding.mpr
      (Or.inr (Or.inr (Or.inr (Or.inr (Or.inr ⟨name, named, rfl⟩)))))
  exact holds.exists_entity_of_includes (Draft.IsOutput.ofReports findings []).collected agree
    (Draft.includes_ofReports [] sighted) mentioned

/-- The keys of the entities with a name are those that the sightings give them. -/
theorem Holds.mem_entityKeys_iff (agree : KindsAgree (Draft.ofFindings builder findings).nodes)
    {name key : String} :
    key ∈ graph.entityKeys name ↔
      ∃ sighting ∈ builder.sightings findings, ∃ entity ∈ Query.entities sighting.text,
        sameName entity name = true ∧ key = builder.entityKey entity := by
  rw [entityKeys, List.mem_filterMap]
  constructor
  · rintro ⟨node, member, listed⟩
    split at listed
    · rename_i node
      split at listed
      · rename_i sameAs
        obtain ⟨storedKey, found⟩ := OrderedMap.mem_values_iff.mp member
        obtain ⟨sighting, sighted, named, ownKey⟩ := holds.exists_sighting_of_entity found
        exact ⟨sighting, sighted, node.name, named, sameAs,
          (Option.some.inj listed).symm.trans ownKey⟩
      · contradiction
    · contradiction
  · rintro ⟨sighting, sighted, entity, named, sameAs, rfl⟩
    obtain ⟨node, found, rfl⟩ := holds.exists_entity_of_mem_sightings agree sighted named
    obtain ⟨_, _, _, ownKey⟩ := holds.exists_sighting_of_entity found
    refine ⟨.entity node, OrderedMap.mem_values_iff.mpr ⟨_, found⟩, ?_⟩
    simp only [sameAs, if_true, ownKey]

end Sighted

end Graph

end QueryImpact
