import QueryImpact.Proofs.Store.Upsert
import QueryImpact.Store.Lookup

/-!
# Routes along relationships

An edge of a stored graph leads from its source to its target, and edges of given types, one after
the other, make a route.  The look-ups of a graph follow edges from sources to targets or back.
Where nodes stand under their own keys, look-ups by name or kind find the keys of these nodes.
-/

namespace QueryImpact

namespace Graph

/-- An edge of a type leads from one key to another. -/
def Joins (graph : Graph) (type : RelationshipType) (source target : String) : Prop :=
  ∃ edge ∈ graph.edges type, edge.source = source ∧ edge.target = target

/-- Edges of the given types lead, one after the other, from one key to another. -/
inductive Route (graph : Graph) : List RelationshipType → String → String → Prop
  /-- Without an edge one stays where one is. -/
  | stay (key : String) : Route graph [] key key
  /-- An edge, and a route from where it leads. -/
  | step {type : RelationshipType} {types : List RelationshipType} {source middle target : String}
      (joins : graph.Joins type source middle) (route : Route graph types middle target) :
      Route graph (type :: types) source target

/-- A query accesses a stored entity; an access that does not say how, or not readably, reads. -/
def Accesses (graph : Graph) (query : String) (operation : AccessOperation)
    (entity : EntityNode) : Prop :=
  ∃ access ∈ graph.edges .accesses, access.source = query ∧
    access.operation?.getD .read = operation ∧
      graph.nodes.find? access.target = some (.entity entity)

variable {graph : Graph} {type : RelationshipType} {types : List RelationshipType}
  {source target key name : String}

theorem route_nil_iff : graph.Route [] source target ↔ source = target := by
  constructor
  · intro route
    cases route
    rfl
  · rintro rfl
    exact .stay source

theorem route_cons_iff :
    graph.Route (type :: types) source target ↔
      ∃ middle, graph.Joins type source middle ∧ graph.Route types middle target := by
  constructor
  · intro route
    cases route with
    | step joins route => exact ⟨_, joins, route⟩
  · rintro ⟨middle, joins, route⟩
    exact .step joins route

/-! ## Look-ups along edges -/

theorem mem_edges_iff {relationship : Relationship} :
    relationship ∈ graph.edges type ↔
      (∃ key, graph.relationships.find? key = some relationship) ∧ relationship.type = type := by
  rw [edges, List.mem_filter, OrderedMap.mem_values_iff, decide_eq_true_eq]

theorem mem_sourcesOf_iff :
    source ∈ graph.sourcesOf type target ↔ graph.Joins type source target := by
  simp only [sourcesOf, List.mem_map, List.mem_filter, decide_eq_true_eq]
  constructor
  · rintro ⟨edge, ⟨member, sameTarget⟩, sameSource⟩
    exact ⟨edge, member, sameSource, sameTarget⟩
  · rintro ⟨edge, member, sameSource, sameTarget⟩
    exact ⟨edge, ⟨member, sameTarget⟩, sameSource⟩

theorem mem_edgesFrom_iff {edge : Relationship} :
    edge ∈ graph.edgesFrom type source ↔ edge ∈ graph.edges type ∧ edge.source = source := by
  rw [edgesFrom, List.mem_filter, decide_eq_true_eq]

theorem mem_targetsOf_iff :
    target ∈ graph.targetsOf type source ↔ graph.Joins type source target := by
  simp only [targetsOf, List.mem_map, mem_edgesFrom_iff, and_assoc]
  rfl

/-! ## Look-ups by name and kind -/

theorem isFile_iff :
    graph.isFile key = true ↔ ∃ node, graph.nodes.find? key = some (.file node) := by
  rw [isFile]
  split <;> simp_all

/-- Every node stands under its own key, as in every well-formed graph. -/
def Keyed (graph : Graph) : Prop :=
  ∀ key node, graph.nodes.find? key = some node → node.key = key

theorem keyed_empty : empty.Keyed := by
  intro key node found
  contradiction

namespace Keyed

variable (keyed : graph.Keyed)
include keyed

theorem withNodes (nodes : List Node) : (graph.withNodes nodes).Keyed := by
  intro key node found
  rcases OrderedMap.of_find?_overwrite _ found with ⟨_, sameKey⟩ | stored
  · exact sameKey
  · exact keyed key node stored

theorem withRelationships (relationships : List Relationship) :
    (graph.withRelationships relationships).Keyed :=
  keyed

/-- Among the stored nodes, those with a key are the one stored under it. -/
theorem mem_values_iff {node : Node} :
    node ∈ graph.nodes.values ∧ node.key = key ↔ graph.nodes.find? key = some node := by
  rw [OrderedMap.mem_values_iff]
  constructor
  · rintro ⟨⟨place, found⟩, rfl⟩
    rw [keyed place node found]
    exact found
  · intro found
    exact ⟨⟨key, found⟩, keyed key node found⟩

theorem nodup_filePaths : graph.filePaths.Nodup := by
  have sublist : graph.filePaths.Sublist graph.nodes.keys := by
    rw [← OrderedMap.map_values_eq_keys keyed]
    exact List.filter_sublist.map Node.key
  exact sublist.nodup graph.nodes.nodup_keys

theorem mem_filePaths_iff :
    key ∈ graph.filePaths ↔ ∃ node, graph.nodes.find? key = some (.file node) := by
  simp only [filePaths, List.mem_map, List.mem_filter, decide_eq_true_eq]
  constructor
  · rintro ⟨node, ⟨member, isFile⟩, sameKey⟩
    cases node with
    | file node => exact ⟨node, keyed.mem_values_iff.mp ⟨member, sameKey⟩⟩
    | _ => contradiction
  · rintro ⟨node, found⟩
    obtain ⟨member, sameKey⟩ := keyed.mem_values_iff.mpr found
    exact ⟨.file node, ⟨member, rfl⟩, sameKey⟩

theorem mem_classKeys_iff :
    key ∈ graph.classKeys name ↔
      ∃ node, graph.nodes.find? key = some (.classDef node) ∧ node.name = name := by
  rw [classKeys, List.mem_filterMap]
  constructor
  · rintro ⟨node, member, listed⟩
    cases node with
    | classDef node =>
        obtain ⟨named, sameKey⟩ := Option.ite_none_right_eq_some.mp listed
        exact ⟨node, keyed.mem_values_iff.mp ⟨member, Option.some.inj sameKey⟩, named⟩
    | _ => contradiction
  · rintro ⟨node, found, named⟩
    obtain ⟨member, sameKey⟩ := keyed.mem_values_iff.mpr found
    exact ⟨.classDef node, member, Option.ite_none_right_eq_some.mpr ⟨named, congrArg some sameKey⟩⟩

theorem mem_entityKeys_iff :
    key ∈ graph.entityKeys name ↔
      ∃ node, graph.nodes.find? key = some (.entity node) ∧ sameName node.name name = true := by
  rw [entityKeys, List.mem_filterMap]
  constructor
  · rintro ⟨node, member, listed⟩
    cases node with
    | entity node =>
        obtain ⟨named, sameKey⟩ := Option.ite_none_right_eq_some.mp listed
        exact ⟨node, keyed.mem_values_iff.mp ⟨member, Option.some.inj sameKey⟩, named⟩
    | _ => contradiction
  · rintro ⟨node, found, named⟩
    obtain ⟨member, sameKey⟩ := keyed.mem_values_iff.mpr found
    exact ⟨.entity node, member, Option.ite_none_right_eq_some.mpr ⟨named, congrArg some sameKey⟩⟩

end Keyed

/-! ## A graph with shared parts -/

/-- The nodes of the graph: a third file contains nothing. -/
def sharedNodes : List Node :=
  [.file (.ofPath "a.java" "java" true), .file (.ofPath "b.java" "java" true),
    .file (.ofPath "c.java" "java" true), .classDef ⟨"A", "Dao", "one", "a.java", 1⟩,
    .classDef ⟨"B", "Dao", "two", "b.java", 1⟩, .method ⟨"A.all", "all", "all", "A", 1⟩,
    .method ⟨"A.find", "find", "find", "A", 1⟩, .method ⟨"B.find", "find", "find", "B", 1⟩,
    .query ⟨"p", "UPDATE users SET name = ?", .update, 1, 0, "A.all", 1⟩,
    .query ⟨"q", "SELECT * FROM users", .select, 1, 0, "B.find", 1⟩,
    .entity ⟨"users", "users", .table, 1⟩, .entity ⟨"archive", "Users", .collection, 1⟩,
    .issue ⟨"lock", "lock", .high, none, none, "p"⟩,
    .issue ⟨"scan", "scan", .low, none, none, "q"⟩]

/-- The first class is in two files, the first query in two methods of it, and the first issue at
both queries.  The second query accesses two entities of one name, one without saying how. -/
def sharedRelationships : List Relationship :=
  [.plain "a.java" "A" .contains, .plain "b.java" "A" .contains, .plain "b.java" "B" .contains,
    .plain "A" "A.all" .defines, .plain "A" "A.find" .defines, .plain "B" "B.find" .defines,
    .plain "A.all" "p" .executes, .plain "A.find" "p" .executes, .plain "B.find" "q" .executes,
    .accesses "p" "users" .write, .plain "q" "users" .accesses, .accesses "q" "archive" .read,
    .plain "p" "lock" .hasIssue, .plain "q" "lock" .hasIssue, .plain "q" "scan" .hasIssue,
    .plain "c.java" "a.java" .dependsOn]

/-- A graph in which files share a class, methods a query and queries an issue. -/
def sharedGraph : Graph :=
  (empty.withNodes sharedNodes).withRelationships sharedRelationships

theorem keyed_sharedGraph : sharedGraph.Keyed :=
  (keyed_empty.withNodes sharedNodes).withRelationships sharedRelationships

end Graph

end QueryImpact
