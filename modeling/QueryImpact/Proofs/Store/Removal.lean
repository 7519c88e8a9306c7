import Mathlib
import QueryImpact.Proofs.Graph.Route
import QueryImpact.Proofs.Store.Typing

/-!
# What the deletion of files removes

A deletion collects keys in four passes over all edges.  The passes accumulate, so that what they
collect in general is everything that a route along some of the four types, in their order, leads
to.  In a well-typed graph an edge starts at the kind of node at which the one before it ends, so no
type can be left out on the way: the collected keys are the listed files and their classes, methods,
queries and issues.  All else stays as it was.
-/

namespace QueryImpact

namespace Graph

variable {graph : Graph} {paths : List String} {key : String}

/-! ## Passes over the edges -/

theorem contains_extend {keys : OrderedSet String} {type : RelationshipType} :
    (graph.extend keys type).contains key = true ↔
      keys.contains key = true ∨
        ∃ source, keys.contains source = true ∧ graph.Joins type source key := by
  simp only [extend, OrderedSet.contains_foldl_add, List.mem_map, List.mem_filter]
  constructor
  · rintro (⟨edge, ⟨member, fromKeys⟩, rfl⟩ | before)
    · exact Or.inr ⟨edge.source, fromKeys, edge, member, rfl, rfl⟩
    · exact Or.inl before
  · rintro (before | ⟨source, fromKeys, edge, member, rfl, rfl⟩)
    · exact Or.inr before
    · exact Or.inl ⟨edge, ⟨member, fromKeys⟩, rfl⟩

/-- Passes over the edges of some types collect what routes along some of these types, in the order
of the passes, lead to. -/
theorem contains_foldl_extend {types : List RelationshipType} {keys : OrderedSet String} :
    (types.foldl graph.extend keys).contains key = true ↔
      ∃ start, keys.contains start = true ∧
        ∃ taken, taken.Sublist types ∧ graph.Route taken start key := by
  induction types generalizing keys with
  | nil => simp [route_nil_iff]
  | cons type rest ih =>
      simp only [List.foldl_cons, ih, contains_extend]
      constructor
      · rintro ⟨middle, fromKeys | ⟨start, fromKeys, joins⟩, taken, sublist, route⟩
        · exact ⟨middle, fromKeys, taken, sublist.cons type, route⟩
        · exact ⟨start, fromKeys, type :: taken, sublist.cons_cons type, .step joins route⟩
      · rintro ⟨start, fromKeys, taken, sublist, route⟩
        cases sublist with
        | cons _ sublist => exact ⟨start, Or.inl fromKeys, taken, sublist, route⟩
        | cons_cons _ sublist =>
            obtain ⟨middle, joins, route⟩ := route_cons_iff.mp route
            exact ⟨middle, Or.inr ⟨start, fromKeys, joins⟩, _, sublist, route⟩

/-! ## Routes in well-typed graphs -/

/-- The kind at which edges of the given types end, if each starts at the kind at which the one
before it ends. -/
def endKind? : NodeKind → List RelationshipType → Option NodeKind
  | kind, [] => some kind
  | kind, type :: rest => if type.sourceKind = kind then endKind? type.targetKind rest else none

theorem WellTyped.kinds_of_joins (typed : graph.WellTyped) {type : RelationshipType}
    {source target : String} (joins : graph.Joins type source target) :
    graph.kindOf? source = some type.sourceKind ∧ graph.kindOf? target = some type.targetKind := by
  obtain ⟨edge, member, rfl, rfl⟩ := joins
  obtain ⟨⟨place, found⟩, rfl⟩ := mem_edges_iff.mp member
  exact typed place edge found

theorem kindOf?_eq_file {file : FileNode} (found : graph.nodes.find? key = some (.file file)) :
    graph.kindOf? key = some .file := by
  rw [kindOf?, found]
  rfl

/-- The types of a route tell the kind of node to which it leads. -/
theorem WellTyped.endKind?_of_route (typed : graph.WellTyped) {types : List RelationshipType}
    {start : String} {kind : NodeKind} (starts : graph.kindOf? start = some kind)
    (route : graph.Route types start key) :
    ∃ last, endKind? kind types = some last ∧ graph.kindOf? key = some last := by
  induction route generalizing kind with
  | stay key => exact ⟨kind, rfl, starts⟩
  | step joins route ih =>
      obtain ⟨atSource, atMiddle⟩ := typed.kinds_of_joins joins
      obtain rfl := Option.some.inj (atSource.symm.trans starts)
      rw [endKind?, if_pos rfl]
      exact ih atMiddle

/-- From a file, no pass can be left out on the way. -/
theorem prefix_of_sublist_containment :
    ∀ types ∈ containment.sublists, (endKind? .file types).isSome → types <+: containment := by
  decide

theorem endKind?_of_prefix_containment :
    ∀ types ∈ containment.inits, ∀ kind, endKind? .file types = some kind →
      kind ∈ [NodeKind.file, .classDef, .method, .query, .issue] := by
  decide

/-- What belongs to the listed files: those of them that are stored, their classes, the methods of
these, the queries of these and the issues of these. -/
def Belongs (graph : Graph) (paths : List String) (key : String) : Prop :=
  ∃ path ∈ paths, (∃ file, graph.nodes.find? path = some (.file file)) ∧
    ∃ types, types <+: [.contains, .defines, .executes, .hasIssue] ∧ graph.Route types path key

theorem WellTyped.kind_of_belongs (typed : graph.WellTyped) (belongs : graph.Belongs paths key) :
    ∃ kind ∈ [NodeKind.file, .classDef, .method, .query, .issue],
      graph.kindOf? key = some kind := by
  obtain ⟨path, -, ⟨file, found⟩, types, isPrefix, route⟩ := belongs
  obtain ⟨kind, ends, stored⟩ := typed.endKind?_of_route (kindOf?_eq_file found) route
  exact ⟨kind, endKind?_of_prefix_containment types ((List.mem_inits _ _).mpr isPrefix) kind ends,
    stored⟩

/-- A deletion collects what belongs to the listed files. -/
theorem WellTyped.contains_doomedKeys (typed : graph.WellTyped) :
    (graph.doomedKeys paths).contains key = true ↔ graph.Belongs paths key := by
  simp only [doomedKeys, contains_foldl_extend, OrderedSet.contains_ofList, List.mem_filter,
    isFile_iff]
  constructor
  · rintro ⟨path, ⟨listed, file, found⟩, types, sublist, route⟩
    obtain ⟨kind, ends, -⟩ := typed.endKind?_of_route (kindOf?_eq_file found) route
    have isPrefix := prefix_of_sublist_containment types (List.mem_sublists.mpr sublist)
      (by simp [ends])
    exact ⟨path, listed, ⟨file, found⟩, types, isPrefix, route⟩
  · rintro ⟨path, listed, isFile, types, isPrefix, route⟩
    exact ⟨path, ⟨listed, isFile⟩, types, isPrefix.sublist, route⟩

/-! ## The graph afterwards -/

theorem find?_relationships_removeKeys (graph : Graph) (keys : OrderedSet String)
    (key : RelationshipKey) :
    (graph.removeKeys keys).relationships.find? key =
      if keys.contains key.source || keys.contains key.target then none
      else graph.relationships.find? key := by
  rw [removeKeys, OrderedMap.find?_filter, ← Bool.not_or]
  cases keys.contains key.source || keys.contains key.target with
  | true => simp
  | false => cases graph.relationships.find? key <;> simp

theorem contains_removeKeys (graph : Graph) (keys : OrderedSet String) (key : String) :
    (graph.removeKeys keys).nodes.contains key =
      (!keys.contains key && graph.nodes.contains key) := by
  rw [OrderedMap.contains, find?_removeKeys]
  cases keys.contains key with
  | true => rfl
  | false => rfl

/-- What the deletion of files makes of a graph, and how many nodes it reports. -/
structure Cleared (graph : Graph) (paths : List String) (after : Graph) (count : Nat) : Prop where
  /-- What belongs to the files is stored, and no entity. -/
  belongs_stored : ∀ key, graph.Belongs paths key →
    ∃ kind ∈ [NodeKind.file, .classDef, .method, .query, .issue], graph.kindOf? key = some kind
  /-- A node is removed if it belongs to the files, and only then. -/
  node_removed_iff : ∀ key node, graph.nodes.find? key = some node →
    (after.nodes.find? key = none ↔ graph.Belongs paths key)
  /-- The nodes that are left were there before, and as they are. -/
  node_kept : ∀ key node, after.nodes.find? key = some node → graph.nodes.find? key = some node
  /-- Entities are left. -/
  entity_kept : ∀ key entity, graph.nodes.find? key = some (.entity entity) →
    after.nodes.find? key = some (.entity entity)
  /-- A relationship is removed if one of its ends is, and only then. -/
  relationship_removed_iff : ∀ key relationship,
    graph.relationships.find? key = some relationship →
      (after.relationships.find? key = none ↔
        graph.Belongs paths relationship.source ∨ graph.Belongs paths relationship.target)
  /-- The relationships that are left were there before, and as they are. -/
  relationship_kept : ∀ key relationship, after.relationships.find? key = some relationship →
    graph.relationships.find? key = some relationship
  /-- The nodes that are gone are counted. -/
  count_eq : count = (graph.nodes.keys.filter fun key => !after.nodes.contains key).length

/-- The collected keys are those of the nodes that are gone. -/
theorem size_eq_length_removed {keys : OrderedSet String}
    (stored : ∀ key, keys.contains key = true → graph.nodes.contains key = true) :
    keys.size =
      (graph.nodes.keys.filter fun key => !(graph.removeKeys keys).nodes.contains key).length := by
  have sameMembers : keys.toList.Perm
      (graph.nodes.keys.filter fun key => !(graph.removeKeys keys).nodes.contains key) := by
    rw [List.perm_ext_iff_of_nodup (OrderedSet.nodup_toList keys)
      (graph.nodes.nodup_keys.filter _)]
    intro key
    rw [OrderedSet.mem_toList_iff, List.mem_filter, ← OrderedMap.contains_iff_mem_keys,
      contains_removeKeys]
    by_cases collected : keys.contains key = true
    · simp [collected, stored key collected]
    · simp [collected]
  rw [← sameMembers.length_eq]
  simp [OrderedMap.size, OrderedSet.toList, OrderedMap.keys]

/-- In a graph whose relationships join stored nodes of the kinds that their types prescribe, the
deletion of listed files removes what belongs to them and the relationships at that, tells how many
nodes these are, and leaves everything else alone.  Clearing files in a transaction of its own does
the same to a store. -/
theorem cleared_deleteFiles (wellFormed : graph.WellFormed) (typed : graph.WellTyped)
    (paths : List String) :
    let result := graph.deleteFiles paths
    graph.Cleared paths result.1 result.2 ∧
      MemoryStore.run (Writing.clearFiles paths) ⟨graph, none⟩ =
        (.ok result.2, ⟨result.1, none⟩) := by
  intro result
  have collected (key : String) :
      (graph.doomedKeys paths).contains key = true ↔ graph.Belongs paths key :=
    typed.contains_doomedKeys
  have nodes (key : String) :
      result.1.nodes.find? key =
        if (graph.doomedKeys paths).contains key then none else graph.nodes.find? key :=
    find?_removeKeys graph (graph.doomedKeys paths) key
  have relationships (key : RelationshipKey) :
      result.1.relationships.find? key =
        if (graph.doomedKeys paths).contains key.source ||
            (graph.doomedKeys paths).contains key.target then none
        else graph.relationships.find? key :=
    find?_relationships_removeKeys graph (graph.doomedKeys paths) key
  refine ⟨?_, rfl⟩
  constructor
  case belongs_stored => exact fun key => typed.kind_of_belongs
  case node_removed_iff =>
    intro key node found
    rw [← collected, nodes, found]
    simp
  case node_kept =>
    intro key node found
    rw [nodes] at found
    exact (Option.ite_none_left_eq_some.mp found).2
  case entity_kept =>
    intro key entity found
    rw [nodes, if_neg, found]
    rw [collected]
    intro belongs
    obtain ⟨kind, listed, isKind⟩ := typed.kind_of_belongs belongs
    rw [kindOf?, found] at isKind
    obtain rfl := Option.some.inj isKind
    contradiction
  case relationship_removed_iff =>
    intro key relationship found
    rw [← collected, ← collected, ← Bool.or_eq_true, relationships, found,
      ← wellFormed.relationship_key key relationship found]
    constructor
    · intro gone
      by_contra atKept
      rw [Relationship.key, if_neg atKept] at gone
      contradiction
    · exact fun atRemoved => if_pos atRemoved
  case relationship_kept =>
    intro key relationship found
    rw [relationships] at found
    exact (Option.ite_none_left_eq_some.mp found).2
  case count_eq =>
    apply size_eq_length_removed
    intro key isCollected
    obtain ⟨kind, -, isKind⟩ := typed.kind_of_belongs ((collected key).mp isCollected)
    obtain ⟨node, found, -⟩ := Option.map_eq_some_iff.mp isKind
    exact OrderedMap.contains_iff.mpr ⟨node, found⟩

/-- Of two files that share a class one is deleted, listed twice and among keys that are no files.
The class is gone with its methods and its query, and the issue that this query shares. -/
theorem cleared_deleteFiles_shared :
    let paths := ["a.java", "A", "d.java", "a.java"]
    sharedGraph.WellFormed ∧ sharedGraph.WellTyped ∧
      sharedGraph.Belongs paths "lock" ∧
      sharedGraph.Cleared paths (sharedGraph.deleteFiles paths).1 6 ∧
        (MemoryStore.run (Writing.clearFiles paths) ⟨sharedGraph, none⟩).1 = .ok 6 := by
  intro paths
  have wellFormed : sharedGraph.WellFormed :=
    (wellFormed_empty.withNodes sharedNodes).withRelationships (by decide +kernel)
  have typed : sharedGraph.WellTyped := by
    intro key relationship found
    have each : ∀ relationship ∈ sharedGraph.relationships.values,
        sharedGraph.kindOf? relationship.source = some relationship.type.sourceKind ∧
          sharedGraph.kindOf? relationship.target = some relationship.type.targetKind := by
      decide +kernel
    exact each relationship (OrderedMap.mem_values_iff.mpr ⟨key, found⟩)
  have counted : (sharedGraph.deleteFiles paths).2 = 6 := by
    decide +kernel
  obtain ⟨cleared, ran⟩ := cleared_deleteFiles wellFormed typed paths
  rw [counted] at cleared ran
  have gone : (sharedGraph.deleteFiles paths).1.nodes.find? "lock" = none := by
    decide +kernel
  refine ⟨wellFormed, typed, ?_, cleared, congrArg Prod.fst ran⟩
  exact (cleared.node_removed_iff "lock" (.issue ⟨"lock", "lock", .high, none, none, "p"⟩)
    (by decide +kernel)).mp gone

end Graph

end QueryImpact
