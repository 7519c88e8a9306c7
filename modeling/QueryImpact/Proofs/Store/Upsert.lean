import QueryImpact.Proofs.OrderedMap
import QueryImpact.Store.Graph

/-!
# What a batch leaves

A batch of nodes overwrites the nodes under its keys.  A batch of relationships overwrites those
under its keys as well, apart from the relationships that lack an end.  The counts of a batch tell
how many of its elements were written and how many were left out, and an element whose key is there
already does not count as new.
-/

namespace QueryImpact

namespace UpsertStats

/-- Some elements more were written, as new or as replacing others, and some more left out. -/
structure Counts (before after : UpsertStats) (written missing : Nat) : Prop where
  /-- The elements written. -/
  written : after.created + after.updated = before.created + before.updated + written
  /-- The elements left out. -/
  missing : after.missingEndpoints = before.missingEndpoints + missing

variable {stats after : UpsertStats} {written missing : Nat}

theorem Counts.after_countWrite {replaced : Bool}
    (counts : (stats.countWrite replaced).Counts after written missing) :
    stats.Counts after (written + 1) missing := by
  obtain ⟨writtenAfter, missingAfter⟩ := counts
  cases replaced with
  | true =>
      constructor
      · rw [writtenAfter]
        change stats.created + (stats.updated + 1) + written = _
        omega
      · exact missingAfter
  | false =>
      constructor
      · rw [writtenAfter]
        change stats.created + 1 + stats.updated + written = _
        omega
      · exact missingAfter

theorem Counts.after_countMissing (counts : stats.countMissing.Counts after written missing) :
    stats.Counts after written (missing + 1) := by
  obtain ⟨writtenAfter, missingAfter⟩ := counts
  constructor
  · exact writtenAfter
  · rw [missingAfter]
    change stats.missingEndpoints + 1 + missing = _
    omega

end UpsertStats

namespace Graph

/-! ## Nodes -/

/-- The graph with some nodes stored under their keys. -/
def withNodes (graph : Graph) (nodes : List Node) : Graph :=
  { graph with nodes := graph.nodes.overwrite Node.key nodes }

theorem withNodes_append (graph : Graph) (first second : List Node) :
    graph.withNodes (first ++ second) = (graph.withNodes first).withNodes second := by
  simp [withNodes, OrderedMap.overwrite]

theorem foldl_putNode_fst (graph : Graph) (stats : UpsertStats) (nodes : List Node) :
    (nodes.foldl putNode (graph, stats)).1 = graph.withNodes nodes := by
  induction nodes generalizing graph stats with
  | nil => rfl
  | cons node rest ih => exact ih _ _

/-- Every node of a batch is counted once. -/
theorem foldl_putNode_counts (graph : Graph) (stats : UpsertStats) (nodes : List Node) :
    stats.Counts (nodes.foldl putNode (graph, stats)).2 nodes.length 0 := by
  induction nodes generalizing graph stats with
  | nil => exact ⟨rfl, rfl⟩
  | cons node rest ih => exact (ih _ _).after_countWrite

/-- Nodes whose keys are there already are not new. -/
theorem foldl_putNode_created {graph : Graph} (stats : UpsertStats) {nodes : List Node}
    (stored : ∀ node ∈ nodes, graph.nodes.contains node.key = true) :
    (nodes.foldl putNode (graph, stats)).2.created = stats.created := by
  induction nodes generalizing graph stats with
  | nil => rfl
  | cons node rest ih =>
      obtain ⟨here, later⟩ := List.forall_mem_cons.mp stored
      rw [List.foldl_cons, putNode, here]
      apply ih
      intro other member
      exact OrderedMap.contains_insert.mpr (Or.inr (later other member))

/-! ## Relationships -/

/-- Whether both ends of a relationship are stored. -/
def hasEnds (graph : Graph) (relationship : Relationship) : Bool :=
  graph.nodes.contains relationship.source && graph.nodes.contains relationship.target

/-- The graph with some relationships stored under their keys. -/
def withRelationships (graph : Graph) (relationships : List Relationship) : Graph :=
  { graph with
    relationships := graph.relationships.overwrite Relationship.key relationships }

theorem withRelationships_append (graph : Graph) (first second : List Relationship) :
    graph.withRelationships (first ++ second) =
      (graph.withRelationships first).withRelationships second := by
  simp [withRelationships, OrderedMap.overwrite]

@[simp]
theorem hasEnds_withRelationships (graph : Graph) (relationships : List Relationship) :
    (graph.withRelationships relationships).hasEnds = graph.hasEnds :=
  rfl

/-- The relationships that have their ends are written. -/
theorem foldl_putRelationship_fst (graph : Graph) (stats : UpsertStats)
    (relationships : List Relationship) :
    (relationships.foldl putRelationship (graph, stats)).1 =
      graph.withRelationships (relationships.filter graph.hasEnds) := by
  induction relationships generalizing graph stats with
  | nil => rfl
  | cons relationship rest ih =>
      rw [List.foldl_cons, putRelationship, List.filter_cons, hasEnds]
      split
      · exact ih _ _
      · exact ih _ _

theorem upsertRelationships_fst (graph : Graph) (relationships : List Relationship) :
    (graph.upsertRelationships relationships).1 =
      graph.withRelationships (relationships.filter graph.hasEnds) :=
  foldl_putRelationship_fst graph .none relationships

/-- Every relationship of a batch is counted once: it has its ends and is written, or it is left
out. -/
theorem foldl_putRelationship_counts (graph : Graph) (stats : UpsertStats)
    (relationships : List Relationship) :
    stats.Counts (relationships.foldl putRelationship (graph, stats)).2
      (relationships.countP graph.hasEnds)
      (relationships.countP fun relationship => !graph.hasEnds relationship) := by
  induction relationships generalizing graph stats with
  | nil => exact ⟨rfl, rfl⟩
  | cons relationship rest ih =>
      rw [List.foldl_cons, putRelationship, List.countP_cons, List.countP_cons, hasEnds]
      split
      · rename_i ends
        rw [ends]
        exact (ih _ _).after_countWrite
      · rename_i lacks
        rw [Bool.not_eq_true] at lacks
        rw [lacks]
        exact (ih _ _).after_countMissing

/-- Relationships whose keys are there already are not new. -/
theorem foldl_putRelationship_created {graph : Graph} (stats : UpsertStats)
    {relationships : List Relationship}
    (stored : ∀ relationship ∈ relationships, graph.hasEnds relationship = true →
      graph.relationships.contains relationship.key = true) :
    (relationships.foldl putRelationship (graph, stats)).2.created = stats.created := by
  induction relationships generalizing graph stats with
  | nil => rfl
  | cons relationship rest ih =>
      obtain ⟨here, later⟩ := List.forall_mem_cons.mp stored
      rw [List.foldl_cons, putRelationship]
      split
      · rename_i ends
        rw [here ends]
        apply ih
        intro other member otherEnds
        exact OrderedMap.contains_insert.mpr (Or.inr (later other member otherEnds))
      · exact ih _ later

end Graph

end QueryImpact
