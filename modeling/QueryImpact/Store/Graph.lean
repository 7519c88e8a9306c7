import QueryImpact.Graph.Relationship
import QueryImpact.Store.Error

/-!
# The stored graph

A stored graph has at most one node per key and at most one relationship per source, target and
type.  Nodes are written in batches: a batch whose keys clash with nodes of another kind is
refused as a whole.  A relationship is written only if both of its ends are there.  Files are
deleted together with what they contain.
-/

namespace QueryImpact

/-- What a batch of writes has done. -/
structure UpsertStats where
  /-- How many elements are new. -/
  created : Nat
  /-- How many elements have replaced one with the same key. -/
  updated : Nat
  /-- How many relationships were left out because an end is missing. -/
  missingEndpoints : Nat
deriving DecidableEq

namespace UpsertStats

/-- Nothing was written. -/
def none : UpsertStats :=
  ⟨0, 0, 0⟩

/-- Two batches together. -/
def add (first second : UpsertStats) : UpsertStats :=
  ⟨first.created + second.created, first.updated + second.updated,
    first.missingEndpoints + second.missingEndpoints⟩

/-- One more element was written; it replaced another one or is new. -/
def countWrite (stats : UpsertStats) (replaced : Bool) : UpsertStats :=
  if replaced then { stats with updated := stats.updated + 1 }
  else { stats with created := stats.created + 1 }

/-- One more relationship was left out. -/
def countMissing (stats : UpsertStats) : UpsertStats :=
  { stats with missingEndpoints := stats.missingEndpoints + 1 }

end UpsertStats

/-- Nodes by key, and relationships by source, target and type. -/
structure Graph where
  /-- The nodes. -/
  nodes : OrderedMap String Node
  /-- The relationships. -/
  relationships : OrderedMap RelationshipKey Relationship
deriving DecidableEq

namespace Graph

/-- The graph without nodes. -/
def empty : Graph :=
  ⟨.empty, .empty⟩

/-! ## Writing nodes -/

/-- The kind that a key is bound to: by the stored node, else by the nodes of the batch that have
been looked at. -/
def boundKind? (graph : Graph) (seen : List Node) (key : String) : Option NodeKind :=
  ((graph.nodes.find? key).map Node.kind).or
    ((seen.find? fun node => node.key = key).map Node.kind)

/-- The first conflict of a batch with the graph or within itself; `seen` holds the nodes already
looked at, the last one first. -/
def conflict? (graph : Graph) (seen : List Node) : List Node → Option StoreError
  | [] => none
  | node :: rest =>
      match graph.boundKind? seen node.key with
      | some kind =>
          if kind = node.kind then graph.conflict? (node :: seen) rest
          else some (.conflict node.key kind.label node.kind)
      | none => graph.conflict? (node :: seen) rest

/-- Store one node. -/
def putNode (state : Graph × UpsertStats) (node : Node) : Graph × UpsertStats :=
  let graph := state.1
  ({ graph with nodes := graph.nodes.insert node.key node },
    state.2.countWrite (graph.nodes.contains node.key))

/-- Write a batch of nodes, all or none of them. -/
def upsertNodes (graph : Graph) (nodes : List Node) : Except StoreError (Graph × UpsertStats) :=
  match graph.conflict? [] nodes with
  | some error => .error error
  | none => .ok (nodes.foldl putNode (graph, .none))

/-! ## Writing relationships -/

/-- Store one relationship, unless one of its ends is missing. -/
def putRelationship (state : Graph × UpsertStats) (relationship : Relationship) :
    Graph × UpsertStats :=
  let graph := state.1
  if graph.nodes.contains relationship.source && graph.nodes.contains relationship.target then
    ({ graph with
        relationships := graph.relationships.insert relationship.key relationship },
      state.2.countWrite (graph.relationships.contains relationship.key))
  else (graph, state.2.countMissing)

/-- Write a batch of relationships. -/
def upsertRelationships (graph : Graph) (relationships : List Relationship) :
    Graph × UpsertStats :=
  relationships.foldl putRelationship (graph, .none)

/-! ## Deleting files -/

/-- The relationships of a type, in key order. -/
def edges (graph : Graph) (type : RelationshipType) : List Relationship :=
  graph.relationships.values.filter fun relationship => relationship.type = type

/-- Whether a key is that of a file. -/
def isFile (graph : Graph) (key : String) : Bool :=
  match graph.nodes.find? key with
  | some (.file _) => true
  | _ => false

/-- The types that lead from a file down to the issues of its queries. -/
def containment : List RelationshipType :=
  [.contains, .defines, .executes, .hasIssue]

/-- Add the targets of all edges of a type that leave the set. -/
def extend (graph : Graph) (keys : OrderedSet String) (type : RelationshipType) :
    OrderedSet String :=
  (((graph.edges type).filter fun edge => keys.contains edge.source).map
    Relationship.target).foldl OrderedSet.add keys

/-- The keys that go with the listed files: the files, and layer by layer what they contain. -/
def doomedKeys (graph : Graph) (paths : List String) : OrderedSet String :=
  containment.foldl graph.extend (.ofList (paths.filter graph.isFile))

/-- Remove the nodes with the given keys and all relationships at them. -/
def removeKeys (graph : Graph) (keys : OrderedSet String) : Graph where
  nodes := graph.nodes.filter fun key _ => !keys.contains key
  relationships := graph.relationships.filter fun key _ =>
    !keys.contains key.source && !keys.contains key.target

/-- Delete files with their classes, methods, queries and issues; also tell how many keys were
given up. -/
def deleteFiles (graph : Graph) (paths : List String) : Graph × Nat :=
  let doomed := graph.doomedKeys paths
  (graph.removeKeys doomed, doomed.size)

end Graph

end QueryImpact
