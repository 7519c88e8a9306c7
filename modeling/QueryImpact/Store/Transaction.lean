import QueryImpact.Store.Graph

/-!
# Transactions

A transaction works on a copy of the graph taken when it begins, and keeps the list of its
successful writes.  To commit is to write them again, in order, on the graph as it then is: the
result replaces the graph if every write succeeds, and otherwise nothing happens.
-/

namespace QueryImpact

/-- A write of a transaction. -/
inductive WriteOperation where
  /-- Write nodes. -/
  | nodes (nodes : List Node)
  /-- Write relationships. -/
  | relationships (relationships : List Relationship)
  /-- Delete files with what they contain. -/
  | deleteFiles (paths : List String)
deriving DecidableEq

namespace Graph

/-- Apply a write. -/
def apply (graph : Graph) : WriteOperation → Except StoreError Graph
  | .nodes nodes => (graph.upsertNodes nodes).map (·.1)
  | .relationships relationships => .ok (graph.upsertRelationships relationships).1
  | .deleteFiles paths => .ok (graph.deleteFiles paths).1

/-- Apply writes in order, up to the first that fails. -/
def applyAll (graph : Graph) (operations : List WriteOperation) : Except StoreError Graph :=
  operations.foldlM apply graph

end Graph

/-- An open transaction. -/
structure Transaction where
  /-- The copy it works on. -/
  working : Graph
  /-- Its successful writes, in order. -/
  staged : List WriteOperation
deriving DecidableEq

namespace Transaction

/-- Begin on the given graph. -/
def begin (graph : Graph) : Transaction :=
  ⟨graph, []⟩

/-- Write nodes. -/
def upsertNodes (transaction : Transaction) (nodes : List Node) :
    Except StoreError (Transaction × UpsertStats) :=
  (transaction.working.upsertNodes nodes).map fun result =>
    (⟨result.1, transaction.staged ++ [.nodes nodes]⟩, result.2)

/-- Write relationships. -/
def upsertRelationships (transaction : Transaction) (relationships : List Relationship) :
    Transaction × UpsertStats :=
  let result := transaction.working.upsertRelationships relationships
  (⟨result.1, transaction.staged ++ [.relationships relationships]⟩, result.2)

/-- Delete files. -/
def deleteFiles (transaction : Transaction) (paths : List String) : Transaction × Nat :=
  let result := transaction.working.deleteFiles paths
  (⟨result.1, transaction.staged ++ [.deleteFiles paths]⟩, result.2)

/-- The graph after the commit of a transaction. -/
def commit (transaction : Transaction) (graph : Graph) : Except StoreError Graph :=
  graph.applyAll transaction.staged

end Transaction

end QueryImpact
