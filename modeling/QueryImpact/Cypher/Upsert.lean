import QueryImpact.Cypher.Dialogue
import QueryImpact.Import

/-!
# Writes to a graph database

Every call of a writing program as a script.  Nodes are written kind by kind, and before the nodes
of a kind are merged the database is asked whether one of their keys belongs to a node of another
kind.  Relationships are written type by type.
-/

namespace QueryImpact.Cypher.Dialogue

/-- The kinds of nodes in a batch, each with its nodes in the order of the batch. -/
def nodeGroups (nodes : List Node) : List (NodeKind × List Node) :=
  (NodeKind.all.map fun kind => (kind, nodes.filter fun node => node.kind = kind)).filter
    fun group => !group.2.isEmpty

/-- The types of relationships in a batch, each with its relationships in the order of the
batch. -/
def relationshipGroups (relationships : List Relationship) :
    List (RelationshipType × List Relationship) :=
  (RelationshipType.all.map fun type =>
    (type, relationships.filter fun relationship => relationship.type = type)).filter
      fun group => !group.2.isEmpty

/-- Fail when a key of the nodes belongs to a stored node of another kind. -/
def checkConflict (kind : NodeKind) (nodes : List Node) : Dialogue Unit := do
  let rows ← fetch (.findConflict nodes)
  match rows with
  | [] => pure ()
  | row :: _ => do
      let key ← row.text "key"
      let existing ← row.text "existing"
      throw (.conflict key existing kind)

/-- Check and merge the nodes of one kind. -/
def mergeKind (kind : NodeKind) (nodes : List Node) : Dialogue UpsertStats := do
  checkConflict kind nodes
  let created ← fetchCount (.mergeNodes kind nodes) "created"
  pure ⟨created, nodes.length - created, 0⟩

/-- Merge the relationships of one type. -/
def mergeType (type : RelationshipType) (relationships : List Relationship) :
    Dialogue UpsertStats := do
  let rows ← fetch (.mergeRelationships type relationships)
  let created ← Row.firstCount rows "created"
  let written ← Row.firstCount rows "written"
  pure ⟨created, written - created, relationships.length - written⟩

/-- Do a piece of work for each group and add the counts up. -/
def sumGroups {γ : Type} (work : γ → Dialogue UpsertStats) (stats : UpsertStats) :
    List γ → Dialogue UpsertStats
  | [] => pure stats
  | group :: rest => do
      let added ← work group
      sumGroups work (stats.add added) rest

/-- Write nodes, kind by kind. -/
def upsertNodes (nodes : List Node) : Dialogue UpsertStats :=
  sumGroups (fun group => mergeKind group.1 group.2) .none (nodeGroups nodes)

/-- Write relationships, type by type. -/
def upsertRelationships (relationships : List Relationship) : Dialogue UpsertStats :=
  sumGroups (fun group => mergeType group.1 group.2) .none (relationshipGroups relationships)

/-- Delete files with what they contain; no files need no statement. -/
def deleteFiles (paths : List String) : Dialogue Nat :=
  if paths = [] then pure 0 else fetchCount (.deleteFiles paths) "removed"

/-- Make a call of a writing program; a pause is no matter of the database. -/
def write : (call : WriteCall) → Script call.Answer
  | .begin => (tell .begin).run
  | .upsertNodes nodes => (upsertNodes nodes).run
  | .upsertRelationships relationships => (upsertRelationships relationships).run
  | .deleteFiles paths => (deleteFiles paths).run
  | .commit => (tell .commit).run
  | .rollback => (tell .rollback).run
  | .pause _ => .done ()

end QueryImpact.Cypher.Dialogue
