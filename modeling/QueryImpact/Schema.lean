import QueryImpact.Graph.Node
import QueryImpact.Text.Lowercase

/-!
# The schema of a graph database

Every node carries the common label, so that keys are unique across kinds.  Each kind has a
uniqueness constraint on its key and an index on the property it is known by.
-/

namespace QueryImpact

/-- A uniqueness constraint or an index. -/
structure SchemaElement where
  /-- Its name. -/
  name : String
  /-- The label of the nodes it is about. -/
  label : String
  /-- The property it is about. -/
  property : String
  /-- Whether it is a uniqueness constraint. -/
  unique : Bool
deriving DecidableEq

namespace Schema

/-- The label that every node carries. -/
def commonLabel : String :=
  "GraphNode"

/-- The property that holds the label of a node's kind. -/
def kindProperty : String :=
  "node_kind"

/-- The constraint on the keys of a kind. -/
def keyConstraint (kind : NodeKind) : SchemaElement :=
  ⟨Text.lowercase kind.label ++ "_key", kind.label, "key", true⟩

/-- The index on the property that nodes of a kind are known by. -/
def naturalIndex (kind : NodeKind) : SchemaElement :=
  ⟨Text.lowercase kind.label ++ "_" ++ kind.naturalKey, kind.label, kind.naturalKey, false⟩

/-- All elements: the constraint on all keys, then those of each kind. -/
def elements : List SchemaElement :=
  ⟨"graph_node_key", commonLabel, "key", true⟩ ::
    NodeKind.all.flatMap fun kind => [keyConstraint kind, naturalIndex kind]

end Schema

namespace SchemaElement

/-- The statement that creates an element unless it exists. -/
def statement (element : SchemaElement) : String :=
  if element.unique then
    "CREATE CONSTRAINT " ++ element.name ++ " IF NOT EXISTS FOR (n:" ++ element.label ++
      ") REQUIRE n." ++ element.property ++ " IS UNIQUE"
  else
    "CREATE INDEX " ++ element.name ++ " IF NOT EXISTS FOR (n:" ++ element.label ++ ") ON (n." ++
      element.property ++ ")"

end SchemaElement

end QueryImpact
