import Mathlib
import QueryImpact.Cypher.Statement
import QueryImpact.Proofs.OrderedMap

/-!
# What rows carry

The rows of a statement can be read back from its parameters.  The row of a node tells its key, the
label of its kind and its properties, and together these tell every field of the node.  The row of
a relationship tells the keys of its ends and its properties.
-/

namespace QueryImpact

/-! ## Reading properties -/

namespace Properties

variable (properties : Properties)

/-- The text under a name. -/
def text? (name : String) : Option String :=
  (properties.find? name).bind PropertyValue.text?

/-- The truth value under a name. -/
def boolean? (name : String) : Option Bool :=
  match properties.find? name with
  | some (.boolean value) => some value
  | _ => none

/-- The floating-point number under a name. -/
def float? (name : String) : Option Float :=
  match properties.find? name with
  | some (.float value) => some value
  | _ => none

/-- The unsigned integer of 64 bits under a name. -/
def word64? (name : String) : Option UInt64 :=
  ((properties.find? name).bind PropertyValue.integer?).map Int64.toUInt64

/-- The unsigned integer of 32 bits under a name. -/
def word32? (name : String) : Option UInt32 :=
  (properties.word64? name).map UInt64.toUInt32

/-- The one of some named values of which the name is the text under a name. -/
def oneOf? {α : Type} (values : List α) (nameOf : α → String) (name : String) : Option α :=
  (properties.text? name).bind fun text => values.find? fun value => nameOf value = text

end Properties

theorem Query.StatementType.find?_name (type : StatementType) :
    StatementType.all.find? (fun other => other.name = type.name) = some type := by
  cases type <;> decide

theorem StoreKind.ofName?_name (kind : StoreKind) : ofName? kind.name = some kind := by
  cases kind <;> decide

theorem Severity.find?_name (severity : Severity) :
    Severity.all.find? (fun other => other.name = severity.name) = some severity := by
  cases severity <;> decide

namespace Cypher

namespace Value

/-- A value that is a text. -/
def text? : Value → Option String
  | text value => some value
  | _ => none

/-- The value under a name in a map. -/
def entry? (name : String) : Value → Option Value
  | map entries => entries.lookup name
  | _ => none

/-- A value that is a property. -/
def property? : Value → Option PropertyValue
  | text value => some (.text value)
  | integer value => some (.integer value)
  | float value => some (.float value)
  | boolean value => some (.boolean value)
  | _ => none

/-- A map of properties. -/
def properties? : Value → Option Properties
  | map entries =>
      (entries.mapM fun entry => (property? entry.2).map (entry.1, ·)).map OrderedMap.ofList
  | _ => none

@[simp]
theorem property?_ofProperty (property : PropertyValue) :
    (ofProperty property).property? = some property := by
  cases property <;> rfl

@[simp]
theorem properties?_ofProperties (properties : Properties) :
    (ofProperties properties).properties? = some properties := by
  have read : (properties.entries.map fun entry => (entry.1, ofProperty entry.2)).mapM
      (fun entry => (property? entry.2).map (entry.1, ·)) = some properties.entries := by
    have each : (fun entry : String × Value => (property? entry.2).map (entry.1, ·)) ∘
        (fun entry : String × PropertyValue => (entry.1, ofProperty entry.2)) = some := by
      funext entry
      simp
    rw [List.mapM_map, each]
    exact List.mapM_pure.trans (congrArg some (List.map_id _))
  rw [ofProperties, properties?, read, Option.map_some, OrderedMap.ofList_entries]

end Value

/-! ## Rows of nodes -/

/-- What the row of a node tells. -/
structure NodeRow where
  /-- The key of the node. -/
  key : String
  /-- The label of its kind. -/
  label : String
  /-- Its properties. -/
  properties : Properties
deriving DecidableEq

namespace NodeRow

/-- Read a row. -/
def read? (row : Value) : Option NodeRow := do
  let key ← (row.entry? "key").bind Value.text?
  let label ← (row.entry? "kind").bind Value.text?
  let properties ← (row.entry? "props").bind Value.properties?
  pure ⟨key, label, properties⟩

@[simp]
theorem read?_nodeRow (node : Node) :
    read? (nodeRow node) = some ⟨node.key, node.kind.label, node.properties⟩ := by
  simp [read?, nodeRow, Value.entry?, Value.text?, List.lookup]

/-- The node that a row tells. -/
def node? (row : NodeRow) : Option Node := do
  let kind ← NodeKind.ofLabel? row.label
  let properties := row.properties
  match kind with
  | .file =>
      let path ← properties.text? "path"
      let language ← properties.text? "language"
      let isTarget ← properties.boolean? "is_target"
      let occurrences ← properties.word32? "occurrences"
      pure (.file ⟨row.key, path, language, properties.word64? "size", isTarget, occurrences⟩)
  | .classDef =>
      let name ← properties.text? "name"
      let package ← properties.text? "package"
      let fileRef ← properties.text? "file"
      let occurrences ← properties.word32? "occurrences"
      pure (.classDef ⟨row.key, name, package, fileRef, occurrences⟩)
  | .method =>
      let name ← properties.text? "name"
      let signature ← properties.text? "signature"
      let classRef ← properties.text? "class"
      let occurrences ← properties.word32? "occurrences"
      pure (.method ⟨row.key, name, signature, classRef, occurrences⟩)
  | .query =>
      let text ← properties.text? "text"
      let type ← properties.oneOf? Query.StatementType.all Query.StatementType.name "query_type"
      let line ← properties.word32? "line"
      let complexity ← properties.word32? "complexity"
      let methodRef ← properties.text? "method"
      let occurrences ← properties.word32? "occurrences"
      pure (.query ⟨row.key, text, type, line, complexity, methodRef, occurrences⟩)
  | .entity =>
      let name ← properties.text? "name"
      let storeKind ← (properties.text? "store_kind").bind StoreKind.ofName?
      let occurrences ← properties.word32? "occurrences"
      pure (.entity ⟨row.key, name, storeKind, occurrences⟩)
  | .issue =>
      let kind ← properties.text? "kind"
      let severity ← properties.oneOf? Severity.all Severity.name "severity"
      let queryRef ← properties.text? "query"
      pure (.issue ⟨row.key, kind, severity, properties.text? "message",
        properties.float? "confidence", queryRef⟩)

/-- A key, the label of a kind and properties tell every field of a node. -/
theorem node?_eq_some (node : Node) :
    node? ⟨node.key, node.kind.label, node.properties⟩ = some node := by
  rcases node with ⟨_, _, _, _ | _, _, _⟩ | _ | _ | _ | _ | ⟨_, _, _, _ | _, _ | _, _⟩ <;>
    simp [node?, Node.key, Node.kind, Node.properties, NodeKind.ofLabel?, NodeKind.all,
      NodeKind.label, OrderedMap.ofList, OrderedMap.find?_insert, Properties.text?,
      Properties.boolean?, Properties.float?, Properties.word64?, Properties.word32?,
      Properties.oneOf?, PropertyValue.text?, PropertyValue.integer?, PropertyValue.ofWord32,
      PropertyValue.ofWord64, Query.StatementType.find?_name, StoreKind.ofName?_name,
      Severity.find?_name]

end NodeRow

/-! ## Rows of relationships -/

/-- What the row of a relationship tells. -/
structure RelationshipRow where
  /-- The key of the node it leaves. -/
  source : String
  /-- The key of the node it enters. -/
  target : String
  /-- Its properties. -/
  properties : Properties
deriving DecidableEq

namespace RelationshipRow

/-- Read a row. -/
def read? (row : Value) : Option RelationshipRow := do
  let source ← (row.entry? "source").bind Value.text?
  let target ← (row.entry? "target").bind Value.text?
  let properties ← (row.entry? "props").bind Value.properties?
  pure ⟨source, target, properties⟩

@[simp]
theorem read?_relationshipRow (relationship : Relationship) :
    read? (relationshipRow relationship) =
      some ⟨relationship.source, relationship.target, relationship.properties⟩ := by
  simp [read?, relationshipRow, Value.entry?, Value.text?, List.lookup]

end RelationshipRow

/-! ## Rows of statements -/

namespace Statement

/-- The rows among the parameters of a statement. -/
def rows (statement : Statement) : List Value :=
  match statement.parameters.lookup "rows" with
  | some (.list rows) => rows
  | _ => []

theorem rows_findConflict (nodes : List Node) :
    (findConflict nodes).rows = nodes.map nodeRow := by
  simp [rows, parameters]

theorem rows_mergeNodes (kind : NodeKind) (nodes : List Node) :
    (mergeNodes kind nodes).rows = nodes.map nodeRow := by
  simp [rows, parameters]

theorem rows_mergeRelationships (type : RelationshipType) (relationships : List Relationship) :
    (mergeRelationships type relationships).rows = relationships.map relationshipRow := by
  simp [rows, parameters]

end Statement

end Cypher

end QueryImpact
