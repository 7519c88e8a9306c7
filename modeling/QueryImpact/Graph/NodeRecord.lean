import QueryImpact.Graph.Node
import QueryImpact.Json.Record

/-!
# The record format of nodes

A node is a tagged record: the member `node_type` names its kind, and the other members are its
fields.  Members that are no fields are ignored.
-/

namespace QueryImpact

open QueryImpact.Json (RecordFormat FieldValues Field Decoder DecodeError)

/-- A word of 32 bits as JSON. -/
def Json.word32 (value : UInt32) : Json :=
  .integer value.toNat

namespace Query.StatementType

/-- Decode a statement type inside a tagged record. -/
def decode : Decoder StatementType :=
  Decoder.variant .nullOrEmpty (all.map fun type => (type.name, type))

end Query.StatementType

namespace StoreKind

/-- Decode a store kind inside a tagged record. -/
def decode : Decoder StoreKind :=
  Decoder.variant .nullOrEmpty named

end StoreKind

namespace FileNode

/-- The fields of a file. -/
def format : RecordFormat where
  title := "struct FileNode"
  fields :=
    [Field.of "key" Decoder.text, Field.of "path" Decoder.text,
      Field.of "language" Decoder.text, Field.of "size" (Decoder.optional Decoder.word64),
      Field.of "is_target" Decoder.boolean, Field.of "occurrences" Decoder.word32]
  closed := false

/-- Build a file from its fields. -/
def ofFields (values : FieldValues) : Except DecodeError FileNode := do
  let key ← format.required values "key" Decoder.text
  let path ← format.required values "path" Decoder.text
  let language ← format.required values "language" Decoder.text
  let size ← format.nullable values "size" Decoder.word64
  let isTarget ← format.required values "is_target" Decoder.boolean
  let occurrences ← format.required values "occurrences" Decoder.word32
  pure ⟨key, path, language, size, isTarget, occurrences⟩

/-- The JSON form of a file. -/
def toJson (node : FileNode) : Json :=
  .object
    [("is_target", .bool node.isTarget), ("key", .string node.key),
      ("language", .string node.language), ("node_type", .string "file"),
      ("occurrences", .word32 node.occurrences), ("path", .string node.path),
      ("size", .ofOption (fun size => .integer size.toNat) node.size)]

end FileNode

namespace ClassNode

/-- The fields of a class. -/
def format : RecordFormat where
  title := "struct ClassNode"
  fields :=
    [Field.of "key" Decoder.text, Field.of "name" Decoder.text,
      Field.of "package" Decoder.text, Field.of "file_ref" Decoder.text,
      Field.of "occurrences" Decoder.word32]
  closed := false

/-- Build a class from its fields. -/
def ofFields (values : FieldValues) : Except DecodeError ClassNode := do
  let key ← format.required values "key" Decoder.text
  let name ← format.required values "name" Decoder.text
  let package ← format.required values "package" Decoder.text
  let fileRef ← format.required values "file_ref" Decoder.text
  let occurrences ← format.required values "occurrences" Decoder.word32
  pure ⟨key, name, package, fileRef, occurrences⟩

/-- The JSON form of a class. -/
def toJson (node : ClassNode) : Json :=
  .object
    [("file_ref", .string node.fileRef), ("key", .string node.key),
      ("name", .string node.name), ("node_type", .string "class"),
      ("occurrences", .word32 node.occurrences), ("package", .string node.package)]

end ClassNode

namespace MethodNode

/-- The fields of a method. -/
def format : RecordFormat where
  title := "struct MethodNode"
  fields :=
    [Field.of "key" Decoder.text, Field.of "name" Decoder.text,
      Field.of "signature" Decoder.text, Field.of "class_ref" Decoder.text,
      Field.of "occurrences" Decoder.word32]
  closed := false

/-- Build a method from its fields. -/
def ofFields (values : FieldValues) : Except DecodeError MethodNode := do
  let key ← format.required values "key" Decoder.text
  let name ← format.required values "name" Decoder.text
  let signature ← format.required values "signature" Decoder.text
  let classRef ← format.required values "class_ref" Decoder.text
  let occurrences ← format.required values "occurrences" Decoder.word32
  pure ⟨key, name, signature, classRef, occurrences⟩

/-- The JSON form of a method. -/
def toJson (node : MethodNode) : Json :=
  .object
    [("class_ref", .string node.classRef), ("key", .string node.key),
      ("name", .string node.name), ("node_type", .string "method"),
      ("occurrences", .word32 node.occurrences), ("signature", .string node.signature)]

end MethodNode

namespace QueryNode

/-- The fields of a query. -/
def format : RecordFormat where
  title := "struct QueryNode"
  fields :=
    [Field.of "key" Decoder.text, Field.of "text" Decoder.text,
      Field.of "query_type" Query.StatementType.decode, Field.of "line" Decoder.word32,
      Field.of "complexity" Decoder.word32, Field.of "method_ref" Decoder.text,
      Field.of "occurrences" Decoder.word32]
  closed := false

/-- Build a query from its fields. -/
def ofFields (values : FieldValues) : Except DecodeError QueryNode := do
  let key ← format.required values "key" Decoder.text
  let text ← format.required values "text" Decoder.text
  let statementType ← format.required values "query_type" Query.StatementType.decode
  let line ← format.required values "line" Decoder.word32
  let complexity ← format.required values "complexity" Decoder.word32
  let methodRef ← format.required values "method_ref" Decoder.text
  let occurrences ← format.required values "occurrences" Decoder.word32
  pure ⟨key, text, statementType, line, complexity, methodRef, occurrences⟩

/-- The JSON form of a query. -/
def toJson (node : QueryNode) : Json :=
  .object
    [("complexity", .word32 node.complexity), ("key", .string node.key),
      ("line", .word32 node.line), ("method_ref", .string node.methodRef),
      ("node_type", .string "query"), ("occurrences", .word32 node.occurrences),
      ("query_type", .string node.statementType.name), ("text", .string node.text)]

end QueryNode

namespace EntityNode

/-- The fields of an entity. -/
def format : RecordFormat where
  title := "struct EntityNode"
  fields :=
    [Field.of "key" Decoder.text, Field.of "name" Decoder.text,
      Field.of "store_kind" StoreKind.decode, Field.of "occurrences" Decoder.word32]
  closed := false

/-- Build an entity from its fields. -/
def ofFields (values : FieldValues) : Except DecodeError EntityNode := do
  let key ← format.required values "key" Decoder.text
  let name ← format.required values "name" Decoder.text
  let storeKind ← format.required values "store_kind" StoreKind.decode
  let occurrences ← format.required values "occurrences" Decoder.word32
  pure ⟨key, name, storeKind, occurrences⟩

/-- The JSON form of an entity. -/
def toJson (node : EntityNode) : Json :=
  .object
    [("key", .string node.key), ("name", .string node.name), ("node_type", .string "entity"),
      ("occurrences", .word32 node.occurrences), ("store_kind", .string node.storeKind.name)]

end EntityNode

namespace IssueNode

/-- The fields of an issue. -/
def format : RecordFormat where
  title := "struct IssueNode"
  fields :=
    [Field.of "key" Decoder.text, Field.of "kind" Decoder.text,
      Field.of "severity" Severity.decode, Field.of "message" (Decoder.optional Decoder.text),
      Field.of "confidence" (Decoder.optional Decoder.number),
      Field.of "query_ref" Decoder.text]
  closed := false

/-- Build an issue from its fields. -/
def ofFields (values : FieldValues) : Except DecodeError IssueNode := do
  let key ← format.required values "key" Decoder.text
  let kind ← format.required values "kind" Decoder.text
  let severity ← format.required values "severity" Severity.decode
  let message ← format.nullable values "message" Decoder.text
  let confidence ← format.nullable values "confidence" Decoder.number
  let queryRef ← format.required values "query_ref" Decoder.text
  pure ⟨key, kind, severity, message, confidence, queryRef⟩

/-- The JSON form of an issue. -/
def toJson (node : IssueNode) : Json :=
  .object
    [("confidence", .ofOption .number node.confidence), ("key", .string node.key),
      ("kind", .string node.kind), ("message", .ofOption .string node.message),
      ("node_type", .string "issue"), ("query_ref", .string node.queryRef),
      ("severity", node.severity.toJson)]

end IssueNode

namespace Node

/-- Decode a node. -/
def decode : Decoder Node :=
  Json.tagged "Node" "node_type"
    [("file", fun value => (FileNode.format.readTagged FileNode.ofFields value).map file),
      ("class",
        fun value => (ClassNode.format.readTagged ClassNode.ofFields value).map classDef),
      ("method",
        fun value => (MethodNode.format.readTagged MethodNode.ofFields value).map method),
      ("query", fun value => (QueryNode.format.readTagged QueryNode.ofFields value).map query),
      ("entity",
        fun value => (EntityNode.format.readTagged EntityNode.ofFields value).map entity),
      ("issue", fun value => (IssueNode.format.readTagged IssueNode.ofFields value).map issue)]

/-- The JSON form of a node. -/
def toJson : Node → Json
  | file node => node.toJson
  | classDef node => node.toJson
  | method node => node.toJson
  | query node => node.toJson
  | entity node => node.toJson
  | issue node => node.toJson

end Node

end QueryImpact
