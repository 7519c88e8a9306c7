import QueryImpact.Digest.NameIdentifier
import QueryImpact.Graph.Property
import QueryImpact.Query.Statement
import QueryImpact.Severity

/-!
# Nodes

The graph has six kinds of nodes: files, classes, methods, queries, entities and issues.  A node
is known by its key, which is made from the key of the node it belongs to.  Nodes of one kind and
key are the same thing seen several times, and one absorbs the other.
-/

namespace QueryImpact

/-- The kind of a node. -/
inductive NodeKind where
  /-- A source file. -/
  | file
  /-- A class, or a module that acts as one. -/
  | classDef
  /-- A method. -/
  | method
  /-- A query. -/
  | query
  /-- A table or collection. -/
  | entity
  /-- An issue detected on a query. -/
  | issue
deriving DecidableEq

namespace NodeKind

/-- All kinds, from files down to issues. -/
def all : List NodeKind :=
  [file, classDef, method, query, entity, issue]

/-- The label of nodes of the kind. -/
def label : NodeKind → String
  | file => "File"
  | classDef => "Class"
  | method => "Method"
  | query => "Query"
  | entity => "Entity"
  | issue => "Issue"

/-- The name of the kind in JSON. -/
def name : NodeKind → String
  | file => "file"
  | classDef => "class"
  | method => "method"
  | query => "query"
  | entity => "entity"
  | issue => "issue"

/-- The property that people know a node of the kind by. -/
def naturalKey : NodeKind → String
  | file => "path"
  | classDef => "name"
  | method => "signature"
  | query => "line"
  | entity => "name"
  | issue => "kind"

/-- The kind with a given label. -/
def ofLabel? (label : String) : Option NodeKind :=
  all.find? fun kind => kind.label == label

end NodeKind

/-- What kind of data store an entity lives in. -/
inductive StoreKind where
  /-- A relational table. -/
  | table
  /-- A document collection. -/
  | collection
deriving DecidableEq

namespace StoreKind

/-- The name of the store kind. -/
def name : StoreKind → String
  | table => "table"
  | collection => "collection"

/-- The named store kinds. -/
def named : List (String × StoreKind) :=
  [("table", table), ("collection", collection)]

/-- The store kind with a given name. -/
def ofName? (name : String) : Option StoreKind :=
  named.lookup name

/-- The place of a store kind in sorted lists. -/
def rank : StoreKind → Nat
  | table => 0
  | collection => 1

theorem rank_injective {first second : StoreKind} (same : first.rank = second.rank) :
    first = second := by
  cases first <;> cases second <;> first | rfl | cases same

end StoreKind

/-- A source file. -/
structure FileNode where
  /-- The key, which is the path. -/
  key : String
  /-- The path. -/
  path : String
  /-- The programming language; empty when unknown. -/
  language : String
  /-- The size in bytes. -/
  size : Option UInt64
  /-- Whether findings lie in the file. -/
  isTarget : Bool
  /-- How often the file was seen. -/
  occurrences : UInt32
deriving DecidableEq

/-- A class in a file. -/
structure ClassNode where
  /-- The key: file and name. -/
  key : String
  /-- The name. -/
  name : String
  /-- The dotted package. -/
  package : String
  /-- The key of the file. -/
  fileRef : String
  /-- How often the class was seen. -/
  occurrences : UInt32
deriving DecidableEq

/-- A method of a class. -/
structure MethodNode where
  /-- The key: class and signature. -/
  key : String
  /-- The name. -/
  name : String
  /-- The name with the parameter list. -/
  signature : String
  /-- The key of the class. -/
  classRef : String
  /-- How often the method was seen. -/
  occurrences : UInt32
deriving DecidableEq

/-- A query executed by a method. -/
structure QueryNode where
  /-- The key: method, line and digest of the text. -/
  key : String
  /-- The text. -/
  text : String
  /-- The statement type. -/
  statementType : Query.StatementType
  /-- The line. -/
  line : UInt32
  /-- The complexity. -/
  complexity : UInt32
  /-- The key of the method. -/
  methodRef : String
  /-- How often the query was seen. -/
  occurrences : UInt32
deriving DecidableEq

/-- An entity accessed by queries. -/
structure EntityNode where
  /-- The key: store kind and name. -/
  key : String
  /-- The name. -/
  name : String
  /-- Where the entity lives. -/
  storeKind : StoreKind
  /-- How often the entity was seen. -/
  occurrences : UInt32
deriving DecidableEq

/-- An issue detected on a query. -/
structure IssueNode where
  /-- The key: query and kind. -/
  key : String
  /-- The kind of the issue. -/
  kind : String
  /-- How severe it is. -/
  severity : Severity
  /-- A text for the reader. -/
  message : Option String
  /-- How sure the analyzer is. -/
  confidence : Option Float
  /-- The key of the query. -/
  queryRef : String
deriving DecidableEq

namespace FileNode

/-- A file seen once. -/
def ofPath (path language : String) (isTarget : Bool) : FileNode :=
  ⟨path, path, language, none, isTarget, 1⟩

/-- Fold a further sighting of the file into it. -/
def absorb (first second : FileNode) : FileNode :=
  { first with
    occurrences := first.occurrences + second.occurrences
    isTarget := first.isTarget || second.isTarget
    language := if first.language = "" then second.language else first.language
    size := first.size.or second.size }

end FileNode

namespace ClassNode

/-- A class seen once. -/
def ofName (name package fileRef : String) : ClassNode :=
  ⟨fileRef ++ "::" ++ name, name, package, fileRef, 1⟩

/-- Fold a further sighting of the class into it. -/
def absorb (first second : ClassNode) : ClassNode :=
  { first with
    occurrences := first.occurrences + second.occurrences
    package := if first.package = "" then second.package else first.package }

end ClassNode

namespace MethodNode

/-- A method seen once. -/
def ofSignature (name signature classRef : String) : MethodNode :=
  ⟨classRef ++ "::" ++ signature, name, signature, classRef, 1⟩

/-- Fold a further sighting of the method into it. -/
def absorb (first second : MethodNode) : MethodNode :=
  { first with occurrences := first.occurrences + second.occurrences }

end MethodNode

namespace QueryNode

/-- The key of a query: its method, its line and the digest of its trimmed text. -/
def keyOf (methodRef : String) (line : UInt32) (text : String) : String :=
  methodRef ++ "@" ++ toString line.toNat ++ "#" ++ Digest.textIdentifier (Text.trim text)

/-- A query seen once. -/
def ofText (text : String) (statementType : Query.StatementType) (line complexity : UInt32)
    (methodRef : String) : QueryNode :=
  ⟨keyOf methodRef line text, text, statementType, line, complexity, methodRef, 1⟩

/-- Fold a further sighting of the query into it. -/
def absorb (first second : QueryNode) : QueryNode :=
  { first with occurrences := first.occurrences + second.occurrences }

end QueryNode

namespace EntityNode

/-- An entity seen once. -/
def ofName (name : String) (storeKind : StoreKind) : EntityNode :=
  ⟨storeKind.name ++ ":" ++ name, name, storeKind, 1⟩

/-- Fold a further sighting of the entity into it. -/
def absorb (first second : EntityNode) : EntityNode :=
  { first with occurrences := first.occurrences + second.occurrences }

end EntityNode

namespace IssueNode

/-- An issue of a query. -/
def ofKind (kind : String) (severity : Severity) (message : Option String)
    (confidence : Option Float) (queryRef : String) : IssueNode :=
  ⟨queryRef ++ "!" ++ kind, kind, severity, message, confidence, queryRef⟩

/-- The larger of two confidences; an absent one does not count. -/
def maxConfidence : Option Float → Option Float → Option Float
  | some first, some second => some (if first < second then second else first)
  | some first, none => some first
  | none, second => second

/-- Fold a further sighting of the issue into it. -/
def absorb (first second : IssueNode) : IssueNode :=
  { first with
    message := first.message.or second.message
    confidence := maxConfidence first.confidence second.confidence }

end IssueNode

/-- A node of the graph. -/
inductive Node where
  /-- A source file. -/
  | file (node : FileNode)
  /-- A class. -/
  | classDef (node : ClassNode)
  /-- A method. -/
  | method (node : MethodNode)
  /-- A query. -/
  | query (node : QueryNode)
  /-- An entity. -/
  | entity (node : EntityNode)
  /-- An issue. -/
  | issue (node : IssueNode)
deriving DecidableEq

namespace Node

/-- The key of a node. -/
def key : Node → String
  | file node => node.key
  | classDef node => node.key
  | method node => node.key
  | query node => node.key
  | entity node => node.key
  | issue node => node.key

/-- The kind of a node. -/
def kind : Node → NodeKind
  | file _ => .file
  | classDef _ => .classDef
  | method _ => .method
  | query _ => .query
  | entity _ => .entity
  | issue _ => .issue

/-- Whether two nodes are sightings of the same thing: they have one kind and one key. -/
def isSame (first second : Node) : Bool :=
  first.kind = second.kind ∧ first.key = second.key

/-- Fold a further sighting into a node.  The key never changes, and a node of another kind is
ignored. -/
def absorb : Node → Node → Node
  | file first, file second => file (first.absorb second)
  | classDef first, classDef second => classDef (first.absorb second)
  | method first, method second => method (first.absorb second)
  | query first, query second => query (first.absorb second)
  | entity first, entity second => entity (first.absorb second)
  | issue first, issue second => issue (first.absorb second)
  | first, _ => first

/-- The properties of a node, apart from its key, that are written to a store. -/
def properties : Node → Properties
  | file node =>
      .ofList ([("path", .text node.path), ("language", .text node.language)] ++
        (node.size.map fun size => ("size", .ofWord64 size)).toList ++
        [("is_target", .boolean node.isTarget), ("occurrences", .ofWord32 node.occurrences)])
  | classDef node =>
      .ofList [("name", .text node.name), ("package", .text node.package),
        ("file", .text node.fileRef), ("occurrences", .ofWord32 node.occurrences)]
  | method node =>
      .ofList [("name", .text node.name), ("signature", .text node.signature),
        ("class", .text node.classRef), ("occurrences", .ofWord32 node.occurrences)]
  | query node =>
      .ofList [("text", .text node.text), ("query_type", .text node.statementType.name),
        ("line", .ofWord32 node.line), ("complexity", .ofWord32 node.complexity),
        ("method", .text node.methodRef), ("occurrences", .ofWord32 node.occurrences)]
  | entity node =>
      .ofList [("name", .text node.name), ("store_kind", .text node.storeKind.name),
        ("occurrences", .ofWord32 node.occurrences)]
  | issue node =>
      .ofList ([("kind", .text node.kind), ("severity", .text node.severity.name)] ++
        (node.message.map fun message => ("message", .text message)).toList ++
        (node.confidence.map fun confidence => ("confidence", .float confidence)).toList ++
        [("query", .text node.queryRef)])

/-- Absorbing leaves the kind alone. -/
@[simp]
theorem kind_absorb (first second : Node) : (first.absorb second).kind = first.kind := by
  cases first <;> cases second <;> rfl

/-- Absorbing leaves the key alone. -/
@[simp]
theorem key_absorb (first second : Node) : (first.absorb second).key = first.key := by
  cases first <;> cases second <;> rfl

end Node

end QueryImpact
