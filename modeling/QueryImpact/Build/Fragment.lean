import QueryImpact.Finding
import QueryImpact.Graph.Node
import QueryImpact.Graph.Relationship
import QueryImpact.Link
import QueryImpact.Location
import QueryImpact.Query.Entity

/-!
# Graph fragments

A finding says that a method in a class in a file executes a query, that the query accesses
entities, and that it has issues.  A link says that a file depends on a file or that a method
calls a method.  A fragment lists the nodes and relationships that one such report gives rise to,
in the order in which they are mentioned.
-/

namespace QueryImpact

/-- How reports are turned into parts of the graph. -/
structure Builder where
  /-- The location strategies, tried in order. -/
  strategies : List LocationStrategy
  /-- Where entities live. -/
  storeKind : StoreKind

namespace Builder

/-- The builder for Java locations and relational tables. -/
def java : Builder :=
  ⟨[.java], .table⟩

/-- Read a location by the first strategy that applies. -/
def parse? (builder : Builder) (location : String) : Option SourceLocation :=
  LocationStrategy.parseFirst? builder.strategies location

end Builder

/-- Nodes and relationships in the order in which they are mentioned. -/
structure Fragment where
  /-- The mentioned nodes. -/
  nodes : List Node
  /-- The mentioned relationships. -/
  relationships : List Relationship
deriving DecidableEq

namespace Fragment

/-- One fragment after another. -/
def append (first second : Fragment) : Fragment :=
  ⟨first.nodes ++ second.nodes, first.relationships ++ second.relationships⟩

instance : Append Fragment :=
  ⟨append⟩

end Fragment

namespace SourceLocation

/-- The file of a location. -/
def fileNode (location : SourceLocation) (isTarget : Bool) : FileNode :=
  .ofPath location.filePath location.language isTarget

/-- The class of a location. -/
def classNode (location : SourceLocation) : ClassNode :=
  .ofName location.className location.package location.filePath

/-- The method of a location. -/
def methodNode (location : SourceLocation) : MethodNode :=
  .ofSignature location.methodName location.signature location.classNode.key

/-- The file, the class and the method of a location, and how they hang together. -/
def fragment (location : SourceLocation) (isTarget : Bool) : Fragment where
  nodes :=
    [.file (location.fileNode isTarget), .classDef location.classNode,
      .method location.methodNode]
  relationships :=
    [.plain location.filePath location.classNode.key .contains,
      .plain location.classNode.key location.methodNode.key .defines]

end SourceLocation

namespace Fragment

/-- An issue of a query. -/
def ofIssue (query : String) (issue : FindingIssue) : Fragment :=
  let node := IssueNode.ofKind issue.kind issue.severity issue.message issue.confidence query
  ⟨[.issue node], [.plain query node.key .hasIssue]⟩

/-- An entity that a query accesses. -/
def ofEntity (storeKind : StoreKind) (query : String) (operation : AccessOperation)
    (name : String) : Fragment :=
  let node := EntityNode.ofName name storeKind
  ⟨[.entity node], [.accesses query node.key operation]⟩

/-- A text as the query of a location. -/
def queryNode (location : SourceLocation) (text : String) : QueryNode :=
  .ofText text (Query.statementType text) location.line (UInt32.ofNat (Query.complexity text))
    location.methodNode.key

/-- How a query uses its entities: it reads them if it selects, else it may write them. -/
def operationOf (text : String) : AccessOperation :=
  if (Query.statementType text).isRead then .read else .write

/-- What a finding at a location says: the member, its query, the issues of the query, and the
entities it accesses. -/
def ofLocatedFinding (storeKind : StoreKind) (location : SourceLocation) (finding : Finding) :
    Fragment :=
  let text := Text.trim finding.queryText
  let query := queryNode location text
  location.fragment true ++
    ⟨[.query query], [.plain location.methodNode.key query.key .executes]⟩ ++
    (finding.issues.map (ofIssue query.key)).foldr append ⟨[], []⟩ ++
    ((Query.entities text).map (ofEntity storeKind query.key (operationOf text))).foldr append
      ⟨[], []⟩

/-- What a finding says, when it keeps the rules and its location can be read. -/
def ofFinding (builder : Builder) (finding : Finding) : Except InputError Fragment :=
  match finding.validate with
  | .error cause => .error cause
  | .ok _ =>
      match builder.parse? finding.sourceLocation with
      | none => .error (.unparseableLocation finding.sourceLocation)
      | some location => .ok (ofLocatedFinding builder.storeKind location finding)

/-- A file that is known only by its path. -/
def linkedFile (path : String) : FileNode :=
  .ofPath path ((Path.language? path.toList).getD "") false

/-- What a link says, when neither end is blank or unreadable. -/
def ofLink? (builder : Builder) (link : Link) : Option Fragment :=
  match link.kind with
  | .dependsOn =>
      let source := Text.trim link.source
      let target := Text.trim link.target
      if source = "" ∨ target = "" then none
      else
        some ⟨[.file (linkedFile source), .file (linkedFile target)],
          [.plain source target .dependsOn]⟩
  | .calls =>
      match builder.parse? link.source, builder.parse? link.target with
      | some caller, some callee =>
          some (caller.fragment false ++ callee.fragment false ++
            ⟨[], [.plain caller.methodNode.key callee.methodNode.key .calls]⟩)
      | _, _ => none

end Fragment

end QueryImpact
