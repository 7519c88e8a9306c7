import QueryImpact.Program
import QueryImpact.Store.Graph

/-!
# Look-ups

The questions that analyses put to a store, with the type of each answer, and the answers that a
stored graph gives.  Rows come in the order of the relationships they are read from.
-/

namespace QueryImpact

/-- Which way dependencies are followed. -/
inductive EdgeDirection where
  /-- From a file to the files it depends on. -/
  | outgoing
  /-- From a file to the files that depend on it. -/
  | incoming
deriving DecidableEq

/-- How large a graph is. -/
structure GraphCounts where
  /-- The number of nodes. -/
  nodes : Nat
  /-- The number of relationships. -/
  relationships : Nat
deriving DecidableEq

/-- One way from a file through a class, a method and a query to an entity. -/
structure AccessRow where
  /-- The path of the file. -/
  filePath : String
  /-- The key of the class. -/
  classKey : String
  /-- The key of the method. -/
  methodKey : String
  /-- The key of the query. -/
  queryKey : String
  /-- How the query uses the entity. -/
  operation : AccessOperation
deriving DecidableEq

/-- An issue of a query. -/
structure IssueRow where
  /-- The key of the query. -/
  queryKey : String
  /-- The key of the issue. -/
  issueKey : String
  /-- The kind of the issue. -/
  kind : String
  /-- How severe it is. -/
  severity : Severity
  /-- A text for the reader. -/
  message : Option String
deriving DecidableEq

/-- One way from a class through a method and a query to an entity. -/
structure ClassAccessRow where
  /-- The key of the class. -/
  classKey : String
  /-- The name of the entity. -/
  entityName : String
  /-- Where the entity lives. -/
  storeKind : StoreKind
  /-- The key of the query. -/
  queryKey : String
  /-- How the query uses the entity. -/
  operation : AccessOperation
deriving DecidableEq

/-- How many issues of a severity a file has. -/
structure FileIssueRow where
  /-- The path of the file. -/
  filePath : String
  /-- The severity. -/
  severity : Severity
  /-- The number of issues. -/
  issues : Nat
deriving DecidableEq

/-- How many classes and methods some files contain. -/
structure MemberCounts where
  /-- The number of classes. -/
  classes : Nat
  /-- The number of methods. -/
  methods : Nat
deriving DecidableEq

/-- A question to a store. -/
inductive Lookup where
  /-- Whether the store answers at all. -/
  | ping
  /-- How large the graph is. -/
  | counts
  /-- Whether there is a file with the path. -/
  | fileExists (path : String)
  /-- The keys of the entities with the name, in whatever letter case. -/
  | entityKeys (name : String)
  /-- The ways from files to the entities with the name. -/
  | entityAccesses (name : String)
  /-- The issues of the queries with the keys. -/
  | queryIssues (keys : List String)
  /-- For each of the files, the files one dependency away; as pairs. -/
  | neighbors (files : List String) (direction : EdgeDirection)
  /-- All dependencies between files; as pairs. -/
  | dependencyEdges
  /-- How many classes and methods the files contain. -/
  | members (files : List String)
  /-- The keys of the classes with the name. -/
  | classKeys (name : String)
  /-- The ways from the classes with the name to entities. -/
  | classAccesses (name : String)
  /-- The number of issues by file and severity; no severity given means all of them. -/
  | fileIssueCounts (severities : List Severity)
  /-- The paths of all files. -/
  | filePaths
deriving DecidableEq

namespace Lookup

/-- The type of the answer to a question. -/
def Answer : Lookup → Type
  | ping => Unit
  | counts => GraphCounts
  | fileExists _ => Bool
  | entityKeys _ => List String
  | entityAccesses _ => List AccessRow
  | queryIssues _ => List IssueRow
  | neighbors _ _ => List (String × String)
  | dependencyEdges => List (String × String)
  | members _ => MemberCounts
  | classKeys _ => List String
  | classAccesses _ => List ClassAccessRow
  | fileIssueCounts _ => List FileIssueRow
  | filePaths => List String

end Lookup

/-- An analysis: a program that only asks questions. -/
abbrev Analysis (α : Type) : Type :=
  Program Lookup Lookup.Answer α

namespace Graph

/-- The sources of the edges of a type that enter a node. -/
def sourcesOf (graph : Graph) (type : RelationshipType) (target : String) : List String :=
  ((graph.edges type).filter fun edge => edge.target = target).map Relationship.source

/-- The edges of a type that leave a node. -/
def edgesFrom (graph : Graph) (type : RelationshipType) (source : String) : List Relationship :=
  (graph.edges type).filter fun edge => edge.source = source

/-- The targets of the edges of a type that leave a node. -/
def targetsOf (graph : Graph) (type : RelationshipType) (source : String) : List String :=
  (graph.edgesFrom type source).map Relationship.target

/-- The targets of the edges of a type that leave one of the nodes. -/
def step (graph : Graph) (keys : OrderedSet String) (type : RelationshipType) :
    OrderedSet String :=
  .ofList (((graph.edges type).filter fun edge => keys.contains edge.source).map
    Relationship.target)

/-- Whether two names are the same apart from the case of their ASCII letters. -/
def sameName (first second : String) : Bool :=
  first.toList.map Char.toLower = second.toList.map Char.toLower

/-- The keys of the entities with a name. -/
def entityKeys (graph : Graph) (name : String) : List String :=
  graph.nodes.values.filterMap fun node =>
    match node with
    | .entity entity => if sameName entity.name name then some entity.key else none
    | _ => none

/-- The keys of the classes with a name. -/
def classKeys (graph : Graph) (name : String) : List String :=
  graph.nodes.values.filterMap fun node =>
    match node with
    | .classDef node => if node.name = name then some node.key else none
    | _ => none

/-- How an access uses its entity; an access that does not say so reads. -/
def accessOperation (access : Relationship) : AccessOperation :=
  access.operation?.getD .read

/-- The ways from files to the entities with a name. -/
def entityAccesses (graph : Graph) (name : String) : List AccessRow :=
  let entities := OrderedSet.ofList (graph.entityKeys name)
  ((graph.edges .accesses).filter fun edge => entities.contains edge.target).flatMap
    fun access => (graph.sourcesOf .executes access.source).flatMap
      fun method => (graph.sourcesOf .defines method).flatMap
        fun classKey => (graph.sourcesOf .contains classKey).map
          fun file => ⟨file, classKey, method, access.source, accessOperation access⟩

/-- The issues of queries. -/
def queryIssues (graph : Graph) (keys : List String) : List IssueRow :=
  ((graph.edges .hasIssue).filter fun edge => edge.source ∈ keys).filterMap fun edge =>
    match graph.nodes.find? edge.target with
    | some (.issue issue) =>
        some ⟨edge.source, issue.key, issue.kind, issue.severity, issue.message⟩
    | _ => none

/-- A dependency seen in a direction: where one comes from and where one gets to. -/
def orient (direction : EdgeDirection) (edge : Relationship) : String × String :=
  match direction with
  | .outgoing => (edge.source, edge.target)
  | .incoming => (edge.target, edge.source)

/-- For each of the files, the files one dependency away. -/
def neighbors (graph : Graph) (files : List String) (direction : EdgeDirection) :
    List (String × String) :=
  ((graph.edges .dependsOn).map (orient direction)).filter fun pair => pair.1 ∈ files

/-- All dependencies between files. -/
def dependencyEdges (graph : Graph) : List (String × String) :=
  (graph.edges .dependsOn).map fun edge => (edge.source, edge.target)

/-- How many classes and methods some files contain. -/
def memberCounts (graph : Graph) (files : List String) : MemberCounts :=
  let classes := graph.step (.ofList files) .contains
  let methods := graph.step classes .defines
  ⟨classes.size, methods.size⟩

/-- The ways from the classes with a name to entities. -/
def classAccesses (graph : Graph) (name : String) : List ClassAccessRow :=
  (OrderedSet.ofList (graph.classKeys name)).toList.flatMap
    fun classKey => (graph.targetsOf .defines classKey).flatMap
      fun method => (graph.targetsOf .executes method).flatMap
        fun query => (graph.edgesFrom .accesses query).filterMap
          fun access =>
            match graph.nodes.find? access.target with
            | some (.entity entity) =>
                some ⟨classKey, entity.name, entity.storeKind, query, accessOperation access⟩
            | _ => none

/-- The keys of the files. -/
def filePaths (graph : Graph) : List String :=
  (graph.nodes.values.filter fun node => node.kind = .file).map Node.key

/-- The keys at the ends of the ways from a file down to issues. -/
def issueKeys (graph : Graph) (file : String) : OrderedSet String :=
  .ofList ((graph.targetsOf .contains file).flatMap
    fun classKey => (graph.targetsOf .defines classKey).flatMap
      fun method => (graph.targetsOf .executes method).flatMap
        fun query => graph.targetsOf .hasIssue query)

/-- The severities of the issues of a file, each issue once. -/
def issueSeverities (graph : Graph) (file : String) : List Severity :=
  (graph.issueKeys file).toList.filterMap fun key =>
    match graph.nodes.find? key with
    | some (.issue issue) => some issue.severity
    | _ => none

/-- The number of issues by file and severity. -/
def fileIssueCounts (graph : Graph) (severities : List Severity) : List FileIssueRow :=
  graph.filePaths.flatMap fun file =>
    let found := graph.issueSeverities file
    Severity.all.filterMap fun severity =>
      let issues := found.count severity
      if (severities = [] ∨ severity ∈ severities) ∧ 0 < issues then
        some ⟨file, severity, issues⟩
      else none

/-- The answer of a stored graph to a question. -/
def answer (graph : Graph) : (question : Lookup) → question.Answer
  | .ping => ()
  | .counts => ⟨graph.nodes.size, graph.relationships.size⟩
  | .fileExists path => graph.isFile path
  | .entityKeys name => (OrderedSet.ofList (graph.entityKeys name)).toList
  | .entityAccesses name => graph.entityAccesses name
  | .queryIssues keys => graph.queryIssues keys
  | .neighbors files direction => graph.neighbors files direction
  | .dependencyEdges => graph.dependencyEdges
  | .members files => graph.memberCounts files
  | .classKeys name => (OrderedSet.ofList (graph.classKeys name)).toList
  | .classAccesses name => graph.classAccesses name
  | .fileIssueCounts severities => graph.fileIssueCounts severities
  | .filePaths => graph.filePaths

end Graph

namespace Analysis

/-- Ask a question. -/
def ask (question : Lookup) : Analysis question.Answer :=
  Program.ask question

/-- The result of an analysis on a stored graph. -/
def on {α : Type} (analysis : Analysis α) (graph : Graph) : α :=
  Id.run (Program.run (m := Id) graph.answer analysis)

end Analysis

end QueryImpact
