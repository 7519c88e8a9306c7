import QueryImpact.Cypher.Value
import QueryImpact.Schema
import QueryImpact.Store.Lookup

/-!
# Statements

The statements that are sent to a graph database, each with its text and its parameters.  Values
never become part of a text: they travel as parameters.  Nodes and relationships are merged
by the batch, so a statement carries a list of rows.
-/

namespace QueryImpact.Cypher

/-- The row of a node: its key, the label of its kind and its properties. -/
def nodeRow (node : Node) : Value :=
  .map
    [("key", .text node.key),
      ("kind", .text node.kind.label),
      ("props", .ofProperties node.properties)]

/-- The row of a relationship: the keys of its ends and its properties. -/
def relationshipRow (relationship : Relationship) : Value :=
  .map
    [("source", .text relationship.source),
      ("target", .text relationship.target),
      ("props", .ofProperties relationship.properties)]

/-- A statement. -/
inductive Statement where
  /-- Ask for a number, to see whether the database answers. -/
  | ping
  /-- Create an element of the schema. -/
  | schema (element : SchemaElement)
  /-- Count the nodes. -/
  | countNodes
  /-- Count the relationships. -/
  | countRelationships
  /-- Count the files with a path. -/
  | countFiles (path : String)
  /-- The keys of the entities with a name. -/
  | entityKeys (name : String)
  /-- The ways from files to the entities with a name. -/
  | entityAccesses (name : String)
  /-- The issues of queries. -/
  | queryIssues (keys : List String)
  /-- The files one dependency away from files. -/
  | neighbors (files : List String) (direction : EdgeDirection)
  /-- All dependencies between files. -/
  | dependencyEdges
  /-- Count the classes and methods of files. -/
  | members (files : List String)
  /-- The keys of the classes with a name. -/
  | classKeys (name : String)
  /-- The ways from the classes with a name to entities. -/
  | classAccesses (name : String)
  /-- The number of issues by file and severity. -/
  | fileIssueCounts (severities : List Severity)
  /-- The paths of all files. -/
  | filePaths
  /-- Look for a stored node of another kind with the key of one of the nodes. -/
  | findConflict (nodes : List Node)
  /-- Merge nodes, all of one kind. -/
  | mergeNodes (kind : NodeKind) (nodes : List Node)
  /-- Merge relationships, all of one type. -/
  | mergeRelationships (type : RelationshipType) (relationships : List Relationship)
  /-- Delete files with what they contain. -/
  | deleteFiles (paths : List String)
deriving DecidableEq

namespace Statement

/-- A node pattern: a variable, a label, and the expression that its key equals. -/
def keyed (variableName label expression : String) : String :=
  "(" ++ variableName ++ ":" ++ label ++ " \x7bkey: " ++ expression ++ "\x7d)"

/-- The pattern of a dependency of the file `a` in a direction. -/
def dependencyPattern : EdgeDirection → String
  | .outgoing => keyed "a" "File" "path" ++ "-[:DEPENDS_ON]->(b:File)"
  | .incoming => keyed "a" "File" "path" ++ "<-[:DEPENDS_ON]-(b:File)"

/-- The text of the statement that merges nodes of a kind. -/
def mergeNodesText (kind : NodeKind) : String :=
  "UNWIND $rows AS row OPTIONAL MATCH " ++ keyed "existing" Schema.commonLabel "row.key" ++
    " WITH row, existing IS NULL AS is_new MERGE " ++ keyed "n" Schema.commonLabel "row.key" ++
    " SET n += row.props, n." ++ Schema.kindProperty ++ " = row.kind, n:" ++ kind.label ++
    " RETURN sum(CASE WHEN is_new THEN 1 ELSE 0 END) AS created"

/-- The text of the statement that merges relationships of a type. -/
def mergeRelationshipsText (type : RelationshipType) : String :=
  "UNWIND $rows AS row MATCH " ++ keyed "a" Schema.commonLabel "row.source" ++ " MATCH " ++
    keyed "b" Schema.commonLabel "row.target" ++ " OPTIONAL MATCH (a)-[existing:" ++ type.name ++
    "]->(b) WITH a, b, row, existing IS NULL AS is_new MERGE (a)-[r:" ++ type.name ++
    "]->(b) SET r += row.props RETURN sum(CASE WHEN is_new THEN 1 ELSE 0 END) AS created, " ++
    "count(*) AS written"

/-- The text of the statement that deletes files. -/
def deleteFilesText : String :=
  "UNWIND $paths AS path MATCH " ++ keyed "f" "File" "path" ++
    " OPTIONAL MATCH (f)-[:CONTAINS]->(c:Class) OPTIONAL MATCH (c)-[:DEFINES]->(m:Method) " ++
    "OPTIONAL MATCH (m)-[:EXECUTES]->(q:Query) OPTIONAL MATCH (q)-[:HAS_ISSUE]->(i:Issue) " ++
    "WITH collect(DISTINCT f) + collect(DISTINCT c) + collect(DISTINCT m) " ++
    "+ collect(DISTINCT q) + collect(DISTINCT i) AS doomed UNWIND doomed AS n " ++
    "WITH DISTINCT n WITH collect(n) AS nodes FOREACH (x IN nodes | DETACH DELETE x) " ++
    "RETURN size(nodes) AS removed"

/-- The text of a statement. -/
def text : Statement → String
  | ping => "RETURN 1"
  | schema element => element.statement
  | countNodes => "MATCH (n:" ++ Schema.commonLabel ++ ") RETURN count(n) AS total"
  | countRelationships =>
      "MATCH (:" ++ Schema.commonLabel ++ ")-[r]->(:" ++ Schema.commonLabel ++
        ") RETURN count(r) AS total"
  | countFiles _ => "MATCH " ++ keyed "f" "File" "$path" ++ " RETURN count(f) AS total"
  | entityKeys _ =>
      "MATCH (e:Entity) WHERE toLower(e.name) = toLower($name) RETURN e.key AS key ORDER BY key"
  | entityAccesses _ =>
      "MATCH (f:File)-[:CONTAINS]->(c:Class)-[:DEFINES]->(m:Method)" ++
        "-[:EXECUTES]->(q:Query)-[a:ACCESSES]->(e:Entity) " ++
        "WHERE toLower(e.name) = toLower($name) " ++
        "RETURN f.key AS file_path, c.key AS class_key, m.key AS method_key, " ++
        "q.key AS query_key, a.operation AS operation"
  | queryIssues _ =>
      "UNWIND $keys AS key MATCH " ++ keyed "q" "Query" "key" ++ "-[:HAS_ISSUE]->(i:Issue) " ++
        "RETURN q.key AS query_key, i.key AS issue_key, i.kind AS kind, " ++
        "i.severity AS severity, i.message AS message"
  | neighbors _ direction =>
      "UNWIND $files AS path MATCH " ++ dependencyPattern direction ++
        " RETURN a.key AS frontier, b.key AS neighbor ORDER BY frontier, neighbor"
  | dependencyEdges =>
      "MATCH (a:File)-[:DEPENDS_ON]->(b:File) RETURN a.key AS source, b.key AS target"
  | members _ =>
      "UNWIND $files AS path MATCH " ++ keyed "f" "File" "path" ++ "-[:CONTAINS]->(c:Class) " ++
        "OPTIONAL MATCH (c)-[:DEFINES]->(m:Method) " ++
        "RETURN count(DISTINCT c) AS classes, count(DISTINCT m) AS methods"
  | classKeys _ => "MATCH (c:Class \x7bname: $name\x7d) RETURN c.key AS key ORDER BY key"
  | classAccesses _ =>
      "MATCH (c:Class \x7bname: $name\x7d)-[:DEFINES]->(:Method)" ++
        "-[:EXECUTES]->(q:Query)-[a:ACCESSES]->(e:Entity) " ++
        "RETURN c.key AS class_key, e.name AS entity_name, e.store_kind AS store_kind, " ++
        "q.key AS query_key, a.operation AS operation"
  | fileIssueCounts _ =>
      "MATCH (f:File)-[:CONTAINS]->(:Class)-[:DEFINES]->(:Method)" ++
        "-[:EXECUTES]->(:Query)-[:HAS_ISSUE]->(i:Issue) " ++
        "WHERE size($severities) = 0 OR i.severity IN $severities " ++
        "RETURN f.key AS file_path, i.severity AS severity, count(DISTINCT i) AS issues"
  | filePaths => "MATCH (f:File) RETURN f.key AS path"
  | findConflict _ =>
      "UNWIND $rows AS row MATCH " ++ keyed "n" Schema.commonLabel "row.key" ++ " WHERE n." ++
        Schema.kindProperty ++ " <> row.kind RETURN n.key AS key, n." ++ Schema.kindProperty ++
        " AS existing LIMIT 1"
  | mergeNodes kind _ => mergeNodesText kind
  | mergeRelationships type _ => mergeRelationshipsText type
  | deleteFiles _ => deleteFilesText

/-- The parameters of a statement by name. -/
def parameters : Statement → List (String × Value)
  | ping => []
  | schema _ => []
  | countNodes => []
  | countRelationships => []
  | countFiles path => [("path", .text path)]
  | entityKeys name => [("name", .text name)]
  | entityAccesses name => [("name", .text name)]
  | queryIssues keys => [("keys", .texts keys)]
  | neighbors files _ => [("files", .texts files)]
  | dependencyEdges => []
  | members files => [("files", .texts files)]
  | classKeys name => [("name", .text name)]
  | classAccesses name => [("name", .text name)]
  | fileIssueCounts severities => [("severities", .texts (severities.map Severity.name))]
  | filePaths => []
  | findConflict nodes => [("rows", .list (nodes.map nodeRow))]
  | mergeNodes _ nodes => [("rows", .list (nodes.map nodeRow))]
  | mergeRelationships _ relationships => [("rows", .list (relationships.map relationshipRow))]
  | deleteFiles paths => [("paths", .texts paths)]

/-- Whether a statement merges nodes or relationships. -/
def isMerge : Statement → Bool
  | mergeNodes _ _ => true
  | mergeRelationships _ _ => true
  | _ => false

end Statement

end QueryImpact.Cypher
