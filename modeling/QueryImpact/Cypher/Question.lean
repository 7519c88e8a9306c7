import QueryImpact.Cypher.Connection

/-!
# Questions to a graph database

Every look-up as a dialogue: the statements that are sent, and the answer that is read from the
rows.
-/

namespace QueryImpact.Cypher.Dialogue

/-- How large the graph is: both counts are asked for before one is read. -/
def counts : Dialogue GraphCounts := do
  let nodes ← fetch .countNodes
  let relationships ← fetch .countRelationships
  let nodeCount ← Row.firstCount nodes "total"
  let relationshipCount ← Row.firstCount relationships "total"
  pure ⟨nodeCount, relationshipCount⟩

/-- How many classes and methods some files contain. -/
def members (files : List String) : Dialogue MemberCounts := do
  let rows ← fetch (.members files)
  let classes ← Row.firstCount rows "classes"
  let methods ← Row.firstCount rows "methods"
  pure ⟨classes, methods⟩

/-- Answer a question.  A question about no queries or no files needs no statement. -/
def answer : (question : Lookup) → Dialogue question.Answer
  | .ping => ping
  | .counts => counts
  | .fileExists path => do
      let total ← fetchCount (.countFiles path) "total"
      pure (decide (0 < total) : Bool)
  | .entityKeys name => fetchAll (.entityKeys name) (Row.text · "key")
  | .entityAccesses name => fetchAll (.entityAccesses name) Row.access
  | .queryIssues keys =>
      if keys = [] then pure ([] : List IssueRow) else fetchAll (.queryIssues keys) Row.issue
  | .neighbors files direction =>
      if files = [] then pure ([] : List (String × String))
      else fetchAll (.neighbors files direction) (Row.pair "frontier" "neighbor")
  | .dependencyEdges => fetchAll .dependencyEdges (Row.pair "source" "target")
  | .members files => if files = [] then pure (⟨0, 0⟩ : MemberCounts) else members files
  | .classKeys name => fetchAll (.classKeys name) (Row.text · "key")
  | .classAccesses name => fetchAll (.classAccesses name) Row.classAccess
  | .fileIssueCounts severities => fetchAll (.fileIssueCounts severities) Row.fileIssues
  | .filePaths => fetchAll .filePaths (Row.text · "path")

end QueryImpact.Cypher.Dialogue
