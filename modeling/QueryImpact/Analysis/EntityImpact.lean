import QueryImpact.Risk
import QueryImpact.Store.Lookup

/-!
# Impact of an entity

The files, classes and methods whose queries access an entity, how many queries read and write
it, and the issues of these queries.
-/

namespace QueryImpact

/-- What changes if an entity changes. -/
structure EntityImpact where
  /-- The name asked for. -/
  entityName : String
  /-- Whether there is an entity with the name. -/
  found : Bool
  /-- The affected files, in order. -/
  affectedFiles : List String
  /-- The number of affected classes. -/
  affectedClasses : Nat
  /-- The number of affected methods. -/
  affectedMethods : Nat
  /-- The number of queries by operation; operations that do not occur are left out. -/
  accessPatterns : List (AccessOperation × Nat)
  /-- The issues by severity, each group by issue key; empty groups are left out. -/
  issuesBySeverity : List (Severity × List IssueRow)
  /-- The risk of the change. -/
  risk : Risk
deriving DecidableEq

namespace EntityImpact

/-- The impact of an unknown entity. -/
def unknown (name : String) : EntityImpact :=
  ⟨name, false, [], 0, 0, [], [], .none⟩

/-- The number of issues. -/
def issueCount (impact : EntityImpact) : Nat :=
  (impact.issuesBySeverity.flatMap fun group => group.2).length

/-- The number of queries that use the entity in a certain way. -/
def queriesWith (rows : List AccessRow) (operation : AccessOperation) : Nat :=
  (OrderedSet.ofList
    ((rows.filter fun row => row.operation = operation).map AccessRow.queryKey)).size

/-- The number of queries by operation. -/
def patterns (rows : List AccessRow) : List (AccessOperation × Nat) :=
  AccessOperation.all.filterMap fun operation =>
    let queries := queriesWith rows operation
    if queries = 0 then none else some (operation, queries)

/-- Issues in order of their keys. -/
def sortIssues (issues : List IssueRow) : List IssueRow :=
  issues.mergeSort fun a b => (compare a.issueKey b.issueKey).isLE

/-- The issues by severity; of several rows for one issue the first counts. -/
def groupIssues (issues : List IssueRow) : List (Severity × List IssueRow) :=
  let distinct := issues.eraseDupsBy fun a b => a.issueKey = b.issueKey
  Severity.all.filterMap fun severity =>
    let group := distinct.filter fun issue => issue.severity = severity
    if group = [] then none else some (severity, sortIssues group)

/-- Find what changes if an entity changes. -/
def analyze (name : String) : Analysis EntityImpact := do
  let keys : List String ← Analysis.ask (.entityKeys name)
  if keys = [] then pure (unknown name)
  else do
    let rows : List AccessRow ← Analysis.ask (.entityAccesses name)
    let files := OrderedSet.ofList (rows.map AccessRow.filePath)
    let classes := OrderedSet.ofList (rows.map AccessRow.classKey)
    let methods := OrderedSet.ofList (rows.map AccessRow.methodKey)
    let queries := OrderedSet.ofList (rows.map AccessRow.queryKey)
    let issues : List IssueRow ← Analysis.ask (.queryIssues queries.toList)
    pure {
      entityName := name
      found := true
      affectedFiles := files.toList
      affectedClasses := classes.size
      affectedMethods := methods.size
      accessPatterns := patterns rows
      issuesBySeverity := groupIssues issues
      risk := .assess files.size classes.size methods.size }

/-- The JSON form of an issue. -/
def issueJson (issue : IssueRow) : Json :=
  .object
    [("issue_key", .string issue.issueKey), ("kind", .string issue.kind),
      ("message", .ofOption .string issue.message), ("query_key", .string issue.queryKey),
      ("severity", issue.severity.toJson)]

/-- The JSON form of an impact. -/
def toJson (impact : EntityImpact) : Json :=
  .object
    [("access_patterns", .object (impact.accessPatterns.map fun pattern =>
        (pattern.1.name, .count pattern.2))),
      ("affected_classes", .count impact.affectedClasses),
      ("affected_files", .texts impact.affectedFiles),
      ("affected_methods", .count impact.affectedMethods),
      ("entity_name", .string impact.entityName), ("found", .bool impact.found),
      ("issue_count", .count impact.issueCount),
      ("issues_by_severity", .object (impact.issuesBySeverity.map fun group =>
        (group.1.name, .array (group.2.map issueJson)))),
      ("risk", impact.risk.toJson)]

end EntityImpact

end QueryImpact
