import QueryImpact.Json.Value
import QueryImpact.Store.Lookup

/-!
# Risky files

Files ranked by the number of issues of their queries.
-/

namespace QueryImpact

/-- Which files count as risky. -/
structure RiskyFilesQuery where
  /-- The least number of issues; with zero, files without issues are listed too. -/
  minIssues : Nat
  /-- The severities that count; none given means all of them. -/
  severities : List Severity
  /-- The largest number of files in the answer. -/
  limit : Nat
deriving DecidableEq

namespace RiskyFilesQuery

/-- The ten files with the most issues. -/
def plain : RiskyFilesQuery :=
  ⟨1, [], 10⟩

end RiskyFilesQuery

/-- A file with issues. -/
structure RiskyFile where
  /-- Its path. -/
  path : String
  /-- The number of its issues. -/
  issueCount : Nat
  /-- The number of its issues by severity. -/
  bySeverity : OrderedMap Severity Nat
deriving DecidableEq

namespace RiskyFile

/-- A file before its issues are counted. -/
def ofPath (path : String) : RiskyFile :=
  ⟨path, 0, .empty⟩

/-- Count issues of a severity. -/
def add (file : RiskyFile) (severity : Severity) (issues : Nat) : RiskyFile :=
  { file with
    issueCount := file.issueCount + issues
    bySeverity := file.bySeverity.alter severity 0 (· + issues) }

/-- Count the issues of a row. -/
def addRow (files : OrderedMap String RiskyFile) (row : FileIssueRow) :
    OrderedMap String RiskyFile :=
  files.alter row.filePath (ofPath row.filePath) fun file => file.add row.severity row.issues

/-- More issues first, then by path. -/
def order : RiskyFile → RiskyFile → Ordering :=
  compareLex (fun a b => compare b.issueCount a.issueCount) (compareOn RiskyFile.path)

/-- The riskiest files first, without those that have too few issues. -/
def rank (query : RiskyFilesQuery) (files : OrderedMap String RiskyFile) : List RiskyFile :=
  ((files.values.filter fun file => query.minIssues ≤ file.issueCount).mergeSort
    fun a b => (order a b).isLE).take query.limit

/-- Find the riskiest files. -/
def find (query : RiskyFilesQuery) : Analysis (List RiskyFile) := do
  let rows : List FileIssueRow ← Analysis.ask (.fileIssueCounts query.severities)
  if query.minIssues = 0 then do
    let paths : List String ← Analysis.ask .filePaths
    let files := OrderedMap.ofList (paths.map fun path => (path, ofPath path))
    pure (rank query (rows.foldl addRow files))
  else pure (rank query (rows.foldl addRow .empty))

/-- The JSON form of a risky file. -/
def toJson (file : RiskyFile) : Json :=
  .object
    [("by_severity", .object (file.bySeverity.entries.map fun entry =>
        (entry.1.name, .count entry.2))),
      ("issue_count", .count file.issueCount), ("path", .string file.path)]

end RiskyFile

end QueryImpact
