import QueryImpact.Store.Error
import QueryImpact.Store.Lookup

/-!
# Rows

What a graph database answers to a statement: rows of named columns.  A column is read as a text
or as a count; a negative count is none at all, and so is the count of an answer without rows.
-/

namespace QueryImpact.Cypher

/-- A row: the values of its columns by name. -/
abbrev Row : Type :=
  List (String × Json)

/-- Why a column cannot be read. -/
inductive ColumnFault where
  /-- There is no such column. -/
  | absent
  /-- The value is of another type. -/
  | invalidType (value : Json.Found) (expected : String)
deriving DecidableEq

namespace ColumnFault

/-- How a message names a value of the wrong type. -/
def foundName : Json.Found → String
  | .null => "unit value"
  | found => found.message

/-- The wording of a column fault. -/
def message : ColumnFault → String
  | absent => "The property does not exist"
  | invalidType found expected => "Invalid type: " ++ foundName found ++ ", expected " ++ expected

/-- The error of a statement whose answer lacks a column. -/
def toStoreError (column : String) (fault : ColumnFault) : StoreError :=
  .failed ("Missing column '" ++ column ++ "': " ++ fault.message)

end ColumnFault

namespace Row

/-- The text in a column. -/
def textIn (row : Row) (column : String) : Except ColumnFault String :=
  match row.lookup column with
  | some (.string text) => .ok text
  | some value => .error (.invalidType value.found "a string")
  | none => .error .absent

/-- The whole number in a column. -/
def integerIn (row : Row) (column : String) : Except ColumnFault Int :=
  match row.lookup column with
  | some (.integer value) => .ok value
  | some value => .error (.invalidType value.found "i64")
  | none => .error .absent

/-- The text in a column that must be there. -/
def text (row : Row) (column : String) : Except StoreError String :=
  (row.textIn column).mapError (ColumnFault.toStoreError column)

/-- The count in a column that must be there. -/
def count (row : Row) (column : String) : Except StoreError Nat := do
  let value ← (row.integerIn column).mapError (ColumnFault.toStoreError column)
  pure value.toNat

/-- The text in a column, when there is one. -/
def text? (row : Row) (column : String) : Option String :=
  (row.textIn column).toOption

/-- The severity in a column. -/
def severity (row : Row) (column : String) : Except StoreError Severity := do
  let name ← row.text column
  match Severity.parse? name with
  | some severity => pure severity
  | none => throw (.input (.malformed (.unknownSeverity (Severity.normalizeName name))))

/-- How an access uses its entity; a row that does not say so is about reading. -/
def operation (row : Row) : AccessOperation :=
  ((row.text? "operation").bind AccessOperation.ofName?).getD .read

/-- The count in a column of the first row. -/
def firstCount (rows : List Row) (column : String) : Except StoreError Nat :=
  match rows with
  | [] => .ok 0
  | row :: _ => row.count column

/-- A way from a file to an entity. -/
def access (row : Row) : Except StoreError AccessRow := do
  let filePath ← row.text "file_path"
  let classKey ← row.text "class_key"
  let methodKey ← row.text "method_key"
  let queryKey ← row.text "query_key"
  pure ⟨filePath, classKey, methodKey, queryKey, row.operation⟩

/-- An issue of a query. -/
def issue (row : Row) : Except StoreError IssueRow := do
  let queryKey ← row.text "query_key"
  let issueKey ← row.text "issue_key"
  let kind ← row.text "kind"
  let severity ← row.severity "severity"
  pure ⟨queryKey, issueKey, kind, severity, row.text? "message"⟩

/-- A way from a class to an entity; an entity of an unknown store is a table. -/
def classAccess (row : Row) : Except StoreError ClassAccessRow := do
  let classKey ← row.text "class_key"
  let entityName ← row.text "entity_name"
  let storeKind ← row.text "store_kind"
  let queryKey ← row.text "query_key"
  pure ⟨classKey, entityName, (StoreKind.ofName? storeKind).getD .table, queryKey, row.operation⟩

/-- A number of issues. -/
def fileIssues (row : Row) : Except StoreError FileIssueRow := do
  let filePath ← row.text "file_path"
  let severity ← row.severity "severity"
  let issues ← row.count "issues"
  pure ⟨filePath, severity, issues⟩

/-- Two texts. -/
def pair (first second : String) (row : Row) : Except StoreError (String × String) := do
  let left ← row.text first
  let right ← row.text second
  pure (left, right)

end Row

end QueryImpact.Cypher
