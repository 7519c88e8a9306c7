import QueryImpact.InputError
import QueryImpact.Json.Record
import QueryImpact.Severity

/-!
# Findings

A finding is one result of an analyzer: where a query lives, what it says, and the issues
detected on it.  Its primary issue is given by its own fields; further issues are attached to it.
-/

namespace QueryImpact

open QueryImpact.Json (RecordFormat FieldValues Field Decoder DecodeError)

/-- An issue attached to a finding. -/
structure FindingIssue where
  /-- What kind of issue it is. -/
  kind : String
  /-- How severe it is. -/
  severity : Severity
  /-- A text for the reader. -/
  message : Option String
  /-- How sure the analyzer is, between zero and one. -/
  confidence : Option Float
deriving DecidableEq

/-- A detected query and its issues. -/
structure Finding where
  /-- The text that names the place of the query. -/
  sourceLocation : String
  /-- The query. -/
  queryText : String
  /-- The severity of the primary issue. -/
  severity : Severity
  /-- The kind of the primary issue. -/
  issueKind : Option String := none
  /-- The confidence of the primary issue. -/
  confidence : Option Float := none
  /-- The message of the primary issue. -/
  message : Option String := none
  /-- Further issues. -/
  relatedIssues : List FindingIssue := []
deriving DecidableEq

/-- Whether a confidence lies between zero and one; an absent one does not matter. -/
def checkConfidence : Option Float → Except InputError Unit
  | some confidence =>
      if 0.0 ≤ confidence ∧ confidence ≤ 1.0 then .ok ()
      else .error (.malformed (.confidenceOutside confidence))
  | none => .ok ()

namespace FindingIssue

/-- Check the rules that hold for an attached issue. -/
def validate (issue : FindingIssue) : Except InputError Unit :=
  if Text.isBlank issue.kind then .error (.malformed .blankIssueKind)
  else checkConfidence issue.confidence

/-- The record format of an attached issue. -/
def format : RecordFormat where
  title := "struct FindingIssue"
  fields :=
    [Field.of "kind" Decoder.text, Field.of "severity" Severity.decode,
      Field.of "message" (Decoder.optional Decoder.text),
      Field.of "confidence" (Decoder.optional Decoder.number)]
  closed := true

/-- Build an attached issue from its fields. -/
def ofFields (values : FieldValues) : Except DecodeError FindingIssue := do
  let kind ← format.required values "kind" Decoder.text
  let severity ← format.required values "severity" Severity.decode
  let message ← format.withDefault values "message" none (Decoder.optional Decoder.text)
  let confidence ← format.withDefault values "confidence" none (Decoder.optional Decoder.number)
  pure ⟨kind, severity, message, confidence⟩

/-- Decode an attached issue. -/
def decode : Decoder FindingIssue :=
  format.readAlone ofFields

/-- The JSON form of an attached issue. -/
def toJson (issue : FindingIssue) : Json :=
  .object
    [("confidence", .ofOption .number issue.confidence), ("kind", .string issue.kind),
      ("message", .ofOption .string issue.message), ("severity", issue.severity.toJson)]

end FindingIssue

namespace Finding

/-- Check the rules that hold for the fields of a finding; the first broken one is the
answer. -/
def validate (finding : Finding) : Except InputError Unit := do
  if Text.isBlank finding.sourceLocation then throw (.malformed .blankLocation)
  if Text.isBlank finding.queryText then throw (.malformed .blankQuery)
  checkConfidence finding.confidence
  finding.relatedIssues.forM FindingIssue.validate

/-- The primary issue, when its kind is not blank. -/
def primaryIssue? (finding : Finding) : Option FindingIssue :=
  match finding.issueKind with
  | some kind =>
      if Text.isBlank kind then none
      else some ⟨kind, finding.severity, finding.message, finding.confidence⟩
  | none => none

/-- All issues of a finding, the primary issue first. -/
def issues (finding : Finding) : List FindingIssue :=
  finding.primaryIssue?.toList ++ finding.relatedIssues

/-- The record format of a finding. -/
def format : RecordFormat where
  title := "struct Finding"
  fields :=
    [Field.of "source_location" Decoder.text, Field.of "query_text" Decoder.text,
      Field.of "severity" Severity.decode,
      Field.of "issue_kind" (Decoder.optional Decoder.text),
      Field.of "confidence" (Decoder.optional Decoder.number),
      Field.of "message" (Decoder.optional Decoder.text),
      Field.of "related_issues" (Decoder.list FindingIssue.decode)]
  closed := true

/-- Build a finding from its fields. -/
def ofFields (values : FieldValues) : Except DecodeError Finding := do
  let sourceLocation ← format.required values "source_location" Decoder.text
  let queryText ← format.required values "query_text" Decoder.text
  let severity ← format.required values "severity" Severity.decode
  let issueKind ← format.withDefault values "issue_kind" none (Decoder.optional Decoder.text)
  let confidence ← format.withDefault values "confidence" none (Decoder.optional Decoder.number)
  let message ← format.withDefault values "message" none (Decoder.optional Decoder.text)
  let relatedIssues ←
    format.withDefault values "related_issues" [] (Decoder.list FindingIssue.decode)
  pure { sourceLocation, queryText, severity, issueKind, confidence, message, relatedIssues }

/-- Decode a finding without checking its rules. -/
def decode : Decoder Finding :=
  format.readAlone ofFields

/-- Read a finding: decode it, then check its rules. -/
def ofJson (value : Json) : Except InputError Finding :=
  match decode value with
  | .ok finding => (finding.validate).map fun _ => finding
  | .error cause => .error (.json cause)

/-- The JSON form of a finding. -/
def toJson (finding : Finding) : Json :=
  .object
    [("confidence", .ofOption .number finding.confidence),
      ("issue_kind", .ofOption .string finding.issueKind),
      ("message", .ofOption .string finding.message),
      ("query_text", .string finding.queryText),
      ("related_issues", .array (finding.relatedIssues.map FindingIssue.toJson)),
      ("severity", finding.severity.toJson),
      ("source_location", .string finding.sourceLocation)]

end Finding

end QueryImpact
