import QueryImpact.Decimal.Notation
import QueryImpact.Json.Decode

/-!
# Problems with the input

Causes of a refused finding, link or payload, with their wording.
-/

namespace QueryImpact

/-- Why a finding is malformed although it has all its fields. -/
inductive Malformation where
  /-- The severity is not one of the five. -/
  | unknownSeverity (name : String)
  /-- The location is blank. -/
  | blankLocation
  /-- The query text is blank. -/
  | blankQuery
  /-- A confidence is not between zero and one. -/
  | confidenceOutside (confidence : Float)
  /-- A related issue has a blank kind. -/
  | blankIssueKind
deriving DecidableEq

/-- The wording of a malformation. -/
def Malformation.message : Malformation → String
  | unknownSeverity name => "unknown severity '" ++ name ++ "'"
  | blankLocation => "source_location is empty"
  | blankQuery => "query_text is empty"
  | confidenceOutside confidence =>
      "confidence " ++ Decimal.plain confidence ++ " is outside [0, 1]"
  | blankIssueKind => "related issue has an empty kind"

/-- Why a whole payload is refused. -/
inductive PayloadFault where
  /-- An object without a list of findings. -/
  | noFindings
  /-- The links are there and are no list. -/
  | linksNotListed
  /-- Neither a list nor an object. -/
  | notACollection (kind : String)
deriving DecidableEq

/-- The wording of a payload fault. -/
def PayloadFault.message : PayloadFault → String
  | noFindings => "expected a 'findings' array"
  | linksNotListed => "'links' must be an array"
  | notACollection kind => "expected an array of findings, got " ++ kind

/-- A problem with the input. -/
inductive InputError where
  /-- A finding that breaks a rule of its fields. -/
  | malformed (cause : Malformation)
  /-- A location that no strategy applies to. -/
  | unparseableLocation (location : String)
  /-- A payload of the wrong shape. -/
  | payload (fault : PayloadFault)
  /-- A JSON value that cannot be decoded. -/
  | json (cause : Json.DecodeError)
deriving DecidableEq

/-- The wording of an input problem. -/
def InputError.message : InputError → String
  | malformed cause => "Malformed finding: " ++ cause.message
  | unparseableLocation location => "Unparseable source location: " ++ location
  | payload fault => "Invalid input: " ++ fault.message
  | json cause => "JSON error: " ++ cause.message

end QueryImpact
