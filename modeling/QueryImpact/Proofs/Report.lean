import Mathlib
import QueryImpact.Finding
import QueryImpact.Link
import QueryImpact.Proofs.Json.Restored

/-!
# Reading findings and links back

Findings and links are restored from their JSON values, from arrays of their field values and, as
far as floating-point numbers are, from their texts.
-/

namespace QueryImpact

open QueryImpact.Json (RecordFormat FieldValues Field Decoder Restored Rereads IsRegular)

namespace FindingIssue

/-- The floating-point numbers of an attached issue. -/
def floats (issue : FindingIssue) : List Float :=
  issue.confidence.toList

/-- The fields in declaration order, with a value for the confidence. -/
def fieldsWith (issue : FindingIssue) (confidence : Json) : List (String × Json) :=
  [("kind", .string issue.kind), ("severity", issue.severity.toJson),
    ("message", .ofOption .string issue.message), ("confidence", confidence)]

/-- The JSON form with a value for the confidence. -/
def toJsonWith (issue : FindingIssue) (confidence : Json) : Json :=
  .object
    [("confidence", confidence), ("kind", .string issue.kind),
      ("message", .ofOption .string issue.message), ("severity", issue.severity.toJson)]

variable {issue : FindingIssue}

theorem reads_fieldsWith {confidence : Json} {content : Option Float}
    (decoded : Decoder.optional Decoder.number confidence = .ok content) :
    format.Reads ofFields (issue.fieldsWith confidence) { issue with confidence := content } where
  names_eq := rfl
  nodup_names := by decide
  checked := by
    simp [fieldsWith, format, RecordFormat.checkMember, Field.of, decoded, Severity.decode_toJson]
  built := by
    intro values given
    simp only [fieldsWith, RecordFormat.gives_cons] at given
    simp only [ofFields, RecordFormat.required, RecordFormat.withDefault, given, decoded,
      Decoder.text_string, Decoder.optional_text, Severity.decode_toJson]
    rfl

theorem decode_toJsonWith {confidence : Json} {content : Option Float}
    (decoded : Decoder.optional Decoder.number confidence = .ok content) :
    decode (issue.toJsonWith confidence) = .ok { issue with confidence := content } := by
  rw [decode, RecordFormat.readAlone, toJsonWith]
  apply (reads_fieldsWith decoded).read_object
  constructor
  · simp [fieldsWith]
  · simp [fieldsWith, List.lookup]

theorem decode_toJson (finite : ∀ number ∈ issue.floats, number.isFinite = true) :
    decode issue.toJson = .ok issue :=
  decode_toJsonWith (Decoder.optional_number _ (by simpa [floats] using finite))

theorem rereads_toJson (finite : ∀ number ∈ issue.floats, number.isFinite = true) :
    Rereads decode issue.toJson issue issue.floats := by
  have confidence := Json.rereads_optional_number issue.confidence
    (by simpa [floats] using finite)
  apply confidence.extend issue.toJsonWith
  · have message := Json.reread?_ofOption .string issue.message
      (by simp [Json.reread?])
    simp [toJson, toJsonWith, Severity.toJson, Json.reread?, Json.rereadMembers?, message]
  · intro read result _ decoded
    refine ⟨_, decode_toJsonWith decoded, ?_⟩
    cases issue
    simp

theorem isRegular_toJson (issue : FindingIssue) : issue.toJson.IsRegular := by
  apply IsRegular.object_of_names
  · simp only [List.map_cons, List.map_nil]
    decide +kernel
  · simp only [List.forall_mem_cons, List.not_mem_nil, false_implies, forall_const, and_true]
    exact ⟨Json.isRegular_ofOption fun number _ => Json.isRegular_number number, .string _,
      Json.isRegular_ofOption fun text _ => .string text, .string _⟩

end FindingIssue

namespace Finding

/-- The floating-point numbers of a finding. -/
def floats (finding : Finding) : List Float :=
  finding.confidence.toList ++ finding.relatedIssues.flatMap FindingIssue.floats

/-- The fields in declaration order, with values for the confidence and the attached issues. -/
def fieldsWith (finding : Finding) (confidence relatedIssues : Json) : List (String × Json) :=
  [("source_location", .string finding.sourceLocation), ("query_text", .string finding.queryText),
    ("severity", finding.severity.toJson), ("issue_kind", .ofOption .string finding.issueKind),
    ("confidence", confidence), ("message", .ofOption .string finding.message),
    ("related_issues", relatedIssues)]

/-- The JSON form with values for the confidence and the attached issues. -/
def toJsonWith (finding : Finding) (confidence relatedIssues : Json) : Json :=
  .object
    [("confidence", confidence), ("issue_kind", .ofOption .string finding.issueKind),
      ("message", .ofOption .string finding.message), ("query_text", .string finding.queryText),
      ("related_issues", relatedIssues), ("severity", finding.severity.toJson),
      ("source_location", .string finding.sourceLocation)]

variable {finding : Finding}

section Fields

variable {confidence relatedIssues : Json} {content : Option Float} {issues : List FindingIssue}
  (decodedConfidence : Decoder.optional Decoder.number confidence = .ok content)
  (decodedIssues : Decoder.list FindingIssue.decode relatedIssues = .ok issues)
include decodedConfidence decodedIssues

theorem reads_fieldsWith :
    format.Reads ofFields (finding.fieldsWith confidence relatedIssues)
      { finding with confidence := content, relatedIssues := issues } where
  names_eq := rfl
  nodup_names := by decide
  checked := by
    simp [fieldsWith, format, RecordFormat.checkMember, Field.of, decodedConfidence, decodedIssues,
      Severity.decode_toJson]
  built := by
    intro values given
    simp only [fieldsWith, RecordFormat.gives_cons] at given
    simp only [ofFields, RecordFormat.required, RecordFormat.withDefault, given, decodedConfidence,
      decodedIssues, Decoder.text_string, Decoder.optional_text, Severity.decode_toJson]
    rfl

theorem decode_toJsonWith :
    decode (finding.toJsonWith confidence relatedIssues) =
      .ok { finding with confidence := content, relatedIssues := issues } := by
  rw [decode, RecordFormat.readAlone, toJsonWith]
  apply (reads_fieldsWith decodedConfidence decodedIssues).read_object
  constructor
  · simp [fieldsWith]
  · simp [fieldsWith, List.lookup]

end Fields

theorem isRegular_toJson (finding : Finding) : finding.toJson.IsRegular := by
  apply IsRegular.object_of_names
  · simp only [List.map_cons, List.map_nil]
    decide +kernel
  · simp only [List.forall_mem_cons, List.not_mem_nil, false_implies, forall_const, and_true]
    have issues : ∀ item ∈ finding.relatedIssues.map FindingIssue.toJson, item.IsRegular :=
      List.forall_mem_map.mpr fun issue _ => issue.isRegular_toJson
    exact ⟨Json.isRegular_ofOption fun number _ => Json.isRegular_number number,
      Json.isRegular_ofOption fun text _ => .string text,
      Json.isRegular_ofOption fun text _ => .string text, .string _, .array issues, .string _,
      .string _⟩

section Finite

variable (finite : ∀ number ∈ finding.floats, number.isFinite = true)
include finite

theorem finite_confidence : ∀ number ∈ finding.confidence, number.isFinite = true := by
  intro number member
  exact finite number (List.mem_append_left _ (Option.mem_toList.mpr member))

theorem finite_relatedIssues :
    ∀ issue ∈ finding.relatedIssues, ∀ number ∈ issue.floats, number.isFinite = true := by
  intro issue isIssue number member
  exact finite number (List.mem_append_right _ (List.mem_flatMap.mpr ⟨issue, isIssue, member⟩))

theorem reads_fields :
    format.Reads ofFields (finding.fieldsWith (.ofOption .number finding.confidence)
      (.array (finding.relatedIssues.map FindingIssue.toJson))) finding :=
  reads_fieldsWith (Decoder.optional_number _ (finite_confidence finite))
    (Decoder.list_map fun issue isIssue =>
      FindingIssue.decode_toJson (finite_relatedIssues finite issue isIssue))

/-- A finding is read back from its JSON form. -/
theorem decode_toJson : decode finding.toJson = .ok finding :=
  decode_toJsonWith (Decoder.optional_number _ (finite_confidence finite))
    (Decoder.list_map fun issue isIssue =>
      FindingIssue.decode_toJson (finite_relatedIssues finite issue isIssue))

theorem rereads_toJson : Rereads decode finding.toJson finding finding.floats := by
  have confidence := Json.rereads_optional_number _ (finite_confidence finite)
  have issues := Json.rereads_list FindingIssue.toJson fun issue isIssue =>
    FindingIssue.rereads_toJson (finite_relatedIssues finite issue isIssue)
  apply confidence.extend_two issues finding.toJsonWith
    fun confidence relatedIssues => { finding with confidence, relatedIssues }
  · have message := Json.reread?_ofOption .string finding.message
      (by simp [Json.reread?])
    have kind := Json.reread?_ofOption .string finding.issueKind
      (by simp [Json.reread?])
    simp [toJson, toJsonWith, Severity.toJson, Json.reread?, Json.rereadMembers?, message, kind,
      Option.bind_assoc]
  · intro readConfidence readIssues confidence issues isConfidence isIssues
    exact decode_toJsonWith isConfidence isIssues
  · intro confidence issues
    cases finding
    simp

theorem restored : Restored toJson decode format.names finding.floats finding where
  fromValue := decode_toJson finite
  fromItems := (reads_fields finite).read_array _
  fromText := Json.map_decode_parse?_iff finding.isRegular_toJson (rereads_toJson finite)

end Finite

end Finding

namespace Link

/-- The fields of a link in declaration order. -/
def fields (link : Link) : List (String × Json) :=
  [("from", .string link.source), ("to", .string link.target)]

theorem reads_fields (link : Link) :
    (format link.kind).Reads (ofFields link.kind) link.fields link where
  names_eq := rfl
  nodup_names := by
    change ["from", "to"].Nodup
    decide
  checked := by
    simp [fields, format, RecordFormat.checkMember, Field.of]
  built := by
    intro values given
    simp only [fields, RecordFormat.gives_cons] at given
    simp only [ofFields, RecordFormat.required, given, Decoder.text_string]
    rfl

theorem lookup_name (kind : LinkKind) :
    [("depends_on", decodeFields .dependsOn), ("calls", decodeFields .calls)].lookup kind.name =
      some (decodeFields kind) := by
  cases kind with
  | dependsOn => rfl
  | calls => rfl

/-- A link is read back from its JSON form. -/
theorem decode_toJson (link : Link) : decode link.toJson = .ok link := by
  rw [decode, toJson, Json.tagged_object (lookup_name link.kind) rfl, decodeFields,
    RecordFormat.readTagged]
  apply link.reads_fields.read_object
  constructor
  · simp [fields]
  · simp [fields, List.lookup]

theorem isRegular_toJson (link : Link) : link.toJson.IsRegular := by
  apply IsRegular.object_of_names
  · simp only [List.map_cons, List.map_nil]
    decide +kernel
  · simp only [List.forall_mem_cons, List.not_mem_nil, false_implies, forall_const, and_true]
    exact ⟨.string _, .string _, .string _⟩

theorem restored (link : Link) :
    Restored toJson decode ("kind" :: (format link.kind).names) [] link where
  fromValue := link.decode_toJson
  fromItems := by
    have read : decode (.array (.string link.kind.name :: link.fields.map Prod.snd)) =
        .ok link := by
      rw [decode, Json.tagged_array (lookup_name link.kind)]
      exact link.reads_fields.read_array _
    exact read
  fromText := by
    apply Json.map_decode_parse?_iff link.isRegular_toJson
    apply Json.rereads_of_eq
    · simp [toJson, Json.reread?, Json.rereadMembers?]
    · exact link.decode_toJson

end Link

end QueryImpact
