import Mathlib
import QueryImpact.Build.Draft
import QueryImpact.Proofs.Report

/-!
# Reports given as JSON

A finding or a link that is given as JSON is collected as if it were given itself.  A finding that
breaks a rule is refused while it is read and not while it is collected, but it is noted with the
same index, location and cause.  So a payload makes the draft that its reports make.
-/

namespace QueryImpact

namespace Finding

variable {finding : Finding} (finite : ∀ number ∈ finding.floats, number.isFinite = true)
include finite

/-- Reading the JSON form of a finding only checks its rules. -/
theorem ofJson_toJson : ofJson finding.toJson = finding.validate.map fun _ => finding := by
  rw [ofJson, decode_toJson finite]

omit finite in
/-- The location that is noted for a refused finding is its own. -/
theorem location_toJson :
    ((finding.toJson.member? "source_location").bind Json.text?).getD "" =
      finding.sourceLocation := by
  have found : finding.toJson.member? "source_location" =
      some (.string finding.sourceLocation) := by
    rw [toJson, Json.member?]
    simp only [List.lookup, String.reduceBEq]
  rw [found, Option.bind_some, Json.text?, Option.getD_some]

end Finding

namespace Draft

variable (builder : Builder)

/-- The JSON form of a finding is collected like the finding, valid or not. -/
theorem addFindingJson_toJson (draft : Draft) (index : Nat) {finding : Finding}
    (finite : ∀ number ∈ finding.floats, number.isFinite = true) :
    draft.addFindingJson builder index finding.toJson =
      draft.addFinding builder index finding := by
  rw [addFindingJson, Finding.ofJson_toJson finite]
  cases validated : finding.validate with
  | ok _ => rfl
  | error cause =>
      have refused : Fragment.ofFinding builder finding = .error cause := by
        rw [Fragment.ofFinding, validated]
      rw [addFinding, refused, ← Finding.location_toJson]
      rfl

theorem addFindingsJson_toJson {findings : List Finding}
    (finite : ∀ finding ∈ findings, ∀ number ∈ finding.floats, number.isFinite = true)
    (draft : Draft) (start : Nat) :
    addFindingsJson builder draft start (findings.map Finding.toJson) =
      addFindings builder draft start findings := by
  induction findings generalizing draft start with
  | nil => rfl
  | cons finding rest ih =>
      rw [List.forall_mem_cons] at finite
      rw [List.map_cons, addFindingsJson, addFindings,
        addFindingJson_toJson builder draft start finite.1]
      exact ih finite.2 _ _

theorem addLinkJson_toJson (draft : Draft) (link : Link) :
    draft.addLinkJson builder link.toJson = draft.addLink builder link := by
  rw [addLinkJson, link.decode_toJson]

theorem foldl_addLinkJson_toJson (draft : Draft) (links : List Link) :
    (links.map Link.toJson).foldl (addLinkJson builder) draft =
      links.foldl (addLink builder) draft := by
  induction links generalizing draft with
  | nil => rfl
  | cons link rest ih =>
      rw [List.map_cons, List.foldl_cons, List.foldl_cons, addLinkJson_toJson]
      exact ih _

/-- Reports that are given as JSON, in an object or as a bare list of findings, make the draft that
they make when they are given themselves. -/
theorem ofPayload_toJson (findings : List Finding) (links : List Link)
    (finite : ∀ finding ∈ findings, ∀ number ∈ finding.floats, number.isFinite = true) :
    ofPayload builder (.object [("findings", .array (findings.map Finding.toJson)),
        ("links", .array (links.map Link.toJson))]) = .ok (ofReports builder findings links) ∧
      ofPayload builder (.array (findings.map Finding.toJson)) =
        .ok (ofFindings builder findings) := by
  constructor
  · have reports : reportsOfPayload (.object [("findings", .array (findings.map Finding.toJson)),
        ("links", .array (links.map Link.toJson))]) =
          .ok (findings.map Finding.toJson, links.map Link.toJson) := rfl
    rw [ofPayload, reports, ofReports, ← addFindingsJson_toJson builder finite,
      ← foldl_addLinkJson_toJson]
  · have reports : reportsOfPayload (.array (findings.map Finding.toJson)) =
        .ok (findings.map Finding.toJson, []) := rfl
    rw [ofPayload, reports, ofFindings, ofReports, ← addFindingsJson_toJson builder finite]
    rfl

/-- Findings of which only the first can be used: the others have a blank query, a confidence above
one, an attached issue without a kind, and a location that cannot be read. -/
def mixedFindings : List Finding :=
  [{ sourceLocation := "UserDao#find:10", queryText := "SELECT * FROM users", severity := .high,
     issueKind := some "slow", confidence := some 0.5,
     relatedIssues := [⟨"scan", .low, none, some 1.0⟩] },
    { sourceLocation := "UserDao#load:20", queryText := " ", severity := .low },
    { sourceLocation := "UserDao#load:30", queryText := "SELECT 1", severity := .low,
      confidence := some 1.5 },
    { sourceLocation := "UserDao#load:40", queryText := "SELECT 1", severity := .low,
      relatedIssues := [⟨"", .low, some "text", none⟩] },
    { sourceLocation := "nowhere", queryText := "SELECT 1", severity := .info }]

theorem ofPayload_toJson_mixed :
    (∀ finding ∈ mixedFindings, ∀ number ∈ finding.floats, number.isFinite = true) ∧
      ofPayload .java (.object [("findings", .array (mixedFindings.map Finding.toJson)),
          ("links", .array [.object [("from", .string " "), ("kind", .string "depends_on"),
            ("to", .string "B.java")]])]) =
        .ok (ofReports .java mixedFindings [⟨.dependsOn, " ", "B.java"⟩]) ∧
      (ofReports .java mixedFindings [⟨.dependsOn, " ", "B.java"⟩]).skipped.map
        SkippedFinding.index = [1, 2, 3, 4] := by
  have finite : ∀ finding ∈ mixedFindings, ∀ number ∈ finding.floats, number.isFinite = true := by
    decide +kernel
  refine ⟨finite, ?_, ?_⟩
  · exact (ofPayload_toJson .java mixedFindings [⟨.dependsOn, " ", "B.java"⟩] finite).1
  · decide +kernel

end Draft

end QueryImpact
