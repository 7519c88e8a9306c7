import Mathlib
import QueryImpact.Proofs.Graph.Record
import QueryImpact.Proofs.Report

/-!
# Round trips of all records

Every node, relationship, link and finding with finite numbers is restored from its JSON value and
from the array of its field values.  From its text it is restored exactly when each floating-point
number in it is read back from its own notation, which is not so for all of them: the reader rounds
twice.
-/

namespace QueryImpact.Json

/-- Decoding undoes encoding for nodes of every kind, relationships with any properties, links and
findings. -/
theorem records_restored (node : Node) (relationship : Relationship) (link : Link)
    (finding : Finding) :
    ((∀ number ∈ node.floats, number.isFinite = true) →
      Restored Node.toJson Node.decode node.fieldNames node.floats node) ∧
    ((∀ number ∈ relationship.floats, number.isFinite = true) →
      Restored Relationship.toJson Relationship.decode Relationship.format.names
        relationship.floats relationship) ∧
    Restored Link.toJson Link.decode ("kind" :: (Link.format link.kind).names) [] link ∧
    ((∀ number ∈ finding.floats, number.isFinite = true) →
      Restored Finding.toJson Finding.decode Finding.format.names finding.floats finding) := by
  refine ⟨?_, ?_, ?_, ?_⟩
  · intro finite
    exact Node.restored finite
  · intro finite
    exact Relationship.restored finite
  · exact link.restored
  · intro finite
    exact Finding.restored finite

/-- A relationship with a whole floating-point number next to an integer. -/
def weightedCall : Relationship :=
  ⟨"A#m", "B#n", .calls, .ofList [("weight", .float 2.0), ("count", .integer 2)]⟩

/-- An issue node that lacks a message. -/
def doubtfulIssue : Node :=
  .issue ⟨"q::slow", "slow", .high, none, some 0.25, "q"⟩

/-- A finding whose confidence is changed when its text is read. -/
def roundedFinding : Finding :=
  { sourceLocation := "A#m", queryText := "q", severity := .low,
    confidence := some 0.9032408310115215 }

/-- A call between two methods. -/
def plainCall : Link :=
  ⟨.calls, "A#m", "B#n"⟩

theorem records_restored_samples :
    ((∀ number ∈ doubtfulIssue.floats, number.isFinite = true) ∧
      Restored Node.toJson Node.decode doubtfulIssue.fieldNames [0.25] doubtfulIssue) ∧
    ((∀ number ∈ weightedCall.floats, number.isFinite = true) ∧
      Restored Relationship.toJson Relationship.decode
        ["source", "target", "rel_type", "properties"] [2.0] weightedCall) ∧
    Restored Link.toJson Link.decode ["kind", "from", "to"] [] plainCall ∧
    ((∀ number ∈ roundedFinding.floats, number.isFinite = true) ∧
      Restored Finding.toJson Finding.decode Finding.format.names [0.9032408310115215]
        roundedFinding) := by
  have issueFinite : ∀ number ∈ doubtfulIssue.floats, number.isFinite = true := by
    decide +kernel
  have callFinite : ∀ number ∈ weightedCall.floats, number.isFinite = true := by
    decide +kernel
  have findingFinite : ∀ number ∈ roundedFinding.floats, number.isFinite = true := by
    decide +kernel
  obtain ⟨issue, relationship, link, finding⟩ :=
    records_restored doubtfulIssue weightedCall plainCall roundedFinding
  exact ⟨⟨issueFinite, issue issueFinite⟩, ⟨callFinite, relationship callFinite⟩, link,
    ⟨findingFinite, finding findingFinite⟩⟩

/-- The notation of a number that is read as its neighbour: the digits are first rounded to a
floating-point number, and its quotient by a power of ten is rounded again. -/
def roundedNumeral : Reader.Numeral :=
  ⟨false, ['0'], some "9032408310115215".toList, none⟩

theorem parse?_roundedNumeral :
    parse? (Decimal.exact 0.9032408310115215) = some (.float 0.9032408310115216) := by
  have proper : roundedNumeral.IsProper := by
    constructor <;> simp [roundedNumeral]
  have isNotation : roundedNumeral.chars = Decimal.exactChars 0.9032408310115215 := by
    decide +kernel
  have rounded : Decimal.scaled? ['0'] "9032408310115215".toList 0 = some 0.9032408310115216 := by
    decide +kernel
  calc
    parse? (Decimal.exact 0.9032408310115215) = roundedNumeral.value? :=
      Reader.parse?_exact proper isNotation
    _ = Reader.decimalNumber? false ['0'] "9032408310115215".toList 0 := rfl
    _ = some (.float 0.9032408310115216) := by
      rw [Reader.decimalNumber?, rounded]
      rfl

/-- A finding with finite numbers is not always read back from its text. -/
theorem finding_not_restored_from_text :
    (∀ number ∈ roundedFinding.floats, number.isFinite = true) ∧
      (parse? roundedFinding.toJson.render).map Finding.decode ≠ some (.ok roundedFinding) := by
  have finite : ∀ number ∈ roundedFinding.floats, number.isFinite = true := by
    decide +kernel
  constructor
  · exact finite
  · rw [Ne, (Finding.restored finite).fromText]
    intro kept
    have read := kept 0.9032408310115215 (by simp [roundedFinding, Finding.floats])
    rw [parse?_roundedNumeral, Option.some.injEq, Json.float.injEq] at read
    exact absurd read (by decide +kernel)

end QueryImpact.Json
