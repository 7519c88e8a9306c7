import QueryImpact.Json.Decode
import QueryImpact.Text.Lowercase
import QueryImpact.Text.Space

/-!
# Severity

Five degrees, the most severe first, so that sorted lists show critical issues on top.
-/

namespace QueryImpact

/-- How severe a finding or an issue is. -/
inductive Severity where
  /-- Needs action at once. -/
  | critical
  /-- Serious. -/
  | high
  /-- Worth attention. -/
  | medium
  /-- Minor. -/
  | low
  /-- For information only. -/
  | info
deriving DecidableEq

namespace Severity

/-- The name of a severity. -/
def name : Severity → String
  | critical => "critical"
  | high => "high"
  | medium => "medium"
  | low => "low"
  | info => "info"

/-- All severities, most severe first. -/
def all : List Severity :=
  [critical, high, medium, low, info]

theorem mem_all (severity : Severity) : severity ∈ all := by
  cases severity <;> decide

/-- The place of a severity among all, the most severe being first. -/
def rank : Severity → Nat
  | critical => 0
  | high => 1
  | medium => 2
  | low => 3
  | info => 4

instance : Ord Severity :=
  ⟨compareOn rank⟩

instance : Std.TransOrd Severity :=
  inferInstanceAs (Std.TransCmp (compareOn rank))

theorem rank_injective {first second : Severity} (same : first.rank = second.rank) :
    first = second := by
  cases first <;> cases second <;> first | rfl | cases same

instance : Std.LawfulEqOrd Severity where
  eq_of_compare same := rank_injective (Std.LawfulEqOrd.eq_of_compare (α := Nat) same)

/-- The spellings of the severities. -/
def spellings : List (String × Severity) :=
  [("critical", critical), ("high", high), ("medium", medium), ("low", low), ("info", info),
    ("informational", info)]

/-- A severity name as it is looked up: trimmed and in lower case. -/
def normalizeName (text : String) : String :=
  Text.lowercase (Text.trim text)

/-- The severity that a text names, in any letter case and with blanks around. -/
def parse? (text : String) : Option Severity :=
  spellings.lookup (normalizeName text)

/-- A severity written as a text. -/
def decode : Json.Decoder Severity
  | .string text =>
      match parse? text with
      | some severity => .ok severity
      | none => .error (.unknownSeverity (normalizeName text))
  | other => .error (.invalidType other.found "a string")

/-- The text of a severity. -/
def toJson (severity : Severity) : Json :=
  .string severity.name

theorem parse?_name (severity : Severity) : parse? severity.name = some severity := by
  cases severity <;> decide +kernel

theorem decode_toJson (severity : Severity) : decode severity.toJson = .ok severity := by
  rw [toJson, decode, parse?_name]

end Severity

end QueryImpact
