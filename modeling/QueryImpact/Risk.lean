import QueryImpact.Json.Value

/-!
# Risk of a change

The number of affected files decides the band; files, classes and methods together decide a
score between zero and one.
-/

namespace QueryImpact

/-- The band of a risk. -/
inductive RiskLevel where
  /-- No file is affected. -/
  | minimal
  /-- One to four files. -/
  | low
  /-- Five to nineteen files. -/
  | medium
  /-- Twenty to forty-nine files. -/
  | high
  /-- Fifty files and more. -/
  | critical
deriving DecidableEq

namespace RiskLevel

/-- The name of the band. -/
def name : RiskLevel → String
  | minimal => "MINIMAL"
  | low => "LOW"
  | medium => "MEDIUM"
  | high => "HIGH"
  | critical => "CRITICAL"

/-- The band of a number of affected files. -/
def ofFiles (files : Nat) : RiskLevel :=
  if 50 ≤ files then critical
  else if 20 ≤ files then high
  else if 5 ≤ files then medium
  else if 1 ≤ files then low
  else minimal

/-- The bands begin with one, five, twenty and fifty files. -/
theorem ofFiles_bands (files : Nat) :
    (ofFiles files = minimal ↔ files = 0) ∧
      (ofFiles files = low ↔ 1 ≤ files ∧ files < 5) ∧
      (ofFiles files = medium ↔ 5 ≤ files ∧ files < 20) ∧
      (ofFiles files = high ↔ 20 ≤ files ∧ files < 50) ∧
      (ofFiles files = critical ↔ 50 ≤ files) := by
  unfold ofFiles
  repeat' split
  all_goals
    simp only [reduceCtorEq, true_iff, false_iff]
    omega

end RiskLevel

/-- A risk: its band and its score. -/
structure Risk where
  /-- The band. -/
  level : RiskLevel
  /-- The score, from zero to one. -/
  score : Float
deriving DecidableEq

namespace Risk

/-- The risk of a change that affects so many files, classes and methods. -/
def assess (files classes methods : Nat) : Risk :=
  let weight :=
    Float.ofNat files * 1.0 + Float.ofNat classes * 0.5 + Float.ofNat methods * 0.2
  let score := weight / 100.0
  ⟨RiskLevel.ofFiles files, if score < 1.0 then score else 1.0⟩

/-- The risk of a change that affects nothing. -/
def none : Risk :=
  ⟨.minimal, 0.0⟩

/-- The JSON form of a risk. -/
def toJson (risk : Risk) : Json :=
  .object [("level", .string risk.level.name), ("score", .float risk.score)]

end Risk

end QueryImpact
