import Mathlib
import QueryImpact.Graph.Node

/-!
# Absorbing in any grouping

A node absorbs the later sightings of the thing it stands for.  This file proves that three
sightings of one thing may be absorbed in either grouping.  All fields but one are sums, first
values or disjunctions.  The confidence of an issue is a maximum of floating-point numbers, which
is associative on numbers and not beyond them: what is not a number compares with nothing.

Numbers are compared through a rank in a lexicographic product of integers, so that transitivity
comes from a linear order.
-/

namespace QueryImpact

open Float.Model (UnpackedFloat)

namespace FloatOrder

/-! ## The linear order of numbers -/

/-- The place of a number among all numbers: its sign class, then exponent and mantissa.  What is
not a number has no place of its own. -/
def rank : UnpackedFloat → ℤ ×ₗ ℤ ×ₗ ℤ
  | .infinity .negative => toLex (-2, toLex (0, 0))
  | .finite .negative mantissa exponent _ => toLex (-1, toLex (-exponent, -(mantissa : ℤ)))
  | .zero _ => toLex (0, toLex (0, 0))
  | .notANumber => toLex (0, toLex (0, 0))
  | .finite .positive mantissa exponent _ => toLex (1, toLex (exponent, (mantissa : ℤ)))
  | .infinity .positive => toLex (2, toLex (0, 0))

/-- A positive number is smaller by its exponent, then by its mantissa. -/
theorem magnitude_lt_iff (exponent exponent' : ℤ) (mantissa mantissa' : ℕ) :
    (compare exponent exponent').then (compare mantissa mantissa') = .lt ↔
      exponent < exponent' ∨ exponent = exponent' ∧ mantissa < mantissa' := by
  rw [Ordering.then_eq_lt, compare_lt_iff_lt, compare_lt_iff_lt, compare_eq_iff_eq]

/-- A negative number is smaller when its magnitude is greater. -/
theorem magnitude_gt_iff (exponent exponent' : ℤ) (mantissa mantissa' : ℕ) :
    (compare exponent exponent').then (compare mantissa mantissa') = .gt ↔
      exponent' < exponent ∨ exponent = exponent' ∧ mantissa' < mantissa := by
  rw [Ordering.then_eq_gt, compare_gt_iff_gt, compare_gt_iff_gt, compare_eq_iff_eq]

/-- On numbers, the comparison of the floating-point model is the comparison of ranks. -/
theorem lt_iff_rank_lt {first second : UnpackedFloat} (firstNumber : first.isNaN = false)
    (secondNumber : second.isNaN = false) :
    first.lt second = true ↔ rank first < rank second := by
  cases first with
  | notANumber => exact absurd firstNumber (by simp [UnpackedFloat.isNaN])
  | infinity firstSign =>
      cases second with
      | notANumber => exact absurd secondNumber (by simp [UnpackedFloat.isNaN])
      | infinity secondSign => cases firstSign <;> cases secondSign <;> decide
      | zero secondSign =>
          cases firstSign <;>
            simp [UnpackedFloat.lt, UnpackedFloat.compare, rank, Prod.Lex.toLex_lt_toLex]
      | finite secondSign mantissa' exponent' _ =>
          cases firstSign <;> cases secondSign <;>
            simp [UnpackedFloat.lt, UnpackedFloat.compare, rank, Prod.Lex.toLex_lt_toLex]
  | zero firstSign =>
      cases second with
      | notANumber => exact absurd secondNumber (by simp [UnpackedFloat.isNaN])
      | zero secondSign => simp [UnpackedFloat.lt, UnpackedFloat.compare, rank]
      | infinity secondSign =>
          cases secondSign <;>
            simp [UnpackedFloat.lt, UnpackedFloat.compare, rank, Prod.Lex.toLex_lt_toLex]
      | finite secondSign mantissa' exponent' _ =>
          cases secondSign <;>
            simp [UnpackedFloat.lt, UnpackedFloat.compare, rank, Prod.Lex.toLex_lt_toLex]
  | finite firstSign mantissa exponent _ =>
      cases second with
      | notANumber => exact absurd secondNumber (by simp [UnpackedFloat.isNaN])
      | infinity secondSign =>
          cases firstSign <;> cases secondSign <;>
            simp [UnpackedFloat.lt, UnpackedFloat.compare, rank, Prod.Lex.toLex_lt_toLex]
      | zero secondSign =>
          cases firstSign <;>
            simp [UnpackedFloat.lt, UnpackedFloat.compare, rank, Prod.Lex.toLex_lt_toLex]
      | finite secondSign mantissa' exponent' _ =>
          cases firstSign <;> cases secondSign <;>
            simp [UnpackedFloat.lt, UnpackedFloat.compare, rank, Prod.Lex.toLex_lt_toLex,
              magnitude_lt_iff, magnitude_gt_iff]

/-- On numbers, `<` is the order of the ranks. -/
theorem lt_iff {first second : Float} (firstNumber : first.isNaN = false)
    (secondNumber : second.isNaN = false) :
    first < second ↔ rank first.toModel.unpack < rank second.toModel.unpack := by
  rw [← lt_iff_rank_lt firstNumber secondNumber]
  change decide (first.toModel < second.toModel) = true ↔ _
  rw [decide_eq_true_iff]
  rfl

/-- Nothing is below what is not a number. -/
theorem le_notANumber (value : UnpackedFloat) : value.le .notANumber = false := by
  cases value <;> rfl

/-- What is at least as large as something is a number. -/
theorem isNaN_eq_false_of_le {bound value : Float} (reached : bound ≤ value) :
    value.isNaN = false := by
  change decide (bound.toModel ≤ value.toModel) = true at reached
  rw [decide_eq_true_iff] at reached
  change UnpackedFloat.le bound.toModel.unpack value.toModel.unpack = true at reached
  change UnpackedFloat.isNaN value.toModel.unpack = false
  cases unpacked : value.toModel.unpack with
  | notANumber =>
      rw [unpacked, le_notANumber] at reached
      contradiction
  | infinity sign => rfl
  | zero sign => rfl
  | finite sign mantissa exponent positive => rfl

/-- The later of two numbers is taken only when it is larger. -/
theorem max_assoc {first second third : Float} (firstNumber : first.isNaN = false)
    (secondNumber : second.isNaN = false) (thirdNumber : third.isNaN = false) :
    (if (if first < second then second else first) < third then third
      else if first < second then second else first) =
      if first < (if second < third then third else second) then
        if second < third then third else second
      else first := by
  have firstSecond := lt_iff firstNumber secondNumber
  have secondThird := lt_iff secondNumber thirdNumber
  have firstThird := lt_iff firstNumber thirdNumber
  by_cases rising : first < second
  · by_cases risingOn : second < third
    · have rises : first < third :=
        firstThird.mpr ((firstSecond.mp rising).trans (secondThird.mp risingOn))
      simp only [rising, risingOn, rises, if_true]
    · simp only [rising, risingOn, if_true, if_false]
  · by_cases risingOn : second < third
    · simp only [rising, risingOn, if_true, if_false]
    · have falls : ¬ first < third := by
        intro rises
        have reached := not_lt.mp (mt firstSecond.mpr rising)
        have passed := not_lt.mp (mt secondThird.mpr risingOn)
        exact absurd (firstThird.mp rises) (not_lt.mpr (passed.trans reached))
      simp only [rising, risingOn, falls, if_false]

end FloatOrder

/-! ## Absorbing -/

/-- Whether a confidence can be compared: it is absent or a number. -/
def IsNumber (confidence : Option Float) : Prop :=
  ∀ value ∈ confidence, value.isNaN = false

/-- The first of three texts that is not empty does not depend on the grouping. -/
theorem firstText_assoc (first second third : String) :
    (if (if first = "" then second else first) = "" then third
      else if first = "" then second else first) =
      if first = "" then if second = "" then third else second else first := by
  by_cases blank : first = ""
  · simp only [blank, if_true]
  · simp only [blank, if_false]

theorem FileNode.absorb_assoc (first second third : FileNode) :
    (first.absorb second).absorb third = first.absorb (second.absorb third) := by
  simp only [absorb, FileNode.mk.injEq, true_and]
  exact ⟨firstText_assoc _ _ _, Option.or_assoc, Bool.or_assoc _ _ _, UInt32.add_assoc _ _ _⟩

theorem ClassNode.absorb_assoc (first second third : ClassNode) :
    (first.absorb second).absorb third = first.absorb (second.absorb third) := by
  simp only [absorb, ClassNode.mk.injEq, true_and]
  exact ⟨firstText_assoc _ _ _, UInt32.add_assoc _ _ _⟩

theorem MethodNode.absorb_assoc (first second third : MethodNode) :
    (first.absorb second).absorb third = first.absorb (second.absorb third) := by
  simp only [absorb, UInt32.add_assoc]

theorem QueryNode.absorb_assoc (first second third : QueryNode) :
    (first.absorb second).absorb third = first.absorb (second.absorb third) := by
  simp only [absorb, UInt32.add_assoc]

theorem EntityNode.absorb_assoc (first second third : EntityNode) :
    (first.absorb second).absorb third = first.absorb (second.absorb third) := by
  simp only [absorb, UInt32.add_assoc]

namespace IssueNode

theorem isNumber_maxConfidence {first second : Option Float} (firstNumber : IsNumber first)
    (secondNumber : IsNumber second) : IsNumber (maxConfidence first second) := by
  rcases first with _ | first
  · rcases second with _ | second
    · exact firstNumber
    · exact secondNumber
  · rcases second with _ | second
    · exact firstNumber
    · intro value member
      obtain rfl := Option.mem_some_iff.mp member
      split
      · exact secondNumber _ rfl
      · exact firstNumber _ rfl

/-- The largest of three confidences does not depend on the grouping. -/
theorem maxConfidence_assoc {first second third : Option Float} (firstNumber : IsNumber first)
    (secondNumber : IsNumber second) (thirdNumber : IsNumber third) :
    maxConfidence (maxConfidence first second) third =
      maxConfidence first (maxConfidence second third) := by
  rcases first with _ | first
  · rfl
  · rcases second with _ | second
    · rfl
    · rcases third with _ | third
      · rfl
      · exact congrArg some (FloatOrder.max_assoc (firstNumber _ rfl) (secondNumber _ rfl)
          (thirdNumber _ rfl))

theorem absorb_assoc {first second third : IssueNode}
    (firstNumber : IsNumber first.confidence) (secondNumber : IsNumber second.confidence)
    (thirdNumber : IsNumber third.confidence) :
    (first.absorb second).absorb third = first.absorb (second.absorb third) := by
  simp only [absorb, IssueNode.mk.injEq, true_and, and_true]
  exact ⟨Option.or_assoc, maxConfidence_assoc firstNumber secondNumber thirdNumber⟩

end IssueNode

namespace Node

/-- Whether the confidence of a node can be compared; only issues have one. -/
def IsComparable : Node → Prop
  | issue node => IsNumber node.confidence
  | _ => True

theorem isComparable_absorb {first second : Node} (firstComparable : first.IsComparable)
    (secondComparable : second.IsComparable) : (first.absorb second).IsComparable := by
  cases first with
  | issue first =>
      cases second with
      | issue second => exact IssueNode.isNumber_maxConfidence firstComparable secondComparable
      | _ => exact firstComparable
  | _ => cases second <;> trivial

/-- Sightings of one kind may be absorbed in either grouping. -/
theorem absorb_assoc {first second third : Node} (sameKind : second.kind = third.kind)
    (firstComparable : first.IsComparable) (secondComparable : second.IsComparable)
    (thirdComparable : third.IsComparable) :
    (first.absorb second).absorb third = first.absorb (second.absorb third) := by
  cases second with
  | file second =>
      cases third <;> try cases sameKind
      cases first with
      | file first => exact congrArg file (FileNode.absorb_assoc first _ _)
      | _ => rfl
  | classDef second =>
      cases third <;> try cases sameKind
      cases first with
      | classDef first => exact congrArg classDef (ClassNode.absorb_assoc first _ _)
      | _ => rfl
  | method second =>
      cases third <;> try cases sameKind
      cases first with
      | method first => exact congrArg method (MethodNode.absorb_assoc first _ _)
      | _ => rfl
  | query second =>
      cases third <;> try cases sameKind
      cases first with
      | query first => exact congrArg query (QueryNode.absorb_assoc first _ _)
      | _ => rfl
  | entity second =>
      cases third <;> try cases sameKind
      cases first with
      | entity first => exact congrArg entity (EntityNode.absorb_assoc first _ _)
      | _ => rfl
  | issue second =>
      cases third <;> try cases sameKind
      cases first with
      | issue first =>
          exact congrArg issue
            (IssueNode.absorb_assoc firstComparable secondComparable thirdComparable)
      | _ => rfl

end Node

end QueryImpact
