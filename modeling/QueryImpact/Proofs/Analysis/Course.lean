import Mathlib
import QueryImpact.Control

/-!
# What is noticed while a question is worked on

A cancellation and a deadline are noticed in the pauses of a question only.  What comes of the
question is decided by its pauses: it is cancelled when one of them catches the cancellation, else
it expires when one of them outlasts the deadline, else it is answered in its own time.

A deadline that passes in the last stretch of work is not noticed, so an answer that is late may
still be taken.  It cannot be late unnoticed when the answer comes with the end of a pause.
-/

namespace QueryImpact

theorem any_deadline_eq_false {deadline : Option Milliseconds} {now : Milliseconds}
    (early : ∀ limit ∈ deadline, now < limit) : deadline.any (· ≤ now) = false := by
  rw [Option.any_eq_false]
  intro limit isLimit
  exact decide_eq_false (Nat.not_le.mpr (early limit isLimit))

namespace Pause

/-- A request to cancel is noticed in a pause: it comes before the pause ends, and no later than
the deadline, which has not come when the pause begins. -/
def Catches (pause : Pause) (time : Milliseconds) (deadline : Option Milliseconds) : Prop :=
  (∀ ends ∈ pause.ends, time ≤ ends) ∧ ∀ limit ∈ deadline, time ≤ limit ∧ pause.begins < limit

instance (pause : Pause) (time : Milliseconds) (deadline : Option Milliseconds) :
    Decidable (pause.Catches time deadline) :=
  inferInstanceAs (Decidable (_ ∧ _))

/-- A deadline is noticed in a pause: it has come when the pause begins, or comes before it ends. -/
def Outlasts (pause : Pause) (limit : Milliseconds) : Prop :=
  limit ≤ pause.begins ∨ ∀ ends ∈ pause.ends, limit < ends

instance (pause : Pause) (limit : Milliseconds) : Decidable (pause.Outlasts limit) :=
  inferInstanceAs (Decidable (_ ∨ _))

variable {pause : Pause} {request deadline : Option Milliseconds}

theorem interruption?_of_catches {time : Milliseconds} (catches : pause.Catches time deadline) :
    ∃ noticed, pause.interruption? (some time) deadline = some (.cancelledAt noticed) := by
  obtain ⟨beforeEnd, beforeLimit⟩ := catches
  have notPassed := any_deadline_eq_false fun limit isLimit => (beforeLimit limit isLimit).2
  have inTime : deadline.all (time ≤ ·) = true := by
    rw [Option.all_eq_true]
    exact fun limit isLimit => decide_eq_true (beforeLimit limit isLimit).1
  have awaited : pause.ends.all (time ≤ ·) = true := by
    rw [Option.all_eq_true]
    exact fun ends isEnd => decide_eq_true (beforeEnd ends isEnd)
  exact ⟨max pause.begins time, by simp [interruption?, notPassed, inTime, awaited]⟩

/-- A pause that does not catch the request lets it pass. -/
theorem filter_request_eq_none (early : ∀ limit ∈ deadline, pause.begins < limit)
    (unrequested : ∀ time ∈ request, ¬ pause.Catches time deadline) :
    (request.filter fun time => deadline.all (time ≤ ·) && pause.ends.all (time ≤ ·)) = none := by
  rw [Option.filter_eq_none_iff]
  intro time isRequest caught
  simp only [Bool.and_eq_true, Option.all_eq_true, decide_eq_true_eq] at caught
  exact unrequested time isRequest
    ⟨caught.2, fun limit isLimit => ⟨caught.1 limit isLimit, early limit isLimit⟩⟩

theorem interruption?_of_outlasts {limit : Milliseconds}
    (unrequested : ∀ time ∈ request, ¬ pause.Catches time (some limit))
    (outlasts : pause.Outlasts limit) :
    ∃ noticed, pause.interruption? request (some limit) = some (.expiredAt noticed) := by
  by_cases passed : limit ≤ pause.begins
  · exact ⟨pause.begins, by simp [interruption?, passed]⟩
  · have late : pause.ends.all (limit < ·) = true := by
      rw [Option.all_eq_true]
      exact fun ends isEnd => decide_eq_true (outlasts.resolve_left passed ends isEnd)
    have early : ∀ other ∈ some limit, pause.begins < other := by
      simpa using passed
    refine ⟨limit, ?_⟩
    rw [interruption?, any_deadline_eq_false early]
    simp only [filter_request_eq_none early unrequested, Bool.false_eq_true, if_false,
      Option.map_none, Option.none_or, Option.filter_some, late, if_true, Option.map_some]

theorem interruption?_eq_none (unrequested : ∀ time ∈ request, ¬ pause.Catches time deadline)
    (inTime : ∀ limit ∈ deadline, ¬ pause.Outlasts limit) :
    pause.interruption? request deadline = none := by
  have early : ∀ limit ∈ deadline, pause.begins < limit := fun limit isLimit =>
    Nat.not_le.mp (not_or.mp (inTime limit isLimit)).1
  have notLate : (deadline.filter fun limit => pause.ends.all (limit < ·)) = none := by
    rw [Option.filter_eq_none_iff]
    intro limit isLimit late
    simp only [Option.all_eq_true, decide_eq_true_eq] at late
    exact inTime limit isLimit (Or.inr late)
  rw [interruption?, any_deadline_eq_false early]
  simp only [filter_request_eq_none early unrequested, notLate, Bool.false_eq_true, if_false,
    Option.map_none, Option.none_or]

end Pause

namespace Course

/-- How long a question takes; nothing when it never ends. -/
def span : Course → Option Milliseconds
  | work busy => some busy
  | pause busy idle later => later.span.map (busy + idle + ·)
  | hang _ => none

/-- The pauses of a question that is asked at a point in time. -/
def pauses : Course → Milliseconds → List Pause
  | work _, _ => []
  | pause busy idle later, now =>
      ⟨now + busy, some (now + busy + idle)⟩ :: later.pauses (now + busy + idle)
  | hang busy, now => [⟨now + busy, none⟩]

theorem le_begins_of_mem_pauses {course : Course} {now : Milliseconds} {pause : Pause}
    (member : pause ∈ course.pauses now) : now ≤ pause.begins := by
  induction course generalizing now with
  | work busy => exact absurd member List.not_mem_nil
  | pause busy idle later ih =>
      rcases List.mem_cons.mp member with rfl | isLater
      · exact Nat.le_add_right now busy
      · exact (Nat.le_add_right now _).trans ((Nat.le_add_right _ _).trans (ih isLater))
  | hang busy =>
      rw [List.mem_singleton.mp member]
      exact Nat.le_add_right now busy

/-- The pauses of a question follow one another. -/
theorem pairwise_pauses (course : Course) (now : Milliseconds) :
    (course.pauses now).Pairwise fun pause later =>
      ∃ ends ∈ pause.ends, pause.begins ≤ ends ∧ ends ≤ later.begins := by
  induction course generalizing now with
  | work busy => exact .nil
  | pause busy idle later ih =>
      refine .cons ?_ (ih _)
      intro other isLater
      exact ⟨_, rfl, Nat.le_add_right _ _, le_begins_of_mem_pauses isLater⟩
  | hang busy => exact List.pairwise_singleton _ _

/-! ## What comes of a question -/

section Outcome

variable {course : Course} {now : Milliseconds} {request deadline : Option Milliseconds}

/-- What comes of a question is the first interruption in its pauses, or else its answer. -/
theorem outcome_eq_findSome? (course : Course) (now : Milliseconds) :
    course.outcome request deadline now =
      ((course.pauses now).findSome? fun pause => pause.interruption? request deadline).getD
        (course.span.elim .forever fun span => .answeredAt (now + span)) := by
  induction course generalizing now with
  | work busy => rfl
  | pause busy idle later ih =>
      rw [outcome, pauses, List.findSome?_cons]
      cases (⟨now + busy, some (now + busy + idle)⟩ : Pause).interruption? request deadline with
      | some interruption => rfl
      | none =>
          rw [Option.getD_none, ih, span]
          cases later.span with
          | none => rfl
          | some rest => simp only [Option.map_some, Option.elim_some, Nat.add_assoc]
  | hang busy =>
      rw [outcome, pauses, List.findSome?_cons]
      cases (⟨now + busy, none⟩ : Pause).interruption? request deadline <;> rfl

/-- A question is cancelled when one of its pauses catches the cancellation. -/
theorem outcome_of_catches {time : Milliseconds}
    (caught : ∃ pause ∈ course.pauses now, pause.Catches time deadline) :
    ∃ noticed, course.outcome (some time) deadline now = .cancelledAt noticed := by
  obtain ⟨pause, member, catches⟩ := caught
  obtain ⟨_, interrupted⟩ := Pause.interruption?_of_catches catches
  rw [outcome_eq_findSome?]
  cases found : (course.pauses now).findSome? fun pause =>
      pause.interruption? (some time) deadline with
  | none =>
      rw [List.findSome?_eq_none_iff.mp found pause member] at interrupted
      contradiction
  | some interruption =>
      obtain ⟨before, first, behind, split, isFirst, passed⟩ := List.findSome?_eq_some_iff.mp found
      have firstCatches : first.Catches time deadline := by
        have placed : pause ∈ before ∨ pause = first ∨ pause ∈ behind := by
          rw [split] at member
          simpa using member
        rcases placed with isBefore | rfl | isBehind
        · rw [passed pause isBefore] at interrupted
          contradiction
        · exact catches
        -- The pause that catches it comes later, so the deadline has not come when this one ends.
        · by_contra notCaught
          have sorted := course.pairwise_pauses now
          rw [split] at sorted
          obtain ⟨ends, isEnd, begins, ended⟩ := List.rel_of_pairwise_cons
            (List.pairwise_append.mp sorted).2.1 isBehind
          have inTime (limit) (isLimit : limit ∈ deadline) : ¬ first.Outlasts limit := by
            have early : ends < limit := ended.trans_lt (catches.2 limit isLimit).2
            rintro (begun | late)
            · exact absurd (begins.trans_lt early) (Nat.not_lt.mpr begun)
            · exact absurd (late ends isEnd) (Nat.not_lt.mpr early.le)
          rw [Pause.interruption?_eq_none (by simpa using notCaught) inTime] at isFirst
          contradiction
      obtain ⟨noticed, isCancelled⟩ := Pause.interruption?_of_catches firstCatches
      exact ⟨noticed, Option.some.inj (isFirst.symm.trans isCancelled)⟩

/-- A question that is not cancelled expires when one of its pauses outlasts the deadline. -/
theorem outcome_of_outlasts {limit : Milliseconds}
    (unrequested : ∀ time ∈ request, ∀ pause ∈ course.pauses now,
      ¬ pause.Catches time (some limit))
    (late : ∃ pause ∈ course.pauses now, pause.Outlasts limit) :
    ∃ noticed, course.outcome request (some limit) now = .expiredAt noticed := by
  have notCaught (pause) (member : pause ∈ course.pauses now) :
      ∀ time ∈ request, ¬ pause.Catches time (some limit) :=
    fun time isRequest => unrequested time isRequest pause member
  rw [outcome_eq_findSome?]
  cases found : (course.pauses now).findSome? fun pause =>
      pause.interruption? request (some limit) with
  | none =>
      obtain ⟨pause, member, outlasts⟩ := late
      obtain ⟨_, interrupted⟩ := Pause.interruption?_of_outlasts (notCaught pause member) outlasts
      rw [List.findSome?_eq_none_iff.mp found pause member] at interrupted
      contradiction
  | some interruption =>
      obtain ⟨pause, member, isFirst⟩ := List.exists_of_findSome?_eq_some found
      by_cases outlasts : pause.Outlasts limit
      · obtain ⟨noticed, isExpired⟩ :=
          Pause.interruption?_of_outlasts (notCaught pause member) outlasts
        exact ⟨noticed, Option.some.inj (isFirst.symm.trans isExpired)⟩
      · rw [Pause.interruption?_eq_none (notCaught pause member) (by simpa using outlasts)]
          at isFirst
        contradiction

/-- A question in whose pauses nothing is noticed takes its time. -/
theorem outcome_of_pass
    (unrequested : ∀ time ∈ request, ∀ pause ∈ course.pauses now, ¬ pause.Catches time deadline)
    (inTime : ∀ limit ∈ deadline, ∀ pause ∈ course.pauses now, ¬ pause.Outlasts limit) :
    course.outcome request deadline now =
      course.span.elim .forever fun span => .answeredAt (now + span) := by
  have passed : ((course.pauses now).findSome? fun pause =>
      pause.interruption? request deadline) = none := by
    rw [List.findSome?_eq_none_iff]
    intro pause member
    exact Pause.interruption?_eq_none
      (fun time isRequest => unrequested time isRequest pause member)
      (fun limit isLimit => inTime limit isLimit pause member)
  rw [outcome_eq_findSome?, passed, Option.getD_none]

end Outcome

/-! ## Late answers -/

/-- A question of which the answer comes at once or with the end of a pause, and of which every
pause takes time. -/
def IsPrompt : Course → Prop
  | work busy => busy = 0
  | pause _ idle later => 0 < idle ∧ later.IsPrompt
  | hang _ => True

/-- A mere wait is over when it ends. -/
theorem isPrompt_wait (span : Option Milliseconds) : (wait span).IsPrompt := by
  unfold wait
  split
  · rfl
  · rename_i positive
    exact ⟨Nat.pos_of_ne_zero positive, rfl⟩
  · trivial

@[simp]
theorem span_wait (span : Option Milliseconds) : (wait span).span = span := by
  unfold wait
  split <;> simp [Course.span]

variable {course : Course} {now time : Milliseconds}

/-- The pauses of a question that ends lie before its end. -/
theorem ends_of_mem_pauses (ends : course.span = some time) {pause : Pause}
    (member : pause ∈ course.pauses now) :
    ∃ last, pause.ends = some last ∧ pause.begins ≤ last ∧ last ≤ now + time ∧
      (course.IsPrompt → pause.begins < last) := by
  induction course generalizing now time with
  | work busy => exact absurd member List.not_mem_nil
  | pause busy idle later ih =>
      obtain ⟨rest, isRest, rfl⟩ := Option.map_eq_some_iff.mp ends
      rcases List.mem_cons.mp member with rfl | isLater
      · refine ⟨now + busy + idle, rfl, Nat.le_add_right _ _, by grind, ?_⟩
        rintro ⟨takesTime, -⟩
        exact Nat.lt_add_of_pos_right takesTime
      · obtain ⟨last, isLast, begins, inSpan, positive⟩ := ih isRest isLater
        exact ⟨last, isLast, begins, by grind, fun prompt => positive prompt.2⟩
  | hang busy => contradiction

/-- Where the answer comes with the end of a pause, one of the pauses outlasts what the question
outlasts. -/
theorem IsPrompt.exists_outlasts (prompt : course.IsPrompt) {limit : Milliseconds}
    (begun : now ≤ limit) (late : ∀ time ∈ course.span, limit < now + time) :
    ∃ pause ∈ course.pauses now, pause.Outlasts limit := by
  induction course generalizing now with
  | work busy =>
      have isLate := late busy rfl
      rw [prompt] at isLate
      exact absurd begun (Nat.not_le.mpr isLate)
  | pause busy idle later ih =>
      by_cases here : limit < now + busy + idle
      · exact ⟨_, List.mem_cons_self, Or.inr (by simpa using here)⟩
      · obtain ⟨pause, isLater, outlasts⟩ := ih prompt.2 (Nat.not_lt.mp here) (by
          intro rest isRest
          have isLate := late (busy + idle + rest) (by simp [span, Option.mem_def.mp isRest])
          grind)
        exact ⟨pause, List.mem_cons_of_mem _ isLater, outlasts⟩
  | hang busy => exact ⟨_, List.mem_cons_self, Or.inr (by simp)⟩

end Course

end QueryImpact
