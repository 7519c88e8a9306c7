import Mathlib
import QueryImpact.Analysis.DependencyChain
import QueryImpact.Proofs.Analysis.Course
import QueryImpact.Proofs.Graph.Distance
import QueryImpact.Proofs.Store.Outage
import QueryImpact.Settings

/-!
# One deadline for a whole analysis

The questions of an analysis without a control are asked, worked on and answered at certain times.
These times alone decide how the same analysis ends under a control: with the result it has
without, or with the error of the first question at which the control stops it.  The result without
a control is the one on the stored graph, as long as the store answers.

A question that is asked after the deadline, or answered after it, is late.  The control stops a
late analysis if it notices: always at the next question, and at the last question if the answer
to it comes at once or with the end of a pause.
-/

namespace QueryImpact

/-- When a question is asked, and how the time is spent on it. -/
structure AskedAt where
  /-- When it is asked. -/
  asked : Milliseconds
  /-- How the time is spent. -/
  course : Course
deriving DecidableEq

namespace AskedAt

/-- When a question is answered; nothing when it never is. -/
def answered (question : AskedAt) : Option Milliseconds :=
  question.course.span.map (question.asked + ·)

/-- The pauses before the answer. -/
def pauses (question : AskedAt) : List Pause :=
  question.course.pauses question.asked

/-- A question that is not asked before a deadline, or not answered by then. -/
def Misses (question : AskedAt) (limit : Milliseconds) : Prop :=
  limit ≤ question.asked ∨ ∀ time ∈ question.answered, limit < time

instance (question : AskedAt) (limit : Milliseconds) : Decidable (question.Misses limit) :=
  inferInstanceAs (Decidable (_ ∨ _))

/-- A question at which a deadline is noticed. -/
def Expires (question : AskedAt) (limit : Milliseconds) : Prop :=
  limit ≤ question.asked ∨ ∃ pause ∈ question.pauses, pause.Outlasts limit

instance (question : AskedAt) (limit : Milliseconds) : Decidable (question.Expires limit) :=
  inferInstanceAs (Decidable (_ ∨ _))

/-- When the analysis is through with a question, or since when it waits for the answer. -/
def left (question : AskedAt) : Milliseconds :=
  question.answered.getD question.asked

variable {question later : AskedAt} {limit : Milliseconds}

/-- A question at which a deadline is noticed is not answered before it. -/
theorem Expires.le_answered (expires : question.Expires limit) {time : Milliseconds}
    (answered : question.answered = some time) : limit ≤ time := by
  obtain ⟨span, isSpan, rfl⟩ := Option.map_eq_some_iff.mp answered
  rcases expires with asked | ⟨pause, member, outlasts⟩
  · exact asked.trans (Nat.le_add_right _ _)
  · obtain ⟨last, isLast, begins, inSpan, -⟩ := Course.ends_of_mem_pauses isSpan member
    rcases outlasts with begun | notEnded
    · exact begun.trans (begins.trans inSpan)
    · exact (notEnded last isLast).le.trans inSpan

/-- Where the answer comes with the end of a pause, a deadline that is missed is noticed, and no
other. -/
theorem misses_iff_expires (prompt : question.course.IsPrompt) :
    question.Misses limit ↔ question.Expires limit := by
  by_cases asked : limit ≤ question.asked
  · exact iff_of_true (Or.inl asked) (Or.inl asked)
  · constructor
    · intro misses
      refine Or.inr (prompt.exists_outlasts (Nat.not_le.mp asked).le ?_)
      intro span isSpan
      exact misses.resolve_left asked _ (Option.mem_map_of_mem _ isSpan)
    · intro expires
      right
      intro time answered
      obtain ⟨pause, member, outlasts⟩ := expires.resolve_left asked
      obtain ⟨span, isSpan, rfl⟩ := Option.map_eq_some_iff.mp answered
      obtain ⟨last, isLast, -, inSpan, positive⟩ := Course.ends_of_mem_pauses isSpan member
      rcases outlasts with begun | notEnded
      · exact begun.trans_lt ((positive prompt).trans_le inSpan)
      · exact (notEnded last isLast).trans_le inSpan

/-- Of questions that follow one another, one misses a deadline exactly when the deadline is noticed
at one, provided that the last answer comes at once or with the end of a pause. -/
theorem exists_misses_iff_exists_expires {questions : List AskedAt}
    (chained : questions.IsChain fun question later => question.answered = some later.asked)
    (prompt : ∀ last ∈ questions.getLast?, last.course.IsPrompt) :
    (∃ question ∈ questions, question.Misses limit) ↔
      ∃ question ∈ questions, question.Expires limit := by
  induction questions with
  | nil => simp
  | cons first rest ih =>
      cases rest with
      | nil => simp [misses_iff_expires (prompt first rfl)]
      | cons second rest =>
          obtain ⟨answered, restChained⟩ := List.isChain_cons_cons.mp chained
          have later := ih restChained prompt
          rw [List.exists_mem_cons_iff, List.exists_mem_cons_iff _ first, later]
          constructor
          · rintro (misses | expires)
            · rcases misses with asked | late
              · exact Or.inl (Or.inl asked)
              -- The next question comes too late.
              · exact Or.inr ⟨second, List.mem_cons_self, Or.inl (late _ answered).le⟩
            · exact Or.inr expires
          · rintro (expires | expires)
            · refine Or.inr (later.mp ⟨second, List.mem_cons_self, Or.inl ?_⟩)
              exact expires.le_answered answered
            · exact Or.inr expires

end AskedAt

/-! ## Where a control stops an analysis -/

namespace TimedControl

/-- A control cancels an analysis at a question, when the given number of questions has been
started before: it does so before the question is asked, or in a pause before the answer. -/
def Cancels (control : TimedControl) (begun : Milliseconds) (started : Nat)
    (question : AskedAt) : Prop :=
  control.isCancelled started question.asked = true ∨
    ∃ time ∈ control.requestedAt (started + 1) question.asked, ∃ pause ∈ question.pauses,
      pause.Catches time (control.timeout.map (begun + ·))

instance (control : TimedControl) (begun : Milliseconds) (started : Nat) (question : AskedAt) :
    Decidable (control.Cancels begun started question) :=
  inferInstanceAs (Decidable (_ ∨ _))

/-- The error with which a control stops an analysis at a question. -/
def stop? (control : TimedControl) (begun : Milliseconds) (started : Nat) (question : AskedAt) :
    Option StoreError :=
  if control.Cancels begun started question then some .cancelled
  else (control.timeout.filter fun span => question.Expires (begun + span)).map .timedOut

section Stop

variable {control : TimedControl} {begun : Milliseconds} {started : Nat} {question : AskedAt}

theorem stop?_eq_some_iff {error : StoreError} :
    control.stop? begun started question = some error ↔
      control.Cancels begun started question ∧ .cancelled = error ∨
        ¬ control.Cancels begun started question ∧ ∃ span, control.timeout = some span ∧
          question.Expires (begun + span) ∧ .timedOut span = error := by
  rw [stop?]
  split
  · rename_i cancels
    simp [cancels]
  · rename_i notCancels
    simp only [Option.map_eq_some_iff, Option.filter_eq_some_iff, decide_eq_true_eq, notCancels,
      false_and, not_false_eq_true, true_and, false_or, and_assoc]

theorem stop?_eq_none_iff :
    control.stop? begun started question = .none ↔
      ¬ control.Cancels begun started question ∧
        ∀ span ∈ control.timeout, ¬ question.Expires (begun + span) := by
  rw [stop?]
  split
  · rename_i cancels
    simp [cancels]
  · rename_i notCancels
    simp [notCancels, Option.filter_eq_none_iff]

/-- A control without a cancellation cancels at no question. -/
theorem not_cancels (noNumber : control.cancelAt = .none) (noTime : control.cancelTime = .none) :
    ¬ control.Cancels begun started question := by
  simp [Cancels, isCancelled, requestedAt, Control.isCancelled, noNumber, noTime]

/-- Without a control nothing is stopped. -/
theorem none_stop? (begun : Milliseconds) (started : Nat) (question : AskedAt) :
    TimedControl.none.stop? begun started question = .none :=
  stop?_eq_none_iff.mpr ⟨not_cancels rfl rfl, by simp [none, Control.none]⟩

end Stop

/-- The error with which a control stops an analysis at the first of some questions at which it
does. -/
def firstStop? (control : TimedControl) (begun : Milliseconds) (started : Nat)
    (questions : List AskedAt) : Option StoreError :=
  (questions.zipIdx started).findSome? fun question => control.stop? begun question.2 question.1

section FirstStop

variable {control : TimedControl} {begun : Milliseconds} {started : Nat} {questions : List AskedAt}

theorem firstStop?_cons (question : AskedAt) (later : List AskedAt) :
    control.firstStop? begun started (question :: later) =
      (control.stop? begun started question).or (control.firstStop? begun (started + 1) later) := by
  rw [firstStop?, List.zipIdx_cons, List.findSome?_cons]
  cases control.stop? begun started question <;> rfl

theorem firstStop?_eq_none_iff :
    control.firstStop? begun started questions = .none ↔
      ∀ index question, questions[index]? = some question →
        control.stop? begun (started + index) question = .none := by
  induction questions generalizing started with
  | nil => simp [firstStop?]
  | cons first later ih =>
      simp only [firstStop?_cons, Option.or_eq_none_iff, ih, Nat.add_right_comm started 1]
      constructor
      · rintro ⟨passesFirst, passesLater⟩ (_ | index) question isAt
        · obtain rfl := Option.some.inj isAt
          exact passesFirst
        · exact passesLater index question isAt
      · intro passes
        exact ⟨passes 0 first rfl, fun index => passes (index + 1)⟩

/-- A control that stops an analysis does so at one question, and not at those before it. -/
theorem exists_of_firstStop?_eq_some {error : StoreError}
    (stops : control.firstStop? begun started questions = some error) :
    ∃ index question, questions[index]? = some question ∧
      control.stop? begun (started + index) question = some error ∧
      ∀ earlier < index, ∀ other, questions[earlier]? = some other →
        control.stop? begun (started + earlier) other = .none := by
  induction questions generalizing started with
  | nil => contradiction
  | cons first later ih =>
      rw [firstStop?_cons] at stops
      cases here : control.stop? begun started first with
      | some stop =>
          rw [here] at stops
          refine ⟨0, first, rfl, here.trans stops, ?_⟩
          intro earlier before
          exact absurd before (Nat.not_lt_zero earlier)
      | none =>
          rw [here, Option.none_or] at stops
          obtain ⟨index, question, isAt, stopsThere, passesBefore⟩ := ih stops
          simp only [Nat.add_right_comm started 1] at stopsThere passesBefore
          refine ⟨index + 1, question, isAt, stopsThere, ?_⟩
          rintro (_ | earlier) before other isOther
          · obtain rfl := Option.some.inj isOther
            exact here
          · exact passesBefore earlier (Nat.lt_of_succ_lt_succ before) other isOther

end FirstStop

/-! ## How an analysis ends -/

/-- A control does not cancel at any of the questions. -/
def Spares (control : TimedControl) (begun : Milliseconds) (questions : List AskedAt) : Prop :=
  ∀ index question, questions[index]? = some question → ¬ control.Cancels begun index question

theorem spares_of_not_cancelled {control : TimedControl} (noNumber : control.cancelAt = .none)
    (noTime : control.cancelTime = .none) (begun : Milliseconds) (questions : List AskedAt) :
    control.Spares begun questions :=
  fun _ _ _ => not_cancels noNumber noTime

/-- How an analysis that is not cancelled ends under a control, told by which questions are late. -/
structure Decides {α : Type} (control : TimedControl) (begun : Milliseconds)
    (questions : List AskedAt) (late : AskedAt → Milliseconds → Prop) (free result : Ending α) :
    Prop where
  /-- One late question uses up the time. -/
  expired : ∀ span ∈ control.timeout, ∀ question ∈ questions, late question (begun + span) →
    result = .returned (.error (.timedOut span))
  /-- With all questions in time, the control makes no difference. -/
  unhindered : (∀ span ∈ control.timeout, ∀ question ∈ questions, ¬ late question (begun + span)) →
    result = free
  /-- So the time is used up exactly when a question is late, unless the store itself speaks of a
  time limit. -/
  expired_iff : (∀ span, free ≠ .returned (.error (.timedOut span))) → ∀ span,
    result = .returned (.error (.timedOut span)) ↔
      span ∈ control.timeout ∧ ∃ question ∈ questions, late question (begun + span)

/-- How an analysis ends under a control, told by the times of its questions without one. -/
structure Governs {α : Type} (control : TimedControl) (begun : Milliseconds)
    (questions : List AskedAt) (free result : Ending α) : Prop where
  /-- Without a cancellation, questions that miss the deadline decide, provided that the last
  answer comes at once or with the end of a pause. -/
  missed : control.Spares begun questions →
    (∀ last ∈ questions.getLast?, last.course.IsPrompt) →
      control.Decides begun questions AskedAt.Misses free result
  /-- Without a cancellation, questions at which the deadline is noticed decide in any case. -/
  noticed : control.Spares begun questions →
    control.Decides begun questions AskedAt.Expires free result
  /-- A cancellation before a question wins, also when the question comes too late; one in a pause
  wins as well, unless the deadline has come. -/
  cancelled : ∀ index question, questions[index]? = some question →
    control.Cancels begun index question →
    (∀ span ∈ control.timeout, ∀ earlier ∈ questions.take index,
      ¬ earlier.Expires (begun + span)) → result = .returned (.error .cancelled)
  /-- There are no partial results. -/
  whole : result = free ∨
    (∃ span ∈ control.timeout, result = .returned (.error (.timedOut span))) ∨
      result = .returned (.error .cancelled)

section Governs

variable {α : Type} {control : TimedControl} {begun : Milliseconds} {questions : List AskedAt}
  {free result : Ending α}

/-- Two ways of being late decide alike when one question is late in one way exactly when one is in
the other. -/
theorem Decides.congr {late other : AskedAt → Milliseconds → Prop}
    (decides : control.Decides begun questions late free result)
    (same : ∀ limit, (∃ question ∈ questions, other question limit) ↔
      ∃ question ∈ questions, late question limit) :
    control.Decides begun questions other free result where
  expired span isTimeout question member isLate := by
    obtain ⟨noticing, isMember, notices⟩ := (same _).mp ⟨question, member, isLate⟩
    exact decides.expired span isTimeout noticing isMember notices
  unhindered inTime := by
    apply decides.unhindered
    intro span isTimeout question member isLate
    obtain ⟨missing, isMember, misses⟩ := (same _).mpr ⟨question, member, isLate⟩
    exact inTime span isTimeout missing isMember misses
  expired_iff genuine span := by
    rw [decides.expired_iff genuine span, same]

/-- A control that stops an analysis does so by a cancellation or because a question expires. -/
theorem firstStop?_cases {error : StoreError}
    (stops : control.firstStop? begun 0 questions = some error) :
    (error = .cancelled ∧ ¬ control.Spares begun questions) ∨
      ∃ span ∈ control.timeout, (∃ question ∈ questions, question.Expires (begun + span)) ∧
        error = .timedOut span := by
  obtain ⟨index, question, isAt, stopsThere, -⟩ := exists_of_firstStop?_eq_some stops
  rcases stop?_eq_some_iff.mp stopsThere with ⟨cancels, rfl⟩ | ⟨-, span, isTimeout, expires, rfl⟩
  · rw [Nat.zero_add] at cancels
    exact Or.inl ⟨rfl, fun spares => spares index question isAt cancels⟩
  · exact Or.inr ⟨span, isTimeout, ⟨question, List.mem_of_getElem? isAt, expires⟩, rfl⟩

theorem firstStop?_of_expires (spares : control.Spares begun questions) {span : Milliseconds}
    (isTimeout : span ∈ control.timeout) {question : AskedAt} (member : question ∈ questions)
    (expires : question.Expires (begun + span)) :
    control.firstStop? begun 0 questions = some (.timedOut span) := by
  cases stops : control.firstStop? begun 0 questions with
  | none =>
      obtain ⟨index, isAt⟩ := List.mem_iff_getElem?.mp member
      have passes := firstStop?_eq_none_iff.mp stops index question isAt
      exact absurd expires ((stop?_eq_none_iff.mp passes).2 span isTimeout)
  | some error =>
      rcases firstStop?_cases stops with ⟨-, notSpared⟩ | ⟨other, isOther, -, rfl⟩
      · exact absurd spares notSpared
      · rw [Option.some.inj (isTimeout.symm.trans isOther)]

theorem firstStop?_of_inTime (spares : control.Spares begun questions)
    (inTime : ∀ span ∈ control.timeout, ∀ question ∈ questions,
      ¬ question.Expires (begun + span)) :
    control.firstStop? begun 0 questions = .none := by
  cases stops : control.firstStop? begun 0 questions with
  | none => rfl
  | some error =>
      rcases firstStop?_cases stops with
        ⟨-, notSpared⟩ | ⟨span, isTimeout, ⟨question, member, expires⟩, -⟩
      · exact absurd spares notSpared
      · exact absurd expires (inTime span isTimeout question member)

theorem firstStop?_of_cancels {index : Nat} {question : AskedAt}
    (isAt : questions[index]? = some question) (cancels : control.Cancels begun index question)
    (inTime : ∀ span ∈ control.timeout, ∀ earlier ∈ questions.take index,
      ¬ earlier.Expires (begun + span)) :
    control.firstStop? begun 0 questions = some .cancelled := by
  rw [← Nat.zero_add index] at cancels
  cases stops : control.firstStop? begun 0 questions with
  | none =>
      have passes := firstStop?_eq_none_iff.mp stops index question isAt
      exact absurd cancels (stop?_eq_none_iff.mp passes).1
  | some error =>
      obtain ⟨place, other, isOther, stopsThere, passesBefore⟩ := exists_of_firstStop?_eq_some stops
      rcases stop?_eq_some_iff.mp stopsThere with
        ⟨-, rfl⟩ | ⟨notCancels, span, isTimeout, expires, -⟩
      · rfl
      -- Past the cancelled question the analysis does not get, and before it all is in time.
      · rcases Nat.lt_trichotomy place index with before | rfl | behind
        · have isTaken : (questions.take index)[place]? = some other := by
            rw [List.getElem?_take_of_lt before, isOther]
          exact absurd expires (inTime span isTimeout other (List.mem_of_getElem? isTaken))
        · obtain rfl := Option.some.inj (isAt.symm.trans isOther)
          contradiction
        · have passes := passesBefore index behind question isAt
          exact absurd cancels (stop?_eq_none_iff.mp passes).1

/-- The first stop decides by the questions at which the deadline is noticed. -/
theorem decides_firstStop? (spares : control.Spares begun questions) :
    control.Decides begun questions AskedAt.Expires free
      ((control.firstStop? begun 0 questions).elim free fun error => .returned (.error error)) where
  expired span isTimeout question member expires := by
    rw [firstStop?_of_expires spares isTimeout member expires, Option.elim_some]
  unhindered inTime := by
    rw [firstStop?_of_inTime spares inTime, Option.elim_none]
  expired_iff genuine span := by
    constructor
    · intro timedOut
      cases stops : control.firstStop? begun 0 questions with
      | none =>
          rw [stops] at timedOut
          exact absurd timedOut (genuine span)
      | some error =>
          rw [stops, Option.elim_some] at timedOut
          obtain rfl := Except.error.inj (Ending.returned.inj timedOut)
          rcases firstStop?_cases stops with ⟨-, notSpared⟩ | ⟨other, isTimeout, expiring, isOther⟩
          · exact absurd spares notSpared
          · obtain rfl := StoreError.timedOut.inj isOther
            exact ⟨isTimeout, expiring⟩
    · rintro ⟨isTimeout, question, member, expires⟩
      rw [firstStop?_of_expires spares isTimeout member expires, Option.elim_some]

/-- The first stop decides. -/
theorem governs_firstStop?
    (chained : questions.IsChain fun question later => question.answered = some later.asked) :
    control.Governs begun questions free
      ((control.firstStop? begun 0 questions).elim free fun error => .returned (.error error)) where
  missed spares prompt := (decides_firstStop? spares).congr fun _ =>
    AskedAt.exists_misses_iff_exists_expires chained prompt
  noticed := decides_firstStop?
  cancelled index question isAt cancels inTime := by
    rw [firstStop?_of_cancels isAt cancels inTime, Option.elim_some]
  whole := by
    cases stops : control.firstStop? begun 0 questions with
    | none => exact Or.inl rfl
    | some error =>
        rcases firstStop?_cases stops with ⟨rfl, -⟩ | ⟨span, isTimeout, -, rfl⟩
        · exact Or.inr (Or.inr rfl)
        · exact Or.inr (Or.inl ⟨span, isTimeout, rfl⟩)

end Governs

end TimedControl

/-! ## The run of an analysis -/

namespace Analysis

variable {σ α : Type}

/-- The questions of an analysis that no control stops, with their times. -/
def timeline (store : TimedStore σ) : Analysis α → Milliseconds → σ → List AskedAt
  | .done _, _, _ => []
  | .call question next, now, state =>
      ⟨now, store.course state question⟩ ::
        match (store.course state question).span, store.answer question state with
        | some span, (.ok answer, after) => timeline store (next answer) (now + span) after
        | _, _ => []

section Question

variable {store : TimedStore σ} {control : TimedControl} {question : Lookup}
  (next : question.Answer → Analysis α) {begun now : Milliseconds} {started : Nat} {state : σ}

/-- A control that stops an analysis at a question ends it with its error. -/
theorem runUntil_of_stop {error : StoreError}
    (stops : control.stop? begun started ⟨now, store.course state question⟩ = some error) :
    (runUntil store control (control.timeout.map (begun + ·)) (.call question next)
      ⟨now, started, state⟩).1 = .returned (.error error) := by
  rw [runUntil]
  by_cases before : control.isCancelled started now = true
  · rcases TimedControl.stop?_eq_some_iff.mp stops with ⟨-, rfl⟩ | ⟨notCancels, -⟩
    · rw [if_pos before]
    · exact absurd (Or.inl before) notCancels
  · rw [if_neg before]
    rcases TimedControl.stop?_eq_some_iff.mp stops with
      ⟨cancels, rfl⟩ | ⟨notCancels, span, isTimeout, expires, rfl⟩
    · obtain ⟨time, isRequest, pause, member, catches⟩ := cancels.resolve_left before
      have early := any_deadline_eq_false fun limit isLimit =>
        (Course.le_begins_of_mem_pauses member).trans_lt (catches.2 limit isLimit).2
      obtain ⟨noticed, interrupted⟩ := Course.outcome_of_catches ⟨pause, member, catches⟩
      simp only [early, Option.mem_def.mp isRequest, interrupted, Bool.false_eq_true, if_false]
    · simp only [isTimeout, Option.map_some, Option.any_some, decide_eq_true_eq, Option.getD_some]
      by_cases late : begun + span ≤ now
      · rw [if_pos late]
      · have unrequested : ∀ time ∈ control.requestedAt (started + 1) now,
            ∀ pause ∈ (store.course state question).pauses now,
              ¬ pause.Catches time (some (begun + span)) := by
          intro time isRequest pause member catches
          refine notCancels (Or.inr ⟨time, isRequest, pause, member, ?_⟩)
          rwa [isTimeout]
        obtain ⟨noticed, interrupted⟩ :=
          Course.outcome_of_outlasts unrequested (expires.resolve_left late)
        simp only [late, interrupted, if_false]

/-- A question at which the control does not stop the analysis is asked, and the answer awaited. -/
theorem outcome_of_pass
    (passes : control.stop? begun started ⟨now, store.course state question⟩ = none) :
    control.isCancelled started now = false ∧
      (control.timeout.map (begun + ·)).any (· ≤ now) = false ∧
      (store.course state question).outcome (control.requestedAt (started + 1) now)
          (control.timeout.map (begun + ·)) now =
        (store.course state question).span.elim .forever fun span => .answeredAt (now + span) := by
  obtain ⟨notCancels, inTime⟩ := TimedControl.stop?_eq_none_iff.mp passes
  obtain ⟨notBefore, notMeanwhile⟩ := not_or.mp notCancels
  refine ⟨by simpa using notBefore, any_deadline_eq_false ?_, Course.outcome_of_pass ?_ ?_⟩
  · intro limit isLimit
    obtain ⟨span, isTimeout, rfl⟩ := Option.mem_map.mp isLimit
    exact Nat.not_le.mp (not_or.mp (inTime span isTimeout)).1
  · intro time isRequest pause member catches
    exact notMeanwhile ⟨time, isRequest, pause, member, catches⟩
  · intro limit isLimit pause member outlasts
    obtain ⟨span, isTimeout, rfl⟩ := Option.mem_map.mp isLimit
    exact inTime span isTimeout (Or.inr ⟨pause, member, outlasts⟩)

/-- A question that is never answered does not end. -/
theorem runUntil_of_forever
    (passes : control.stop? begun started ⟨now, store.course state question⟩ = none)
    (isSpan : (store.course state question).span = none) :
    runUntil store control (control.timeout.map (begun + ·)) (.call question next)
        ⟨now, started, state⟩ = (.never, ⟨now, started + 1, state⟩) := by
  obtain ⟨notBefore, inTime, awaited⟩ := outcome_of_pass passes
  rw [isSpan, Option.elim_none] at awaited
  simp only [runUntil, notBefore, inTime, awaited, Bool.false_eq_true, if_false]

/-- A question that fails ends the analysis. -/
theorem runUntil_of_failed
    (passes : control.stop? begun started ⟨now, store.course state question⟩ = none)
    {span : Milliseconds} (isSpan : (store.course state question).span = some span)
    {error : StoreError} {after : σ} (fails : store.answer question state = (.error error, after)) :
    runUntil store control (control.timeout.map (begun + ·)) (.call question next)
        ⟨now, started, state⟩ = (.returned (.error error), ⟨now + span, started + 1, after⟩) := by
  obtain ⟨notBefore, inTime, awaited⟩ := outcome_of_pass passes
  rw [isSpan, Option.elim_some] at awaited
  simp only [runUntil, notBefore, inTime, awaited, fails, Bool.false_eq_true, if_false]

/-- A question that is answered takes its time. -/
theorem runUntil_of_answered
    (passes : control.stop? begun started ⟨now, store.course state question⟩ = none)
    {span : Milliseconds} (isSpan : (store.course state question).span = some span)
    {answer : question.Answer} {after : σ}
    (answers : store.answer question state = (.ok answer, after)) :
    runUntil store control (control.timeout.map (begun + ·)) (.call question next)
        ⟨now, started, state⟩ =
      runUntil store control (control.timeout.map (begun + ·)) (next answer)
        ⟨now + span, started + 1, after⟩ := by
  obtain ⟨notBefore, inTime, awaited⟩ := outcome_of_pass passes
  rw [isSpan, Option.elim_some] at awaited
  simp only [runUntil, notBefore, inTime, awaited, answers, Bool.false_eq_true, if_false]

end Question

/-- An analysis under a control ends with the error of the first question at which the control
stops it, and as without a control when there is none. -/
theorem runUntil_eq_firstStop? (store : TimedStore σ) (control : TimedControl)
    (analysis : Analysis α) (begun now : Milliseconds) (started : Nat) (state : σ) :
    (analysis.runUntil store control (control.timeout.map (begun + ·)) ⟨now, started, state⟩).1 =
      (control.firstStop? begun started (analysis.timeline store now state)).elim
        (analysis.runUntil store .none (TimedControl.none.timeout.map (begun + ·))
          ⟨now, started, state⟩).1
        fun error => .returned (.error error) := by
  induction analysis generalizing now started state with
  | done value => rfl
  | call question next ih =>
      rw [timeline, TimedControl.firstStop?_cons]
      cases stops : control.stop? begun started ⟨now, store.course state question⟩ with
      | some error => exact runUntil_of_stop next stops
      | none =>
          have free := TimedControl.none_stop? begun started ⟨now, store.course state question⟩
          rw [Option.none_or]
          cases isSpan : (store.course state question).span with
          | none =>
              rw [runUntil_of_forever next stops isSpan, runUntil_of_forever next free isSpan]
              rfl
          | some span =>
              rcases isAnswer : store.answer question state with ⟨error | answer, after⟩
              · rw [runUntil_of_failed next stops isSpan isAnswer,
                  runUntil_of_failed next free isSpan isAnswer]
                rfl
              · rw [runUntil_of_answered next stops isSpan isAnswer,
                  runUntil_of_answered next free isSpan isAnswer]
                exact ih answer (now + span) (started + 1) after

/-- The questions are those of a run: the first is asked at its beginning, each other one when the
one before it is answered, and the run ends with the last. -/
structure Fills (questions : List AskedAt) (begun : Milliseconds) (started : Nat)
    (run : Ending α × Progress σ) : Prop where
  /-- As many questions as the run has started. -/
  count : run.2.started = started + questions.length
  /-- The time of the first question. -/
  first : ∀ question ∈ questions.head?, question.asked = begun
  /-- The times of the others. -/
  chained : questions.IsChain fun question later => question.answered = some later.asked
  /-- The time at which the run ends. -/
  ends : run.2.now = questions.getLast?.elim begun AskedAt.left

theorem Fills.cons {questions : List AskedAt} {course : Course} {begun span : Milliseconds}
    {started : Nat} {run : Ending α × Progress σ} (isSpan : course.span = some span)
    (fills : Fills questions (begun + span) (started + 1) run) :
    Fills (⟨begun, course⟩ :: questions) begun started run where
  count := by
    rw [fills.count, List.length_cons]
    omega
  first := by
    simp
  chained := by
    rw [List.isChain_cons]
    refine ⟨?_, fills.chained⟩
    intro later isFirst
    rw [AskedAt.answered, isSpan, fills.first later isFirst]
    rfl
  ends := by
    rw [fills.ends, List.getLast?_cons]
    cases questions.getLast? with
    | none => simp [AskedAt.left, AskedAt.answered, isSpan]
    | some last => rfl

/-- The questions of an analysis without a control are those of its run. -/
theorem fills_runUntil (store : TimedStore σ) (analysis : Analysis α) (begun now : Milliseconds)
    (started : Nat) (state : σ) :
    Fills (analysis.timeline store now state) now started
      (analysis.runUntil store .none (TimedControl.none.timeout.map (begun + ·))
        ⟨now, started, state⟩) := by
  induction analysis generalizing now started state with
  | done value =>
      constructor <;> simp [timeline, runUntil]
  | call question next ih =>
      have free := TimedControl.none_stop? begun started ⟨now, store.course state question⟩
      rw [timeline]
      cases isSpan : (store.course state question).span with
      | none =>
          rw [runUntil_of_forever next free isSpan]
          constructor <;> simp [AskedAt.left, AskedAt.answered, isSpan]
      | some span =>
          rcases isAnswer : store.answer question state with ⟨error | answer, after⟩
          · rw [runUntil_of_failed next free isSpan isAnswer]
            constructor <;> simp [AskedAt.left, AskedAt.answered, isSpan]
          · rw [runUntil_of_answered next free isSpan isAnswer]
            exact (ih answer (now + span) (started + 1) after).cons isSpan

/-- A store with two files that is slow to find the first and to list dependencies. -/
def hesitantStore (listing : Course) : TimedStore Graph where
  course _ question :=
    match question with
    | .fileExists path => .wait (some (if path = "A.java" then 10 else 0))
    | _ => listing
  answer question graph := (.ok (graph.answer question), graph)

/-- On a store that answers every question from one graph, an analysis without a control ends with
its result on that graph. -/
theorem exists_runUntil_eq_on {store : TimedStore σ} {state : σ} {graph : Graph}
    (answers : ∀ question, store.answer question state = (.ok (graph.answer question), state))
    (ends : ∀ question, ((store.course state question).span).isSome = true)
    (analysis : Analysis α) (begun now : Milliseconds) (started : Nat) :
    ∃ after total,
      analysis.runUntil store .none (TimedControl.none.timeout.map (begun + ·))
          ⟨now, started, state⟩ =
        (.returned (.ok (analysis.on graph)), ⟨after, total, state⟩) := by
  induction analysis generalizing now started with
  | done value => exact ⟨now, started, rfl⟩
  | call question next ih =>
      obtain ⟨span, isSpan⟩ := Option.isSome_iff_exists.mp (ends question)
      rw [runUntil_of_answered next (TimedControl.none_stop? begun started _) isSpan
        (answers question)]
      exact ih (graph.answer question) (now + span) (started + 1)

end Analysis

/-- Where no call fails or hangs, an analysis without a control ends with its result on the stored
graph, and only time has passed. -/
theorem Simulation.exists_analyze_eq_on {α : Type} {simulation : Simulation}
    (running : simulation.stalled = false)
    (faultless : ∀ fault ∈ simulation.faults, fault.point ≠ .call) (analysis : Analysis α) :
    ∃ now, Simulation.analyze .none analysis simulation =
      some (.ok (analysis.on simulation.store.graph), { simulation with clock := now }) := by
  have answers (question : Lookup) : timed.answer question simulation =
      (.ok (simulation.store.graph.answer question), simulation) := by
    simp [timed, faultAt, Fault.consult_of_forall_ne faultless]
  have ends (question : Lookup) : (timed.course simulation question).span.isSome = true := by
    simp [timed, wait?, running]
  obtain ⟨now, total, isRun⟩ :=
    Analysis.exists_runUntil_eq_on answers ends analysis simulation.clock simulation.clock 0
  have isControlled : analysis.runControlled timed ⟨.none, none⟩ simulation.clock simulation =
      (.returned (.ok (analysis.on simulation.store.graph)), ⟨now, total, simulation⟩) := isRun
  exact ⟨now, by rw [Simulation.analyze, isControlled]⟩

end QueryImpact
