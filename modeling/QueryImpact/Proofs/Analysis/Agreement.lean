import QueryImpact.Control

/-!
# Stores that agree

Two stores agree when they spend their time on a question alike, fail alike, and give answers that
are alike in a sense left open here.  An analysis that makes the same of answers that are alike
then ends in one way on both stores, under every control: with the same result, at the same time
and after the same number of questions.
-/

namespace QueryImpact

namespace Program

variable {Call : Type} {Answer : Call → Type} {α β γ δ : Type}

/-- Two programs make the same calls, and as long as the answers are alike, they go on alike to
results that are alike. -/
inductive Alike (answers : (request : Call) → Answer request → Answer request → Prop)
    (results : α → β → Prop) : Program Call Answer α → Program Call Answer β → Prop
  /-- Both are over. -/
  | done {first : α} {second : β} (same : results first second) :
      Alike answers results (done first) (done second)
  /-- Both make a call. -/
  | call {request : Call} {next : Answer request → Program Call Answer α}
      {otherNext : Answer request → Program Call Answer β}
      (later : ∀ first second, answers request first second →
        Alike answers results (next first) (otherNext second)) :
      Alike answers results (call request next) (call request otherNext)

variable {answers : (request : Call) → Answer request → Answer request → Prop}

/-- Programs in a row are alike when their parts are. -/
theorem Alike.bind {results : α → β → Prop} {laterResults : γ → δ → Prop}
    {program : Program Call Answer α} {other : Program Call Answer β}
    {next : α → Program Call Answer γ} {otherNext : β → Program Call Answer δ}
    (alike : Alike answers results program other)
    (later : ∀ first second, results first second →
      Alike answers laterResults (next first) (otherNext second)) :
    Alike answers laterResults (program >>= next) (other >>= otherNext) := by
  change Alike answers laterResults (program.bind next) (other.bind otherNext)
  induction alike with
  | done same => exact later _ _ same
  | call _ ih => exact .call ih

/-- Programs that begin with the same call are alike when they go on alike. -/
theorem Alike.ask {results : α → β → Prop} {request : Call}
    {next : Answer request → Program Call Answer α}
    {otherNext : Answer request → Program Call Answer β}
    (later : ∀ first second, answers request first second →
      Alike answers results (next first) (otherNext second)) :
    Alike answers results (Program.ask request >>= next) (Program.ask request >>= otherNext) :=
  .call later

end Program

/-- What comes of a question on two stores: the same failure, or answers that are alike. -/
inductive OutcomesAlike {α : Type} (answers : α → α → Prop) :
    Except StoreError α → Except StoreError α → Prop
  /-- Both fail. -/
  | failed (error : StoreError) : OutcomesAlike answers (.error error) (.error error)
  /-- Both answer. -/
  | answered {first second : α} (same : answers first second) :
      OutcomesAlike answers (.ok first) (.ok second)

variable {σ τ : Type}

/-- Two stores agree in the states that belong together: a question takes the same course, its
outcomes are alike, and the states afterwards belong together again. -/
structure TimedStore.Agree
    (answers : (question : Lookup) → question.Answer → question.Answer → Prop)
    (states : σ → τ → Prop) (first : TimedStore σ) (second : TimedStore τ) : Prop where
  /-- The same course. -/
  course_eq : ∀ {state : σ} {other : τ}, states state other →
    ∀ question, first.course state question = second.course other question
  /-- Outcomes that are alike. -/
  outcome : ∀ {state : σ} {other : τ}, states state other → ∀ question,
    OutcomesAlike (answers question) (first.answer question state).1
      (second.answer question other).1
  /-- States that belong together. -/
  after : ∀ {state : σ} {other : τ}, states state other →
    ∀ question, states (first.answer question state).2 (second.answer question other).2

namespace Analysis

variable {α : Type}

/-- How a run ends: with which result, at what time, and after how many questions. -/
def ending (run : Ending α × Progress σ) : Ending α × Milliseconds × Nat :=
  (run.1, run.2.now, run.2.started)

variable {answers : (question : Lookup) → question.Answer → question.Answer → Prop}
  {states : σ → τ → Prop} {first : TimedStore σ} {second : TimedStore τ}
  {analysis other : Analysis α}

/-- Analyses that are alike end in the same way before a common deadline. -/
theorem ending_runUntil_eq (agree : TimedStore.Agree answers states first second)
    (alike : Program.Alike answers Eq analysis other) (control : TimedControl)
    (deadline : Option Milliseconds) (now : Milliseconds) (started : Nat) {state : σ}
    {otherState : τ} (together : states state otherState) :
    ending (analysis.runUntil first control deadline ⟨now, started, state⟩) =
      ending (other.runUntil second control deadline ⟨now, started, otherState⟩) := by
  induction alike generalizing now started state otherState with
  | done same =>
      subst same
      rfl
  | @call question next otherNext later ih =>
      have outcome := agree.outcome together question
      have after := agree.after together question
      simp only [runUntil, agree.course_eq together question]
      split
      · rfl
      split
      · rfl
      -- Nothing but the answer distinguishes the two runs from here on.
      split
      · rcases firstAnswer : first.answer question state with ⟨result, next⟩
        rcases secondAnswer : second.answer question otherState with ⟨otherResult, otherNext⟩
        rw [firstAnswer, secondAnswer] at outcome after
        cases outcome with
        | failed error => rfl
        | answered same => exact ih _ _ same _ _ after
      all_goals rfl

/-- On stores that agree, analyses that are alike end in the same way. -/
theorem ending_runControlled_eq (agree : TimedStore.Agree answers states first second)
    (alike : Program.Alike answers Eq analysis other) (control : TimedControl) (now : Milliseconds)
    {state : σ} {otherState : τ} (together : states state otherState) :
    ending (analysis.runControlled first control now state) =
      ending (other.runControlled second control now otherState) := by
  simp only [runControlled]
  split
  · rfl
  · exact ending_runUntil_eq agree alike control _ now 0 together

end Analysis

end QueryImpact
