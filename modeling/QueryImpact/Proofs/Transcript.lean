import QueryImpact.Program

/-!
# Transcripts

A transcript lists the calls of a program, each with the answer it got.  Nothing is assumed about
the answers, so what holds for all transcripts of a program holds for every store that answers it,
whatever state the store keeps and whenever it fails.
-/

namespace QueryImpact

/-- A call and the answer it got. -/
structure Exchange (Call : Type) (Answer : Call → Type) where
  /-- The call. -/
  call : Call
  /-- Its answer. -/
  answer : Answer call

namespace Program

variable {Call : Type} {Answer : Call → Type} {α β : Type}

/-- A program makes the calls of a transcript, gets the answers of the transcript, and is then done
with a value. -/
inductive Runs : Program Call Answer α → List (Exchange Call Answer) → α → Prop
  /-- Without a call it is done. -/
  | done (value : α) : Runs (done value) [] value
  /-- It makes a call and goes on with the answer. -/
  | call {request : Call} {next : Answer request → Program Call Answer α}
      {log : List (Exchange Call Answer)} {value : α} (answer : Answer request)
      (later : Runs (next answer) log value) :
      Runs (call request next) (⟨request, answer⟩ :: log) value

variable {log : List (Exchange Call Answer)}

theorem runs_done_iff {value result : α} :
    (done value : Program Call Answer α).Runs log result ↔ log = [] ∧ result = value := by
  constructor
  · rintro ⟨⟩
    exact ⟨rfl, rfl⟩
  · rintro ⟨rfl, rfl⟩
    exact .done _

theorem runs_call_iff {request : Call} {next : Answer request → Program Call Answer α} {value : α} :
    (call request next).Runs log value ↔
      ∃ answer later, log = ⟨request, answer⟩ :: later ∧ (next answer).Runs later value := by
  constructor
  · rintro ⟨⟩
    rename_i later answer runs
    exact ⟨answer, later, rfl, runs⟩
  · rintro ⟨answer, later, rfl, runs⟩
    exact .call answer runs

/-- Asking is one exchange. -/
theorem runs_ask_iff {request : Call} {value : Answer request} :
    (ask request : Program Call Answer _).Runs log value ↔ log = [⟨request, value⟩] := by
  simp only [ask, runs_call_iff, runs_done_iff]
  constructor
  · rintro ⟨answer, _, rfl, rfl, rfl⟩
    rfl
  · rintro rfl
    exact ⟨value, [], rfl, rfl, rfl⟩

/-- Programs in a row have their transcripts in a row. -/
theorem runs_bind_iff {program : Program Call Answer α} {next : α → Program Call Answer β}
    {result : β} :
    (program >>= next).Runs log result ↔
      ∃ first second value, log = first ++ second ∧ program.Runs first value ∧
        (next value).Runs second result := by
  change (program.bind next).Runs log result ↔ _
  induction program generalizing log with
  | done value =>
      simp only [done_bind, runs_done_iff]
      constructor
      · intro runs
        exact ⟨[], log, value, rfl, ⟨rfl, rfl⟩, runs⟩
      · rintro ⟨_, second, _, rfl, ⟨rfl, rfl⟩, runs⟩
        exact runs
  | call request rest ih =>
      simp only [call_bind, runs_call_iff, ih]
      constructor
      · rintro ⟨answer, _, rfl, first, second, value, rfl, runsFirst, runsSecond⟩
        exact ⟨⟨request, answer⟩ :: first, second, value, rfl, ⟨answer, first, rfl, runsFirst⟩,
          runsSecond⟩
      · rintro ⟨_, second, value, rfl, ⟨answer, first, rfl, runsFirst⟩, runsSecond⟩
        exact ⟨answer, first ++ second, rfl, first, second, value, rfl, runsFirst, runsSecond⟩

/-- Whatever answers the calls and keeps whatever state, the run of a program has a transcript. -/
theorem exists_runs_run {σ : Type} (handle : (request : Call) → StateM σ (Answer request))
    (program : Program Call Answer α) (state : σ) :
    ∃ log, program.Runs log (program.run handle state).1 := by
  induction program generalizing state with
  | done value => exact ⟨[], .done value⟩
  | call request next ih =>
      obtain ⟨log, runs⟩ := ih (handle request state).1 (handle request state).2
      exact ⟨⟨request, (handle request state).1⟩ :: log, .call _ runs⟩

end Program

end QueryImpact
