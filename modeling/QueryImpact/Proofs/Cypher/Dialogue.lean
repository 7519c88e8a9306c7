import QueryImpact.Cypher.Dialogue
import QueryImpact.Proofs.Transcript

/-!
# Transcripts of dialogues

A dialogue is a script that ends at its first error, so its transcripts are those of the parts that
were reached.  A rehearsal has a transcript with the messages that it lists.
-/

namespace QueryImpact.Cypher

/-- Messages to the database with their replies. -/
abbrev Log : Type :=
  List (QueryImpact.Exchange Exchange fun _ => Reply)

/-- The messages of a transcript. -/
def Log.sent (log : Log) : List Exchange :=
  log.map QueryImpact.Exchange.call

@[simp]
theorem Log.sent_append (first second : Log) :
    Log.sent (first ++ second) = Log.sent first ++ Log.sent second :=
  List.map_append

namespace Script

variable {α : Type}

/-- The messages of a rehearsal with their replies. -/
def transcript : Script α → List Reply → Log
  | .done _, _ => []
  | .call message next, [] => ⟨message, .ok []⟩ :: transcript (next (.ok [])) []
  | .call message next, reply :: replies => ⟨message, reply⟩ :: transcript (next reply) replies

/-- A rehearsal is a run of the script. -/
theorem runs_transcript (script : Script α) (replies : List Reply) :
    Program.Runs script (script.transcript replies) (script.rehearse replies).1 := by
  induction script generalizing replies with
  | done value => exact .done value
  | call message next ih =>
      cases replies with
      | nil => exact .call _ (ih (.ok []) [])
      | cons reply replies => exact .call _ (ih reply replies)

/-- What a rehearsal lists is what its transcript lists. -/
theorem sent_transcript (script : Script α) (replies : List Reply) :
    Log.sent (script.transcript replies) = (script.rehearse replies).2 := by
  induction script generalizing replies with
  | done value => rfl
  | call message next ih =>
      cases replies with
      | nil => exact congrArg (message :: ·) (ih (.ok []) [])
      | cons reply replies => exact congrArg (message :: ·) (ih reply replies)

theorem exists_runs_rehearse (script : Script α) (replies : List Reply) :
    ∃ log, Program.Runs script log (script.rehearse replies).1 ∧
      Log.sent log = (script.rehearse replies).2 :=
  ⟨_, script.runs_transcript replies, script.sent_transcript replies⟩

end Script

namespace Dialogue

variable {α β : Type} {log : Log}

theorem runs_pure_iff {value : α} {result : Except StoreError α} :
    Program.Runs (pure value : Dialogue α).run log result ↔ log = [] ∧ result = .ok value :=
  Program.runs_done_iff

theorem runs_throw_iff {cause : StoreError} {result : Except StoreError α} :
    Program.Runs (throw cause : Dialogue α).run log result ↔ log = [] ∧ result = .error cause :=
  Program.runs_done_iff

/-- What is read without the database needs no message. -/
theorem runs_liftM_iff {reading result : Except StoreError α} :
    Program.Runs (liftM reading : Dialogue α).run log result ↔ log = [] ∧ result = reading :=
  Program.runs_done_iff

/-- A statement is one message, and a fault of the link is the error of the dialogue. -/
theorem runs_fetch_iff {statement : Statement} {result : Except StoreError (List Row)} :
    Program.Runs (fetch statement).run log result ↔
      ∃ reply, log = [⟨.run statement, reply⟩] ∧
        result = reply.mapError LinkFault.toStoreError := by
  change Program.Runs (Program.call _ _) log result ↔ _
  rw [Program.runs_call_iff]
  constructor
  · rintro ⟨reply, later, rfl, runs⟩
    obtain ⟨rfl, rfl⟩ := Program.runs_done_iff.mp runs
    exact ⟨reply, rfl, rfl⟩
  · rintro ⟨reply, rfl, rfl⟩
    exact ⟨reply, [], rfl, .done _⟩

/-- Dialogues in a row: the first one fails, or both have their transcripts in a row. -/
theorem runs_bind_iff {first : Dialogue α} {next : α → Dialogue β} {result : Except StoreError β} :
    Program.Runs (first >>= next).run log result ↔
      (∃ cause, result = .error cause ∧ Program.Runs first.run log (.error cause)) ∨
        ∃ before after value, log = before ++ after ∧ Program.Runs first.run before (.ok value) ∧
          Program.Runs (next value).run after result := by
  rw [ExceptT.run_bind, Program.runs_bind_iff]
  constructor
  · rintro ⟨before, after, value, rfl, runsFirst, runsNext⟩
    cases value with
    | ok value => exact .inr ⟨before, after, value, rfl, runsFirst, runsNext⟩
    | error cause =>
        obtain ⟨rfl, rfl⟩ := Program.runs_done_iff.mp runsNext
        exact .inl ⟨cause, rfl, by rwa [List.append_nil]⟩
  · rintro (⟨cause, rfl, runs⟩ | ⟨before, after, value, rfl, runsFirst, runsNext⟩)
    · exact ⟨log, [], .error cause, (List.append_nil log).symm, runs, .done _⟩
    · exact ⟨before, after, .ok value, rfl, runsFirst, runsNext⟩

end Dialogue

end QueryImpact.Cypher
