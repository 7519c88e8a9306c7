import QueryImpact.Proofs.Store.Delivery
import QueryImpact.Proofs.Store.Turn

/-!
# The calls of an import

As long as its calls succeed, an import makes calls that are known beforehand.  It is a row of
transactions, one for each chunk or a single one for all of them; a transaction begins, writes its
chunks and commits.  At the end the import reports no failure.
-/

namespace QueryImpact

/-- The call that writes a chunk. -/
def WriteChunk.call : WriteChunk → WriteCall
  | nodes batch => .upsertNodes batch
  | relationships batch => .upsertRelationships batch

@[simp]
theorem WriteChunk.operation?_call (chunk : WriteChunk) :
    chunk.call.operation? = some chunk.operation := by
  cases chunk <;> rfl

namespace Writing

/-- The program makes the given calls one after the other as long as they succeed, and is then done
with a value as it should be. -/
def Performs {α : Type} (expected : α → Prop) : List WriteCall → Writing α → Prop
  | [], program => ∃ value, program = .done value ∧ expected value
  | call :: rest, program => ∃ next, program = .call call next ∧
      ∀ answer, call.Succeeded answer → Performs expected rest (next answer)

section Performs

variable {α β : Type} {expected : α → Prop} {expectedNext : β → Prop}

theorem performs_pure {value : α} (isExpected : expected value) :
    Performs expected [] (pure value) :=
  ⟨value, rfl, isExpected⟩

theorem performs_ask (call : WriteCall) : Performs call.Succeeded [call] (ask call) :=
  ⟨.done, rfl, fun answer succeeded => ⟨answer, rfl, succeeded⟩⟩

/-- Programs in a row make their calls in a row. -/
theorem Performs.bind {first second : List WriteCall} {program : Writing α} {next : α → Writing β}
    (performs : Performs expected first program)
    (goesOn : ∀ value, expected value → Performs expectedNext second (next value)) :
    Performs expectedNext (first ++ second) (program >>= next) := by
  induction first generalizing program with
  | nil =>
      obtain ⟨value, rfl, isExpected⟩ := performs
      exact goesOn value isExpected
  | cons call rest ih =>
      obtain ⟨later, rfl, performsLater⟩ := performs
      exact ⟨fun answer => later answer >>= next, rfl,
        fun answer succeeded => ih (performsLater answer succeeded)⟩

/-- Work that goes well is done in one transaction. -/
theorem performs_inTransaction {expected : Except StoreError α → Prop}
    (goesWell : ∀ result, expected result → ∃ value, result = .ok value)
    {calls : List WriteCall} {work : Writing (Except StoreError α)}
    (performs : Performs expected calls work) :
    Performs expected (.begin :: (calls ++ [.commit])) (inTransaction work) := by
  refine (performs_ask .begin).bind ?_
  rintro _ ⟨⟨⟩, rfl⟩
  refine performs.bind ?_
  intro result isExpected
  obtain ⟨value, rfl⟩ := goesWell result isExpected
  refine ((performs_ask .commit).bind ?_ : Performs _ ([.commit] ++ []) _)
  rintro _ ⟨⟨⟩, rfl⟩
  exact performs_pure isExpected

end Performs

/-! ## Imports -/

/-- An import has ended, and has no failure to report. -/
def IsFaultless (result : Except StoreError ImportReport) : Prop :=
  ∃ report, result = .ok report ∧ report.failures = []

/-- The calls of some transactions, each of which writes some chunks. -/
def transactionCalls : List (List WriteChunk) → List WriteCall
  | [] => []
  | chunks :: rest => .begin :: (chunks.map WriteChunk.call ++ .commit :: transactionCalls rest)

theorem performs_write (chunk : WriteChunk) :
    Performs (fun result => ∃ stats, result = .ok stats) [chunk.call] chunk.write := by
  cases chunk with
  | nodes batch => exact performs_ask (.upsertNodes batch)
  | relationships batch => exact performs_ask (.upsertRelationships batch)

theorem performs_commit (backoff : Milliseconds) (chunk : WriteChunk) :
    Performs (fun result => ∃ stats, result = .ok stats) [.begin, chunk.call, .commit]
      (chunk.commit backoff) := by
  have attempted := performs_inTransaction (fun _ succeeded => succeeded) (performs_write chunk)
  refine (attempted.bind ?_ : Performs _ ([.begin, chunk.call, .commit] ++ []) _)
  rintro _ ⟨stats, rfl⟩
  exact performs_pure ⟨stats, rfl⟩

theorem performs_importChunks (backoff : Milliseconds) (index : Nat) {report : ImportReport}
    (clean : report.failures = []) (chunks : List WriteChunk) :
    Performs IsFaultless (transactionCalls (chunks.map fun chunk => [chunk]))
      (importChunks backoff index report chunks) := by
  induction chunks generalizing index report with
  | nil => exact performs_pure ⟨report, rfl, clean⟩
  | cons chunk rest ih =>
      refine (performs_commit backoff chunk).bind ?_
      rintro _ ⟨stats, rfl⟩
      exact ih (index + 1) ((report.failures_add chunk.kind stats).trans clean)

theorem performs_writeAll {report : ImportReport} (clean : report.failures = [])
    (chunks : List WriteChunk) :
    Performs IsFaultless (chunks.map WriteChunk.call) (writeAll report chunks) := by
  induction chunks generalizing report with
  | nil => exact performs_pure ⟨report, rfl, clean⟩
  | cons chunk rest ih =>
      refine (performs_write chunk).bind ?_
      rintro _ ⟨stats, rfl⟩
      exact ih ((report.failures_add chunk.kind stats).trans clean)

end Writing

namespace Delivery

/-- The transactions of an import, each with the chunks that it writes. -/
def transactions (delivery : Delivery) : List (List WriteChunk) :=
  if delivery.atomic then [delivery.chunks] else delivery.chunks.map fun chunk => [chunk]

theorem flatten_transactions (delivery : Delivery) :
    delivery.transactions.flatten = delivery.chunks := by
  unfold transactions
  split
  · simp
  · rw [← List.flatMap_def]
    simp

/-- The calls of an import whose calls succeed. -/
def calls (delivery : Delivery) : List WriteCall :=
  Writing.transactionCalls delivery.transactions

/-- As long as its calls succeed, an import makes them one after the other, and then has no failure
to report. -/
theorem performs_program {delivery : Delivery} (positive : 0 < delivery.settings.size) :
    Writing.Performs Writing.IsFaultless delivery.calls delivery.program := by
  unfold program calls transactions
  split
  · rw [Writing.importAtomic, Writing.withPositiveSize, if_neg (Nat.ne_of_gt positive)]
    apply Writing.performs_inTransaction _ (Writing.performs_writeAll rfl _)
    rintro _ ⟨report, rfl, _⟩
    exact ⟨report, rfl⟩
  · rw [Writing.importAll, Writing.withPositiveSize, if_neg (Nat.ne_of_gt positive)]
    exact Writing.performs_importChunks _ _ rfl _

end Delivery

end QueryImpact
