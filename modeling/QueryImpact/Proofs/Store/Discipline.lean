import QueryImpact.Import
import QueryImpact.Proofs.Store.Turn
import QueryImpact.Proofs.Transcript

/-!
# Transaction discipline

What a writing program does is told by its transcripts, whatever the store answers.  A transaction
that begins is written to and then ended once, by a commit if the work has succeeded and else by a
rollback; the work's own error is handed on, also when the rollback fails.  Chunks are written one
after the other.  Each is tried once, and a second time exactly when the store was unavailable.
-/

namespace QueryImpact

/-- A call of a writing program and the answer it got. -/
abbrev WriteExchange : Type :=
  Exchange WriteCall WriteCall.Answer

/-- Whether a call can be made by the work in a transaction, which neither begins nor ends one. -/
def WriteCall.IsInner : WriteCall → Prop
  | begin | commit | rollback => False
  | _ => True

namespace Writing

open Program

variable {α : Type}

/-! ## One transaction -/

/-- The transcript of one transaction around some work, with the result that is handed on. -/
inductive Attempt (work : List WriteExchange → Except StoreError α → Prop) :
    List WriteExchange → Except StoreError α → Prop
  /-- The transaction does not begin. -/
  | refused (error : StoreError) :
      Attempt work [⟨.begin, (.error error : Except StoreError Unit)⟩] (.error error)
  /-- The work succeeds and is committed. -/
  | committed {writes : List WriteExchange} {value : α} (answer : Except StoreError Unit)
      (worked : work writes (.ok value)) :
      Attempt work (⟨.begin, (.ok () : Except StoreError Unit)⟩ :: (writes ++ [⟨.commit, answer⟩]))
        (answer.map fun _ => value)
  /-- The work fails and is rolled back, whatever comes of the rollback. -/
  | rolledBack {writes : List WriteExchange} {error : StoreError} (answer : Except StoreError Unit)
      (worked : work writes (.error error)) :
      Attempt work
        (⟨.begin, (.ok () : Except StoreError Unit)⟩ :: (writes ++ [⟨.rollback, answer⟩]))
        (.error error)

theorem Attempt.imp {first second : List WriteExchange → Except StoreError α → Prop}
    {log : List WriteExchange} {result : Except StoreError α}
    (implies : ∀ writes outcome, first writes outcome → second writes outcome)
    (attempt : Attempt first log result) : Attempt second log result := by
  cases attempt with
  | refused error => exact .refused error
  | committed answer worked => exact .committed answer (implies _ _ worked)
  | rolledBack answer worked => exact .rolledBack answer (implies _ _ worked)

theorem attempt_congr {first second : List WriteExchange → Except StoreError α → Prop}
    (same : ∀ writes outcome, first writes outcome ↔ second writes outcome)
    {log : List WriteExchange} {result : Except StoreError α} :
    Attempt first log result ↔ Attempt second log result := by
  constructor
  · exact Attempt.imp fun writes outcome => (same writes outcome).mp
  · exact Attempt.imp fun writes outcome => (same writes outcome).mpr

/-- The transcripts of work in a transaction are those of one transaction around the work. -/
theorem runs_inTransaction_iff {work : Writing (Except StoreError α)} {log : List WriteExchange}
    {result : Except StoreError α} :
    (inTransaction work).Runs log result ↔ Attempt work.Runs log result := by
  unfold inTransaction
  rw [runs_bind_iff]
  constructor
  · rintro ⟨_, later, answer, rfl, begins, runs⟩
    rw [ask, runs_ask_iff] at begins
    subst begins
    cases answer with
    | error error =>
        obtain ⟨rfl, rfl⟩ := runs_done_iff.mp runs
        exact .refused error
    | ok _ =>
        obtain ⟨writes, last, outcome, rfl, worked, ends⟩ := runs_bind_iff.mp runs
        cases outcome with
        | ok value =>
            obtain ⟨_, nothing, answer, rfl, commits, hands⟩ := runs_bind_iff.mp ends
            rw [ask, runs_ask_iff] at commits
            subst commits
            cases answer with
            | ok _ =>
                obtain ⟨rfl, rfl⟩ := runs_done_iff.mp hands
                exact .committed (.ok ()) worked
            | error error =>
                obtain ⟨rfl, rfl⟩ := runs_done_iff.mp hands
                exact .committed (.error error) worked
        | error error =>
            obtain ⟨_, nothing, answer, rfl, rollsBack, hands⟩ := runs_bind_iff.mp ends
            rw [ask, runs_ask_iff] at rollsBack
            subst rollsBack
            obtain ⟨rfl, rfl⟩ := runs_done_iff.mp hands
            exact .rolledBack answer worked
  · intro attempt
    cases attempt with
    | refused error =>
        exact ⟨_, [], .error error, rfl, runs_ask_iff.mpr rfl, runs_done_iff.mpr ⟨rfl, rfl⟩⟩
    | committed answer worked =>
        refine ⟨[_], _, .ok (), rfl, runs_ask_iff.mpr rfl, ?_⟩
        apply runs_bind_iff.mpr
        refine ⟨_, _, _, rfl, worked, ?_⟩
        apply runs_bind_iff.mpr
        refine ⟨[_], [], answer, rfl, runs_ask_iff.mpr rfl, ?_⟩
        cases answer with
        | ok _ => exact runs_done_iff.mpr ⟨rfl, rfl⟩
        | error error => exact runs_done_iff.mpr ⟨rfl, rfl⟩
    | rolledBack answer worked =>
        refine ⟨[_], _, .ok (), rfl, runs_ask_iff.mpr rfl, ?_⟩
        apply runs_bind_iff.mpr
        refine ⟨_, _, _, rfl, worked, ?_⟩
        apply runs_bind_iff.mpr
        exact ⟨[_], [], answer, rfl, runs_ask_iff.mpr rfl, runs_done_iff.mpr ⟨rfl, rfl⟩⟩

/-- Work in a transaction stops at its first call that fails, and fails itself, with whatever
error. -/
def StopsAtFailure : Writing (Except StoreError α) → Prop
  | .done _ => True
  | .call request next => request.IsInner ∧ ∀ answer, StopsAtFailure (next answer) ∧
      (¬ request.Succeeded answer → ∃ error, next answer = .done (.error error))

/-- The exchanges of work that stops at its first failure. -/
structure Worked (writes : List WriteExchange) (result : Except StoreError α) : Prop where
  /-- No transaction is begun or ended. -/
  inner : ∀ exchange ∈ writes, exchange.call.IsInner
  /-- Nothing follows a call that has failed. -/
  earlier : ∀ exchange ∈ writes.dropLast, exchange.call.Succeeded exchange.answer
  /-- The work succeeds only if all its calls do. -/
  succeeded : ∀ value, result = .ok value →
    ∀ exchange ∈ writes, exchange.call.Succeeded exchange.answer

theorem worked_of_runs {work : Writing (Except StoreError α)} {writes : List WriteExchange}
    {result : Except StoreError α} (stops : work.StopsAtFailure) (runs : work.Runs writes result) :
    Worked writes result := by
  induction runs with
  | done value =>
      constructor
      · simp
      · simp
      · simp
  | @call request next log result answer later ih =>
      obtain ⟨isInner, goesOn⟩ := stops
      have worked := ih (goesOn answer).1
      by_cases succeeded : request.Succeeded answer
      · constructor
        · exact List.forall_mem_cons.mpr ⟨isInner, worked.inner⟩
        · intro exchange member
          cases log with
          | nil => simp at member
          | cons first rest =>
              rcases List.mem_cons.mp member with rfl | isLater
              · exact succeeded
              · exact worked.earlier exchange isLater
        · intro value isOk
          exact List.forall_mem_cons.mpr ⟨succeeded, worked.succeeded value isOk⟩
      · obtain ⟨error, isDone⟩ := (goesOn answer).2 succeeded
        rw [isDone, runs_done_iff] at later
        obtain ⟨rfl, rfl⟩ := later
        constructor
        · simpa using isInner
        · simp
        · simp

theorem StopsAtFailure.bind {β : Type} {program : Writing (Except StoreError α)}
    {next : Except StoreError α → Writing (Except StoreError β)} (stops : program.StopsAtFailure)
    (goesOn : ∀ value, (next (.ok value)).StopsAtFailure)
    (ends : ∀ error, next (.error error) = .done (.error error)) :
    StopsAtFailure (program >>= next) := by
  change StopsAtFailure (program.bind next)
  induction program with
  | done result =>
      cases result with
      | ok value => exact goesOn value
      | error error =>
          rw [done_bind, ends]
          trivial
  | call request rest ih =>
      rw [call_bind]
      obtain ⟨isInner, stopsLater⟩ := stops
      constructor
      · exact isInner
      · intro answer
        constructor
        · exact ih answer (stopsLater answer).1
        · intro failed
          obtain ⟨error, isDone⟩ := (stopsLater answer).2 failed
          refine ⟨error, ?_⟩
          dsimp only
          rw [isDone, done_bind, ends]

theorem stopsAtFailure_perform (operation : WriteOperation) :
    (perform operation).StopsAtFailure := by
  cases operation <;>
  · refine ⟨trivial, fun answer => ⟨trivial, fun failed => ?_⟩⟩
    cases answer with
    | ok value => exact absurd ⟨value, rfl⟩ failed
    | error error => exact ⟨error, rfl⟩

/-- Steps in a transaction are work that stops at its first failure. -/
theorem stopsAtFailure_takeSteps (results : List WriteResult) (steps : List TransactionStep) :
    (takeSteps results steps).StopsAtFailure := by
  induction steps generalizing results with
  | nil => trivial
  | cons step rest ih =>
      rw [takeSteps]
      have stops : (takeStep step).StopsAtFailure := by
        cases step with
        | write operation => exact stopsAtFailure_perform operation
        | fail reason => trivial
      exact stops.bind (fun result => ih (results ++ [result])) fun _ => rfl

/-! ## Chunks in order -/

/-- What comes of writing a chunk. -/
abbrev Outcome : Type :=
  Except StoreError UpsertStats

/-- Chunks are handled in order; after some outcomes the next chunk follows, after others none. -/
inductive InOrder (each : WriteChunk → List WriteExchange → Outcome → Prop)
    (goesOn : Outcome → Prop) :
    List WriteChunk → List WriteExchange → List Outcome → Prop
  /-- No chunk is left. -/
  | finished : InOrder each goesOn [] [] []
  /-- A chunk is the last to be handled. -/
  | stopped {chunk : WriteChunk} {rest : List WriteChunk} {log : List WriteExchange}
      {outcome : Outcome} (handled : each chunk log outcome) (stops : ¬ goesOn outcome) :
      InOrder each goesOn (chunk :: rest) log [outcome]
  /-- The chunks after one that was handled follow. -/
  | next {chunk : WriteChunk} {rest : List WriteChunk} {first second : List WriteExchange}
      {outcome : Outcome} {outcomes : List Outcome} (handled : each chunk first outcome)
      (continues : goesOn outcome) (later : InOrder each goesOn rest second outcomes) :
      InOrder each goesOn (chunk :: rest) (first ++ second) (outcome :: outcomes)

section HandleAll

variable {State : Type} (handle : WriteChunk → Writing Outcome)
  (note : Nat → State → WriteChunk → Outcome → Except StoreError State)

/-- Handle chunks, the first of which has the given index, and note what comes of each, until that
is an error. -/
def handleAll (index : Nat) (state : State) : List WriteChunk → Writing (Except StoreError State)
  | [] => pure (.ok state)
  | chunk :: rest => do
      match note index state chunk (← handle chunk) with
      | .ok noted => handleAll (index + 1) noted rest
      | .error error => pure (.error error)

/-- Note the outcomes of chunks, the first of which has the given index. -/
def tally (index : Nat) (state : State) : List (WriteChunk × Outcome) → Except StoreError State
  | [] => .ok state
  | (chunk, outcome) :: rest => do
      let noted ← note index state chunk outcome
      tally (index + 1) noted rest

variable {handle note}

theorem tally_cons_ok {index : Nat} {state next : State} {chunk : WriteChunk} {outcome : Outcome}
    (noted : note index state chunk outcome = .ok next) (rest : List (WriteChunk × Outcome)) :
    tally note index state ((chunk, outcome) :: rest) = tally note (index + 1) next rest := by
  rw [tally, noted]
  rfl

theorem tally_cons_error {index : Nat} {state : State} {chunk : WriteChunk} {outcome : Outcome}
    {error : StoreError} (noted : note index state chunk outcome = .error error)
    (rest : List (WriteChunk × Outcome)) :
    tally note index state ((chunk, outcome) :: rest) = .error error := by
  rw [tally, noted]
  rfl

/-- Outcomes are noted to the end exactly when every one of them can be noted. -/
theorem exists_tally_eq_ok_iff {goesOn : Outcome → Prop}
    (noted_iff : ∀ index state chunk outcome,
      (∃ noted, note index state chunk outcome = .ok noted) ↔ goesOn outcome)
    {index : Nat} {state : State} {outcomes : List (WriteChunk × Outcome)} :
    (∃ noted, tally note index state outcomes = .ok noted) ↔
      ∀ entry ∈ outcomes, goesOn entry.2 := by
  induction outcomes generalizing index state with
  | nil => simp [tally]
  | cons entry rest ih =>
      rw [List.forall_mem_cons, ← noted_iff index state entry.1 entry.2]
      cases noted : note index state entry.1 entry.2 with
      | ok next => simp [tally_cons_ok noted, ih]
      | error error => simp [tally_cons_error noted]

/-- Chunks are handled in order, and the result is what is noted of their outcomes. -/
theorem runs_handleAll_iff {goesOn : Outcome → Prop}
    (noted_iff : ∀ index state chunk outcome,
      (∃ noted, note index state chunk outcome = .ok noted) ↔ goesOn outcome)
    {index : Nat} {state : State} {chunks : List WriteChunk} {log : List WriteExchange}
    {result : Except StoreError State} :
    (handleAll handle note index state chunks).Runs log result ↔
      ∃ outcomes, InOrder (fun chunk => (handle chunk).Runs) goesOn chunks log outcomes ∧
        result = tally note index state (chunks.zip outcomes) := by
  induction chunks generalizing index state log result with
  | nil =>
      constructor
      · intro runs
        obtain ⟨rfl, rfl⟩ := runs_done_iff.mp runs
        exact ⟨[], .finished, rfl⟩
      · rintro ⟨_, ⟨⟩, rfl⟩
        exact .done _
  | cons chunk rest ih =>
      rw [handleAll, runs_bind_iff]
      constructor
      · rintro ⟨first, second, outcome, rfl, handled, later⟩
        cases noted : note index state chunk outcome with
        | ok next =>
            simp only [noted] at later
            obtain ⟨outcomes, inOrder, rfl⟩ := ih.mp later
            refine ⟨outcome :: outcomes, ?_, ?_⟩
            · exact .next handled ((noted_iff index state chunk outcome).mp ⟨next, noted⟩) inOrder
            · rw [List.zip_cons_cons, tally_cons_ok noted]
        | error error =>
            simp only [noted] at later
            obtain ⟨rfl, rfl⟩ := runs_done_iff.mp later
            refine ⟨[outcome], ?_, ?_⟩
            · rw [List.append_nil]
              apply InOrder.stopped handled
              rw [← noted_iff index state chunk outcome, noted]
              simp
            · rw [List.zip_cons_cons, tally_cons_error noted]
      · rintro ⟨_, inOrder, rfl⟩
        cases inOrder with
        | @stopped _ _ _ outcome handled stops =>
            refine ⟨log, [], outcome, by simp, handled, ?_⟩
            rw [← noted_iff index state chunk outcome] at stops
            cases noted : note index state chunk outcome with
            | ok next => exact absurd ⟨next, noted⟩ stops
            | error error =>
                rw [List.zip_cons_cons, tally_cons_error noted]
                exact .done _
        | @next _ _ first second outcome outcomes handled continues later =>
            refine ⟨first, second, outcome, rfl, handled, ?_⟩
            obtain ⟨next, noted⟩ := (noted_iff index state chunk outcome).mpr continues
            rw [List.zip_cons_cons, tally_cons_ok noted, noted]
            exact ih.mpr ⟨outcomes, later, rfl⟩

end HandleAll

end Writing

/-! ## Chunks -/

namespace WriteChunk

open Program Writing

/-- The exchange that writes a chunk. -/
def exchange : WriteChunk → Outcome → WriteExchange
  | nodes batch, outcome => ⟨.upsertNodes batch, outcome⟩
  | relationships batch, outcome => ⟨.upsertRelationships batch, outcome⟩

/-- A chunk is written by a single call. -/
def Written (chunk : WriteChunk) (log : List WriteExchange) (outcome : Outcome) : Prop :=
  log = [chunk.exchange outcome]

/-- The store was not unavailable. -/
def Settled (outcome : Outcome) : Prop :=
  ∀ reason, outcome ≠ .error (.unavailable reason)

/-- A chunk is written in a transaction of its own, and once more after a pause if the store was
unavailable at the first time. -/
inductive Tried (backoff : Milliseconds) (chunk : WriteChunk) : List WriteExchange → Outcome → Prop
  /-- One transaction is enough. -/
  | once {log : List WriteExchange} {outcome : Outcome}
      (attempt : Attempt chunk.Written log outcome) (settled : Settled outcome) :
      Tried backoff chunk log outcome
  /-- The store was unavailable, and what comes of the second transaction counts. -/
  | twice {first second : List WriteExchange} {reason : String} {outcome : Outcome}
      (attempt : Attempt chunk.Written first (.error (.unavailable reason)))
      (again : Attempt chunk.Written second outcome) :
      Tried backoff chunk (first ++ ⟨.pause backoff, ()⟩ :: second) outcome

variable {chunk : WriteChunk} {log : List WriteExchange} {outcome : Outcome}

theorem runs_write_iff : chunk.write.Runs log outcome ↔ chunk.Written log outcome := by
  cases chunk with
  | nodes batch => exact runs_ask_iff
  | relationships batch => exact runs_ask_iff

theorem runs_attempt_iff : chunk.attempt.Runs log outcome ↔ Attempt chunk.Written log outcome := by
  rw [attempt, runs_inTransaction_iff]
  exact attempt_congr fun _ _ => runs_write_iff

theorem not_isTransient_iff {error : StoreError} :
    error.isTransient = false ↔ Settled (.error error) := by
  cases error with
  | unavailable reason => simp [StoreError.isTransient, Settled]
  | _ => simp [StoreError.isTransient, Settled]

theorem runs_commit_iff {backoff : Milliseconds} :
    (chunk.commit backoff).Runs log outcome ↔ chunk.Tried backoff log outcome := by
  rw [commit, runs_bind_iff]
  constructor
  · rintro ⟨first, later, firstOutcome, rfl, attempted, runs⟩
    rw [runs_attempt_iff] at attempted
    cases firstOutcome with
    | ok stats =>
        obtain ⟨rfl, rfl⟩ := runs_done_iff.mp runs
        rw [List.append_nil]
        exact .once attempted (by simp [Settled])
    | error error =>
        cases isTransient : error.isTransient with
        | false =>
            simp only [isTransient] at runs
            obtain ⟨rfl, rfl⟩ := runs_done_iff.mp runs
            rw [List.append_nil]
            exact .once attempted (not_isTransient_iff.mp isTransient)
        | true =>
            simp only [isTransient] at runs
            obtain ⟨_, second, _, rfl, pauses, again⟩ := runs_bind_iff.mp runs
            obtain rfl := runs_ask_iff.mp pauses
            rw [runs_attempt_iff] at again
            cases error with
            | unavailable reason => exact .twice attempted again
            | _ => cases isTransient
  · intro tried
    cases tried with
    | once attempted settled =>
        refine ⟨log, [], outcome, by simp, runs_attempt_iff.mpr attempted, ?_⟩
        cases outcome with
        | ok stats => exact .done _
        | error error =>
            simp only [not_isTransient_iff.mpr settled]
            exact .done _
    | @twice first second reason _ attempted again =>
        refine ⟨first, ⟨.pause backoff, ()⟩ :: second, .error (.unavailable reason), rfl,
          runs_attempt_iff.mpr attempted, ?_⟩
        exact runs_call_iff.mpr ⟨(), second, rfl, runs_attempt_iff.mpr again⟩

theorem runs_commit_eq (backoff : Milliseconds) :
    (fun chunk : WriteChunk => (chunk.commit backoff).Runs) = Tried backoff := by
  funext chunk log outcome
  exact propext runs_commit_iff

end WriteChunk

/-! ## Operations -/

namespace Writing

open Program WriteChunk

/-- A chunk was written. -/
def Succeeds (outcome : Outcome) : Prop :=
  ∃ stats, outcome = .ok stats

/-- Count what is new. -/
def noteCreated (_ : Nat) (created : Nat) (_ : WriteChunk) (outcome : Outcome) :
    Except StoreError Nat :=
  outcome.map fun stats => created + stats.created

/-- Add a written chunk to a report. -/
def noteWritten (_ : Nat) (report : ImportReport) (chunk : WriteChunk) (outcome : Outcome) :
    Except StoreError ImportReport :=
  outcome.map (report.add chunk.kind)

/-- Add a written or refused chunk to a report, unless the store was unavailable. -/
def noteImported (index : Nat) (report : ImportReport) (chunk : WriteChunk) (outcome : Outcome) :
    Except StoreError ImportReport :=
  match outcome with
  | .ok stats => .ok (report.add chunk.kind stats)
  | .error error =>
      if error.isTransient then .error error
      else .ok (report.addFailure ⟨chunk.kind, index, error⟩)

theorem noteCreated_iff (index created : Nat) (chunk : WriteChunk) (outcome : Outcome) :
    (∃ noted, noteCreated index created chunk outcome = .ok noted) ↔ Succeeds outcome := by
  cases outcome with
  | ok stats => simp [noteCreated, Succeeds, Except.map]
  | error error => simp [noteCreated, Succeeds, Except.map]

theorem noteWritten_iff (index : Nat) (report : ImportReport) (chunk : WriteChunk)
    (outcome : Outcome) :
    (∃ noted, noteWritten index report chunk outcome = .ok noted) ↔ Succeeds outcome := by
  cases outcome with
  | ok stats => simp [noteWritten, Succeeds, Except.map]
  | error error => simp [noteWritten, Succeeds, Except.map]

theorem noteImported_iff (index : Nat) (report : ImportReport) (chunk : WriteChunk)
    (outcome : Outcome) :
    (∃ noted, noteImported index report chunk outcome = .ok noted) ↔ Settled outcome := by
  cases outcome with
  | ok stats => simp [noteImported, Settled]
  | error error =>
      rw [← not_isTransient_iff]
      cases isTransient : error.isTransient with
      | false => simp [noteImported, isTransient]
      | true => simp [noteImported, isTransient]

/-- The outcomes of a batch or of an atomic import give a result exactly when every chunk was
written, those of an import exactly when every chunk was written or refused. -/
theorem tally_succeeds_iff (outcomes : List (WriteChunk × Outcome)) (report : ImportReport) :
    ((∃ created, tally noteCreated 0 0 outcomes = .ok created) ↔
        ∀ entry ∈ outcomes, Succeeds entry.2) ∧
      ((∃ noted, tally noteWritten 0 report outcomes = .ok noted) ↔
        ∀ entry ∈ outcomes, Succeeds entry.2) ∧
      ((∃ noted, tally noteImported 0 report outcomes = .ok noted) ↔
        ∀ entry ∈ outcomes, Settled entry.2) :=
  ⟨exists_tally_eq_ok_iff noteCreated_iff, exists_tally_eq_ok_iff noteWritten_iff,
    exists_tally_eq_ok_iff noteImported_iff⟩

theorem commitAll_eq (backoff : Milliseconds) (index created : Nat) (chunks : List WriteChunk) :
    commitAll backoff created chunks =
      handleAll (WriteChunk.commit backoff) noteCreated index created chunks := by
  induction chunks generalizing index created with
  | nil => rfl
  | cons chunk rest ih =>
      rw [commitAll, handleAll]
      apply congrArg (chunk.commit backoff).bind
      funext outcome
      cases outcome with
      | ok stats => exact ih (index + 1) (created + stats.created)
      | error error => rfl

theorem writeAll_eq (index : Nat) (report : ImportReport) (chunks : List WriteChunk) :
    writeAll report chunks = handleAll WriteChunk.write noteWritten index report chunks := by
  induction chunks generalizing index report with
  | nil => rfl
  | cons chunk rest ih =>
      rw [writeAll, handleAll]
      apply congrArg chunk.write.bind
      funext outcome
      cases outcome with
      | ok stats => exact ih (index + 1) (report.add chunk.kind stats)
      | error error => rfl

theorem importChunks_eq (backoff : Milliseconds) (index : Nat) (report : ImportReport)
    (chunks : List WriteChunk) :
    importChunks backoff index report chunks =
      handleAll (WriteChunk.commit backoff) noteImported index report chunks := by
  induction chunks generalizing index report with
  | nil => rfl
  | cons chunk rest ih =>
      rw [importChunks, handleAll]
      apply congrArg (chunk.commit backoff).bind
      funext outcome
      cases outcome with
      | ok stats => exact ih (index + 1) (report.add chunk.kind stats)
      | error error =>
          cases isTransient : error.isTransient with
          | false =>
              simp only [noteImported, isTransient]
              exact ih (index + 1) _
          | true =>
              simp only [noteImported, isTransient]
              rfl

theorem runs_withPositiveSize_iff {α : Type} {size : Nat} {program : Writing (Except StoreError α)}
    {log : List WriteExchange} {result : Except StoreError α} :
    (withPositiveSize size program).Runs log result ↔
      if size = 0 then log = [] ∧ result = .error (.misconfigured .emptyBatches)
      else program.Runs log result := by
  unfold withPositiveSize
  split
  · exact runs_done_iff
  · rfl

theorem runs_commitAll_iff {backoff : Milliseconds} {chunks : List WriteChunk}
    {log : List WriteExchange} {result : Except StoreError Nat} :
    (commitAll backoff 0 chunks).Runs log result ↔
      ∃ outcomes, InOrder (Tried backoff) Succeeds chunks log outcomes ∧
        result = tally noteCreated 0 0 (chunks.zip outcomes) := by
  rw [commitAll_eq backoff 0, runs_handleAll_iff noteCreated_iff, runs_commit_eq]

theorem runs_importChunks_iff {backoff : Milliseconds} {report : ImportReport}
    {chunks : List WriteChunk} {log : List WriteExchange}
    {result : Except StoreError ImportReport} :
    (importChunks backoff 0 report chunks).Runs log result ↔
      ∃ outcomes, InOrder (Tried backoff) Settled chunks log outcomes ∧
        result = tally noteImported 0 report (chunks.zip outcomes) := by
  rw [importChunks_eq, runs_handleAll_iff noteImported_iff, runs_commit_eq]

theorem runs_writeAll_iff {report : ImportReport} {chunks : List WriteChunk}
    {log : List WriteExchange} {result : Except StoreError ImportReport} :
    (writeAll report chunks).Runs log result ↔
      ∃ outcomes, InOrder Written Succeeds chunks log outcomes ∧
        result = tally noteWritten 0 report (chunks.zip outcomes) := by
  have same : (fun chunk : WriteChunk => chunk.write.Runs) = Written := by
    funext chunk log outcome
    exact propext runs_write_iff
  rw [writeAll_eq 0, runs_handleAll_iff noteWritten_iff, same]

/-- What every operation does in its transactions, whatever the store answers.  Work in a
transaction, a clearing of files and an atomic import are one transaction.  Batches and imports are
a row of chunks, each tried once or twice; a batch ends at the first chunk that fails, and an import
at the first for which the store stays unavailable.  The result is what is noted of the outcomes. -/
theorem transactions_disciplined (log : List WriteExchange) :
    (∀ (α : Type) (work : Writing (Except StoreError α)) (result : Except StoreError α),
      work.StopsAtFailure →
      ((inTransaction work).Runs log result ↔
        Attempt (fun writes outcome => work.Runs writes outcome ∧ Worked writes outcome)
          log result)) ∧
    (∀ paths result, (clearFiles paths).Runs log result ↔
      Attempt (fun writes outcome => writes = [⟨.deleteFiles paths, outcome⟩]) log result) ∧
    (∀ (settings : BatchSettings) (input : ImportInput) result,
      (importAtomic settings input).Runs log result ↔
        if settings.size = 0 then log = [] ∧ result = .error (.misconfigured .emptyBatches)
        else
          Attempt (fun writes outcome => ∃ outcomes,
            InOrder Written Succeeds (input.writeChunks settings.size) writes outcomes ∧
              outcome = tally noteWritten 0 (.start input.skipped)
                ((input.writeChunks settings.size).zip outcomes)) log result) ∧
    (∀ backoff size nodes result, (createNodes backoff size nodes).Runs log result ↔
      if size = 0 then log = [] ∧ result = .error (.misconfigured .emptyBatches)
      else ∃ outcomes,
        InOrder (Tried backoff) Succeeds ((chunks size nodes).map .nodes) log outcomes ∧
          result = tally noteCreated 0 0 (((chunks size nodes).map .nodes).zip outcomes)) ∧
    (∀ backoff size relationships result,
      (createRelationships backoff size relationships).Runs log result ↔
        if size = 0 then log = [] ∧ result = .error (.misconfigured .emptyBatches)
        else ∃ outcomes,
          InOrder (Tried backoff) Succeeds ((chunks size relationships).map .relationships) log
            outcomes ∧
          result = tally noteCreated 0 0
            (((chunks size relationships).map .relationships).zip outcomes)) ∧
    (∀ (settings : BatchSettings) (input : ImportInput) result,
      (importAll settings input).Runs log result ↔
        if settings.size = 0 then log = [] ∧ result = .error (.misconfigured .emptyBatches)
        else ∃ outcomes,
          InOrder (Tried settings.backoff) Settled (input.writeChunks settings.size) log outcomes ∧
            result = tally noteImported 0 (.start input.skipped)
              ((input.writeChunks settings.size).zip outcomes)) := by
  refine ⟨?_, ?_, ?_, ?_, ?_, ?_⟩
  · intro α work result stops
    rw [runs_inTransaction_iff]
    apply attempt_congr
    intro writes outcome
    exact (and_iff_left_of_imp (worked_of_runs stops)).symm
  · intro paths result
    exact runs_inTransaction_iff.trans (attempt_congr fun _ _ => runs_ask_iff)
  · intro settings input result
    rw [importAtomic, runs_withPositiveSize_iff, runs_inTransaction_iff,
      attempt_congr fun _ _ => runs_writeAll_iff]
  · intro backoff size nodes result
    rw [createNodes, runs_withPositiveSize_iff, runs_commitAll_iff]
  · intro backoff size relationships result
    rw [createRelationships, runs_withPositiveSize_iff, runs_commitAll_iff]
  · intro settings input result
    rw [importAll, runs_withPositiveSize_iff, runs_importChunks_iff]

/-- Steps of which the first is refused while the store breaks down. -/
def brokenSteps : List TransactionStep :=
  [.write (.deleteFiles ["A.java"]), .write (.nodes [])]

/-- The transcript of the steps: the rollback fails too. -/
def brokenLog : List WriteExchange :=
  [⟨.begin, (.ok () : Except StoreError Unit)⟩,
    ⟨.deleteFiles ["A.java"], (.error (.failed "locked") : Except StoreError Nat)⟩,
    ⟨.rollback, (.error (.unavailable "gone") : Except StoreError Unit)⟩]

/-- One file as a chunk. -/
def retriedChunk : WriteChunk :=
  .nodes [.file (.ofPath "A.java" "java" true)]

/-- The transcript of an import of the file into a store that is unavailable at first. -/
def retriedLog : List WriteExchange :=
  [⟨.begin, (.error (.unavailable "starting") : Except StoreError Unit)⟩, ⟨.pause 5, ()⟩,
    ⟨.begin, (.ok () : Except StoreError Unit)⟩, retriedChunk.exchange (.ok ⟨1, 0, 0⟩),
    ⟨.commit, (.ok () : Except StoreError Unit)⟩]

theorem transactions_disciplined_broken :
    StopsAtFailure (takeSteps [] brokenSteps) ∧
      (inTransaction (takeSteps [] brokenSteps)).Runs brokenLog (.error (.failed "locked")) ∧
      Attempt (fun writes outcome => (takeSteps [] brokenSteps).Runs writes outcome ∧
        Worked writes outcome) brokenLog (.error (.failed "locked")) ∧
      (importAll ⟨1, 5⟩ ⟨[.file (.ofPath "A.java" "java" true)], [], 0⟩).Runs retriedLog
        (.ok ⟨1, 0, 0, 0, 0, 0, []⟩) := by
  have stops := stopsAtFailure_takeSteps [] brokenSteps
  have runs : (inTransaction (takeSteps [] brokenSteps)).Runs brokenLog
      (.error (.failed "locked")) := by
    have worked : (takeSteps [] brokenSteps).Runs
        [⟨.deleteFiles ["A.java"], (.error (.failed "locked") : Except StoreError Nat)⟩]
        (.error (.failed "locked")) := .call _ (.done _)
    have attempt := Attempt.rolledBack (.error (.unavailable "gone")) worked
    exact runs_inTransaction_iff.mpr attempt
  have oneChunk : (ImportInput.mk [.file (.ofPath "A.java" "java" true)] [] 0).writeChunks 1 =
      [retriedChunk] := by
    simp [ImportInput.writeChunks, chunks_cons, retriedChunk]
  refine ⟨stops, runs, ?_, ?_⟩
  · exact ((transactions_disciplined brokenLog).1 _ _ _ stops).mp runs
  · apply ((transactions_disciplined retriedLog).2.2.2.2.2 _ _ _).mpr
    simp only [oneChunk, Nat.one_ne_zero, if_false]
    refine ⟨[.ok ⟨1, 0, 0⟩], ?_, rfl⟩
    have written : retriedChunk.Written [retriedChunk.exchange (.ok ⟨1, 0, 0⟩)]
        (.ok ⟨1, 0, 0⟩) := rfl
    have again : Attempt retriedChunk.Written _ _ := .committed (.ok ()) written
    have tried : retriedChunk.Tried 5 _ _ := .twice (.refused (.unavailable "starting")) again
    have settled : Settled (.ok ⟨1, 0, 0⟩) := by simp [Settled]
    exact .next tried settled .finished

end Writing

end QueryImpact
