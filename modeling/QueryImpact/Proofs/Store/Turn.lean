import QueryImpact.Proofs.OrderedMap
import QueryImpact.Simulation

/-!
# Turns of several clients

Clients share one store, and each of them has at most one open transaction, known by the client's
name.  They take turns: a turn is one call of one client, and any order of turns is an interleaving
of their transactions.  Here is said once what a turn can do to the shared graph and to the open
transactions; statements about interleavings go through it.
-/

namespace QueryImpact

/-- A call that a client makes. -/
structure Turn where
  /-- Who makes the call. -/
  client : String
  /-- The call. -/
  call : WriteCall

/-- A call that a client has made, with its answer. -/
structure Event where
  /-- Who made the call. -/
  client : String
  /-- The call. -/
  call : WriteCall
  /-- How it was answered. -/
  answer : call.Answer

namespace WriteCall

/-- Whether a call was answered by success. -/
def Succeeded : (call : WriteCall) → call.Answer → Prop
  | begin, answer => ∃ value, answer = Except.ok value
  | upsertNodes _, answer => ∃ value, answer = Except.ok value
  | upsertRelationships _, answer => ∃ value, answer = Except.ok value
  | deleteFiles _, answer => ∃ value, answer = Except.ok value
  | commit, answer => ∃ value, answer = Except.ok value
  | rollback, answer => ∃ value, answer = Except.ok value
  | pause _, _ => True

instance (call : WriteCall) (answer : call.Answer) : Decidable (call.Succeeded answer) :=
  match call, answer with
  | begin, .ok value => isTrue ⟨value, rfl⟩
  | begin, .error _ => isFalse nofun
  | upsertNodes _, .ok value => isTrue ⟨value, rfl⟩
  | upsertNodes _, .error _ => isFalse nofun
  | upsertRelationships _, .ok value => isTrue ⟨value, rfl⟩
  | upsertRelationships _, .error _ => isFalse nofun
  | deleteFiles _, .ok value => isTrue ⟨value, rfl⟩
  | deleteFiles _, .error _ => isFalse nofun
  | commit, .ok value => isTrue ⟨value, rfl⟩
  | commit, .error _ => isFalse nofun
  | rollback, .ok value => isTrue ⟨value, rfl⟩
  | rollback, .error _ => isFalse nofun
  | pause _, _ => isTrue trivial

/-- The write that a call asks for. -/
def operation? : WriteCall → Option WriteOperation
  | upsertNodes nodes => some (.nodes nodes)
  | upsertRelationships relationships => some (.relationships relationships)
  | deleteFiles paths => some (.deleteFiles paths)
  | begin | commit | rollback | pause _ => none

end WriteCall

/-- What a call with the given answer can make of the shared graph and of the transaction it
belongs to. -/
inductive CallEffect (call : WriteCall) (answer : call.Answer) (graph : Graph)
    (current : Option Transaction) : MemoryStore → Prop
  /-- A transaction begins; one that was open before is dropped. -/
  | begun (isBegin : call = .begin) (succeeded : call.Succeeded answer) :
      CallEffect call answer graph current ⟨graph, some (.begin graph)⟩
  /-- A write succeeds on the copy of the transaction, which keeps it. -/
  | wrote (operation : WriteOperation) (transaction : Transaction) (working : Graph)
      (asksFor : call.operation? = some operation) (isOpen : current = some transaction)
      (succeeded : call.Succeeded answer)
      (applied : transaction.working.apply operation = .ok working) :
      CallEffect call answer graph current
        ⟨graph, some ⟨working, transaction.staged ++ [operation]⟩⟩
  /-- The writes of the transaction succeed on the shared graph. -/
  | committed (transaction : Transaction) (next : Graph) (isCommit : call = .commit)
      (isOpen : current = some transaction) (succeeded : call.Succeeded answer)
      (replayed : transaction.commit graph = .ok next) :
      CallEffect call answer graph current ⟨next, none⟩
  /-- One of the writes of the transaction fails on the shared graph; the transaction is over. -/
  | refusedCommit (isCommit : call = .commit) (failed : ¬ call.Succeeded answer)
      (cause : ∀ transaction ∈ current, ∃ error, transaction.commit graph = .error error) :
      CallEffect call answer graph current ⟨graph, none⟩
  /-- The transaction is given up. -/
  | rolledBack (isRollback : call = .rollback) : CallEffect call answer graph current ⟨graph, none⟩
  /-- A write fails on the copy of the transaction, which goes on as before. -/
  | refusedWrite (operation : WriteOperation) (asksFor : call.operation? = some operation)
      (failed : ¬ call.Succeeded answer)
      (cause : ∀ transaction ∈ current, ∃ error,
        transaction.working.apply operation = .error error) :
      CallEffect call answer graph current ⟨graph, current⟩
  /-- The client waits. -/
  | paused (span : Milliseconds) (isPause : call = .pause span) :
      CallEffect call answer graph current ⟨graph, current⟩

namespace CallEffect

variable {call : WriteCall} {answer : call.Answer} {graph : Graph} {current : Option Transaction}
  {result : MemoryStore}

/-- Only a successful commit changes the shared graph. -/
theorem graph_eq (effect : CallEffect call answer graph current result)
    (noCommit : ¬ (call = .commit ∧ call.Succeeded answer)) : result.graph = graph := by
  cases effect with
  | committed transaction next isCommit isOpen succeeded replayed =>
      exact absurd ⟨isCommit, succeeded⟩ noCommit
  | _ => rfl

/-- A successful commit replays the writes of the open transaction on the shared graph. -/
theorem exists_of_commits (effect : CallEffect call answer graph current result)
    (commits : call = .commit ∧ call.Succeeded answer) :
    ∃ transaction, current = some transaction ∧ transaction.commit graph = .ok result.graph := by
  obtain ⟨rfl, succeeded⟩ := commits
  cases effect with
  | committed transaction next isCommit isOpen _ replayed =>
      exact ⟨transaction, isOpen, replayed⟩
  | refusedCommit isCommit failed cause => exact absurd succeeded failed
  | begun isBegin => contradiction
  | wrote operation transaction working asksFor => contradiction
  | rolledBack isRollback => contradiction
  | refusedWrite operation asksFor => contradiction
  | paused span isPause => contradiction

/-- A transaction begins whatever was open before. -/
theorem of_begin {answer : WriteCall.begin.Answer}
    (effect : CallEffect .begin answer graph current result) :
    WriteCall.begin.Succeeded answer ∧ result = ⟨graph, some (.begin graph)⟩ := by
  cases effect with
  | begun isBegin succeeded => exact ⟨succeeded, rfl⟩
  | wrote operation transaction working asksFor => contradiction
  | committed transaction next isCommit => contradiction
  | refusedCommit isCommit => contradiction
  | rolledBack isRollback => contradiction
  | refusedWrite operation asksFor => contradiction
  | paused span isPause => contradiction

/-- A write succeeds when it does on the copy of the open transaction. -/
theorem of_write {operation : WriteOperation} {transaction : Transaction} {working : Graph}
    (effect : CallEffect call answer graph current result)
    (asksFor : call.operation? = some operation) (isOpen : current = some transaction)
    (applied : transaction.working.apply operation = .ok working) :
    call.Succeeded answer ∧
      result = ⟨graph, some ⟨working, transaction.staged ++ [operation]⟩⟩ := by
  cases effect with
  | wrote other otherTransaction otherWorking otherAsks otherOpen succeeded otherApplied =>
      obtain rfl := Option.some.inj (asksFor.symm.trans otherAsks)
      obtain rfl := Option.some.inj (isOpen.symm.trans otherOpen)
      obtain rfl := Except.ok.inj (applied.symm.trans otherApplied)
      exact ⟨succeeded, rfl⟩
  | refusedWrite other otherAsks failed cause =>
      obtain rfl := Option.some.inj (asksFor.symm.trans otherAsks)
      obtain ⟨error, refused⟩ := cause transaction isOpen
      exact absurd (applied.symm.trans refused) (by simp)
  | begun isBegin =>
      subst isBegin
      contradiction
  | committed other next isCommit =>
      subst isCommit
      contradiction
  | refusedCommit isCommit =>
      subst isCommit
      contradiction
  | rolledBack isRollback =>
      subst isRollback
      contradiction
  | paused span isPause =>
      subst isPause
      contradiction

/-- A commit succeeds when the writes of the open transaction do. -/
theorem of_commit {answer : WriteCall.commit.Answer} {transaction : Transaction} {next : Graph}
    (effect : CallEffect .commit answer graph current result) (isOpen : current = some transaction)
    (replayed : transaction.commit graph = .ok next) :
    answer = (.ok () : Except StoreError Unit) ∧ result.graph = next := by
  cases effect with
  | committed other reached isCommit otherOpen succeeded replayedOther =>
      obtain rfl := Option.some.inj (isOpen.symm.trans otherOpen)
      obtain ⟨⟨⟩, answered⟩ := succeeded
      exact ⟨answered, Except.ok.inj (replayedOther.symm.trans replayed)⟩
  | refusedCommit isCommit failed cause =>
      obtain ⟨error, refused⟩ := cause transaction isOpen
      exact absurd (replayed.symm.trans refused) nofun
  | begun isBegin => contradiction
  | wrote operation transaction working asksFor => contradiction
  | rolledBack isRollback => contradiction
  | refusedWrite operation asksFor => contradiction
  | paused span isPause => contradiction

/-- After a commit, successful or not, no transaction is open. -/
theorem current_of_commit {answer : WriteCall.commit.Answer}
    (effect : CallEffect .commit answer graph current result) : result.current = none := by
  cases effect with
  | committed transaction next => rfl
  | refusedCommit isCommit => rfl
  | rolledBack isRollback => rfl
  | begun isBegin => contradiction
  | wrote operation transaction working asksFor => contradiction
  | refusedWrite operation asksFor => contradiction
  | paused span isPause => contradiction

end CallEffect

namespace MemoryStore

/-- Every call has one of the effects. -/
theorem handle_effect (call : WriteCall) (graph : Graph) (current : Option Transaction) :
    CallEffect call (handle call ⟨graph, current⟩).1 graph current
      (handle call ⟨graph, current⟩).2 := by
  cases current with
  | none =>
      cases call with
      | begin => exact .begun rfl ⟨(), rfl⟩
      | upsertNodes nodes => exact .refusedWrite (.nodes nodes) rfl nofun nofun
      | upsertRelationships relationships =>
          exact .refusedWrite (.relationships relationships) rfl nofun nofun
      | deleteFiles paths => exact .refusedWrite (.deleteFiles paths) rfl nofun nofun
      | commit => exact .refusedCommit rfl nofun nofun
      | rollback => exact .rolledBack rfl
      | pause span => exact .paused span rfl
  | some transaction =>
      cases call with
      | begin => exact .begun rfl ⟨(), rfl⟩
      | upsertNodes nodes =>
          simp only [handle, handleOpen, Transaction.upsertNodes]
          cases written : transaction.working.upsertNodes nodes with
          | error error =>
              refine .refusedWrite (.nodes nodes) rfl nofun fun other isOpen => ⟨error, ?_⟩
              obtain rfl := Option.mem_some_iff.mp isOpen
              rw [Graph.apply, written]
              rfl
          | ok result =>
              refine .wrote (.nodes nodes) transaction result.1 rfl rfl ⟨result.2, rfl⟩ ?_
              rw [Graph.apply, written]
              rfl
      | upsertRelationships relationships =>
          exact .wrote (.relationships relationships) transaction _ rfl rfl ⟨_, rfl⟩ rfl
      | deleteFiles paths => exact .wrote (.deleteFiles paths) transaction _ rfl rfl ⟨_, rfl⟩ rfl
      | commit =>
          simp only [handle, handleOpen]
          cases replayed : transaction.commit graph with
          | error error =>
              refine .refusedCommit rfl nofun fun other isOpen => ⟨error, ?_⟩
              obtain rfl := Option.mem_some_iff.mp isOpen
              exact replayed
          | ok next => exact .committed transaction next rfl rfl ⟨(), rfl⟩ replayed
      | rollback => exact .rolledBack rfl
      | pause span => exact .paused span rfl

end MemoryStore

namespace Simulation

/-- Whether no call fails or hangs for a reason that lies outside the store. -/
structure Quiet (simulation : Simulation) : Prop where
  noFaults : simulation.faults = []
  notStalled : simulation.stalled = false

/-- A quiet simulation on a graph, without open transactions. -/
def onGraph (graph : Graph) : Simulation :=
  { start with store := ⟨graph, none⟩ }

theorem quiet_onGraph (graph : Graph) : (onGraph graph).Quiet :=
  ⟨rfl, rfl⟩

/-- The open transactions once a client has a given one, or none. -/
def keepTransaction (transactions : OrderedMap String Transaction) (client : String) :
    Option Transaction → OrderedMap String Transaction
  | some transaction => transactions.insert client transaction
  | none => transactions.filter fun other _ => other ≠ client

theorem find?_keepTransaction (transactions : OrderedMap String Transaction)
    (client other : String) (kept : Option Transaction) :
    (keepTransaction transactions client kept).find? other =
      if other = client then kept else transactions.find? other := by
  cases kept with
  | some transaction => exact OrderedMap.find?_insert _ _ _ _
  | none =>
      rw [keepTransaction, OrderedMap.find?_filter]
      split
      · rename_i same
        simp [same]
      · rename_i different
        cases transactions.find? other <;> simp [different]

/-- In a quiet simulation a program runs as on its store. -/
theorem write_of_quiet {α : Type} (program : Writing α) {simulation : Simulation}
    (quiet : simulation.Quiet) :
    ∃ after, write program simulation = some ((MemoryStore.run program simulation.store).1, after) ∧
      after.Quiet ∧ after.store = (MemoryStore.run program simulation.store).2 ∧
      after.transactions = simulation.transactions := by
  induction program generalizing simulation with
  | done value => exact ⟨simulation, rfl, quiet, rfl, rfl⟩
  | call request next ih =>
      obtain ⟨middle, handled, quietMiddle, storeEq, transactionsEq⟩ : ∃ middle,
          handle request simulation =
            some ((MemoryStore.handle request simulation.store).1, middle) ∧
          middle.Quiet ∧ middle.store = (MemoryStore.handle request simulation.store).2 ∧
          middle.transactions = simulation.transactions := by
        obtain ⟨store, transactions, schema, clock, delay, stalled, faults⟩ := simulation
        obtain ⟨noFaults, notStalled⟩ := quiet
        cases noFaults
        cases notStalled
        cases request <;> exact ⟨_, rfl, ⟨rfl, rfl⟩, rfl, rfl⟩
      obtain ⟨after, ran, quietAfter, storeAfter, transactionsAfter⟩ :=
        ih (MemoryStore.handle request simulation.store).1 quietMiddle
      rw [storeEq] at ran storeAfter
      refine ⟨after, ?_, quietAfter, storeAfter, transactionsAfter.trans transactionsEq⟩
      change (handle request >>= fun answer => write (next answer)) simulation = _
      simp only [bind, StateT.bind, handled]
      exact ran

/-- In a quiet simulation a program of a client runs on the shared graph and the client's
transaction, and leaves the transactions of all others alone. -/
theorem writeIn_run {α : Type} {simulation : Simulation} (quiet : simulation.Quiet)
    (client : String) (program : Writing α) {answer : α} {result : MemoryStore}
    (ran : MemoryStore.run program
      ⟨simulation.store.graph, simulation.transactions.find? client⟩ = (answer, result)) :
    ∃ after, writeIn client program simulation = some (answer, after) ∧ after.Quiet ∧
      after.store.graph = result.graph ∧
      after.transactions = keepTransaction simulation.transactions client result.current := by
  let own : Simulation :=
    { simulation with store := ⟨simulation.store.graph, simulation.transactions.find? client⟩ }
  have quietOwn : own.Quiet := ⟨quiet.noFaults, quiet.notStalled⟩
  obtain ⟨after, written, quietAfter, storeEq, transactionsEq⟩ := write_of_quiet program quietOwn
  rw [ran] at written storeEq
  refine ⟨{ after with
    transactions := keepTransaction after.transactions client after.store.current
    store := { after.store with current := none } }, ?_,
    ⟨quietAfter.noFaults, quietAfter.notStalled⟩, ?_, ?_⟩
  · simp only [writeIn, bind, StateT.bind]
    change (write program own).bind _ = _
    rw [written]
    rfl
  · change after.store.graph = _
    rw [storeEq]
  · change keepTransaction after.transactions client after.store.current = _
    rw [transactionsEq, storeEq]

/-- In a quiet simulation a turn is always answered.  It has one of the effects on the shared
graph and the client's transaction, and leaves the transactions of all others alone. -/
theorem writeIn_effect {simulation : Simulation} (quiet : simulation.Quiet) (client : String)
    (call : WriteCall) :
    ∃ answer after result,
      writeIn client (Writing.ask call) simulation = some (answer, after) ∧ after.Quiet ∧
        CallEffect call answer simulation.store.graph (simulation.transactions.find? client)
          result ∧
        after.store.graph = result.graph ∧
        after.transactions = keepTransaction simulation.transactions client result.current := by
  obtain ⟨after, answered, quietAfter, graphEq, transactionsEq⟩ :=
    writeIn_run quiet client (Writing.ask call) rfl
  exact ⟨_, after, _, answered, quietAfter, MemoryStore.handle_effect call _ _, graphEq,
    transactionsEq⟩

end Simulation

end QueryImpact
