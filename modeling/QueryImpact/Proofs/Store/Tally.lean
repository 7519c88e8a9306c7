import Mathlib
import QueryImpact.Proofs.Store.Growth

/-!
# What a client is told about its chunk

A client writes a chunk in a transaction of its own while other clients take turns.  It is told the
counts of the chunk on the graph that was shared when the transaction began.  What its commit does
are the counts on the graph that is shared then.  So the client is told what it has done exactly
when these counts are the same, and always when nobody commits in between.
-/

namespace QueryImpact

/-! ## Writing a chunk -/

/-- A write that succeeds is a chunk that is written. -/
theorem Graph.exists_writeChunk_of_apply {graph next : Graph} {chunk : WriteChunk}
    (applied : graph.apply chunk.operation = .ok next) :
    ∃ stats, graph.writeChunk chunk = .ok (next, stats) := by
  cases chunk with
  | nodes batch =>
      obtain ⟨accepts, rfl⟩ := apply_nodes_eq_ok_iff.mp applied
      rw [← foldl_putNode_fst graph .none batch]
      exact ⟨_, upsertNodes_eq_ok_iff.mpr ⟨accepts, rfl⟩⟩
  | relationships batch =>
      obtain rfl := Except.ok.inj applied
      exact ⟨_, rfl⟩

/-- A client is told the counts of a chunk on the copy of its transaction, which keeps the write. -/
theorem MemoryStore.exists_run_write (chunk : WriteChunk) (graph : Graph)
    (transaction : Transaction) :
    ∃ kept, run chunk.write ⟨graph, some transaction⟩ =
        ((transaction.working.writeChunk chunk).map Prod.snd, ⟨graph, some kept⟩) ∧
      ∀ next stats, transaction.working.writeChunk chunk = .ok (next, stats) →
        kept.staged = transaction.staged ++ [chunk.operation] := by
  rw [run_write]
  cases transaction.working.writeChunk chunk with
  | error error =>
      refine ⟨transaction, rfl, ?_⟩
      intro _ _ failed
      contradiction
  | ok result =>
      refine ⟨⟨result.1, transaction.staged ++ [chunk.operation]⟩, rfl, ?_⟩
      intro _ _ _
      rfl

namespace Simulation

/-- What is seen of a chunk that a client writes in a transaction of its own. -/
structure ChunkRecord where
  /-- The shared graph when the transaction begins. -/
  begun : Graph
  /-- What the client is told when it writes the chunk. -/
  told : Except StoreError UpsertStats
  /-- The shared graph before the commit. -/
  before : Graph
  /-- How the commit is answered. -/
  outcome : Except StoreError Unit
  /-- The shared graph after the commit. -/
  after : Graph

/-- The shared graph. -/
def sharedGraph : Simulated Graph := do
  pure (← get).store.graph

/-- A client begins a transaction, writes a chunk and commits, while turns are taken before it
begins, before it writes and before it commits. -/
def commitAmong (client : String) (chunk : WriteChunk) (earlier between later : List Turn) :
    Simulated ChunkRecord := do
  let _ ← takeTurns earlier
  let _ ← writeIn client (Writing.ask .begin)
  let begun ← sharedGraph
  let _ ← takeTurns between
  let told ← writeIn client chunk.write
  let _ ← takeTurns later
  let before ← sharedGraph
  let outcome ← writeIn client (Writing.ask .commit)
  let after ← sharedGraph
  pure ⟨begun, told, before, outcome, after⟩

/-- While others take turns, the transaction of a client stays as it is; and as long as nobody
commits, so does the shared graph. -/
theorem takeTurns_of_others {simulation : Simulation} (wellFormed : simulation.WellFormed)
    {client : String} {turns : List Turn} (others : ∀ turn ∈ turns, turn.client ≠ client) :
    ∃ past after, takeTurns turns simulation = some (past, after) ∧ after.WellFormed ∧
      after.transactions.find? client = simulation.transactions.find? client ∧
      ((∀ turn ∈ turns, turn.call ≠ .commit) →
        after.store.graph = simulation.store.graph) := by
  refine @foldlM_takeTurn_of_mem (fun _ reached => reached.WellFormed ∧
    reached.transactions.find? client = simulation.transactions.find? client ∧
    ((∀ turn ∈ turns, turn.call ≠ .commit) → reached.store.graph = simulation.store.graph))
    turns ?_ [] simulation ⟨wellFormed, rfl, fun _ => rfl⟩
  rintro turn member history reached ⟨wellFormedReached, sameTransaction, sameGraph⟩
  obtain ⟨after, answered, wellFormedAfter, graphEq, transactionsEq⟩ :=
    wellFormedReached.writeIn_run turn.client (Writing.ask turn.call) rfl
  refine ⟨_, after, takeTurn_of_writeIn answered history, wellFormedAfter, ?_, ?_⟩
  · rw [transactionsEq, find?_keepTransaction, if_neg (Ne.symm (others turn member))]
    exact sameTransaction
  · intro noCommits
    have effect := MemoryStore.handle_effect turn.call reached.store.graph
      (reached.transactions.find? turn.client)
    rw [← sameGraph noCommits, graphEq]
    exact effect.graph_eq fun commits => noCommits turn member commits.1

theorem sharedGraph_eq (simulation : Simulation) :
    sharedGraph simulation = some (simulation.store.graph, simulation) :=
  rfl

/-- A client that begins has a transaction on the shared graph. -/
theorem WellFormed.writeIn_begin {simulation : Simulation} (wellFormed : simulation.WellFormed)
    (client : String) :
    ∃ answer after, writeIn client (Writing.ask .begin) simulation = some (answer, after) ∧
      after.WellFormed ∧
      after.transactions.find? client = some (.begin after.store.graph) := by
  obtain ⟨answer, after, result, answered, _, effect, graphEq, transactionsEq⟩ :=
    writeIn_effect wellFormed.quiet client .begin
  obtain ⟨_, rfl⟩ := effect.of_begin
  obtain ⟨_, _, taken, wellFormedAfter⟩ := wellFormed.step [] ⟨client, .begin⟩
  rw [takeTurn_of_writeIn answered] at taken
  obtain ⟨_, rfl⟩ := Prod.mk.inj (Option.some.inj taken)
  refine ⟨answer, after, answered, wellFormedAfter, ?_⟩
  rw [transactionsEq, find?_keepTransaction, if_pos rfl, graphEq]

/-- A commit that succeeds makes the writes of the transaction on the shared graph. -/
theorem writeIn_commit {simulation : Simulation} (quiet : simulation.Quiet) {client : String}
    {transaction : Transaction} (isOpen : simulation.transactions.find? client = some transaction) :
    ∃ outcome : Except StoreError Unit, ∃ after,
      writeIn client (Writing.ask .commit) simulation = some (outcome, after) ∧
        (outcome = .ok () →
          simulation.store.graph.applyAll transaction.staged = .ok after.store.graph) := by
  obtain ⟨outcome, after, result, answered, _, effect, graphEq, _⟩ :=
    writeIn_effect quiet client .commit
  refine ⟨outcome, after, answered, ?_⟩
  rintro rfl
  obtain ⟨other, otherOpen, replayed⟩ := effect.exists_of_commits ⟨rfl, (), rfl⟩
  obtain rfl := Option.some.inj (isOpen.symm.trans otherOpen)
  rw [graphEq]
  exact replayed

/-- The transaction of a client that writes a chunk, from its begin to its commit: the client is
told the counts on the graph at the begin, and a commit that succeeds writes the chunk to the graph
as it then is. -/
theorem exists_commitAmong (client : String) (chunk : WriteChunk) (earlier : List Turn)
    {between later : List Turn}
    (others : ∀ turn ∈ between ++ later, turn.client ≠ client) :
    ∃ record after,
      commitAmong client chunk earlier between later (onGraph .empty) = some (record, after) ∧
        record.begun.WellFormed ∧ record.before.WellFormed ∧
        record.told = (record.begun.writeChunk chunk).map Prod.snd ∧
        (∀ next stats, record.begun.writeChunk chunk = .ok (next, stats) →
          record.outcome = .ok () → record.before.apply chunk.operation = .ok record.after) ∧
        ((∀ turn ∈ between ++ later, turn.call ≠ .commit) → record.before = record.begun) := by
  obtain ⟨betweenOthers, laterOthers⟩ := List.forall_mem_append.mp others
  obtain ⟨_, idle, ranEarlier, wellFormedIdle⟩ := wellFormed_onGraph_empty.run earlier
  obtain ⟨_, begun, began, wellFormedBegun, isOpen⟩ := wellFormedIdle.writeIn_begin client
  obtain ⟨_, asking, ranBetween, wellFormedAsking, sameAsking, keptAsking⟩ :=
    takeTurns_of_others wellFormedBegun betweenOthers
  obtain ⟨kept, wrote, staged⟩ := MemoryStore.exists_run_write chunk asking.store.graph
    (.begin begun.store.graph)
  rw [← isOpen, ← sameAsking] at wrote
  obtain ⟨written, told, wellFormedWritten, graphWritten, transactionsWritten⟩ :=
    wellFormedAsking.writeIn_run client chunk.write wrote
  obtain ⟨_, ending, ranLater, wellFormedEnding, sameEnding, keptEnding⟩ :=
    takeTurns_of_others wellFormedWritten laterOthers
  rw [transactionsWritten, find?_keepTransaction, if_pos rfl] at sameEnding
  obtain ⟨outcome, after, committed, replayed⟩ :=
    writeIn_commit wellFormedEnding.quiet sameEnding
  refine ⟨⟨begun.store.graph, (begun.store.graph.writeChunk chunk).map Prod.snd,
    ending.store.graph, outcome, after.store.graph⟩, after, ?_, wellFormedBegun.shared,
    wellFormedEnding.shared, rfl, ?_, ?_⟩
  · simp only [commitAmong, bind, StateT.bind, Option.bind_some, sharedGraph_eq, ranEarlier, began,
      ranBetween, told, ranLater, committed]
    rfl
  · intro next stats isWritten succeeded
    have single : kept.staged = [chunk.operation] := staged next stats isWritten
    rw [← Graph.applyAll_singleton, ← single]
    exact replayed succeeded
  · intro noCommits
    obtain ⟨noneBetween, noneLater⟩ := List.forall_mem_append.mp noCommits
    exact (keptEnding noneLater).trans (graphWritten.trans (keptAsking noneBetween))

/-- Whatever turns others take, a client that commits a chunk is told its counts on the graph at the
begin of the transaction, and the commit has the counts on the graph before it.  So the client is
told what its commit does exactly when as many keys of the chunk are new, and as many of its
relationships lack an end, on both graphs.  This is so when nobody else commits in between. -/
theorem told_eq_effect_iff (client : String) (chunk : WriteChunk)
    (earlier : List Turn) {between later : List Turn}
    (others : ∀ turn ∈ between ++ later, turn.client ≠ client) :
    ∃ record after,
      commitAmong client chunk earlier between later (onGraph .empty) = some (record, after) ∧
        ∀ stats, record.told = .ok stats → record.outcome = .ok () →
          stats = chunk.tally record.begun ∧
          chunk.effect record.before record.after = chunk.tally record.before ∧
          (stats = chunk.effect record.before record.after ↔
            chunk.newKeys record.begun = chunk.newKeys record.before ∧
              chunk.lackingEnds record.begun = chunk.lackingEnds record.before) ∧
          ((∀ turn ∈ between ++ later, turn.call ≠ .commit) →
            stats = chunk.effect record.before record.after) := by
  obtain ⟨record, after, ran, begun, before, told, replayed, undisturbed⟩ :=
    exists_commitAmong client chunk earlier others
  refine ⟨record, after, ran, ?_⟩
  intro stats toldStats succeeded
  obtain ⟨next, isWritten⟩ : ∃ next, record.begun.writeChunk chunk = .ok (next, stats) := by
    rw [told] at toldStats
    cases isWritten : record.begun.writeChunk chunk with
    | error error =>
        rw [isWritten] at toldStats
        contradiction
    | ok result =>
        rw [isWritten] at toldStats
        obtain rfl := Except.ok.inj toldStats
        exact ⟨result.1, rfl⟩
  obtain ⟨_, isReplayed⟩ :=
    Graph.exists_writeChunk_of_apply (replayed next stats isWritten succeeded)
  have toldTally := (WriteChunk.tally_of_writeChunk begun isWritten).1
  have effectTally := (WriteChunk.tally_of_writeChunk before isReplayed).2
  refine ⟨toldTally, effectTally, ?_, ?_⟩
  · rw [toldTally, effectTally]
    exact WriteChunk.tally_eq_iff
  · intro noCommits
    rw [toldTally, effectTally, undisturbed noCommits]

/-- Two files are committed. -/
def filingTurns : List Turn :=
  [⟨"filer", .begin⟩,
    ⟨"filer", .upsertNodes
      [.file (.ofPath "A.java" "java" true), .file (.ofPath "B.java" "java" true)]⟩,
    ⟨"filer", .commit⟩]

/-- One of the two files is deleted. -/
def clearingTurns : List Turn :=
  [⟨"cleaner", .begin⟩, ⟨"cleaner", .deleteFiles ["B.java"]⟩, ⟨"cleaner", .commit⟩]

/-- A dependency between the two files. -/
def dependencyChunk : WriteChunk :=
  .relationships [.plain "A.java" "B.java" .dependsOn]

/-- A file that is already stored and one that is new. -/
def refilingChunk : WriteChunk :=
  .nodes [.file (.ofPath "A.java" "java" true), .file (.ofPath "C.java" "java" true)]

/-- While another file is deleted, the client is told what its commit does. -/
theorem told_eq_effect_iff_refiled :
    ∃ record after stats,
      commitAmong "writer" refilingChunk filingTurns clearingTurns [] (onGraph .empty) =
          some (record, after) ∧
        record.told = .ok stats ∧ record.outcome = .ok () ∧ record.begun ≠ record.before ∧
        stats = refilingChunk.effect record.before record.after := by
  have seen : (commitAmong "writer" refilingChunk filingTurns clearingTurns [] (onGraph .empty)).all
      (fun result => decide (result.1.told = .ok ⟨1, 1, 0⟩ ∧ result.1.outcome = .ok () ∧
        result.1.begun ≠ result.1.before ∧
        refilingChunk.newKeys result.1.begun = refilingChunk.newKeys result.1.before)) = true := by
    decide +kernel
  obtain ⟨record, after, ran, accounts⟩ :=
    @told_eq_effect_iff "writer" refilingChunk filingTurns clearingTurns [] (by
      simp [clearingTurns])
  rw [ran, Option.all_some, decide_eq_true_eq] at seen
  obtain ⟨told, succeeded, disturbed, sameKeys⟩ := seen
  obtain ⟨_, _, agrees_iff, _⟩ := accounts _ told succeeded
  exact ⟨record, after, _, ran, told, succeeded, disturbed, agrees_iff.mpr ⟨sameKeys, rfl⟩⟩

/-- A client is told that it has created a dependency, and its commit creates none, because one of
the files was deleted meanwhile. -/
theorem told_ne_effect_cleared :
    ∃ record after,
      commitAmong "writer" dependencyChunk filingTurns clearingTurns [] (onGraph .empty) =
          some (record, after) ∧
        record.told = .ok ⟨1, 0, 0⟩ ∧ record.outcome = .ok () ∧
        dependencyChunk.effect record.before record.after = ⟨0, 0, 1⟩ := by
  have seen : (commitAmong "writer" dependencyChunk filingTurns clearingTurns []
      (onGraph .empty)).any (fun result => decide (result.1.told = .ok ⟨1, 0, 0⟩ ∧
        result.1.outcome = .ok () ∧
        dependencyChunk.effect result.1.before result.1.after = ⟨0, 0, 1⟩)) = true := by
    decide +kernel
  obtain ⟨⟨record, after⟩, ran, holds⟩ := (Option.any_eq_true _ _).mp seen
  exact ⟨record, after, ran, of_decide_eq_true holds⟩

end Simulation

end QueryImpact
