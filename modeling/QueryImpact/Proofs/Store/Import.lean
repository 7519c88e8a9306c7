import QueryImpact.Store.Memory

/-!
# Importing as writing chunk after chunk

On a store without open transactions, committing a chunk is writing it to the graph, and a refused
chunk leaves the graph alone.  An import is then a walk over its chunks.
-/

namespace QueryImpact

/-- The write that a chunk is. -/
def WriteChunk.operation : WriteChunk → WriteOperation
  | nodes batch => .nodes batch
  | relationships batch => .relationships batch

/-- The nodes that a write stores. -/
def WriteOperation.givenNodes : WriteOperation → List Node
  | nodes batch => batch
  | relationships _ | deleteFiles _ => []

/-- The relationships that a write stores, as far as they have their ends. -/
def WriteOperation.givenRelationships : WriteOperation → List Relationship
  | relationships batch => batch
  | nodes _ | deleteFiles _ => []

namespace ImportInput

/-- The writes of an import. -/
def writes (input : ImportInput) (size : Nat) : List WriteOperation :=
  (input.writeChunks size).map WriteChunk.operation

theorem writes_eq (input : ImportInput) (size : Nat) :
    input.writes size = (chunks size input.nodes).map .nodes ++
      (chunks size input.relationships).map .relationships := by
  rw [writes, writeChunks, List.map_append, List.map_map, List.map_map]
  rfl

theorem flatMap_givenNodes (input : ImportInput) (size : Nat) :
    (input.writes size).flatMap WriteOperation.givenNodes = input.nodes := by
  rw [writes_eq, List.flatMap_append, List.flatMap_map, List.flatMap_map]
  simp [WriteOperation.givenNodes, List.flatMap_id']

theorem flatMap_givenRelationships (input : ImportInput) (size : Nat) :
    (input.writes size).flatMap WriteOperation.givenRelationships = input.relationships := by
  rw [writes_eq, List.flatMap_append, List.flatMap_map, List.flatMap_map]
  simp [WriteOperation.givenRelationships, List.flatMap_id']

end ImportInput

/-- Written chunks leave the list of refused ones alone. -/
@[simp]
theorem ImportReport.failures_add (report : ImportReport) (kind : ChunkKind)
    (stats : UpsertStats) : (report.add kind stats).failures = report.failures := by
  cases kind <;> rfl

namespace Graph

/-! ## Applying writes -/

@[simp]
theorem applyAll_nil (graph : Graph) : graph.applyAll [] = .ok graph :=
  rfl

/-- Writes in a row are applied one list after the other. -/
theorem applyAll_append (graph : Graph) (first second : List WriteOperation) :
    graph.applyAll (first ++ second) =
      (graph.applyAll first).bind fun next => next.applyAll second :=
  List.foldlM_append

theorem applyAll_append_of_ok {graph next : Graph} {first : List WriteOperation}
    (applied : graph.applyAll first = .ok next) (second : List WriteOperation) :
    graph.applyAll (first ++ second) = next.applyAll second := by
  rw [applyAll_append, applied]
  rfl

@[simp]
theorem applyAll_singleton (graph : Graph) (operation : WriteOperation) :
    graph.applyAll [operation] = graph.apply operation := by
  simp [applyAll]

/-! ## Walks over chunks -/

/-- Write a chunk. -/
def writeChunk (graph : Graph) : WriteChunk → Except StoreError (Graph × UpsertStats)
  | .nodes nodes => graph.upsertNodes nodes
  | .relationships relationships => .ok (graph.upsertRelationships relationships)

/-- A chunk that was written is written again by its operation. -/
theorem apply_operation {graph next : Graph} {chunk : WriteChunk} {stats : UpsertStats}
    (written : graph.writeChunk chunk = .ok (next, stats)) :
    graph.apply chunk.operation = .ok next := by
  cases chunk with
  | nodes nodes =>
      rw [writeChunk] at written
      rw [WriteChunk.operation, apply, written]
      rfl
  | relationships relationships =>
      have result := congrArg Prod.fst (Except.ok.inj written)
      exact congrArg Except.ok result

/-- Write chunks one after the other; a refused chunk is noted. -/
def importChunks (graph : Graph) (index : Nat) (report : ImportReport) :
    List WriteChunk → Graph × ImportReport
  | [] => (graph, report)
  | chunk :: rest =>
      match graph.writeChunk chunk with
      | .ok (next, stats) => next.importChunks (index + 1) (report.add chunk.kind stats) rest
      | .error error =>
          graph.importChunks (index + 1) (report.addFailure ⟨chunk.kind, index, error⟩) rest

section Walks

variable {graph : Graph} (index : Nat) (report : ImportReport) {chunk : WriteChunk}
  (rest : List WriteChunk)

theorem importChunks_cons_of_ok {next : Graph} {stats : UpsertStats}
    (written : graph.writeChunk chunk = .ok (next, stats)) :
    graph.importChunks index report (chunk :: rest) =
      next.importChunks (index + 1) (report.add chunk.kind stats) rest := by
  rw [importChunks, written]

theorem importChunks_cons_of_error {error : StoreError}
    (refused : graph.writeChunk chunk = .error error) :
    graph.importChunks index report (chunk :: rest) =
      graph.importChunks (index + 1) (report.addFailure ⟨chunk.kind, index, error⟩) rest := by
  rw [importChunks, refused]

/-- A walk over two lists of chunks goes on where the first one ends. -/
theorem importChunks_append (graph : Graph) (first second : List WriteChunk) :
    graph.importChunks index report (first ++ second) =
      (graph.importChunks index report first).1.importChunks (index + first.length)
        (graph.importChunks index report first).2 second := by
  induction first generalizing graph index report with
  | nil => rfl
  | cons chunk rest ih =>
      have indices : index + (chunk :: rest).length = index + 1 + rest.length := by
        rw [List.length_cons]
        omega
      rw [List.cons_append, indices]
      cases written : graph.writeChunk chunk with
      | ok result => simp only [importChunks_cons_of_ok _ _ _ written, ih]
      | error error => simp only [importChunks_cons_of_error _ _ _ written, ih]

theorem importChunks_cons (graph : Graph) (chunk : WriteChunk) :
    graph.importChunks index report (chunk :: rest) =
      (graph.importChunks index report [chunk]).1.importChunks (index + 1)
        (graph.importChunks index report [chunk]).2 rest :=
  importChunks_append index report graph [chunk] rest

end Walks

/-- A refused batch is a conflict of keys, which no waiting resolves. -/
theorem isTransient_of_conflict {graph : Graph} {seen nodes : List Node} {error : StoreError}
    (conflict : graph.conflict? seen nodes = some error) : error.isTransient = false := by
  induction nodes generalizing seen with
  | nil => exact absurd conflict (by simp [conflict?])
  | cons node rest ih =>
      rw [conflict?] at conflict
      split at conflict
      · split at conflict
        · exact ih conflict
        · rw [← Option.some.inj conflict]
          rfl
      · exact ih conflict

theorem isTransient_of_upsertNodes {graph : Graph} {nodes : List Node} {error : StoreError}
    (refused : graph.upsertNodes nodes = .error error) : error.isTransient = false := by
  rw [upsertNodes] at refused
  split at refused
  · rename_i conflict
    rw [← Except.error.inj refused]
    exact isTransient_of_conflict conflict
  · contradiction

theorem isTransient_of_writeChunk {graph : Graph} {chunk : WriteChunk} {error : StoreError}
    (refused : graph.writeChunk chunk = .error error) : error.isTransient = false := by
  cases chunk with
  | nodes nodes => exact isTransient_of_upsertNodes refused
  | relationships relationships => contradiction

end Graph

namespace MemoryStore

theorem run_bind {α β : Type} (program : Writing α) (next : α → Writing β) (store : MemoryStore) :
    run (program >>= next) store = run (next (run program store).1) (run program store).2 := by
  have parts := Program.run_bind (m := StateM MemoryStore) handle program next
  exact congrFun parts store

/-- Programs in a row run one after the other. -/
theorem run_mapM_cons {α β : Type} {program : α → Writing β} {first : α} {rest : List α}
    {store middle last : MemoryStore} {value : β} {values : List β}
    (ran : run (program first) store = (value, middle))
    (ranLater : run (rest.mapM program) middle = (values, last)) :
    run ((first :: rest).mapM program) store = (value :: values, last) := by
  rw [List.mapM_cons, run_bind, ran]
  dsimp only
  rw [run_bind, ranLater]
  rfl

section Transactions

variable {α : Type} {work : Writing (Except StoreError α)} {graph : Graph}
  {transaction : Transaction}

/-- Work that succeeds is committed. -/
theorem run_inTransaction_of_ok {value : α} {next : Graph}
    (worked : run work ⟨graph, some (.begin graph)⟩ = (.ok value, ⟨graph, some transaction⟩))
    (committed : transaction.commit graph = .ok next) :
    run (Writing.inTransaction work) ⟨graph, none⟩ = (.ok value, ⟨next, none⟩) := by
  have begun : run (Writing.ask .begin) ⟨graph, none⟩ =
      ((.ok () : Except StoreError Unit), ⟨graph, some (.begin graph)⟩) := rfl
  have ended : run (Writing.ask .commit) ⟨graph, some transaction⟩ =
      ((.ok () : Except StoreError Unit), ⟨next, none⟩) := by
    change handle .commit ⟨graph, some transaction⟩ = _
    simp only [handle, handleOpen, committed]
    rfl
  rw [Writing.inTransaction, run_bind, begun]
  dsimp only
  rw [run_bind, worked]
  dsimp only
  rw [run_bind, ended]
  rfl

/-- Work that fails is given up, and leaves the graph alone. -/
theorem run_inTransaction_of_error {error : StoreError}
    (worked : run work ⟨graph, some (.begin graph)⟩ = (.error error, ⟨graph, some transaction⟩)) :
    run (Writing.inTransaction work) ⟨graph, none⟩ = (.error error, ⟨graph, none⟩) := by
  have begun : run (Writing.ask .begin) ⟨graph, none⟩ =
      ((.ok () : Except StoreError Unit), ⟨graph, some (.begin graph)⟩) := rfl
  rw [Writing.inTransaction, run_bind, begun]
  dsimp only
  rw [run_bind, worked]
  rfl

end Transactions

/-- Writing a chunk in an open transaction. -/
theorem run_write (chunk : WriteChunk) (graph : Graph) (transaction : Transaction) :
    run chunk.write ⟨graph, some transaction⟩ =
      match transaction.working.writeChunk chunk with
      | .ok (next, stats) =>
          (.ok stats, ⟨graph, some ⟨next, transaction.staged ++ [chunk.operation]⟩⟩)
      | .error error => (.error error, ⟨graph, some transaction⟩) := by
  cases chunk with
  | relationships relationships => rfl
  | nodes nodes =>
      change handle (.upsertNodes nodes) ⟨graph, some transaction⟩ = _
      simp only [handle, handleOpen, Transaction.upsertNodes, Graph.writeChunk]
      cases transaction.working.upsertNodes nodes with
      | ok result => rfl
      | error error => rfl

/-- Writing a chunk in a transaction of its own, on a store without open transactions. -/
theorem run_attempt (chunk : WriteChunk) (graph : Graph) :
    run chunk.attempt ⟨graph, none⟩ =
      match graph.writeChunk chunk with
      | .ok (next, stats) => (.ok stats, ⟨next, none⟩)
      | .error error => (.error error, ⟨graph, none⟩) := by
  have worked := run_write chunk graph (.begin graph)
  rw [WriteChunk.attempt]
  cases written : graph.writeChunk chunk with
  | error error =>
      simp only [Transaction.begin, written] at worked
      exact run_inTransaction_of_error worked
  | ok result =>
      simp only [Transaction.begin, written] at worked
      apply run_inTransaction_of_ok worked
      rw [Transaction.commit, List.nil_append, Graph.applyAll_singleton,
        Graph.apply_operation written]

/-- Committing a chunk on a store without open transactions writes it to the graph. -/
theorem run_commit (backoff : Milliseconds) (chunk : WriteChunk) (graph : Graph) :
    run (chunk.commit backoff) ⟨graph, none⟩ =
      match graph.writeChunk chunk with
      | .ok (next, stats) => (.ok stats, ⟨next, none⟩)
      | .error error => (.error error, ⟨graph, none⟩) := by
  rw [WriteChunk.commit, run_bind, run_attempt]
  cases written : graph.writeChunk chunk with
  | ok result => rfl
  | error error =>
      dsimp only
      rw [Graph.isTransient_of_writeChunk written]
      rfl

/-- An import on a store without open transactions is a walk over its chunks. -/
theorem run_importChunks (backoff : Milliseconds) (index : Nat) (report : ImportReport)
    (chunks : List WriteChunk) (graph : Graph) :
    run (Writing.importChunks backoff index report chunks) ⟨graph, none⟩ =
      (.ok (graph.importChunks index report chunks).2,
        ⟨(graph.importChunks index report chunks).1, none⟩) := by
  induction chunks generalizing index report graph with
  | nil => rfl
  | cons chunk rest ih =>
      rw [Writing.importChunks, run_bind, run_commit, Graph.importChunks]
      cases written : graph.writeChunk chunk with
      | ok result =>
          dsimp only
          exact ih (index + 1) (report.add chunk.kind result.2) result.1
      | error error =>
          dsimp only
          rw [Graph.isTransient_of_writeChunk written]
          exact ih (index + 1) (report.addFailure ⟨chunk.kind, index, error⟩) graph

theorem run_importAll_eq {settings : BatchSettings} (positive : 0 < settings.size)
    (input : ImportInput) (graph : Graph) :
    let walk := graph.importChunks 0 (.start input.skipped) (input.writeChunks settings.size)
    run (Writing.importAll settings input) ⟨graph, none⟩ = (.ok walk.2, ⟨walk.1, none⟩) := by
  rw [Writing.importAll, Writing.withPositiveSize, if_neg (Nat.ne_of_gt positive)]
  exact run_importChunks _ _ _ _ _

end MemoryStore

end QueryImpact
