import Mathlib
import QueryImpact.Proofs.Store.Growth
import QueryImpact.Proofs.Store.Repetition

/-!
# An import accounts for every element

An import goes over its chunks once.  A chunk of nodes that would give a key two kinds is skipped as
a whole; every other chunk is taken in as a whole.  The report has one entry for each skipped chunk,
with its place among all chunks.  Every node is counted as new, as replacing another one or with a
skipped chunk, and every relationship as new, as replacing another one or as lacking an end.  What
counts as new is what the graph grows by.
-/

namespace QueryImpact

instance (nodes : List Node) : Decidable (KindsAgree nodes) :=
  inferInstanceAs (Decidable (∀ first ∈ nodes, ∀ second ∈ nodes,
    first.key = second.key → first.kind = second.kind))

namespace Graph

instance (graph : Graph) (batch : List Node) : Decidable (graph.Accepts batch) :=
  decidable_of_iff
    ((∀ node ∈ batch, ∀ kind ∈ graph.kindOf? node.key, kind = node.kind) ∧ KindsAgree batch)
    ⟨fun both => ⟨both.1, both.2⟩, fun accepts => ⟨accepts.stored, accepts.agree⟩⟩

/-! ## Taking chunks in -/

/-- Whether a chunk can be taken in: its nodes give no key two kinds, neither among themselves nor
with what is stored.  Relationships have no kinds. -/
def Fits (graph : Graph) : WriteChunk → Prop
  | .nodes batch => graph.Accepts batch
  | .relationships _ => True

instance (graph : Graph) (chunk : WriteChunk) : Decidable (graph.Fits chunk) :=
  match chunk with
  | .nodes batch => inferInstanceAs (Decidable (graph.Accepts batch))
  | .relationships _ => inferInstanceAs (Decidable True)

/-- The graph with a whole chunk stored, apart from relationships that lack an end. -/
def withChunk (graph : Graph) : WriteChunk → Graph
  | .nodes batch => graph.withNodes batch
  | .relationships batch => graph.withRelationships (batch.filter graph.hasEnds)

/-- Take a chunk in as a whole, or skip it as a whole. -/
def takeIn (graph : Graph) (chunk : WriteChunk) : Graph :=
  if graph.Fits chunk then graph.withChunk chunk else graph

/-- The chunks that are skipped, each with its place: those that do not fit once the chunks before
them have been taken in. -/
def skippedChunks (graph : Graph) (chunks : List WriteChunk) : List (WriteChunk × Nat) :=
  chunks.zipIdx.filter fun entry => ¬((chunks.take entry.2).foldl takeIn graph).Fits entry.1

/-- One chunk more is skipped at the end, or none. -/
theorem skippedChunks_concat (graph : Graph) (chunks : List WriteChunk) (chunk : WriteChunk) :
    graph.skippedChunks (chunks ++ [chunk]) =
      graph.skippedChunks chunks ++
        if (chunks.foldl takeIn graph).Fits chunk then [] else [(chunk, chunks.length)] := by
  have before : (chunks.zipIdx.filter fun entry =>
      ¬(((chunks ++ [chunk]).take entry.2).foldl takeIn graph).Fits entry.1) =
        graph.skippedChunks chunks := by
    apply List.filter_congr
    intro entry member
    have place : entry.2 ≤ chunks.length := Nat.le_of_lt (List.snd_lt_of_mem_zipIdx member)
    rw [List.take_append_of_le_length place]
  rw [skippedChunks, List.zipIdx_append, List.filter_append, before]
  congr 1
  by_cases fits : (chunks.foldl takeIn graph).Fits chunk
  · simp [fits]
  · simp [fits]

/-! ## Writing one chunk -/

theorem writeChunk_of_fits {graph : Graph} {chunk : WriteChunk} (fits : graph.Fits chunk) :
    graph.writeChunk chunk = .ok (graph.withChunk chunk, chunk.tally graph) := by
  cases chunk with
  | nodes batch =>
      rw [writeChunk, upsertNodes_eq_ok_iff.mpr ⟨fits, rfl⟩, withChunk,
        ← foldl_putNode_fst graph .none, ← WriteChunk.stats_nodes]
  | relationships batch =>
      rw [writeChunk, withChunk, ← upsertRelationships_fst, ← WriteChunk.stats_relationships]

theorem exists_error_of_not_fits {graph : Graph} {chunk : WriteChunk}
    (misfits : ¬graph.Fits chunk) : ∃ error, graph.writeChunk chunk = .error error := by
  cases written : graph.writeChunk chunk with
  | error error => exact ⟨error, rfl⟩
  | ok result =>
      cases chunk with
      | nodes batch => exact absurd (upsertNodes_eq_ok_iff.mp written).1 misfits
      | relationships batch => exact absurd trivial misfits

end Graph

theorem UpsertStats.Counts.total {stats : UpsertStats} {written missing : Nat}
    (counts : none.Counts stats written missing) :
    stats.created + stats.updated + stats.missingEndpoints = written + missing := by
  have writtenEq := counts.written
  have missingEq := counts.missing
  simp only [none, Nat.zero_add] at writtenEq missingEq
  rw [writtenEq, missingEq]

/-- Every element of a chunk counts as new, as replacing another one or as lacking an end. -/
theorem WriteChunk.tally_total (graph : Graph) (chunk : WriteChunk) :
    (chunk.tally graph).created + (chunk.tally graph).updated +
      (chunk.tally graph).missingEndpoints = chunk.elements := by
  cases chunk with
  | nodes batch =>
      rw [← stats_nodes]
      exact (graph.foldl_putNode_counts .none batch).total
  | relationships batch =>
      have all := batch.length_eq_countP_add_countP graph.hasEnds
      simp only [Bool.not_eq_true, Bool.decide_eq_false] at all
      rw [← stats_relationships, elements, all]
      exact (graph.foldl_putRelationship_counts .none batch).total

namespace ImportReport

/-! ## Reports of one chunk more -/

/-- A chunk that is taken in counts as new what the graph grows by. -/
theorem growth_add_tally (report : ImportReport) (graph : Graph) (chunk : WriteChunk) :
    (report.add chunk.kind (chunk.tally graph)).nodesCreated + graph.nodes.size =
        report.nodesCreated + (graph.withChunk chunk).nodes.size ∧
      (report.add chunk.kind (chunk.tally graph)).relationshipsCreated +
          graph.relationships.size =
        report.relationshipsCreated + (graph.withChunk chunk).relationships.size := by
  cases chunk with
  | nodes batch =>
      have growth := graph.foldl_putNode_growth .none batch
      rw [WriteChunk.stats_nodes, UpsertStats.created_none, Nat.zero_add] at growth
      constructor
      · exact (Nat.add_assoc _ _ _).trans (congrArg (report.nodesCreated + ·) growth)
      · rfl
  | relationships batch =>
      have growth := graph.foldl_putRelationship_growth .none batch
      rw [← Graph.upsertRelationships, WriteChunk.stats_relationships, UpsertStats.created_none,
        Nat.zero_add] at growth
      constructor
      · rfl
      · exact (Nat.add_assoc _ _ _).trans (congrArg (report.relationshipsCreated + ·) growth)

/-- A chunk that is taken in counts all its elements. -/
theorem total_add_tally (report : ImportReport) (graph : Graph) (chunk : WriteChunk) :
    let next := report.add chunk.kind (chunk.tally graph)
    next.nodesCreated + next.nodesUpdated =
        report.nodesCreated + report.nodesUpdated + chunk.operation.givenNodes.length ∧
      next.relationshipsCreated + next.relationshipsUpdated + next.missingEndpoints =
        report.relationshipsCreated + report.relationshipsUpdated + report.missingEndpoints +
          chunk.operation.givenRelationships.length := by
  intro next
  have total := chunk.tally_total graph
  cases chunk with
  | nodes batch =>
      have noneMissing : ((WriteChunk.nodes batch).tally graph).missingEndpoints = 0 := rfl
      rw [noneMissing, Nat.add_zero, WriteChunk.elements] at total
      constructor
      · rw [WriteChunk.operation, WriteOperation.givenNodes, ← total]
        exact Nat.add_add_add_comm _ _ _ _
      · rfl
  | relationships batch =>
      rw [WriteChunk.elements] at total
      constructor
      · rfl
      · rw [WriteChunk.operation, WriteOperation.givenRelationships, ← total,
          Nat.add_add_add_comm, Nat.add_add_add_comm report.relationshipsCreated]
        rfl

/-! ## Reports of whole walks -/

/-- A report on chunks that accounts for each of their elements. -/
structure Accounts (report : ImportReport) (before : Graph) (chunks : List WriteChunk)
    (after : Graph) : Prop where
  /-- Each chunk was taken in or skipped. -/
  after_eq : after = chunks.foldl Graph.takeIn before
  /-- The skipped chunks are noted, in order and with their places. -/
  failures : report.failures.map ChunkFailure.place =
    (before.skippedChunks chunks).map fun entry => (entry.1.kind, entry.2)
  /-- A node is new, replaces another one or is in a skipped chunk. -/
  nodes : report.nodesCreated + report.nodesUpdated +
      ((before.skippedChunks chunks).map fun entry => entry.1.elements).sum =
    (chunks.flatMap fun chunk => chunk.operation.givenNodes).length
  /-- A relationship is new, replaces another one or lacks an end. -/
  relationships : report.relationshipsCreated + report.relationshipsUpdated +
      report.missingEndpoints =
    (chunks.flatMap fun chunk => chunk.operation.givenRelationships).length
  /-- The new nodes are what the graph has grown by. -/
  nodeGrowth : report.nodesCreated + before.nodes.size = after.nodes.size
  /-- The new relationships are what the graph has grown by. -/
  relationshipGrowth :
    report.relationshipsCreated + before.relationships.size = after.relationships.size

variable {report : ImportReport} {before after : Graph} {chunks : List WriteChunk}
  {chunk : WriteChunk}

theorem accounts_start (before : Graph) (skipped : Nat) :
    (start skipped).Accounts before [] before :=
  ⟨rfl, rfl, rfl, rfl, Nat.zero_add _, Nat.zero_add _⟩

theorem Accounts.taken (accounts : report.Accounts before chunks after)
    (fits : after.Fits chunk) :
    (report.add chunk.kind (chunk.tally after)).Accounts before (chunks ++ [chunk])
      (after.withChunk chunk) := by
  obtain ⟨rfl, failures, nodes, relationships, nodeGrowth, relationshipGrowth⟩ := accounts
  obtain ⟨nodesGrown, relationshipsGrown⟩ :=
    report.growth_add_tally (chunks.foldl Graph.takeIn before) chunk
  obtain ⟨nodesCounted, relationshipsCounted⟩ :=
    report.total_add_tally (chunks.foldl Graph.takeIn before) chunk
  have skipped : before.skippedChunks (chunks ++ [chunk]) = before.skippedChunks chunks := by
    rw [Graph.skippedChunks_concat, if_pos fits, List.append_nil]
  constructor
  case after_eq => rw [List.foldl_concat, Graph.takeIn, if_pos fits]
  case failures => rw [failures_add, skipped, failures]
  case nodes =>
    rw [skipped, nodesCounted, List.flatMap_append, List.length_append, ← nodes,
      List.flatMap_singleton]
    omega
  case relationships =>
    rw [relationshipsCounted, relationships, List.flatMap_append, List.length_append,
      List.flatMap_singleton]
  case nodeGrowth => omega
  case relationshipGrowth => omega

theorem Accounts.skipped (accounts : report.Accounts before chunks after)
    (misfits : ¬after.Fits chunk) (error : StoreError) :
    (report.addFailure ⟨chunk.kind, chunks.length, error⟩).Accounts before (chunks ++ [chunk])
      after := by
  obtain ⟨rfl, failures, nodes, relationships, nodeGrowth, relationshipGrowth⟩ := accounts
  have skipped : before.skippedChunks (chunks ++ [chunk]) =
      before.skippedChunks chunks ++ [(chunk, chunks.length)] := by
    rw [Graph.skippedChunks_concat, if_neg misfits]
  cases chunk with
  | relationships batch => exact absurd trivial misfits
  | nodes batch =>
      constructor
      case after_eq => rw [List.foldl_concat, Graph.takeIn, if_neg misfits]
      case failures =>
        rw [skipped, addFailure, List.map_append, List.map_append, failures]
        rfl
      case nodes =>
        rw [skipped, List.map_append, List.sum_append, List.flatMap_append, List.length_append,
          ← nodes, List.flatMap_singleton]
        exact (Nat.add_assoc _ _ _).symm
      case relationships =>
        rw [List.flatMap_append, List.length_append, ← relationships]
        rfl
      case nodeGrowth => exact nodeGrowth
      case relationshipGrowth => exact relationshipGrowth

end ImportReport

/-- A walk over chunks reports on each of their elements. -/
theorem Graph.accounts_importChunks (graph : Graph) (skipped : Nat) (chunks : List WriteChunk) :
    let walk := graph.importChunks 0 (.start skipped) chunks
    walk.2.Accounts graph chunks walk.1 := by
  -- The last chunk meets the graph that all chunks before it have left.
  induction chunks using List.reverseRecOn with
  | nil => exact ImportReport.accounts_start graph skipped
  | append_singleton chunks chunk ih =>
      rw [importChunks_append, Nat.zero_add]
      by_cases fits : (graph.importChunks 0 (.start skipped) chunks).1.Fits chunk
      · rw [importChunks_cons_of_ok _ _ _ (writeChunk_of_fits fits)]
        exact ih.taken fits
      · obtain ⟨error, refused⟩ := exists_error_of_not_fits fits
        rw [importChunks_cons_of_error _ _ _ refused]
        exact ih.skipped fits error

namespace MemoryStore

end MemoryStore

end QueryImpact
