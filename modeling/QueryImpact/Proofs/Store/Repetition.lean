import QueryImpact.Proofs.Store.Import
import QueryImpact.Proofs.Store.Kinds

/-!
# Importing once more

An import that is made a second time changes nothing.  The same chunks of nodes are refused: a
refused chunk stays refused, because kinds of stored nodes are kept, and an accepted chunk has
settled the kinds of its own keys.  So the same nodes are written once more, over themselves, and
the relationships find the same ends.
-/

namespace QueryImpact

/-! ## Reports of a repetition -/

/-- The counts of a batch that was written before: nothing is new, and what was new or replaced
then is replaced now. -/
structure UpsertStats.Repeats (second first : UpsertStats) : Prop where
  created : second.created = 0
  updated : second.updated = first.created + first.updated
  missing : second.missingEndpoints = first.missingEndpoints

theorem UpsertStats.Counts.repeats {first second : UpsertStats} {written missing : Nat}
    (firstCounts : UpsertStats.none.Counts first written missing)
    (secondCounts : UpsertStats.none.Counts second written missing)
    (created : second.created = 0) : second.Repeats first where
  created := created
  updated := by
    have total := secondCounts.written
    rw [created, ← firstCounts.written] at total
    omega
  missing := secondCounts.missing.trans firstCounts.missing.symm

/-- The place and the content of a refused chunk. -/
def ChunkFailure.place (failure : ChunkFailure) : ChunkKind × Nat :=
  (failure.kind, failure.index)

namespace ImportReport

/-- The report of an import that was made before: nothing is new, what was new or replaced then is
replaced now, and the same elements and chunks are left out. -/
structure Repeats (second first : ImportReport) : Prop where
  /-- No node is new. -/
  nodesCreated : second.nodesCreated = 0
  /-- Every node written before is replaced. -/
  nodesUpdated : second.nodesUpdated = first.nodesCreated + first.nodesUpdated
  /-- No relationship is new. -/
  relationshipsCreated : second.relationshipsCreated = 0
  /-- Every relationship written before is replaced. -/
  relationshipsUpdated :
    second.relationshipsUpdated = first.relationshipsCreated + first.relationshipsUpdated
  /-- As many relationships lack an end. -/
  missingEndpoints : second.missingEndpoints = first.missingEndpoints
  /-- As many findings were left out before. -/
  skipped : second.skipped = first.skipped
  /-- The same chunks are refused. -/
  failures : second.failures.map ChunkFailure.place = first.failures.map ChunkFailure.place

theorem repeats_start (skipped : Nat) : (start skipped).Repeats (start skipped) :=
  ⟨rfl, rfl, rfl, rfl, rfl, rfl, rfl⟩

theorem Repeats.add {first second : ImportReport} (repeats : second.Repeats first)
    {firstStats secondStats : UpsertStats} (statsRepeat : secondStats.Repeats firstStats)
    (kind : ChunkKind) : (second.add kind secondStats).Repeats (first.add kind firstStats) := by
  obtain ⟨nodesCreated, nodesUpdated, edgesCreated, edgesUpdated, missing, skipped, failures⟩ :=
    repeats
  obtain ⟨statsCreated, statsUpdated, statsMissing⟩ := statsRepeat
  cases kind with
  | node =>
      have created : second.nodesCreated + secondStats.created = 0 := by omega
      have updated : second.nodesUpdated + secondStats.updated =
          first.nodesCreated + firstStats.created +
            (first.nodesUpdated + firstStats.updated) := by omega
      exact ⟨created, updated, edgesCreated, edgesUpdated, missing, skipped, failures⟩
  | relationship =>
      have created : second.relationshipsCreated + secondStats.created = 0 := by omega
      have updated : second.relationshipsUpdated + secondStats.updated =
          first.relationshipsCreated + firstStats.created +
            (first.relationshipsUpdated + firstStats.updated) := by omega
      have left : second.missingEndpoints + secondStats.missingEndpoints =
          first.missingEndpoints + firstStats.missingEndpoints := by omega
      exact ⟨nodesCreated, nodesUpdated, created, updated, left, skipped, failures⟩

theorem Repeats.addFailure {first second : ImportReport} (repeats : second.Repeats first)
    {firstFailure secondFailure : ChunkFailure}
    (samePlace : secondFailure.place = firstFailure.place) :
    (second.addFailure secondFailure).Repeats (first.addFailure firstFailure) where
  nodesCreated := repeats.nodesCreated
  nodesUpdated := repeats.nodesUpdated
  relationshipsCreated := repeats.relationshipsCreated
  relationshipsUpdated := repeats.relationshipsUpdated
  missingEndpoints := repeats.missingEndpoints
  skipped := repeats.skipped
  failures := by simp [ImportReport.addFailure, repeats.failures, samePlace]

end ImportReport

namespace Graph

/-! ## The nodes once more -/

/-- The keys of a written batch have the kinds of its nodes. -/
def Settles (graph : Graph) (batch : List Node) : Prop :=
  ∀ node ∈ batch, graph.kindOf? node.key = some node.kind

theorem Accepts.settles_withNodes {graph : Graph} {batch : List Node}
    (accepts : graph.Accepts batch) : (graph.withNodes batch).Settles batch := by
  intro node member
  exact (accepts.kindOf?_withNodes _ _).mpr (Or.inr ⟨node, member, rfl, rfl⟩)

theorem Settles.of_keepsKinds {graph next : Graph} {batch : List Node}
    (settles : graph.Settles batch) (keeps : graph.KeepsKinds next) : next.Settles batch :=
  fun node member => keeps _ _ (settles node member)

/-- A batch whose keys have the kinds of its nodes fits. -/
theorem Settles.accepts {graph : Graph} {batch : List Node} (settles : graph.Settles batch) :
    graph.Accepts batch where
  stored node member kind found := Option.some.inj (found.symm.trans (settles node member))
  agree first firstMember second secondMember sameKey := by
    have firstKind := settles first firstMember
    rw [sameKey, settles second secondMember] at firstKind
    exact (Option.some.inj firstKind).symm

theorem Settles.contains {graph : Graph} {batch : List Node} (settles : graph.Settles batch) :
    ∀ node ∈ batch, graph.nodes.contains node.key = true := by
  intro node member
  obtain ⟨stored, found, _⟩ := Option.map_eq_some_iff.mp (settles node member)
  exact OrderedMap.contains_iff.mpr ⟨stored, found⟩

/-- A batch that was written is written once more, and none of its nodes is new. -/
theorem Settles.writeChunk {again : Graph} {batch : List Node} (settles : again.Settles batch)
    (graph : Graph) :
    ∃ stats, again.writeChunk (.nodes batch) = .ok (again.withNodes batch, stats) ∧
      stats.Repeats (batch.foldl putNode (graph, .none)).2 := by
  refine ⟨(batch.foldl putNode (again, .none)).2, ?_, ?_⟩
  · rw [← foldl_putNode_fst again .none batch]
    exact upsertNodes_eq_ok_iff.mpr ⟨settles.accepts, rfl⟩
  · apply (foldl_putNode_counts graph .none batch).repeats (foldl_putNode_counts again .none batch)
    exact foldl_putNode_created .none settles.contains

theorem keepsKinds_importNodes (graph : Graph) (index : Nat) (report : ImportReport)
    (batches : List (List Node)) :
    graph.KeepsKinds (graph.importChunks index report (batches.map .nodes)).1 := by
  induction batches generalizing graph index report with
  | nil => exact KeepsKinds.refl graph
  | cons batch rest ih =>
      rw [List.map_cons]
      cases written : graph.writeChunk (.nodes batch) with
      | error error =>
          rw [importChunks_cons_of_error _ _ _ written]
          exact ih _ _ _
      | ok result =>
          rw [importChunks_cons_of_ok _ _ _ written]
          obtain ⟨accepts, rfl⟩ := upsertNodes_eq_ok_iff.mp written
          have keeps := accepts.keepsKinds_withNodes
          rw [← foldl_putNode_fst graph .none batch] at keeps
          exact keeps.trans (ih _ _ _)

/-- Chunks of nodes that are written once more, to a graph that keeps the kinds they have brought:
the same nodes are written and the same chunks refused. -/
theorem importNodes_again {graph again : Graph} {index : Nat} {first second : ImportReport}
    {batches : List (List Node)}
    (keeps : (graph.importChunks index first (batches.map .nodes)).1.KeepsKinds again)
    (repeats : second.Repeats first) :
    ∃ written,
      (graph.importChunks index first (batches.map .nodes)).1 = graph.withNodes written ∧
        (again.importChunks index second (batches.map .nodes)).1 = again.withNodes written ∧
        (again.importChunks index second (batches.map .nodes)).2.Repeats
          (graph.importChunks index first (batches.map .nodes)).2 := by
  induction batches generalizing graph again index first second with
  | nil => exact ⟨[], rfl, rfl, repeats⟩
  | cons batch rest ih =>
      rw [List.map_cons] at keeps ⊢
      cases written : graph.writeChunk (.nodes batch) with
      | error error =>
          rw [importChunks_cons_of_error _ _ _ written] at keeps ⊢
          cases writtenAgain : again.writeChunk (.nodes batch) with
          | error errorAgain =>
              rw [importChunks_cons_of_error _ _ _ writtenAgain]
              exact ih keeps (repeats.addFailure rfl)
          | ok result =>
              -- Then the batch would have fitted the smaller graph as well.
              have keepsAll := (keepsKinds_importNodes _ _ _ _).trans keeps
              have accepts := (upsertNodes_eq_ok_iff.mp writtenAgain).1.of_keepsKinds keepsAll
              have accepted := upsertNodes_eq_ok_iff.mpr ⟨accepts, rfl⟩
              exact absurd (written.symm.trans accepted) (by simp)
      | ok result =>
          rw [importChunks_cons_of_ok _ _ _ written] at keeps ⊢
          obtain ⟨accepts, rfl⟩ := upsertNodes_eq_ok_iff.mp written
          rw [foldl_putNode_fst] at keeps ⊢
          have settles := accepts.settles_withNodes.of_keepsKinds
            ((keepsKinds_importNodes _ _ _ _).trans keeps)
          obtain ⟨stats, writtenAgain, statsRepeat⟩ := settles.writeChunk graph
          rw [importChunks_cons_of_ok _ _ _ writtenAgain]
          obtain ⟨later, firstEnd, secondEnd, lastRepeats⟩ :=
            ih (keeps.trans settles.accepts.keepsKinds_withNodes)
              (repeats.add statsRepeat .node)
          refine ⟨batch ++ later, ?_, ?_, lastRepeats⟩
          · rw [withNodes_append]
            exact firstEnd
          · rw [withNodes_append]
            exact secondEnd

/-! ## The relationships once more -/

/-- Chunks of relationships write those that have their ends. -/
theorem importRelationships_fst (graph : Graph) (index : Nat) (report : ImportReport)
    (batches : List (List Relationship)) :
    (graph.importChunks index report (batches.map .relationships)).1 =
      graph.withRelationships (batches.flatten.filter graph.hasEnds) := by
  induction batches generalizing graph index report with
  | nil => rfl
  | cons batch rest ih =>
      rw [List.map_cons, importChunks, writeChunk]
      dsimp only
      rw [ih, upsertRelationships_fst, List.flatten_cons, List.filter_append,
        withRelationships_append, hasEnds_withRelationships]

/-- Chunks of relationships that are written once more, to a graph with the same nodes that has
their keys. -/
theorem importRelationships_again {graph again : Graph} {index : Nat}
    {first second : ImportReport} {batches : List (List Relationship)}
    (sameEnds : again.hasEnds = graph.hasEnds)
    (stored : ∀ relationship ∈ batches.flatten, again.hasEnds relationship = true →
      again.relationships.contains relationship.key = true)
    (repeats : second.Repeats first) :
    (again.importChunks index second (batches.map .relationships)).2.Repeats
      (graph.importChunks index first (batches.map .relationships)).2 := by
  induction batches generalizing graph again index first second with
  | nil => exact repeats
  | cons batch rest ih =>
      rw [List.flatten_cons, List.forall_mem_append] at stored
      have firstCounts := foldl_putRelationship_counts graph .none batch
      have secondCounts := foldl_putRelationship_counts again .none batch
      rw [sameEnds] at secondCounts
      have statsRepeat := firstCounts.repeats secondCounts
        (foldl_putRelationship_created .none stored.1)
      simp only [List.map_cons, importChunks, writeChunk]
      apply ih
      · rw [upsertRelationships_fst, upsertRelationships_fst, hasEnds_withRelationships,
          hasEnds_withRelationships, sameEnds]
      · rw [upsertRelationships_fst, hasEnds_withRelationships]
        intro relationship member ends
        apply (OrderedMap.contains_overwrite _).mpr
        exact Or.inr (stored.2 relationship member ends)
      · exact repeats.add statsRepeat .relationship

/-! ## Both once more -/

theorem withNodes_withNodes (graph : Graph) (nodes : List Node) :
    (graph.withNodes nodes).withNodes nodes = graph.withNodes nodes := by
  simp [withNodes, OrderedMap.overwrite_overwrite]

theorem withRelationships_withRelationships (graph : Graph) (relationships : List Relationship) :
    (graph.withRelationships relationships).withRelationships relationships =
      graph.withRelationships relationships := by
  simp [withRelationships, OrderedMap.overwrite_overwrite]

/-- Chunks of nodes and then of relationships, written once more, change nothing. -/
theorem importChunks_again (graph : Graph) (skipped : Nat) (nodes : List (List Node))
    (relationships : List (List Relationship)) :
    let walk := nodes.map WriteChunk.nodes ++ relationships.map .relationships
    let first := graph.importChunks 0 (.start skipped) walk
    let second := first.1.importChunks 0 (.start skipped) walk
    second.1 = first.1 ∧ second.2.Repeats first.2 := by
  intro walk first second
  let middle := graph.importChunks 0 (.start skipped) (nodes.map .nodes)
  let middleAgain := first.1.importChunks 0 (.start skipped) (nodes.map .nodes)
  have firstParts : first = middle.1.importChunks _ middle.2 (relationships.map .relationships) :=
    importChunks_append 0 (.start skipped) graph _ _
  have secondParts : second =
      middleAgain.1.importChunks _ middleAgain.2 (relationships.map .relationships) :=
    importChunks_append 0 (.start skipped) first.1 _ _
  have firstGraph : first.1 =
      middle.1.withRelationships (relationships.flatten.filter middle.1.hasEnds) := by
    rw [firstParts, importRelationships_fst]
  have keeps : middle.1.KeepsKinds first.1 := by
    rw [firstGraph]
    exact KeepsKinds.refl middle.1
  obtain ⟨written, firstNodes, secondNodes, repeats⟩ :=
    importNodes_again keeps (ImportReport.repeats_start skipped)
  have sameMiddle : middleAgain.1 = first.1 := by
    have twice : middle.1.withNodes written = middle.1 := by
      change (graph.importChunks _ _ _).1.withNodes written = (graph.importChunks _ _ _).1
      rw [firstNodes, withNodes_withNodes]
    calc middleAgain.1
      _ = first.1.withNodes written := secondNodes
      _ = (middle.1.withNodes written).withRelationships
            (relationships.flatten.filter middle.1.hasEnds) := by rw [firstGraph]; rfl
      _ = first.1 := by rw [twice, firstGraph]
  have sameEnds : middleAgain.1.hasEnds = middle.1.hasEnds := by
    rw [sameMiddle, firstGraph, hasEnds_withRelationships]
  constructor
  · rw [secondParts, importRelationships_fst, sameEnds, sameMiddle, firstGraph,
      withRelationships_withRelationships]
  · rw [secondParts, firstParts]
    apply importRelationships_again sameEnds _ repeats
    intro relationship member ends
    rw [sameEnds] at ends
    rw [sameMiddle, firstGraph]
    apply (OrderedMap.contains_overwrite _).mpr
    exact Or.inl ⟨relationship, List.mem_filter.mpr ⟨member, ends⟩, rfl⟩

end Graph

namespace MemoryStore

/-- An import that is made twice, with nobody else writing, ends both times.  The second time
leaves the graph as the first time has left it, finds nothing new, and refuses the same chunks. -/
theorem run_importAll_twice (settings : BatchSettings) (positive : 0 < settings.size)
    (input : ImportInput) (graph : Graph) :
    ∃ first second next,
      run (Writing.importAll settings input) ⟨graph, none⟩ = (.ok first, ⟨next, none⟩) ∧
        run (Writing.importAll settings input) ⟨next, none⟩ = (.ok second, ⟨next, none⟩) ∧
        second.Repeats first := by
  obtain ⟨sameGraph, repeats⟩ := graph.importChunks_again input.skipped
    (chunks settings.size input.nodes) (chunks settings.size input.relationships)
  have again := run_importAll_eq positive input
    (graph.importChunks 0 (.start input.skipped) (input.writeChunks settings.size)).1
  dsimp only [ImportInput.writeChunks] at again
  rw [sameGraph] at again
  exact ⟨_, _, _, run_importAll_eq positive input graph, again, repeats⟩

/-- An entity under the key of a file, which then is seen once more, and a relationship to a file
that is not there. -/
def clashingInput : ImportInput where
  nodes :=
    [.file (.ofPath "a.py" "python" false), .entity ⟨"a.py", "a", .table, 1⟩,
      .file (.ofPath "a.py" "python" true)]
  relationships := [.plain "a.py" "a.py" .dependsOn, .plain "a.py" "b.py" .dependsOn]
  skipped := 0

theorem run_importAll_twice_clashing :
    ∃ first second next,
      run (Writing.importAll ⟨1, 0⟩ clashingInput) .empty = (.ok first, ⟨next, none⟩) ∧
        run (Writing.importAll ⟨1, 0⟩ clashingInput) ⟨next, none⟩ = (.ok second, ⟨next, none⟩) ∧
        second.Repeats first ∧ first.failures.map ChunkFailure.place = [(.node, 1)] := by
  have told : (run (Writing.importAll ⟨1, 0⟩ clashingInput) .empty).1.toOption.all (fun report =>
      decide (report.failures.map ChunkFailure.place = [(.node, 1)])) = true := by
    decide +kernel
  obtain ⟨first, second, next, ran, ranAgain, repeats⟩ :=
    run_importAll_twice ⟨1, 0⟩ (by decide) clashingInput .empty
  rw [empty, ran] at told
  exact ⟨first, second, next, ran, ranAgain, repeats, of_decide_eq_true told⟩

end MemoryStore

end QueryImpact
