import QueryImpact.Proofs.Build.Fragment
import QueryImpact.Proofs.Store.Import
import QueryImpact.Proofs.Store.Kinds

/-!
# What a graph holds after an import

When nodes with one key have one kind and relationships have their ends, no chunk of an import is
refused and no relationship left out.  The graph then holds what was written and nothing else.
-/

namespace QueryImpact

theorem ImportReport.isClean_iff {report : ImportReport} :
    report.isClean = true ↔ report.failures = [] ∧ report.missingEndpoints = 0 := by
  simp [isClean]

namespace Graph

/-- A graph that has come about by writing some nodes and relationships: it has each of their
keys, and under a key one of those with that key. -/
structure Holds (graph : Graph) (nodes : List Node) (relationships : List Relationship) :
    Prop where
  /-- Stored nodes were written. -/
  node_written : ∀ key node, graph.nodes.find? key = some node → node ∈ nodes ∧ node.key = key
  /-- Written nodes are stored. -/
  node_stored : ∀ node ∈ nodes, graph.nodes.contains node.key = true
  /-- Stored relationships were written. -/
  relationship_written : ∀ key relationship,
    graph.relationships.find? key = some relationship →
      relationship ∈ relationships ∧ relationship.key = key
  /-- Written relationships are stored. -/
  relationship_stored : ∀ relationship ∈ relationships,
    graph.relationships.contains relationship.key = true

theorem holds_empty : empty.Holds [] [] where
  node_written _ _ found := absurd found (by simp [empty])
  node_stored _ member := absurd member List.not_mem_nil
  relationship_written _ _ found := absurd found (by simp [empty])
  relationship_stored _ member := absurd member List.not_mem_nil

/-- A batch whose kinds agree with what was written before is not refused. -/
theorem Holds.accepts {graph : Graph} {nodes batch : List Node}
    {relationships : List Relationship} (holds : graph.Holds nodes relationships)
    (agree : KindsAgree (nodes ++ batch)) : graph.Accepts batch where
  stored node member kind found := by
    obtain ⟨known, stored, rfl⟩ := Option.map_eq_some_iff.mp found
    obtain ⟨written, sameKey⟩ := holds.node_written node.key known stored
    exact agree known (List.mem_append_left _ written) node (List.mem_append_right _ member)
      sameKey
  agree := agree.of_subset (List.subset_append_right _ _)

theorem Holds.withNodes {graph : Graph} {nodes : List Node} {relationships : List Relationship}
    (holds : graph.Holds nodes relationships) (batch : List Node) :
    (graph.withNodes batch).Holds (nodes ++ batch) relationships where
  node_written key node found := by
    rcases OrderedMap.of_find?_overwrite _ found with ⟨written, sameKey⟩ | stored
    · exact ⟨List.mem_append_right _ written, sameKey⟩
    · obtain ⟨before, sameKey⟩ := holds.node_written key node stored
      exact ⟨List.mem_append_left _ before, sameKey⟩
  node_stored node member := by
    apply (OrderedMap.contains_overwrite _).mpr
    rcases List.mem_append.mp member with before | written
    · exact Or.inr (holds.node_stored node before)
    · exact Or.inl ⟨node, written, rfl⟩
  relationship_written := holds.relationship_written
  relationship_stored := holds.relationship_stored

/-- A batch of nodes whose kinds agree with what was written before is written. -/
theorem Holds.upsertNodes {graph : Graph} {nodes batch : List Node}
    {relationships : List Relationship} (holds : graph.Holds nodes relationships)
    (agree : KindsAgree (nodes ++ batch)) :
    ∃ next stats, graph.upsertNodes batch = .ok (next, stats) ∧
      next.Holds (nodes ++ batch) relationships := by
  refine ⟨(batch.foldl putNode (graph, .none)).1, (batch.foldl putNode (graph, .none)).2,
    upsertNodes_eq_ok_iff.mpr ⟨holds.accepts agree, rfl⟩, ?_⟩
  rw [foldl_putNode_fst]
  exact holds.withNodes batch

theorem Holds.withRelationships {graph : Graph} {nodes : List Node}
    {relationships : List Relationship} (holds : graph.Holds nodes relationships)
    (batch : List Relationship) :
    (graph.withRelationships batch).Holds nodes (relationships ++ batch) where
  node_written := holds.node_written
  node_stored := holds.node_stored
  relationship_written key relationship found := by
    rcases OrderedMap.of_find?_overwrite _ found with ⟨written, sameKey⟩ | stored
    · exact ⟨List.mem_append_right _ written, sameKey⟩
    · obtain ⟨before, sameKey⟩ := holds.relationship_written key relationship stored
      exact ⟨List.mem_append_left _ before, sameKey⟩
  relationship_stored relationship member := by
    apply (OrderedMap.contains_overwrite _).mpr
    rcases List.mem_append.mp member with before | written
    · exact Or.inr (holds.relationship_stored relationship before)
    · exact Or.inl ⟨relationship, written, rfl⟩

/-- A relationship between written nodes has its ends in the graph. -/
theorem Holds.hasEnds {graph : Graph} {nodes : List Node} {relationships : List Relationship}
    (holds : graph.Holds nodes relationships) {relationship : Relationship}
    (ends : relationship.HasEnds nodes) : graph.hasEnds relationship = true := by
  obtain ⟨⟨source, sourceMember, sourceKey⟩, target, targetMember, targetKey⟩ := ends
  rw [Graph.hasEnds, ← sourceKey, ← targetKey, holds.node_stored source sourceMember,
    holds.node_stored target targetMember]
  rfl

/-- A batch of relationships between written nodes is written as a whole. -/
theorem Holds.upsertRelationships {graph : Graph} {nodes : List Node}
    {relationships batch : List Relationship} (holds : graph.Holds nodes relationships)
    (ends : ∀ relationship ∈ batch, relationship.HasEnds nodes) :
    (graph.upsertRelationships batch).1.Holds nodes (relationships ++ batch) ∧
      (graph.upsertRelationships batch).2.missingEndpoints = 0 := by
  have whole : ∀ relationship ∈ batch, graph.hasEnds relationship = true :=
    fun relationship member => holds.hasEnds (ends relationship member)
  constructor
  · rw [upsertRelationships_fst, List.filter_eq_self.mpr whole]
    exact holds.withRelationships batch
  · have missing := (foldl_putRelationship_counts graph .none batch).missing
    rw [List.countP_eq_zero.mpr (by simpa using whole)] at missing
    exact missing

/-! ## Walks over chunks -/

/-- Chunks of nodes whose kinds agree are all written. -/
theorem Holds.importNodes {graph : Graph} {nodes : List Node}
    {relationships : List Relationship} (holds : graph.Holds nodes relationships)
    {batches : List (List Node)} (agree : KindsAgree (nodes ++ batches.flatten)) (index : Nat)
    (report : ImportReport) (rest : List WriteChunk) :
    ∃ (next : Graph) (nextIndex : Nat) (nextReport : ImportReport),
      graph.importChunks index report (batches.map .nodes ++ rest) =
          next.importChunks nextIndex nextReport rest ∧
        next.Holds (nodes ++ batches.flatten) relationships ∧
        nextReport.isClean = report.isClean := by
  induction batches generalizing graph nodes index report with
  | nil => exact ⟨graph, index, report, rfl, by simpa using holds, rfl⟩
  | cons batch later ih =>
      rw [List.flatten_cons, ← List.append_assoc] at agree ⊢
      obtain ⟨next, stats, written, nextHolds⟩ :=
        holds.upsertNodes (agree.of_subset (List.subset_append_left _ _))
      obtain ⟨last, lastIndex, lastReport, walked, lastHolds, clean⟩ :=
        ih nextHolds agree (index + 1) (report.add .node stats)
      refine ⟨last, lastIndex, lastReport, ?_, lastHolds, clean⟩
      rw [List.map_cons, List.cons_append, importChunks, writeChunk, written]
      exact walked

/-- Chunks of relationships between written nodes are all written. -/
theorem Holds.importRelationships {graph : Graph} {nodes : List Node}
    {relationships : List Relationship} (holds : graph.Holds nodes relationships)
    {batches : List (List Relationship)}
    (hasEnds : ∀ relationship ∈ batches.flatten, relationship.HasEnds nodes) (index : Nat)
    (report : ImportReport) :
    (graph.importChunks index report (batches.map .relationships)).1.Holds nodes
        (relationships ++ batches.flatten) ∧
      (graph.importChunks index report (batches.map .relationships)).2.isClean =
        report.isClean := by
  induction batches generalizing graph relationships index report with
  | nil =>
      rw [List.flatten_nil, List.append_nil]
      exact ⟨holds, rfl⟩
  | cons batch later ih =>
      rw [List.flatten_cons] at hasEnds ⊢
      obtain ⟨step, complete⟩ := holds.upsertRelationships fun relationship member =>
        hasEnds relationship (List.mem_append_left _ member)
      obtain ⟨last, clean⟩ := ih step (fun relationship member =>
        hasEnds relationship (List.mem_append_right _ member)) (index + 1)
          (report.add .relationship (graph.upsertRelationships batch).2)
      rw [List.append_assoc] at last
      refine ⟨last, clean.trans ?_⟩
      simp [ImportReport.isClean, ImportReport.add, complete]

/-- An import of nodes whose kinds agree with what was written before, and of relationships that
have their ends among them, writes everything. -/
theorem Holds.importInput {graph : Graph} {nodes : List Node}
    {relationships : List Relationship} (holds : graph.Holds nodes relationships)
    (input : ImportInput) (agree : KindsAgree (nodes ++ input.nodes))
    (hasEnds : ∀ relationship ∈ input.relationships, relationship.HasEnds input.nodes)
    (size : Nat) :
    let walk := graph.importChunks 0 (.start input.skipped) (input.writeChunks size)
    walk.1.Holds (nodes ++ input.nodes) (relationships ++ input.relationships) ∧
      walk.2.isClean = true := by
  have agreeChunks : KindsAgree (nodes ++ (chunks size input.nodes).flatten) := by
    rwa [flatten_chunks]
  have endsChunks : ∀ relationship ∈ (chunks size input.relationships).flatten,
      relationship.HasEnds (nodes ++ (chunks size input.nodes).flatten) := by
    rw [flatten_chunks, flatten_chunks]
    intro relationship member
    apply (hasEnds relationship member).of_keys
    intro node nodeMember
    exact ⟨node, List.mem_append_right _ nodeMember, rfl⟩
  obtain ⟨next, index, report, walked, nodesHeld, nodesClean⟩ :=
    holds.importNodes agreeChunks 0 (.start input.skipped)
      ((chunks size input.relationships).map .relationships)
  obtain ⟨held, clean⟩ := nodesHeld.importRelationships endsChunks index report
  rw [flatten_chunks, flatten_chunks] at held
  dsimp only
  rw [ImportInput.writeChunks, walked]
  exact ⟨held, clean.trans nodesClean⟩

end Graph

/-- An import of nodes whose kinds agree and of relationships that have their ends, into an empty
store, succeeds without loss, and the graph holds what was imported. -/
theorem MemoryStore.run_importAll {settings : BatchSettings} (positive : 0 < settings.size)
    (input : ImportInput) (agree : KindsAgree input.nodes)
    (hasEnds : ∀ relationship ∈ input.relationships, relationship.HasEnds input.nodes) :
    ∃ report graph,
      run (Writing.importAll settings input) .empty = (.ok report, ⟨graph, none⟩) ∧
        report.isClean = true ∧ graph.Holds input.nodes input.relationships := by
  obtain ⟨held, clean⟩ := Graph.holds_empty.importInput input agree hasEnds settings.size
  exact ⟨_, _, run_importAll_eq positive input .empty, clean, held⟩

end QueryImpact
