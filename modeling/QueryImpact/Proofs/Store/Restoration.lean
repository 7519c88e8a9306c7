import Mathlib
import QueryImpact.Proofs.Store.Accounting
import QueryImpact.Proofs.Store.Removal

/-!
# Importing again what was cleared

Files that are cleared come back when the import that brought them is made again.  Whatever the
clearing leaves knows no kinds but those the import has brought, so the import refuses the same
chunks of nodes once more and writes the others; and what is left gives way to what is written.
-/

namespace QueryImpact

namespace Graph

/-! ## The kinds that chunks bring -/

theorem keepsKinds_takeIn (graph : Graph) (chunk : WriteChunk) :
    graph.KeepsKinds (graph.takeIn chunk) := by
  rw [takeIn]
  split
  · rename_i fits
    cases chunk with
    | nodes batch => exact Accepts.keepsKinds_withNodes fits
    | relationships batch => exact KeepsKinds.refl graph
  · exact KeepsKinds.refl graph

theorem keepsKinds_foldl_takeIn (graph : Graph) (chunks : List WriteChunk) :
    graph.KeepsKinds (chunks.foldl takeIn graph) := by
  induction chunks generalizing graph with
  | nil => exact KeepsKinds.refl graph
  | cons chunk rest ih => exact (graph.keepsKinds_takeIn chunk).trans (ih (graph.takeIn chunk))

/-- A batch that two graphs accept brings them the same kinds. -/
theorem KeepsKinds.withNodes {graph again : Graph} (keeps : graph.KeepsKinds again)
    {batch : List Node} (accepts : again.Accepts batch) :
    (graph.withNodes batch).KeepsKinds (again.withNodes batch) := by
  intro key kind found
  rw [(accepts.of_keepsKinds keeps).kindOf?_withNodes] at found
  rw [accepts.kindOf?_withNodes]
  exact found.imp_left (keeps key kind)

/-- A graph that has the kinds of a batch already gains none by it. -/
theorem KeepsKinds.withNodes_of_settles {graph last : Graph} (keeps : graph.KeepsKinds last)
    {batch : List Node} (settles : last.Settles batch) :
    (graph.withNodes batch).KeepsKinds last := by
  intro key kind found
  have accepts := settles.accepts.of_keepsKinds keeps
  rcases (accepts.kindOf?_withNodes key kind).mp found with stored | ⟨node, member, rfl, rfl⟩
  · exact keeps key kind stored
  · exact settles node member

/-- Chunks of nodes write the same nodes to two graphs, if the kinds of the second lie between those
of the first and those that the chunks bring it. -/
theorem exists_written {graph again : Graph} {batches : List (List Node)}
    (above : graph.KeepsKinds again)
    (below : again.KeepsKinds ((batches.map .nodes).foldl takeIn graph)) :
    ∃ written, (batches.map .nodes).foldl takeIn graph = graph.withNodes written ∧
      (batches.map .nodes).foldl takeIn again = again.withNodes written := by
  induction batches generalizing graph again with
  | nil => exact ⟨[], rfl, rfl⟩
  | cons batch rest ih =>
      rw [List.map_cons, List.foldl_cons, takeIn] at below
      rw [List.map_cons, List.foldl_cons, List.foldl_cons, takeIn, takeIn]
      by_cases fits : graph.Fits (.nodes batch)
      · -- The kinds of the batch are settled in the end, so the second graph accepts it as well.
        rw [if_pos fits, withChunk] at below
        have settles := (Accepts.settles_withNodes fits).of_keepsKinds
          (keepsKinds_foldl_takeIn (graph.withNodes batch) (rest.map .nodes))
        have accepts : again.Accepts batch := settles.accepts.of_keepsKinds below
        obtain ⟨later, firstEnd, secondEnd⟩ :=
          ih (above.withNodes accepts) (below.withNodes_of_settles settles)
        rw [if_pos fits, if_pos (show again.Fits (.nodes batch) from accepts)]
        exact ⟨batch ++ later, firstEnd.trans (withNodes_append ..).symm,
          secondEnd.trans (withNodes_append ..).symm⟩
      · have misfits : ¬again.Fits (.nodes batch) :=
          fun accepts => fits (Accepts.of_keepsKinds accepts above)
        rw [if_neg fits] at below
        rw [if_neg fits, if_neg misfits]
        exact ih above below

/-! ## Parts of an imported graph -/

/-- What one graph holds, another one holds as well. -/
structure PartOf (part graph : Graph) : Prop where
  nodes : ∀ key node, part.nodes.find? key = some node → graph.nodes.find? key = some node
  relationships : ∀ key relationship, part.relationships.find? key = some relationship →
    graph.relationships.find? key = some relationship

theorem partOf_removeKeys (graph : Graph) (keys : OrderedSet String) :
    (graph.removeKeys keys).PartOf graph where
  nodes key node found := by
    rw [find?_removeKeys] at found
    exact (Option.ite_none_left_eq_some.mp found).2
  relationships key relationship found := by
    rw [find?_relationships_removeKeys] at found
    exact (Option.ite_none_left_eq_some.mp found).2

theorem PartOf.keepsKinds {part graph : Graph} (isPart : part.PartOf graph) :
    part.KeepsKinds graph := by
  intro key kind found
  obtain ⟨node, stored, rfl⟩ := Option.map_eq_some_iff.mp found
  rw [kindOf?, isPart.nodes key node stored]
  rfl

theorem keepsKinds_empty (graph : Graph) : empty.KeepsKinds graph :=
  fun _ _ found => absurd found (by simp [kindOf?, empty])

theorem foldl_takeIn_relationships (graph : Graph) (batches : List (List Relationship)) :
    (batches.map .relationships).foldl takeIn graph =
      graph.withRelationships (batches.flatten.filter graph.hasEnds) :=
  (graph.accounts_importChunks 0 (batches.map .relationships)).after_eq.symm.trans
    (importRelationships_fst graph 0 (.start 0) batches)

/-- An import that has filled an empty graph fills up every part of it again. -/
theorem PartOf.foldl_takeIn {part : Graph} {input : ImportInput} {size : Nat}
    (isPart : part.PartOf ((input.writeChunks size).foldl takeIn empty)) :
    (input.writeChunks size).foldl takeIn part = (input.writeChunks size).foldl takeIn empty := by
  rw [ImportInput.writeChunks, List.foldl_append, foldl_takeIn_relationships,
    flatten_chunks] at isPart ⊢
  rw [List.foldl_append, foldl_takeIn_relationships, flatten_chunks]
  obtain ⟨written, first, second⟩ := exists_written (keepsKinds_empty part) isPart.keepsKinds
  rw [first] at isPart ⊢
  rw [second]
  have sameNodes : (part.withNodes written).nodes = (empty.withNodes written).nodes :=
    OrderedMap.overwrite_of_left Node.key isPart.nodes
  have sameEnds : (part.withNodes written).hasEnds = (empty.withNodes written).hasEnds := by
    funext relationship
    rw [hasEnds, sameNodes, hasEnds]
  rw [sameEnds]
  have sameRelationships :
      part.relationships.overwrite Relationship.key
          (input.relationships.filter (empty.withNodes written).hasEnds) =
        OrderedMap.empty.overwrite Relationship.key
          (input.relationships.filter (empty.withNodes written).hasEnds) :=
    OrderedMap.overwrite_of_left Relationship.key isPart.relationships
  exact congrArg₂ Graph.mk sameNodes sameRelationships

end Graph

namespace MemoryStore

/-- An import into an empty store, a clearing of files and the same import again, with nobody else
writing, all end, and the graph is in the end what it was after the first import. -/
theorem run_importAll_restores (settings : BatchSettings) (positive : 0 < settings.size)
    (input : ImportInput) (paths : List String) :
    ∃ first removed second imported cleared,
      run (Writing.importAll settings input) .empty = (.ok first, ⟨imported, none⟩) ∧
        run (Writing.clearFiles paths) ⟨imported, none⟩ = (.ok removed, ⟨cleared, none⟩) ∧
        run (Writing.importAll settings input) ⟨cleared, none⟩ =
          (.ok second, ⟨imported, none⟩) := by
  let chunks := input.writeChunks settings.size
  have walked (graph : Graph) := (graph.accounts_importChunks input.skipped chunks).after_eq
  let imported := chunks.foldl Graph.takeIn .empty
  let cleared := (imported.deleteFiles paths).1
  have first := run_importAll_eq positive input .empty
  have second := run_importAll_eq positive input cleared
  dsimp only at first second
  rw [walked] at first second
  have restored : chunks.foldl Graph.takeIn cleared = imported :=
    Graph.PartOf.foldl_takeIn (imported.partOf_removeKeys (imported.doomedKeys paths))
  rw [restored] at second
  exact ⟨_, _, _, imported, cleared, first, rfl, second⟩

/-- The file comes back, and its entity is refused both times. -/
theorem run_importAll_restores_clashing :
    ∃ first removed second imported cleared,
      run (Writing.importAll ⟨1, 0⟩ clashingInput) .empty = (.ok first, ⟨imported, none⟩) ∧
        run (Writing.clearFiles ["a.py", "b.py"]) ⟨imported, none⟩ =
          (.ok removed, ⟨cleared, none⟩) ∧
        run (Writing.importAll ⟨1, 0⟩ clashingInput) ⟨cleared, none⟩ =
          (.ok second, ⟨imported, none⟩) ∧
        removed = 1 ∧ first.failures.map ChunkFailure.place = [(.node, 1)] := by
  have told : (run (Writing.importAll ⟨1, 0⟩ clashingInput) .empty).1.toOption.all (fun report =>
      decide (report.failures.map ChunkFailure.place = [(.node, 1)])) = true := by
    decide +kernel
  have count : (run (Writing.clearFiles ["a.py", "b.py"])
      (run (Writing.importAll ⟨1, 0⟩ clashingInput) .empty).2).1.toOption.all (· = 1) = true := by
    decide +kernel
  obtain ⟨first, removed, second, imported, cleared, ran, ranClearing, ranAgain⟩ :=
    run_importAll_restores ⟨1, 0⟩ (by decide) clashingInput ["a.py", "b.py"]
  rw [ran] at told count
  rw [ranClearing] at count
  exact ⟨first, removed, second, imported, cleared, ran, ranClearing, ranAgain,
    of_decide_eq_true count, of_decide_eq_true told⟩

end MemoryStore

end QueryImpact
