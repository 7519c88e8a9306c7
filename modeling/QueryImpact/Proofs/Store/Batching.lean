import QueryImpact.Proofs.Store.Atomic
import QueryImpact.Proofs.Store.Kinds

/-!
# Imports do not depend on the batch size

Cutting a list into chunks is of no consequence as long as none is refused: the chunks leave what
one large chunk leaves, and their counts add up.  Whether some chunk is refused does not depend on
the batch size either, since chunks are accepted one after the other exactly when the whole list is.
So an import in one transaction fails exactly when an import in chunks has a chunk refused, and else
the two do the same for every batch size.
-/

namespace QueryImpact

/-! ## Counts add up -/

namespace UpsertStats

@[simp]
theorem add_none (stats : UpsertStats) : stats.add .none = stats :=
  rfl

theorem add_countWrite (first second : UpsertStats) (replaced : Bool) :
    (first.add second).countWrite replaced = first.add (second.countWrite replaced) := by
  cases replaced <;> rfl

theorem add_countMissing (first second : UpsertStats) :
    (first.add second).countMissing = first.add second.countMissing :=
  rfl

/-- Count a written batch after some others. -/
def addTo (first : UpsertStats) (result : Graph × UpsertStats) : Graph × UpsertStats :=
  (result.1, first.add result.2)

end UpsertStats

namespace ImportReport

@[simp]
theorem add_none (report : ImportReport) (kind : ChunkKind) : report.add kind .none = report := by
  cases kind <;> rfl

theorem add_add (report : ImportReport) (kind : ChunkKind) (first second : UpsertStats) :
    (report.add kind first).add kind second = report.add kind (first.add second) := by
  cases kind with
  | node => simp [add, UpsertStats.add, Nat.add_assoc]
  | relationship => simp [add, UpsertStats.add, Nat.add_assoc]

end ImportReport

namespace Graph

/-- Store nodes one by one, whatever their kinds. -/
def putNodes (graph : Graph) (nodes : List Node) : Graph × UpsertStats :=
  nodes.foldl putNode (graph, .none)

theorem putNodes_fst (graph : Graph) (nodes : List Node) :
    (graph.putNodes nodes).1 = graph.withNodes nodes :=
  foldl_putNode_fst graph .none nodes

theorem putNode_addTo (first : UpsertStats) (state : Graph × UpsertStats) (node : Node) :
    putNode (first.addTo state) node = first.addTo (putNode state node) := by
  simp only [putNode, UpsertStats.addTo, UpsertStats.add_countWrite]

theorem putRelationship_addTo (first : UpsertStats) (state : Graph × UpsertStats)
    (relationship : Relationship) :
    putRelationship (first.addTo state) relationship =
      first.addTo (putRelationship state relationship) := by
  by_cases ends : (state.1.nodes.contains relationship.source &&
      state.1.nodes.contains relationship.target) = true
  · simp only [putRelationship, UpsertStats.addTo, ends, if_true, UpsertStats.add_countWrite]
  · simp [putRelationship, UpsertStats.addTo, ends, UpsertStats.add_countMissing]

/-- Two batches of nodes are one batch, and their counts add up. -/
theorem putNodes_append (graph : Graph) (first second : List Node) :
    graph.putNodes (first ++ second) =
      (graph.putNodes first).2.addTo ((graph.putNodes first).1.putNodes second) := by
  have start : first.foldl putNode (graph, .none) =
      (graph.putNodes first).2.addTo ((graph.putNodes first).1, .none) := rfl
  rw [putNodes, List.foldl_append, start]
  exact List.foldl_hom _ (putNode_addTo (graph.putNodes first).2)

/-- Two batches of relationships are one batch, and their counts add up. -/
theorem upsertRelationships_append (graph : Graph) (first second : List Relationship) :
    graph.upsertRelationships (first ++ second) =
      (graph.upsertRelationships first).2.addTo
        ((graph.upsertRelationships first).1.upsertRelationships second) := by
  have start : first.foldl putRelationship (graph, .none) =
      (graph.upsertRelationships first).2.addTo ((graph.upsertRelationships first).1, .none) := rfl
  rw [upsertRelationships, List.foldl_append, start]
  exact List.foldl_hom _ (putRelationship_addTo (graph.upsertRelationships first).2)

/-! ## Chunks are accepted as their elements are -/

/-- Two batches are accepted one after the other exactly when they are accepted as one. -/
theorem accepts_append {graph : Graph} {first second : List Node} :
    graph.Accepts (first ++ second) ↔
      graph.Accepts first ∧ (graph.withNodes first).Accepts second := by
  constructor
  · rintro ⟨stored, agree⟩
    have acceptsFirst : graph.Accepts first := by
      constructor
      · intro node member
        exact stored node (List.mem_append_left _ member)
      · exact agree.of_subset (List.subset_append_left _ _)
    refine ⟨acceptsFirst, ?_, agree.of_subset (List.subset_append_right _ _)⟩
    intro node member kind found
    rcases (acceptsFirst.kindOf?_withNodes node.key kind).mp found with
      before | ⟨other, written, sameKey, rfl⟩
    · exact stored node (List.mem_append_right _ member) kind before
    · exact agree other (List.mem_append_left _ written) node (List.mem_append_right _ member)
        sameKey
  · rintro ⟨acceptsFirst, acceptsSecond⟩
    have across : ∀ one ∈ first, ∀ two ∈ second, one.key = two.key → one.kind = two.kind := by
      intro one oneMember two twoMember sameKey
      apply acceptsSecond.stored two twoMember
      exact (acceptsFirst.kindOf?_withNodes _ _).mpr (Or.inr ⟨one, oneMember, sameKey, rfl⟩)
    constructor
    · intro node member kind found
      rcases List.mem_append.mp member with here | later
      · exact acceptsFirst.stored node here kind found
      · exact acceptsSecond.stored node later kind (acceptsFirst.keepsKinds_withNodes _ _ found)
    · intro one oneMember two twoMember sameKey
      rcases List.mem_append.mp oneMember with oneHere | oneLater
      · rcases List.mem_append.mp twoMember with twoHere | twoLater
        · exact acceptsFirst.agree one oneHere two twoHere sameKey
        · exact across one oneHere two twoLater sameKey
      · rcases List.mem_append.mp twoMember with twoHere | twoLater
        · exact (across two twoHere one oneLater sameKey.symm).symm
        · exact acceptsSecond.agree one oneLater two twoLater sameKey

/-- Chunks of nodes that are accepted as a whole are written as a whole. -/
theorem importNodes_of_accepts {graph : Graph} {batches : List (List Node)}
    (accepts : graph.Accepts batches.flatten) (index : Nat) (report : ImportReport) :
    graph.importChunks index report (batches.map .nodes) =
      ((graph.putNodes batches.flatten).1, report.add .node (graph.putNodes batches.flatten).2) := by
  induction batches generalizing graph index report with
  | nil => simp [importChunks, putNodes]
  | cons batch rest ih =>
      obtain ⟨here, later⟩ := accepts_append.mp accepts
      have written : graph.writeChunk (.nodes batch) = .ok (graph.putNodes batch) :=
        upsertNodes_eq_ok_iff.mpr ⟨here, rfl⟩
      rw [← putNodes_fst] at later
      rw [List.map_cons, importChunks, written]
      dsimp only
      rw [ih later, List.flatten_cons, putNodes_append, WriteChunk.kind, ImportReport.add_add]
      rfl

/-- Chunks of nodes none of which is refused are accepted as a whole. -/
theorem accepts_of_failures {graph : Graph} {batches : List (List Node)} {index : Nat}
    {report : ImportReport}
    (clean : (graph.importChunks index report (batches.map .nodes)).2.failures = []) :
    graph.Accepts batches.flatten := by
  induction batches generalizing graph index report with
  | nil =>
      constructor
      · intro node member
        exact absurd member List.not_mem_nil
      · intro node member
        exact absurd member List.not_mem_nil
  | cons batch rest ih =>
      rw [List.map_cons] at clean
      cases written : graph.writeChunk (.nodes batch) with
      | ok result =>
          rw [importChunks_cons_of_ok _ _ _ written] at clean
          obtain ⟨here, rfl⟩ := upsertNodes_eq_ok_iff.mp written
          rw [foldl_putNode_fst] at clean
          exact accepts_append.mpr ⟨here, ih clean⟩
      | error error =>
          rw [importChunks_cons_of_error _ _ _ written] at clean
          have noted := failures_importChunks graph (index + 1)
            (report.addFailure ⟨.node, index, error⟩) (rest.map .nodes)
          rw [WriteChunk.kind] at clean
          rw [clean, List.prefix_nil] at noted
          simp [ImportReport.addFailure] at noted

/-- Chunks of relationships are written as a whole. -/
theorem importRelationships_eq (graph : Graph) (index : Nat) (report : ImportReport)
    (batches : List (List Relationship)) :
    graph.importChunks index report (batches.map .relationships) =
      ((graph.upsertRelationships batches.flatten).1,
        report.add .relationship (graph.upsertRelationships batches.flatten).2) := by
  induction batches generalizing graph index report with
  | nil => simp [importChunks, upsertRelationships]
  | cons batch rest ih =>
      rw [List.map_cons, importChunks, writeChunk]
      dsimp only
      rw [ih, List.flatten_cons, upsertRelationships_append, WriteChunk.kind,
        ImportReport.add_add]
      rfl

/-! ## Whole imports -/

/-- Write all nodes and then all relationships, each as one batch that is not refused. -/
def importWhole (graph : Graph) (input : ImportInput) : Graph × ImportReport :=
  let nodes := graph.putNodes input.nodes
  let relationships := nodes.1.upsertRelationships input.relationships
  (relationships.1,
    ((ImportReport.start input.skipped).add .node nodes.2).add .relationship relationships.2)

/-- Where the nodes are accepted, an import in chunks of any size writes everything. -/
theorem importChunks_eq_importWhole {graph : Graph} {input : ImportInput}
    (accepts : graph.Accepts input.nodes) (size : Nat) :
    graph.importChunks 0 (.start input.skipped) (input.writeChunks size) =
      graph.importWhole input := by
  have accepted : graph.Accepts (chunks size input.nodes).flatten := by
    rwa [flatten_chunks]
  rw [ImportInput.writeChunks, importChunks_append, importNodes_of_accepts accepted,
    importRelationships_eq, flatten_chunks, flatten_chunks]
  rfl

/-- No chunk of an import is refused exactly when its nodes are accepted. -/
theorem failures_eq_nil_iff_accepts {graph : Graph} {input : ImportInput} (size : Nat) :
    (graph.importChunks 0 (.start input.skipped) (input.writeChunks size)).2.failures = [] ↔
      graph.Accepts input.nodes := by
  constructor
  · intro clean
    rw [ImportInput.writeChunks, importChunks_append] at clean
    have noted := failures_importChunks
      (graph.importChunks 0 (.start input.skipped) ((chunks size input.nodes).map .nodes)).1
      (0 + ((chunks size input.nodes).map WriteChunk.nodes).length)
      (graph.importChunks 0 (.start input.skipped) ((chunks size input.nodes).map .nodes)).2
      ((chunks size input.relationships).map .relationships)
    rw [clean, List.prefix_nil] at noted
    have accepts := accepts_of_failures noted
    rwa [flatten_chunks] at accepts
  · intro accepts
    rw [importChunks_eq_importWhole accepts]
    simp [importWhole, ImportReport.start]

end Graph

namespace MemoryStore

/-- An import in one transaction fails exactly when an import in chunks from the same graph has a
chunk refused.  Then it fails for the reason that is noted first, with which the wording of the
first refused chunk ends, and leaves the graph alone.  Else both leave one graph with one report,
which are the same for every batch size. -/
theorem importAtomic_agrees_with_importAll (settings : BatchSettings) (positive : 0 < settings.size)
    (input : ImportInput) (graph : Graph) :
    ∃ report next,
      run (Writing.importAll settings input) ⟨graph, none⟩ = (.ok report, ⟨next, none⟩) ∧
        ((∃ error after, run (Writing.importAtomic settings input) ⟨graph, none⟩ =
            (.error error, after)) ↔ report.failures ≠ []) ∧
        (∀ error after, run (Writing.importAtomic settings input) ⟨graph, none⟩ =
            (.error error, after) →
          after = ⟨graph, none⟩ ∧ ∃ failure later, report.failures = failure :: later ∧
            failure.cause = error ∧ ∃ place, failure.message = place ++ error.message) ∧
        (report.failures = [] →
          run (Writing.importAtomic settings input) ⟨graph, none⟩ = (.ok report, ⟨next, none⟩) ∧
            ∀ others : BatchSettings, 0 < others.size →
              run (Writing.importAll others input) ⟨graph, none⟩ = (.ok report, ⟨next, none⟩) ∧
                run (Writing.importAtomic others input) ⟨graph, none⟩ =
                  (.ok report, ⟨next, none⟩)) := by
  let walk := graph.importChunks 0 (.start input.skipped) (input.writeChunks settings.size)
  have start : (ImportReport.start input.skipped).failures = [] := rfl
  have atomic := run_importAtomic_eq positive input graph
  rw [Graph.writeAll_eq start graph 0] at atomic
  refine ⟨walk.2, walk.1, run_importAll_eq positive input graph, ?_, ?_, ?_⟩
  · cases failures : walk.2.failures with
    | nil => simp [atomic, walk, failures]
    | cons failure later => simp [atomic, walk, failures]
  · intro error after failed
    cases failures : walk.2.failures with
    | nil => simp [atomic, walk, failures] at failed
    | cons failure later =>
        simp only [atomic, walk, failures, List.head?_cons, Prod.mk.injEq,
          Except.error.injEq] at failed
        obtain ⟨rfl, rfl⟩ := failed
        exact ⟨rfl, failure, later, rfl, rfl, _, rfl⟩
  · intro clean
    refine ⟨run_importAtomic_of_failures positive input graph clean, ?_⟩
    intro others othersPositive
    have accepts := (Graph.failures_eq_nil_iff_accepts settings.size).mp clean
    have sameWalk : graph.importChunks 0 (.start input.skipped) (input.writeChunks others.size) =
        walk := by
      rw [Graph.importChunks_eq_importWhole accepts]
      exact (Graph.importChunks_eq_importWhole accepts settings.size).symm
    have inChunks := run_importAll_eq othersPositive input graph
    have atOnce := run_importAtomic_of_failures othersPositive input graph
    simp only [sameWalk] at inChunks atOnce
    exact ⟨inChunks, atOnce clean⟩

/-- Two files, one of which is mentioned twice. -/
def repeatedFile : ImportInput where
  nodes :=
    [.file (.ofPath "a.py" "python" false), .file (.ofPath "b.py" "python" false),
      .file (.ofPath "a.py" "python" true)]
  relationships := [.plain "a.py" "b.py" .dependsOn]
  skipped := 0

/-- A file, and an entity that claims its key. -/
def disputedKey : ImportInput where
  nodes := [.file (.ofPath "a.py" "python" false), .entity ⟨"a.py", "a", .table, 1⟩]
  relationships := []
  skipped := 0

theorem importAtomic_agrees_with_importAll_repeated :
    (∃ report next,
      run (Writing.importAll ⟨2, 0⟩ repeatedFile) .empty = (.ok report, ⟨next, none⟩) ∧
        report.nodesCreated = 2 ∧ report.nodesUpdated = 1 ∧
        run (Writing.importAtomic ⟨1, 0⟩ repeatedFile) .empty = (.ok report, ⟨next, none⟩)) ∧
      ∃ error place,
        run (Writing.importAtomic ⟨1, 0⟩ disputedKey) .empty = (.error error, .empty) ∧
          "node chunk 1: Schema conflict: key 'a.py' belongs to a File node, " ++
            "cannot write it as Entity" = place ++ error.message := by
  constructor
  · have told : (run (Writing.importAll ⟨2, 0⟩ repeatedFile) .empty).1.toOption.all (fun report =>
        decide (report.failures = [] ∧ report.nodesCreated = 2 ∧ report.nodesUpdated = 1)) =
          true := by
      decide +kernel
    obtain ⟨report, next, ran, _, _, agrees⟩ :=
      importAtomic_agrees_with_importAll ⟨2, 0⟩ (by decide) repeatedFile .empty
    rw [empty, ran] at told
    obtain ⟨clean, created, updated⟩ := of_decide_eq_true told
    obtain ⟨_, otherSizes⟩ := agrees clean
    exact ⟨report, next, ran, created, updated, (otherSizes ⟨1, 0⟩ (by decide)).2⟩
  · have told : (run (Writing.importAll ⟨1, 0⟩ disputedKey) .empty).1.toOption.all (fun report =>
        decide (report.failures.map ChunkFailure.message =
          ["node chunk 1: Schema conflict: key 'a.py' belongs to a File node, " ++
            "cannot write it as Entity"])) = true := by
      decide +kernel
    obtain ⟨report, next, ran, fails, reason, _⟩ :=
      importAtomic_agrees_with_importAll ⟨1, 0⟩ (by decide) disputedKey .empty
    rw [empty, ran] at told
    have messages := of_decide_eq_true told
    obtain ⟨error, after, failed⟩ := fails.mpr (by intro clean; simp [clean] at messages)
    obtain ⟨rfl, failure, later, failures, rfl, place, message⟩ := reason error after failed
    rw [failures, List.map_cons, List.cons.injEq] at messages
    exact ⟨failure.cause, place, failed, messages.1.symm.trans message⟩

end MemoryStore

end QueryImpact
