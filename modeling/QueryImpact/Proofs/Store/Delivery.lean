import QueryImpact.Proofs.Build.Collected
import QueryImpact.Proofs.Store.Atomic
import QueryImpact.Proofs.Store.Contents

/-!
# Imports without loss

Drafts of any builders are imported one after the other, each in a transaction or in chunks of any
size.  If no path holds a colon, keys of different kinds of nodes never meet: so no chunk is
refused, no relationship lacks an end, and an import in one transaction cannot fail.
-/

namespace QueryImpact

/-- A draft to be imported. -/
structure Delivery where
  /-- The builder that has made the draft. -/
  builder : Builder
  /-- The draft. -/
  draft : Draft
  /-- How it is imported. -/
  settings : BatchSettings
  /-- Whether it is imported in a single transaction. -/
  atomic : Bool

namespace Delivery

/-- The import of a delivery. -/
def program (delivery : Delivery) : Writing (Except StoreError ImportReport) :=
  if delivery.atomic then Writing.importAtomic delivery.settings (.ofDraft delivery.draft)
  else Writing.importAll delivery.settings (.ofDraft delivery.draft)

/-- The chunks of a delivery. -/
def chunks (delivery : Delivery) : List WriteChunk :=
  (ImportInput.ofDraft delivery.draft).writeChunks delivery.settings.size

/-- The writes of a delivery. -/
def writes (delivery : Delivery) : List WriteOperation :=
  delivery.chunks.map WriteChunk.operation

theorem flatMap_givenNodes (delivery : Delivery) :
    delivery.writes.flatMap WriteOperation.givenNodes = delivery.draft.nodes :=
  ImportInput.flatMap_givenNodes _ _

theorem flatMap_givenRelationships (delivery : Delivery) :
    delivery.writes.flatMap WriteOperation.givenRelationships = delivery.draft.relationships :=
  ImportInput.flatMap_givenRelationships _ _

/-- A delivery of what a builder has made of reports on files without a colon in their paths. -/
structure IsPlain (delivery : Delivery) : Prop where
  /-- The strategies are those of the library. -/
  builtIn : ∀ strategy ∈ delivery.builder.strategies, strategy.IsBuiltIn
  /-- The builder has made the draft. -/
  output : delivery.draft.IsOutput delivery.builder
  /-- No path holds a colon. -/
  colonFree : delivery.draft.ColonFree
  /-- Chunks are not empty. -/
  positive : 0 < delivery.settings.size

/-- The nodes of some deliveries. -/
def nodes (deliveries : List Delivery) : List Node :=
  deliveries.flatMap fun delivery => delivery.draft.nodes

/-- The relationships of some deliveries. -/
def relationships (deliveries : List Delivery) : List Relationship :=
  deliveries.flatMap fun delivery => delivery.draft.relationships

/-- Nodes of plain deliveries with one key have one kind. -/
theorem kindsAgree_nodes {deliveries : List Delivery}
    (plain : ∀ delivery ∈ deliveries, delivery.IsPlain) : KindsAgree (nodes deliveries) := by
  apply kindsAgree_of_tells fun key => (KeyParts.read key.toList).kind
  intro node member
  obtain ⟨delivery, delivered, inDraft⟩ := List.mem_flatMap.mp member
  obtain ⟨builtIn, output, colonFree, _⟩ := plain delivery delivered
  exact output.collected.kind_of_mem builtIn colonFree node inDraft

/-- A plain delivery whose kinds agree with what was written before is imported without loss. -/
theorem IsPlain.run_program {delivery : Delivery} (plain : delivery.IsPlain) {graph : Graph}
    {written : List Node} {edges : List Relationship} (holds : graph.Holds written edges)
    (agree : KindsAgree (written ++ delivery.draft.nodes)) :
    ∃ report next,
      MemoryStore.run delivery.program ⟨graph, none⟩ = (.ok report, ⟨next, none⟩) ∧
        report.isClean = true ∧
        next.Holds (written ++ delivery.draft.nodes) (edges ++ delivery.draft.relationships) := by
  let input := ImportInput.ofDraft delivery.draft
  obtain ⟨held, clean⟩ := holds.importInput input agree plain.output.collected.hasEnds
    delivery.settings.size
  refine ⟨_, _, ?_, clean, held⟩
  unfold program
  split
  · apply MemoryStore.run_importAtomic_of_failures plain.positive input graph
    exact (ImportReport.isClean_iff.mp clean).1
  · exact MemoryStore.run_importAll_eq plain.positive input graph

/-- Plain deliveries are imported without loss, one after the other. -/
theorem run_mapM {deliveries : List Delivery}
    (plain : ∀ delivery ∈ deliveries, delivery.IsPlain) {graph : Graph} {written : List Node}
    {edges : List Relationship} (holds : graph.Holds written edges)
    (agree : KindsAgree (written ++ nodes deliveries)) :
    ∃ (reports : List ImportReport) (next : Graph),
      MemoryStore.run (deliveries.mapM program) ⟨graph, none⟩ =
          (reports.map .ok, ⟨next, none⟩) ∧
        reports.length = deliveries.length ∧ (∀ report ∈ reports, report.isClean = true) ∧
        next.Holds (written ++ nodes deliveries) (edges ++ relationships deliveries) := by
  induction deliveries generalizing graph written edges with
  | nil =>
      refine ⟨[], graph, rfl, rfl, ?_, ?_⟩
      · intro report member
        exact absurd member List.not_mem_nil
      · simpa [nodes, relationships] using holds
  | cons delivery rest ih =>
      obtain ⟨here, later⟩ := List.forall_mem_cons.mp plain
      rw [nodes, List.flatMap_cons, ← List.append_assoc, ← nodes] at agree
      obtain ⟨report, middle, ran, clean, middleHolds⟩ :=
        here.run_program holds (agree.of_subset (List.subset_append_left _ _))
      obtain ⟨reports, next, ranLater, sameLength, cleanLater, nextHolds⟩ :=
        ih later middleHolds agree
      refine ⟨report :: reports, next, ?_, by simp [sameLength], ?_, ?_⟩
      · exact MemoryStore.run_mapM_cons ran ranLater
      · exact List.forall_mem_cons.mpr ⟨clean, cleanLater⟩
      · rw [List.append_assoc, List.append_assoc] at nextHolds
        exact nextHolds

/-- Any imports of plain deliveries, one after the other and from an empty store: nodes of different
kinds never share a key, every import succeeds, in chunks or in one transaction, nothing is refused
and no relationship lacks an end. -/
theorem imported_without_loss (deliveries : List Delivery)
    (plain : ∀ delivery ∈ deliveries, delivery.IsPlain) :
    KindsAgree (nodes deliveries) ∧
      ∃ (reports : List ImportReport) (graph : Graph),
        MemoryStore.run (deliveries.mapM program) .empty = (reports.map .ok, ⟨graph, none⟩) ∧
          reports.length = deliveries.length ∧
          (∀ report ∈ reports, report.failures = [] ∧ report.missingEndpoints = 0) ∧
          graph.Holds (nodes deliveries) (relationships deliveries) := by
  have agree := kindsAgree_nodes plain
  obtain ⟨reports, graph, ran, sameLength, clean, holds⟩ :=
    run_mapM plain Graph.holds_empty agree
  refine ⟨agree, reports, graph, ran, sameLength, ?_, holds⟩
  intro report member
  exact ImportReport.isClean_iff.mp (clean report member)

/-- A query with an issue whose kind is made of marks, in a class of a file that another one depends
on. -/
def classReports : Delivery where
  builder := .java
  draft := .ofReports .java
    [{ sourceLocation := "UserDao#find(@Id long):10", queryText := "SELECT * FROM users",
       severity := .high, issueKind := some "::table:users@1#2!3" }]
    [⟨.dependsOn, "Main.java", "UserDao.java"⟩]
  settings := ⟨1, 0⟩
  atomic := false

/-- A call between members of modules, one of them in a file with a number sign in its path. -/
def moduleReports : Delivery where
  builder := ⟨[.python, .java], .collection⟩
  draft := .ofReports ⟨[.python, .java], .collection⟩
    [{ sourceLocation := "UserDao#find(@Id long):10", queryText := "SELECT * FROM users",
       severity := .low }]
    [⟨.calls, "app/#users.py:load:3", "app/store.py:Store.read:7"⟩]
  settings := ⟨100, 0⟩
  atomic := true

theorem imported_without_loss_mixed :
    (∀ delivery ∈ [classReports, moduleReports], delivery.IsPlain) ∧
      ∃ (reports : List ImportReport) (graph : Graph),
        MemoryStore.run ([classReports, moduleReports].mapM program) .empty =
            (reports.map .ok, ⟨graph, none⟩) ∧
          reports.length = 2 ∧
          (∀ report ∈ reports, report.failures = [] ∧ report.missingEndpoints = 0) ∧
          graph.nodes.contains "app/#users.py" = true := by
  have plain : ∀ delivery ∈ [classReports, moduleReports], delivery.IsPlain := by
    intro delivery member
    rcases List.mem_cons.mp member with rfl | later
    · constructor
      · simp [classReports, Builder.java, LocationStrategy.java, LocationStrategy.IsBuiltIn]
      · exact .ofReports _ _
      · decide +kernel
      · decide
    · obtain rfl := List.mem_singleton.mp later
      constructor
      · simp [moduleReports, LocationStrategy.java, LocationStrategy.IsBuiltIn]
      · exact .ofReports _ _
      · decide +kernel
      · decide
  obtain ⟨_, reports, graph, ran, sameLength, clean, holds⟩ :=
    imported_without_loss [classReports, moduleReports] plain
  refine ⟨plain, reports, graph, ran, sameLength, clean, ?_⟩
  have mentioned : ∃ node ∈ nodes [classReports, moduleReports], node.key = "app/#users.py" := by
    decide +kernel
  obtain ⟨node, member, sameKey⟩ := mentioned
  rw [← sameKey]
  exact holds.node_stored node member

end Delivery

end QueryImpact
