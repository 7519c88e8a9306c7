import QueryImpact.Proofs.Store.Delivery
import QueryImpact.Proofs.Store.Integrity

/-!
# Kinds at the ends of stored relationships

A relationship names its ends by their keys, and is stored where these keys are.  If the chunk with
a node is refused, because its key belongs to a node of another kind, that other node is what the
relationship is stored with.  So the stored relationships join nodes of the prescribed kinds exactly
where these nodes were in chunks that were written.  This is sure when no chunk was refused, and
when nodes of different kinds never share a key.
-/

namespace QueryImpact

namespace ImportReport

/-- Whether a report lists the chunk at an index as refused. -/
def refuses (report : ImportReport) (index : Nat) : Bool :=
  report.failures.any fun failure => failure.index = index

theorem refuses_iff {report : ImportReport} {index : Nat} :
    report.refuses index = true ↔ ∃ failure ∈ report.failures, failure.index = index := by
  simp [refuses]

/-- The nodes of the chunks that a report does not list as refused, going by the writes that the
chunks are.  The first of them has the given index. -/
def writtenNodes (report : ImportReport) (index : Nat) : List WriteOperation → List Node
  | [] => []
  | write :: rest =>
      (if report.refuses index then [] else write.givenNodes) ++
        report.writtenNodes (index + 1) rest

theorem writtenNodes_subset (report : ImportReport) (index : Nat)
    (writes : List WriteOperation) :
    report.writtenNodes index writes ⊆ writes.flatMap WriteOperation.givenNodes := by
  induction writes generalizing index with
  | nil => exact List.Subset.refl _
  | cons write rest ih =>
      intro node member
      rw [List.flatMap_cons]
      rcases List.mem_append.mp member with here | later
      · split at here
        · contradiction
        · exact List.mem_append_left _ here
      · exact List.mem_append_right _ (ih (index + 1) later)

/-- Where no chunk is refused, all are written. -/
theorem writtenNodes_of_failures {report : ImportReport} (clean : report.failures = [])
    (index : Nat) (writes : List WriteOperation) :
    report.writtenNodes index writes = writes.flatMap WriteOperation.givenNodes := by
  induction writes generalizing index with
  | nil => rfl
  | cons write rest ih =>
      have notRefused : report.refuses index = false := by simp [refuses, clean]
      rw [writtenNodes, notRefused, ih, List.flatMap_cons]
      rfl

end ImportReport

namespace Graph

/-- A graph whose relationships join nodes of the kinds that their types prescribe. -/
def WellTyped (graph : Graph) : Prop :=
  ∀ key relationship, graph.relationships.find? key = some relationship →
    graph.kindOf? relationship.source = some relationship.type.sourceKind ∧
      graph.kindOf? relationship.target = some relationship.type.targetKind

/-! ## What a chunk does -/

/-- A written chunk binds the keys of its nodes to their kinds. -/
theorem kindOf?_writeChunk {graph next : Graph} {chunk : WriteChunk} {stats : UpsertStats}
    (written : graph.writeChunk chunk = .ok (next, stats)) (key : String) (kind : NodeKind) :
    next.kindOf? key = some kind ↔
      graph.kindOf? key = some kind ∨ BindsKind chunk.operation.givenNodes key kind := by
  have applied := apply_operation written
  cases chunk with
  | nodes batch =>
      obtain ⟨accepts, rfl⟩ := apply_nodes_eq_ok_iff.mp applied
      exact accepts.kindOf?_withNodes key kind
  | relationships batch =>
      obtain rfl := Except.ok.inj applied
      rw [upsertRelationships_fst]
      constructor
      · exact Or.inl
      · rintro (found | ⟨node, member, _⟩)
        · exact found
        · exact absurd member List.not_mem_nil

theorem find?_relationships_writeChunk {graph next : Graph} {chunk : WriteChunk}
    {stats : UpsertStats} (written : graph.writeChunk chunk = .ok (next, stats))
    {key : RelationshipKey} {relationship : Relationship}
    (found : next.relationships.find? key = some relationship) :
    graph.relationships.find? key = some relationship ∨
      relationship ∈ chunk.operation.givenRelationships := by
  have applied := apply_operation written
  cases chunk with
  | nodes batch =>
      obtain ⟨_, rfl⟩ := apply_nodes_eq_ok_iff.mp applied
      exact Or.inl found
  | relationships batch =>
      obtain rfl := Except.ok.inj applied
      rw [upsertRelationships_fst] at found
      rcases OrderedMap.of_find?_overwrite _ found with ⟨kept, _⟩ | stored
      · exact Or.inr (List.mem_filter.mp kept).1
      · exact Or.inl stored

/-! ## What a walk over chunks does -/

/-- A walk notes refused chunks under their own indices. -/
theorem mem_failures_importChunks (graph : Graph) (index : Nat) (report : ImportReport)
    (chunks : List WriteChunk) {failure : ChunkFailure}
    (listed : failure ∈ (graph.importChunks index report chunks).2.failures) :
    failure ∈ report.failures ∨ index ≤ failure.index := by
  induction chunks generalizing graph index report with
  | nil => exact Or.inl listed
  | cons chunk rest ih =>
      cases written : graph.writeChunk chunk with
      | ok result =>
          rw [importChunks_cons_of_ok _ _ _ written] at listed
          rcases ih _ _ _ listed with before | later
          · rw [ImportReport.failures_add] at before
            exact Or.inl before
          · exact Or.inr (Nat.le_of_succ_le later)
      | error error =>
          rw [importChunks_cons_of_error _ _ _ written] at listed
          rcases ih _ _ _ listed with before | later
          · rcases List.mem_append.mp before with earlier | here
            · exact Or.inl earlier
            · rw [List.mem_singleton.mp here]
              exact Or.inr (Nat.le_refl index)
          · exact Or.inr (Nat.le_of_succ_le later)

/-- After a walk, the bound keys are those that were bound before and those of the nodes in chunks
that were not refused. -/
theorem kindOf?_importChunks (graph : Graph) {index : Nat} {report : ImportReport}
    (earlier : ∀ failure ∈ report.failures, failure.index < index) (chunks : List WriteChunk)
    (key : String) (kind : NodeKind) :
    (graph.importChunks index report chunks).1.kindOf? key = some kind ↔
      graph.kindOf? key = some kind ∨
        BindsKind ((graph.importChunks index report chunks).2.writtenNodes index
          (chunks.map WriteChunk.operation)) key kind := by
  induction chunks generalizing graph index report with
  | nil => simp [importChunks, ImportReport.writtenNodes, BindsKind]
  | cons chunk rest ih =>
      rw [List.map_cons, ImportReport.writtenNodes, bindsKind_append]
      cases written : graph.writeChunk chunk with
      | ok result =>
          rw [importChunks_cons_of_ok _ _ _ written]
          have sameFailures := report.failures_add chunk.kind result.2
          have earlierNext : ∀ failure ∈ (report.add chunk.kind result.2).failures,
              failure.index < index + 1 := by
            rw [sameFailures]
            exact fun failure member => Nat.lt_succ_of_lt (earlier failure member)
          have notRefused : (result.1.importChunks (index + 1) (report.add chunk.kind result.2)
              rest).2.refuses index = false := by
            rw [Bool.eq_false_iff, Ne, ImportReport.refuses_iff]
            rintro ⟨failure, listed, here⟩
            rcases mem_failures_importChunks _ _ _ _ listed with before | later
            · rw [sameFailures] at before
              exact absurd here (Nat.ne_of_lt (earlier failure before))
            · omega
          rw [ih result.1 earlierNext, kindOf?_writeChunk written, or_assoc, notRefused]
          rfl
      | error error =>
          rw [importChunks_cons_of_error _ _ _ written]
          have earlierNext : ∀ failure ∈ (report.addFailure ⟨chunk.kind, index, error⟩).failures,
              failure.index < index + 1 := by
            intro failure member
            rcases List.mem_append.mp member with before | here
            · exact Nat.lt_succ_of_lt (earlier failure before)
            · rw [List.mem_singleton.mp here]
              exact Nat.lt_succ_self index
          have refused : (graph.importChunks (index + 1)
              (report.addFailure ⟨chunk.kind, index, error⟩) rest).2.refuses index = true := by
            rw [ImportReport.refuses_iff]
            have listed := (failures_importChunks graph (index + 1)
              (report.addFailure ⟨chunk.kind, index, error⟩) rest).subset
              (List.mem_append_right _ (List.mem_singleton_self _))
            exact ⟨_, listed, rfl⟩
          rw [ih graph earlierNext, refused]
          simp [BindsKind]

theorem find?_relationships_importChunks (graph : Graph) (index : Nat) (report : ImportReport)
    (chunks : List WriteChunk) {key : RelationshipKey} {relationship : Relationship}
    (found : (graph.importChunks index report chunks).1.relationships.find? key =
      some relationship) :
    graph.relationships.find? key = some relationship ∨
      relationship ∈ (chunks.map WriteChunk.operation).flatMap
        WriteOperation.givenRelationships := by
  induction chunks generalizing graph index report with
  | nil => exact Or.inl found
  | cons chunk rest ih =>
      rw [List.map_cons, List.flatMap_cons]
      cases written : graph.writeChunk chunk with
      | ok result =>
          rw [importChunks_cons_of_ok _ _ _ written] at found
          rcases ih _ _ _ found with stored | later
          · rcases find?_relationships_writeChunk written stored with before | here
            · exact Or.inl before
            · exact Or.inr (List.mem_append_left _ here)
          · exact Or.inr (List.mem_append_right _ later)
      | error error =>
          rw [importChunks_cons_of_error _ _ _ written] at found
          rcases ih _ _ _ found with stored | later
          · exact Or.inl stored
          · exact Or.inr (List.mem_append_right _ later)

theorem WellFormed.importChunks {graph : Graph} (wellFormed : graph.WellFormed) (index : Nat)
    (report : ImportReport) (chunks : List WriteChunk) :
    (graph.importChunks index report chunks).1.WellFormed := by
  induction chunks generalizing graph index report with
  | nil => exact wellFormed
  | cons chunk rest ih =>
      cases written : graph.writeChunk chunk with
      | ok result =>
          rw [importChunks_cons_of_ok _ _ _ written]
          exact ih (wellFormed.apply (apply_operation written)) _ _
      | error error =>
          rw [importChunks_cons_of_error _ _ _ written]
          exact ih wellFormed _ _

end Graph

namespace Delivery

/-! ## What an import does -/

/-- The walk over the chunks of a delivery. -/
def walk (delivery : Delivery) (graph : Graph) : Graph × ImportReport :=
  graph.importChunks 0 (.start (ImportInput.ofDraft delivery.draft).skipped) delivery.chunks

/-- What an import of a delivery can make of a graph. -/
inductive Outcome (delivery : Delivery) (graph : Graph) :
    Except StoreError ImportReport → Graph → Prop
  /-- It fails, and nothing is written. -/
  | failed (error : StoreError) : Outcome delivery graph (.error error) graph
  /-- It walks over the chunks. -/
  | walked : Outcome delivery graph (.ok (delivery.walk graph).2) (delivery.walk graph).1

theorem run_program (delivery : Delivery) (graph : Graph) :
    ∃ result next, MemoryStore.run delivery.program ⟨graph, none⟩ = (result, ⟨next, none⟩) ∧
      delivery.Outcome graph result next := by
  by_cases empty : delivery.settings.size = 0
  · have refused : delivery.program = pure (.error (.misconfigured .emptyBatches)) := by
      simp [program, Writing.importAtomic, Writing.importAll, Writing.withPositiveSize, empty]
    exact ⟨_, graph, by rw [refused]; rfl, .failed _⟩
  · have positive := Nat.pos_of_ne_zero empty
    unfold program
    split
    · rw [MemoryStore.run_importAtomic_eq positive, Graph.writeAll_eq rfl graph 0]
      split
      · rename_i next report written
        split at written
        · obtain ⟨rfl, rfl⟩ := Prod.mk.inj (Except.ok.inj written)
          exact ⟨_, _, rfl, .walked⟩
        · contradiction
      · exact ⟨_, _, rfl, .failed _⟩
    · exact ⟨_, _, MemoryStore.run_importAll_eq positive _ graph, .walked⟩

/-- The nodes of a delivery in chunks that were written, going by the result of its import. -/
def writtenNodes (delivery : Delivery) : Except StoreError ImportReport → List Node
  | .error _ => []
  | .ok report => report.writtenNodes 0 delivery.writes

theorem writtenNodes_subset (delivery : Delivery) (result : Except StoreError ImportReport) :
    delivery.writtenNodes result ⊆ delivery.draft.nodes := by
  cases result with
  | error error => exact List.nil_subset _
  | ok report =>
      have subset := report.writtenNodes_subset 0 delivery.writes
      rwa [flatMap_givenNodes] at subset

namespace Outcome

variable {delivery : Delivery} {graph next : Graph} {result : Except StoreError ImportReport}

theorem kindOf? (outcome : delivery.Outcome graph result next) (key : String)
    (kind : NodeKind) :
    next.kindOf? key = some kind ↔
      graph.kindOf? key = some kind ∨ BindsKind (delivery.writtenNodes result) key kind := by
  cases outcome with
  | failed error => simp [writtenNodes, BindsKind]
  | walked => exact graph.kindOf?_importChunks (by simp [ImportReport.start]) _ key kind

theorem find?_relationships (outcome : delivery.Outcome graph result next)
    {key : RelationshipKey} {relationship : Relationship}
    (found : next.relationships.find? key = some relationship) :
    graph.relationships.find? key = some relationship ∨
      relationship ∈ delivery.draft.relationships ∧ ∃ report, result = .ok report := by
  cases outcome with
  | failed error => exact Or.inl found
  | walked =>
      rcases graph.find?_relationships_importChunks _ _ _ found with before | given
      · exact Or.inl before
      · rw [← writes, flatMap_givenRelationships] at given
        exact Or.inr ⟨given, _, rfl⟩

theorem wellFormed (outcome : delivery.Outcome graph result next)
    (before : graph.WellFormed) : next.WellFormed := by
  cases outcome with
  | failed error => exact before
  | walked => exact before.importChunks _ _ _

end Outcome

/-! ## Imports in a row -/

/-- The nodes in chunks that were written, going by the results of all imports. -/
def allWritten (deliveries : List Delivery) (results : List (Except StoreError ImportReport)) :
    List Node :=
  (deliveries.zip results).flatMap fun imported => imported.1.writtenNodes imported.2

/-- What a graph is like after some imports. -/
structure Imported (deliveries : List Delivery) (results : List (Except StoreError ImportReport))
    (graph next : Graph) : Prop where
  /-- Every import has a result. -/
  sameLength : results.length = deliveries.length
  /-- The bound keys are those bound before and those that were written. -/
  kindOf? : ∀ key kind, next.kindOf? key = some kind ↔
    graph.kindOf? key = some kind ∨ BindsKind (allWritten deliveries results) key kind
  /-- A stored relationship is an old one, or was given to an import that has not failed. -/
  given : ∀ key relationship, next.relationships.find? key = some relationship →
    graph.relationships.find? key = some relationship ∨
      ∃ delivery report, (delivery, .ok report) ∈ deliveries.zip results ∧
        relationship ∈ delivery.draft.relationships
  /-- Relationships have their ends. -/
  wellFormed : graph.WellFormed → next.WellFormed

theorem exists_imported (deliveries : List Delivery) (graph : Graph) :
    ∃ results next,
      MemoryStore.run (deliveries.mapM program) ⟨graph, none⟩ = (results, ⟨next, none⟩) ∧
        Imported deliveries results graph next := by
  induction deliveries generalizing graph with
  | nil =>
      refine ⟨[], graph, rfl, rfl, ?_, ?_, id⟩
      · simp [allWritten, BindsKind]
      · exact fun _ _ found => Or.inl found
  | cons delivery rest ih =>
      obtain ⟨result, middle, ran, outcome⟩ := delivery.run_program graph
      obtain ⟨results, next, ranLater, later⟩ := ih middle
      refine ⟨result :: results, next, ?_, ?_, ?_, ?_, ?_⟩
      · exact MemoryStore.run_mapM_cons ran ranLater
      · rw [List.length_cons, List.length_cons, later.sameLength]
      · intro key kind
        rw [later.kindOf?, outcome.kindOf?, or_assoc, ← bindsKind_append]
        rfl
      · intro key relationship found
        rcases later.given key relationship found with stored | ⟨other, report, member, given⟩
        · rcases outcome.find?_relationships stored with before | ⟨given, report, rfl⟩
          · exact Or.inl before
          · exact Or.inr ⟨delivery, report, List.mem_cons_self, given⟩
        · exact Or.inr ⟨other, report, List.mem_cons_of_mem _ member, given⟩
      · exact fun before => later.wellFormed (outcome.wellFormed before)

namespace Imported

variable {deliveries : List Delivery} {results : List (Except StoreError ImportReport)}
  {graph : Graph}

/-- From an empty store, the bound keys are those that were written. -/
theorem kindOf?_eq_some_iff (imported : Imported deliveries results .empty graph) {key : String}
    {kind : NodeKind} :
    graph.kindOf? key = some kind ↔ BindsKind (allWritten deliveries results) key kind := by
  rw [imported.kindOf?]
  simp [Graph.kindOf?, Graph.empty]

theorem wellTyped_iff (imported : Imported deliveries results .empty graph) :
    graph.WellTyped ↔
      ∀ key relationship, graph.relationships.find? key = some relationship →
        relationship.JoinsKinds (allWritten deliveries results) := by
  simp only [Graph.WellTyped, imported.kindOf?_eq_some_iff]
  rfl

variable (outputs : ∀ delivery ∈ deliveries, delivery.draft.IsOutput delivery.builder)

include outputs

/-- A stored relationship was given to an import, together with nodes of the prescribed kinds. -/
theorem exists_joinsKinds (imported : Imported deliveries results .empty graph)
    {key : RelationshipKey} {relationship : Relationship}
    (found : graph.relationships.find? key = some relationship) :
    ∃ delivery report, (delivery, .ok report) ∈ deliveries.zip results ∧
      relationship.JoinsKinds delivery.draft.nodes := by
  rcases imported.given key relationship found with before | ⟨delivery, report, member, given⟩
  · exact absurd before (by simp [Graph.empty])
  · have output := outputs delivery (List.of_mem_zip member).1
    exact ⟨delivery, report, member, output.collected.joinsKinds relationship given⟩

theorem wellTyped_of_failures (imported : Imported deliveries results .empty graph)
    (clean : ∀ report, .ok report ∈ results → report.failures = []) : graph.WellTyped := by
  apply imported.wellTyped_iff.mpr
  intro key relationship found
  obtain ⟨delivery, report, member, joins⟩ := imported.exists_joinsKinds outputs found
  apply joins.of_binds
  intro node inDraft
  have allGiven : delivery.writtenNodes (.ok report) = delivery.draft.nodes := by
    rw [writtenNodes, ImportReport.writtenNodes_of_failures
      (clean report (List.of_mem_zip member).2), flatMap_givenNodes]
  apply bindsKind_of_mem
  apply List.mem_flatMap.mpr
  exact ⟨(delivery, .ok report), member, allGiven ▸ inDraft⟩

theorem wellTyped_of_kindsAgree (imported : Imported deliveries results .empty graph)
    (agree : KindsAgree (nodes deliveries)) : graph.WellTyped := by
  intro key relationship found
  obtain ⟨delivery, report, member, joins⟩ := imported.exists_joinsKinds outputs found
  obtain ⟨sourceStored, targetStored⟩ :=
    (imported.wellFormed Graph.wellFormed_empty).ends_stored key relationship found
  -- What is stored under the key of a delivered node was delivered too, and agrees with it.
  have prescribed : ∀ key kind, graph.nodes.contains key = true →
      BindsKind delivery.draft.nodes key kind → graph.kindOf? key = some kind := by
    rintro key kind stored ⟨node, inDraft, rfl, rfl⟩
    obtain ⟨known, knownFound⟩ := OrderedMap.contains_iff.mp stored
    have knownKind : graph.kindOf? node.key = some known.kind := by
      rw [Graph.kindOf?, knownFound]
      rfl
    obtain ⟨written, writtenMember, sameKey, sameKind⟩ :=
      imported.kindOf?_eq_some_iff.mp knownKind
    obtain ⟨other, otherMember, writtenThere⟩ := List.mem_flatMap.mp writtenMember
    have delivered : written ∈ nodes deliveries :=
      List.mem_flatMap.mpr ⟨other.1, (List.of_mem_zip otherMember).1,
        writtenNodes_subset _ _ writtenThere⟩
    have draftDelivered : node ∈ nodes deliveries :=
      List.mem_flatMap.mpr ⟨delivery, (List.of_mem_zip member).1, inDraft⟩
    rw [knownKind, ← sameKind, agree written delivered node draftDelivered sameKey]
  exact ⟨prescribed _ _ sourceStored joins.1, prescribed _ _ targetStored joins.2⟩

end Imported

/-- After any imports of what builders give out, one after the other and from an empty store, the
stored relationships join nodes of the prescribed kinds exactly where each of their ends, with the
kind prescribed for it, was in a chunk that was written.  So it is when no report lists a refused
chunk, and when nodes of different kinds share no key. -/
theorem wellTyped_iff_ends_written (deliveries : List Delivery)
    (outputs : ∀ delivery ∈ deliveries, delivery.draft.IsOutput delivery.builder) :
    ∃ results graph,
      MemoryStore.run (deliveries.mapM program) .empty = (results, ⟨graph, none⟩) ∧
        results.length = deliveries.length ∧
        (graph.WellTyped ↔
          ∀ key relationship, graph.relationships.find? key = some relationship →
            relationship.JoinsKinds (allWritten deliveries results)) ∧
        ((∀ report, .ok report ∈ results → report.failures = []) → graph.WellTyped) ∧
        (KindsAgree (nodes deliveries) → graph.WellTyped) := by
  obtain ⟨results, graph, ran, imported⟩ := exists_imported deliveries .empty
  exact ⟨results, graph, ran, imported.sameLength, imported.wellTyped_iff,
    imported.wellTyped_of_failures outputs, imported.wellTyped_of_kindsAgree outputs⟩

/-- A call between two members of a class. -/
def memberReports : Delivery where
  builder := .java
  draft := .ofReports .java [] [⟨.calls, "UserDao#find:10", "UserDao#load:20"⟩]
  settings := ⟨1, 0⟩
  atomic := false

/-- A dependency on a file whose path is the key of that class. -/
def misnamedReports : Delivery where
  builder := .java
  draft := .ofReports .java [] [⟨.dependsOn, "Main.java", "UserDao.java::UserDao"⟩]
  settings := ⟨1, 0⟩
  atomic := true

/-- Both, in chunks of one element. -/
def clashingReports : Delivery where
  builder := .java
  draft := .ofReports .java []
    [⟨.calls, "UserDao#find:10", "UserDao#load:20"⟩,
      ⟨.dependsOn, "Main.java", "UserDao.java::UserDao"⟩]
  settings := ⟨1, 0⟩
  atomic := false

/-- In one transaction the dependency is refused with its file, though the keys clash. -/
theorem wellTyped_iff_ends_written_atomic :
    ¬ KindsAgree (nodes [memberReports, misnamedReports]) ∧
      ∃ results graph,
        MemoryStore.run ([memberReports, misnamedReports].mapM program) .empty =
            (results, ⟨graph, none⟩) ∧
          graph.WellTyped := by
  have outputs : ∀ delivery ∈ [memberReports, misnamedReports],
      delivery.draft.IsOutput delivery.builder := by
    intro delivery member
    rcases List.mem_cons.mp member with rfl | later
    · exact .ofReports _ _
    · obtain rfl := List.mem_singleton.mp later
      exact .ofReports _ _
  obtain ⟨results, graph, ran, _, _, whenClean, _⟩ :=
    wellTyped_iff_ends_written [memberReports, misnamedReports] outputs
  have noFailures : ∀ result ∈ (MemoryStore.run
      ([memberReports, misnamedReports].mapM program) .empty).1,
      (result.toOption.map ImportReport.failures).getD [] = [] := by
    decide +kernel
  rw [ran] at noFailures
  refine ⟨?_, results, graph, ran, whenClean fun report member => noFailures _ member⟩
  unfold KindsAgree
  decide +kernel

/-- In chunks, the dependency is stored between a file and a class. -/
theorem not_wellTyped_clashing :
    clashingReports.draft.IsOutput clashingReports.builder ∧
      ¬ (MemoryStore.run ([clashingReports].mapM program) .empty).2.graph.WellTyped := by
  refine ⟨.ofReports _ _, ?_⟩
  intro typed
  have evaluated :
      let graph := (MemoryStore.run ([clashingReports].mapM program) .empty).2.graph
      graph.relationships.find? ⟨"Main.java", "UserDao.java::UserDao", .dependsOn⟩ =
          some (.plain "Main.java" "UserDao.java::UserDao" .dependsOn) ∧
        graph.kindOf? "UserDao.java::UserDao" = some .classDef := by
    decide +kernel
  obtain ⟨stored, found⟩ := evaluated
  have isFile := (typed _ _ stored).2
  rw [Relationship.plain, found] at isFile
  contradiction

end Delivery

end QueryImpact
