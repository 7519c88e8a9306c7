import QueryImpact.Proofs.Store.Interleaving
import QueryImpact.Proofs.Store.Typing

/-!
# Imports at the same time

Several clients import plain deliveries into one store at the same time, and their calls come in any
order.  No update is lost: every import ends without a failure, everything is stored that any of
them gives, and under every key stands what was committed last.
-/

namespace QueryImpact

/-- The kind that a key tells. -/
def KeyParts.kindOf (key : String) : NodeKind :=
  (KeyParts.read key.toList).kind

namespace Delivery

theorem map_operation_transactions (delivery : Delivery) :
    delivery.transactions.flatten.map WriteChunk.operation = delivery.writes := by
  rw [flatten_transactions, writes]

theorem IsPlain.told {delivery : Delivery} (plain : delivery.IsPlain) {node : Node}
    (member : node ∈ delivery.draft.nodes) : KeyParts.kindOf node.key = node.kind :=
  plain.output.collected.kind_of_mem plain.builtIn plain.colonFree node member

theorem IsPlain.isOrderly {delivery : Delivery} (plain : delivery.IsPlain) :
    Simulation.IsOrderly KeyParts.kindOf delivery.transactions where
  told chunk member node given := by
    apply plain.told
    have written : chunk.operation ∈ delivery.writes := by
      rw [← map_operation_transactions]
      exact List.mem_map_of_mem member
    have inDraft := List.mem_flatMap_of_mem written given
    rwa [flatMap_givenNodes] at inDraft
  ends := by
    rw [map_operation_transactions]
    exact EndsGiven.of_writes _ plain.output.collected.hasEnds

end Delivery

namespace Simulation

/-- Plain deliveries are in step all along, however they are imported. -/
theorem exists_inStep {graph : Graph} (tells : graph.Tells KeyParts.kindOf)
    {clients : List String} {deliveries : String → Delivery}
    (plain : ∀ client ∈ clients, (deliveries client).IsPlain) {schedule : List String}
    (turns : ∀ client ∈ schedule, client ∈ clients) :
    ∃ running after,
      interleave (fun client => (deliveries client).program) schedule (onGraph graph) =
          some (running, after) ∧
        InStep KeyParts.kindOf graph clients (fun client => (deliveries client).transactions)
          schedule.reverse running after := by
  have start := @inStep_onGraph KeyParts.kindOf graph clients
    (fun client => (deliveries client).transactions) tells
    (fun client => (deliveries client).program)
    fun client member => Delivery.performs_program (plain client member).positive
  obtain ⟨running, after, ran, inStep⟩ :=
    start.run (fun client member => (plain client member).isOrderly) turns
  rw [List.append_nil] at inStep
  exact ⟨running, after, ran, inStep⟩

/-- A graph whose contents come from imports of plain deliveries, alone or at the same time, and
ended or not. -/
inductive FromImports : Graph → Prop
  /-- At first there is nothing. -/
  | empty : FromImports .empty
  /-- A delivery is imported while nobody else writes. -/
  | imported {graph next : Graph} (contents : FromImports graph) {delivery : Delivery}
      (plain : delivery.IsPlain) {result : Except StoreError ImportReport}
      (ran : MemoryStore.run delivery.program ⟨graph, none⟩ = (result, ⟨next, none⟩)) :
      FromImports next
  /-- Several deliveries are imported at the same time. -/
  | interleaved {graph : Graph} (contents : FromImports graph) {clients : List String}
      {deliveries : String → Delivery}
      (plain : ∀ client ∈ clients, (deliveries client).IsPlain) {schedule : List String}
      (turns : ∀ client ∈ schedule, client ∈ clients) {running : Running} {after : Simulation}
      (ran : interleave (fun client => (deliveries client).program) schedule (onGraph graph) =
        some (running, after)) :
      FromImports after.store.graph

/-- In such a graph keys tell kinds. -/
theorem FromImports.tells {graph : Graph} (contents : FromImports graph) :
    graph.Tells KeyParts.kindOf := by
  induction contents with
  | empty => exact Graph.tells_empty
  | @imported graph next contents delivery plain result ran ih =>
      obtain ⟨_, _, alsoRan, outcome⟩ := delivery.run_program graph
      obtain ⟨rfl, sameStore⟩ := Prod.mk.inj (ran.symm.trans alsoRan)
      obtain rfl := congrArg MemoryStore.graph sameStore
      intro key kind found
      rcases (outcome.kindOf? key kind).mp found with stored | ⟨node, written, rfl, rfl⟩
      · exact ih key kind stored
      · exact plain.told (delivery.writtenNodes_subset _ written)
  | @interleaved graph contents clients deliveries plain schedule turns running after ran ih =>
      obtain ⟨_, _, alsoRan, inStep⟩ := exists_inStep ih plain turns
      obtain ⟨rfl, rfl⟩ := Prod.mk.inj (Option.some.inj (ran.symm.trans alsoRan))
      exact (inStep.regular "").shared

section Complete

variable {graph : Graph} {clients : List String} {deliveries : String → Delivery}
  {taken : List String} {running : Running} {after : Simulation}
  (inStep : InStep KeyParts.kindOf graph clients
    (fun client => (deliveries client).transactions) taken running after)
  (enough : ∀ client ∈ clients, (deliveries client).calls.length ≤ taken.count client)

include inStep

/-- The shared graph is the initial one with all that was committed. -/
theorem InStep.graph_eq :
    after.store.graph =
      (graph.withNodes (History.committedNodes running.history)).withRelationships
        (History.committedRelationships running.history) :=
  (inStep.regular "").ends.applyAll inStep.agrees.shared

include enough

/-- With enough turns every client ends without a failure, and its writes are committed. -/
theorem InStep.ended {client : String} (member : client ∈ clients) :
    (∃ report, running.programs client = .done (.ok report) ∧ report.failures = []) ∧
      History.committedBy client running.history = (deliveries client).writes := by
  have progress := inStep.progress client member
  have noneLeft : (deliveries client).calls.length - taken.count client = 0 :=
    Nat.sub_eq_zero_of_le (enough client member)
  rw [← Delivery.calls, noneLeft] at progress
  rw [← Delivery.map_operation_transactions]
  exact progress.of_zero

/-- With enough turns, what was committed is what the deliveries give. -/
theorem InStep.exists_committed_iff {α : Type} (given : WriteOperation → List α)
    (wanted : α → Prop) :
    (∃ element ∈ (History.committedWrites running.history).flatMap given, wanted element) ↔
      ∃ client ∈ clients, ∃ element ∈ (deliveries client).writes.flatMap given,
        wanted element := by
  constructor
  · rintro ⟨element, member, isWanted⟩
    obtain ⟨operation, committed, inWrite⟩ := List.mem_flatMap.mp member
    obtain ⟨event, happened, own⟩ := History.exists_of_mem_committedWrites committed
    have client := inStep.turns event happened
    rw [(inStep.ended enough client).2] at own
    exact ⟨event.client, client, element, List.mem_flatMap_of_mem own inWrite, isWanted⟩
  · rintro ⟨client, member, element, elementMember, isWanted⟩
    obtain ⟨operation, own, inWrite⟩ := List.mem_flatMap.mp elementMember
    rw [← (inStep.ended enough member).2] at own
    exact ⟨element, List.mem_flatMap_of_mem (History.committedBy_subset _ _ own) inWrite,
      isWanted⟩

end Complete

/-- Several clients import plain deliveries at the same time, into a store whose contents come from
such imports, and their calls come in any order.  Once every client has had as many turns as there
are calls in its import,
* every import has ended without a failure, and its writes are committed in their order,
* the stored keys are those stored before and those of the deliveries, and
* under every key stands what was committed last, else what was there before. -/
theorem interleaved_imports_lossless {graph : Graph} (contents : FromImports graph)
    (clients : List String) (deliveries : String → Delivery)
    (plain : ∀ client ∈ clients, (deliveries client).IsPlain) (schedule : List String)
    (turns : ∀ client ∈ schedule, client ∈ clients)
    (enough : ∀ client ∈ clients, (deliveries client).calls.length ≤ schedule.count client) :
    ∃ running after,
      interleave (fun client => (deliveries client).program) schedule (onGraph graph) =
          some (running, after) ∧
        (∀ client ∈ clients,
          (∃ report, running.programs client = .done (.ok report) ∧ report.failures = []) ∧
            History.committedBy client running.history = (deliveries client).writes) ∧
        (∀ key, after.store.graph.nodes.contains key = true ↔
          (∃ client ∈ clients, ∃ node ∈ (deliveries client).draft.nodes, node.key = key) ∨
            graph.nodes.contains key = true) ∧
        (∀ key, after.store.graph.relationships.contains key = true ↔
          (∃ client ∈ clients, ∃ relationship ∈ (deliveries client).draft.relationships,
              relationship.key = key) ∨
            graph.relationships.contains key = true) ∧
        (∀ key, after.store.graph.nodes.find? key =
          ((History.committedNodes running.history).reverse.find? fun node =>
            node.key = key).or (graph.nodes.find? key)) ∧
        ∀ key, after.store.graph.relationships.find? key =
          ((History.committedRelationships running.history).reverse.find? fun relationship =>
            relationship.key = key).or (graph.relationships.find? key) := by
  obtain ⟨running, after, ran, inStep⟩ := exists_inStep contents.tells plain turns
  have enoughTaken : ∀ client ∈ clients,
      (deliveries client).calls.length ≤ schedule.reverse.count client := by
    simpa only [List.count_reverse] using enough
  refine ⟨running, after, ran, ?_, ?_, ?_, ?_, ?_⟩
  · exact fun client member => inStep.ended enoughTaken member
  · intro key
    rw [inStep.graph_eq]
    have committed := inStep.exists_committed_iff enoughTaken WriteOperation.givenNodes
      fun node => node.key = key
    simp only [Delivery.flatMap_givenNodes] at committed
    exact (OrderedMap.contains_overwrite Node.key).trans (or_congr_left committed)
  · intro key
    rw [inStep.graph_eq]
    have committed := inStep.exists_committed_iff enoughTaken
      WriteOperation.givenRelationships fun relationship => relationship.key = key
    simp only [Delivery.flatMap_givenRelationships] at committed
    exact (OrderedMap.contains_overwrite Relationship.key).trans (or_congr_left committed)
  · intro key
    rw [inStep.graph_eq]
    exact OrderedMap.find?_overwrite Node.key _ _ key
  · intro key
    rw [inStep.graph_eq]
    exact OrderedMap.find?_overwrite Relationship.key _ _ key

/-- What two clients import: one the members of a class, the other a dependency on its file. -/
def twoDeliveries (client : String) : Delivery :=
  if client = "first" then { Delivery.memberReports with settings := ⟨100, 0⟩ }
  else
    { builder := .java
      draft := .ofReports .java [] [⟨.dependsOn, "Main.java", "UserDao.java"⟩]
      settings := ⟨1, 0⟩
      atomic := false }

theorem interleaved_imports_lossless_alternating :
    ∃ running after,
      interleave (fun client => (twoDeliveries client).program)
          (List.replicate 9 ["first", "second"]).flatten (onGraph .empty) =
        some (running, after) ∧
        (∀ client ∈ ["first", "second"], ∃ report,
          running.programs client = .done (.ok report) ∧ report.failures = []) ∧
        after.store.graph.nodes.contains "UserDao.java::UserDao" = true ∧
        after.store.graph.relationships.contains ⟨"Main.java", "UserDao.java", .dependsOn⟩ =
          true := by
  have plain : ∀ client ∈ ["first", "second"], (twoDeliveries client).IsPlain := by
    intro client member
    rcases List.mem_cons.mp member with rfl | later
    · constructor
      · simp [twoDeliveries, Delivery.memberReports, Builder.java, LocationStrategy.java,
          LocationStrategy.IsBuiltIn]
      · exact .ofReports _ _
      · decide +kernel
      · decide
    · obtain rfl := List.mem_singleton.mp later
      constructor
      · simp [twoDeliveries, Builder.java, LocationStrategy.java, LocationStrategy.IsBuiltIn]
      · exact .ofReports _ _
      · decide +kernel
      · decide
  obtain ⟨running, after, ran, ended, nodes, relationships, _, _⟩ :=
    interleaved_imports_lossless .empty ["first", "second"] twoDeliveries plain
      (List.replicate 9 ["first", "second"]).flatten (by decide) (by decide +kernel)
  refine ⟨running, after, ran, fun client member => (ended client member).1, ?_, ?_⟩
  · exact (nodes _).mpr (Or.inl (by decide +kernel))
  · exact (relationships _).mpr (Or.inl (by decide +kernel))

end Simulation

end QueryImpact
