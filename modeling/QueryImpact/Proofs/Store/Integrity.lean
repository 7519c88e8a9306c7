import QueryImpact.Proofs.Store.Kinds
import QueryImpact.Proofs.Store.Serialization

/-!
# Every reachable graph is well formed

In a well-formed graph everything stands under its own key, and the ends of every relationship are
stored.  Each write keeps a graph well formed, so the shared graph and the copies of the open
transactions are well formed whatever the order of the turns.  No write gives a key another kind
either: to change the kind under a key, a transaction has to delete the key first.
-/

namespace QueryImpact

namespace Graph

/-- A graph in which everything stands under its own key and no relationship dangles. -/
structure WellFormed (graph : Graph) : Prop where
  /-- A node stands under its own key. -/
  node_key : ∀ key node, graph.nodes.find? key = some node → node.key = key
  /-- A relationship stands under its own source, target and type. -/
  relationship_key : ∀ key relationship, graph.relationships.find? key = some relationship →
    relationship.key = key
  /-- The ends of a relationship are there. -/
  ends_stored : ∀ key relationship, graph.relationships.find? key = some relationship →
    graph.nodes.contains relationship.source = true ∧
      graph.nodes.contains relationship.target = true

/-! ## Writes keep graphs well formed -/

theorem wellFormed_empty : empty.WellFormed where
  node_key _ _ found := absurd found (by simp [empty])
  relationship_key _ _ found := absurd found (by simp [empty])
  ends_stored _ _ found := absurd found (by simp [empty])

theorem WellFormed.withNodes {graph : Graph} (wellFormed : graph.WellFormed)
    (nodes : List Node) : (graph.withNodes nodes).WellFormed where
  node_key key node found := by
    rcases OrderedMap.of_find?_overwrite _ found with ⟨_, sameKey⟩ | stored
    · exact sameKey
    · exact wellFormed.node_key key node stored
  relationship_key := wellFormed.relationship_key
  ends_stored key relationship found := by
    obtain ⟨source, target⟩ := wellFormed.ends_stored key relationship found
    constructor
    · exact (OrderedMap.contains_overwrite _).mpr (Or.inr source)
    · exact (OrderedMap.contains_overwrite _).mpr (Or.inr target)

theorem WellFormed.withRelationships {graph : Graph} (wellFormed : graph.WellFormed)
    {relationships : List Relationship}
    (ends : ∀ relationship ∈ relationships, graph.hasEnds relationship = true) :
    (graph.withRelationships relationships).WellFormed where
  node_key := wellFormed.node_key
  relationship_key key relationship found := by
    rcases OrderedMap.of_find?_overwrite _ found with ⟨_, sameKey⟩ | stored
    · exact sameKey
    · exact wellFormed.relationship_key key relationship stored
  ends_stored key relationship found := by
    rcases OrderedMap.of_find?_overwrite _ found with ⟨written, _⟩ | stored
    · exact Bool.and_eq_true_iff.mp (ends relationship written)
    · exact wellFormed.ends_stored key relationship stored

theorem find?_removeKeys (graph : Graph) (keys : OrderedSet String) (key : String) :
    (graph.removeKeys keys).nodes.find? key =
      if keys.contains key then none else graph.nodes.find? key := by
  rw [removeKeys, OrderedMap.find?_filter]
  cases keys.contains key with
  | true => simp
  | false => cases graph.nodes.find? key <;> simp

/-- Removing keys takes every relationship at them away. -/
theorem WellFormed.removeKeys {graph : Graph} (wellFormed : graph.WellFormed)
    (keys : OrderedSet String) : (graph.removeKeys keys).WellFormed where
  node_key key node found := by
    rw [Graph.removeKeys, OrderedMap.find?_filter] at found
    exact wellFormed.node_key key node (Option.filter_eq_some_iff.mp found).1
  relationship_key key relationship found := by
    rw [Graph.removeKeys, OrderedMap.find?_filter] at found
    exact wellFormed.relationship_key key relationship (Option.filter_eq_some_iff.mp found).1
  ends_stored key relationship found := by
    rw [Graph.removeKeys, OrderedMap.find?_filter] at found
    obtain ⟨stored, kept⟩ := Option.filter_eq_some_iff.mp found
    have ownKey := wellFormed.relationship_key key relationship stored
    obtain ⟨source, target⟩ := wellFormed.ends_stored key relationship stored
    simp only [← ownKey, Relationship.key, Bool.and_eq_true, Bool.not_eq_true'] at kept
    constructor
    · rw [OrderedMap.contains, find?_removeKeys, kept.1]
      exact source
    · rw [OrderedMap.contains, find?_removeKeys, kept.2]
      exact target

/-- Writing nodes succeeds exactly when the batch is accepted. -/
theorem apply_nodes_eq_ok_iff {graph next : Graph} {nodes : List Node} :
    graph.apply (.nodes nodes) = .ok next ↔
      graph.Accepts nodes ∧ next = graph.withNodes nodes := by
  rw [apply, ← foldl_putNode_fst graph .none nodes]
  cases written : graph.upsertNodes nodes with
  | error error =>
      constructor
      · intro applied
        contradiction
      · rintro ⟨accepts, _⟩
        have accepted := upsertNodes_eq_ok_iff.mpr ⟨accepts, rfl⟩
        exact absurd (written.symm.trans accepted) (by simp)
  | ok result =>
      obtain ⟨accepts, rfl⟩ := upsertNodes_eq_ok_iff.mp written
      simp [Except.map, accepts, eq_comm]

/-- Every write keeps a graph well formed. -/
theorem WellFormed.apply {graph next : Graph} (wellFormed : graph.WellFormed)
    {operation : WriteOperation} (applied : graph.apply operation = .ok next) :
    next.WellFormed := by
  cases operation with
  | nodes nodes =>
      obtain ⟨_, rfl⟩ := apply_nodes_eq_ok_iff.mp applied
      exact wellFormed.withNodes nodes
  | relationships relationships =>
      obtain rfl := Except.ok.inj applied
      rw [upsertRelationships_fst]
      exact wellFormed.withRelationships fun _ member => (List.mem_filter.mp member).2
  | deleteFiles paths =>
      obtain rfl := Except.ok.inj applied
      exact wellFormed.removeKeys _

theorem applyAll_cons_eq_ok_iff {graph last : Graph} {operation : WriteOperation}
    {rest : List WriteOperation} :
    graph.applyAll (operation :: rest) = .ok last ↔
      ∃ next, graph.apply operation = .ok next ∧ next.applyAll rest = .ok last := by
  rw [applyAll, List.foldlM_cons]
  cases graph.apply operation with
  | error error => simp [bind, Except.bind]
  | ok next => simp [bind, Except.bind, applyAll]

theorem WellFormed.applyAll {graph last : Graph} (wellFormed : graph.WellFormed)
    {operations : List WriteOperation} (applied : graph.applyAll operations = .ok last) :
    last.WellFormed := by
  induction operations generalizing graph with
  | nil =>
      obtain rfl := Except.ok.inj applied
      exact wellFormed
  | cons operation rest ih =>
      obtain ⟨next, first, later⟩ := applyAll_cons_eq_ok_iff.mp applied
      exact ih (wellFormed.apply first) later

/-! ## Writes keep kinds -/

/-- A write leaves the kind under a key alone, or deletes the key. -/
theorem kindOf?_apply {graph next : Graph} {operation : WriteOperation}
    (applied : graph.apply operation = .ok next) {key : String} {kind : NodeKind}
    (found : graph.kindOf? key = some kind) :
    next.kindOf? key = some kind ∨
      ∃ paths, operation = .deleteFiles paths ∧ next.nodes.find? key = none := by
  cases operation with
  | nodes nodes =>
      obtain ⟨accepts, rfl⟩ := apply_nodes_eq_ok_iff.mp applied
      exact Or.inl (accepts.keepsKinds_withNodes key kind found)
  | relationships relationships =>
      obtain rfl := Except.ok.inj applied
      rw [upsertRelationships_fst]
      exact Or.inl found
  | deleteFiles paths =>
      obtain rfl := Except.ok.inj applied
      rw [deleteFiles, kindOf?, find?_removeKeys]
      split
      · exact Or.inr ⟨paths, rfl, rfl⟩
      · exact Or.inl found

/-- In the course of some writes, a deletion of files takes the node under a key away. -/
def Deletes (graph : Graph) (operations : List WriteOperation) (key : String) : Prop :=
  ∃ before paths after middle, operations = before ++ .deleteFiles paths :: after ∧
    graph.applyAll before = .ok middle ∧ middle.nodes.contains key = true ∧
      (middle.deleteFiles paths).1.nodes.contains key = false

theorem Deletes.cons {graph next : Graph} {operation : WriteOperation}
    (applied : graph.apply operation = .ok next) {rest : List WriteOperation} {key : String}
    (deletes : next.Deletes rest key) : graph.Deletes (operation :: rest) key := by
  obtain ⟨before, paths, after, middle, rfl, reached, stored, gone⟩ := deletes
  exact ⟨operation :: before, paths, after, middle, rfl,
    applyAll_cons_eq_ok_iff.mpr ⟨next, applied, reached⟩, stored, gone⟩

/-- Writes in a row leave the kind under a key alone, or delete the key on the way. -/
theorem kindOf?_applyAll {graph last : Graph} {operations : List WriteOperation}
    (applied : graph.applyAll operations = .ok last) {key : String} {kind : NodeKind}
    (found : graph.kindOf? key = some kind) :
    last.kindOf? key = some kind ∨ graph.Deletes operations key := by
  induction operations generalizing graph with
  | nil =>
      obtain rfl := Except.ok.inj applied
      exact Or.inl found
  | cons operation rest ih =>
      obtain ⟨next, first, later⟩ := applyAll_cons_eq_ok_iff.mp applied
      rcases kindOf?_apply first found with kept | ⟨paths, rfl, gone⟩
      · rcases ih later kept with stays | deletes
        · exact Or.inl stays
        · exact Or.inr (deletes.cons first)
      · obtain ⟨node, stored, _⟩ := Option.map_eq_some_iff.mp found
        obtain rfl := Except.ok.inj first
        refine Or.inr ⟨[], paths, rest, graph, rfl, rfl, ?_, ?_⟩
        · simp [OrderedMap.contains, stored]
        · simp [OrderedMap.contains, gone]

end Graph

/-! ## Turns keep everything well formed -/

namespace CallEffect

variable {call : WriteCall} {answer : call.Answer} {graph : Graph} {current : Option Transaction}
  {result : MemoryStore}

theorem wellFormed (effect : CallEffect call answer graph current result)
    (shared : graph.WellFormed)
    (copy : ∀ transaction ∈ current, transaction.working.WellFormed) :
    result.graph.WellFormed ∧
      ∀ transaction ∈ result.current, transaction.working.WellFormed := by
  cases effect with
  | begun isBegin succeeded =>
      constructor
      · exact shared
      · intro transaction isOpen
        obtain rfl := Option.mem_some_iff.mp isOpen
        exact shared
  | wrote operation transaction working asksFor isOpen succeeded applied =>
      constructor
      · exact shared
      · intro next nextOpen
        obtain rfl := Option.mem_some_iff.mp nextOpen
        exact (copy transaction isOpen).apply applied
  | committed transaction next isCommit isOpen succeeded replayed =>
      exact ⟨shared.applyAll replayed, nofun⟩
  | refusedCommit isCommit failed cause => exact ⟨shared, nofun⟩
  | rolledBack isRollback => exact ⟨shared, nofun⟩
  | refusedWrite operation asksFor failed cause => exact ⟨shared, copy⟩
  | paused span isPause => exact ⟨shared, copy⟩

/-- Only a commit that deletes a key gives it another kind in the shared graph. -/
theorem deletes_of_kindOf?_ne (effect : CallEffect call answer graph current result)
    {key : String} {before later : NodeKind} (had : graph.kindOf? key = some before)
    (has : result.graph.kindOf? key = some later) (different : later ≠ before) :
    call = .commit ∧ ∃ transaction, current = some transaction ∧
      graph.Deletes transaction.staged key := by
  by_cases commits : call = .commit ∧ call.Succeeded answer
  · obtain ⟨transaction, isOpen, replayed⟩ := effect.exists_of_commits commits
    rcases Graph.kindOf?_applyAll replayed had with kept | deletes
    · exact absurd (Option.some.inj (has.symm.trans kept)) different
    · exact ⟨commits.1, transaction, isOpen, deletes⟩
  · rw [effect.graph_eq commits] at has
    exact absurd (Option.some.inj (has.symm.trans had)) different

/-- As long as a transaction goes on, no key of its copy gets another kind. -/
theorem kindOf?_working_eq (effect : CallEffect call answer graph current result)
    (goesOn : call ≠ .begin) {transaction next : Transaction} (isOpen : current = some transaction)
    (staysOpen : result.current = some next) {key : String} {before later : NodeKind}
    (had : transaction.working.kindOf? key = some before)
    (has : next.working.kindOf? key = some later) : later = before := by
  cases effect with
  | begun isBegin succeeded => exact absurd isBegin goesOn
  | wrote operation other working asksFor otherOpen succeeded applied =>
      obtain rfl := Option.some.inj (isOpen.symm.trans otherOpen)
      obtain rfl := Option.some.inj staysOpen
      rcases Graph.kindOf?_apply applied had with kept | ⟨paths, _, gone⟩
      · exact Option.some.inj (has.symm.trans kept)
      · simp [Graph.kindOf?, gone] at has
  | committed other reached isCommit otherOpen succeeded replayed => contradiction
  | refusedCommit isCommit failed cause => contradiction
  | rolledBack isRollback => contradiction
  | refusedWrite operation asksFor failed cause =>
      obtain rfl := Option.some.inj (isOpen.symm.trans staysOpen)
      exact Option.some.inj (has.symm.trans had)
  | paused span isPause =>
      obtain rfl := Option.some.inj (isOpen.symm.trans staysOpen)
      exact Option.some.inj (has.symm.trans had)

end CallEffect

/-- Every program keeps the shared graph and the copy of its transaction well formed. -/
theorem MemoryStore.wellFormed_run {α : Type} (program : Writing α) {store : MemoryStore}
    (shared : store.graph.WellFormed)
    (copy : ∀ transaction ∈ store.current, transaction.working.WellFormed) :
    (run program store).2.graph.WellFormed ∧
      ∀ transaction ∈ (run program store).2.current, transaction.working.WellFormed := by
  induction program generalizing store with
  | done value => exact ⟨shared, copy⟩
  | call request next ih =>
      obtain ⟨sharedNext, copyNext⟩ :=
        (handle_effect request store.graph store.current).wellFormed shared copy
      exact ih _ sharedNext copyNext

namespace Simulation

/-- A quiet simulation in which the shared graph and the copies of the open transactions are well
formed. -/
structure WellFormed (simulation : Simulation) : Prop where
  quiet : simulation.Quiet
  shared : simulation.store.graph.WellFormed
  copies : ∀ client transaction, simulation.transactions.find? client = some transaction →
    transaction.working.WellFormed

theorem wellFormed_onGraph_empty : (onGraph .empty).WellFormed where
  quiet := quiet_onGraph .empty
  shared := Graph.wellFormed_empty
  copies _ _ found := absurd found nofun

/-- Whatever program a client runs in a well-formed simulation, it leaves it well formed. -/
theorem WellFormed.writeIn_run {α : Type} {simulation : Simulation}
    (wellFormed : simulation.WellFormed) (client : String) (program : Writing α) {answer : α}
    {result : MemoryStore}
    (ran : MemoryStore.run program
      ⟨simulation.store.graph, simulation.transactions.find? client⟩ = (answer, result)) :
    ∃ after, writeIn client program simulation = some (answer, after) ∧ after.WellFormed ∧
      after.store.graph = result.graph ∧
      after.transactions = keepTransaction simulation.transactions client result.current := by
  obtain ⟨after, answered, quiet, graphEq, transactionsEq⟩ :=
    Simulation.writeIn_run wellFormed.quiet client program ran
  have kept := @MemoryStore.wellFormed_run _ program
    ⟨simulation.store.graph, simulation.transactions.find? client⟩ wellFormed.shared
    (wellFormed.copies client)
  rw [ran] at kept
  obtain ⟨shared, copy⟩ := kept
  refine ⟨after, answered, ⟨quiet, ?_, ?_⟩, graphEq, transactionsEq⟩
  · rw [graphEq]
    exact shared
  · intro other transaction found
    rw [transactionsEq, find?_keepTransaction] at found
    split at found
    · exact copy transaction found
    · exact wellFormed.copies other transaction found

theorem WellFormed.step {simulation : Simulation} (wellFormed : simulation.WellFormed)
    (history : List Event) (turn : Turn) :
    ∃ event after, takeTurn history turn simulation = some (event :: history, after) ∧
      after.WellFormed := by
  obtain ⟨after, answered, wellFormedAfter, _⟩ :=
    wellFormed.writeIn_run turn.client (Writing.ask turn.call) rfl
  exact ⟨_, after, takeTurn_of_writeIn answered history, wellFormedAfter⟩

theorem WellFormed.run {simulation : Simulation} (wellFormed : simulation.WellFormed)
    (turns : List Turn) :
    ∃ history after, takeTurns turns simulation = some (history, after) ∧ after.WellFormed :=
  @foldlM_takeTurn (fun _ => WellFormed) (fun history _ kept => kept.step history) [] simulation
    wellFormed turns

/-- Whatever the order of the turns, starting from nothing, after every run
* the shared graph and the copies of the open transactions are well formed,
* a turn gives a key of the shared graph another kind only if it commits a transaction that deletes
  the key before, and
* a turn of a transaction that goes on gives no key of its copy another kind. -/
theorem reachable_graphs_wellFormed (turns : List Turn) :
    ∃ history after,
      takeTurns turns (onGraph .empty) = some (history, after) ∧
        after.store.graph.WellFormed ∧
        (∀ client transaction, after.transactions.find? client = some transaction →
          transaction.working.WellFormed) ∧
        ∀ turn : Turn, ∃ answer next,
          writeIn turn.client (Writing.ask turn.call) after = some (answer, next) ∧
            (∀ key before later, after.store.graph.kindOf? key = some before →
              next.store.graph.kindOf? key = some later → later ≠ before →
                turn.call = .commit ∧ ∃ transaction,
                  after.transactions.find? turn.client = some transaction ∧
                    after.store.graph.Deletes transaction.staged key) ∧
            (turn.call ≠ .begin → ∀ transaction further,
              after.transactions.find? turn.client = some transaction →
                next.transactions.find? turn.client = some further →
                  ∀ key before later, transaction.working.kindOf? key = some before →
                    further.working.kindOf? key = some later → later = before) := by
  obtain ⟨history, after, ran, wellFormed⟩ := wellFormed_onGraph_empty.run turns
  refine ⟨history, after, ran, wellFormed.shared, wellFormed.copies, ?_⟩
  intro turn
  obtain ⟨answer, next, result, answered, _, effect, graphEq, transactionsEq⟩ :=
    writeIn_effect wellFormed.quiet turn.client turn.call
  refine ⟨answer, next, answered, ?_, ?_⟩
  · intro key before later had has different
    rw [graphEq] at has
    exact effect.deletes_of_kindOf?_ne had has different
  · intro goesOn transaction further isOpen staysOpen key before later had has
    rw [transactionsEq, find?_keepTransaction, if_pos rfl] at staysOpen
    exact effect.kindOf?_working_eq goesOn isOpen staysOpen had has

/-- Two files are committed, one of which depends on the other; then a transaction deletes that one
and writes an entity under its key. -/
def rewritingTurns : List Turn :=
  [⟨"first", .begin⟩,
    ⟨"first", .upsertNodes
      [.file (.ofPath "a.py" "python" true), .file (.ofPath "b.py" "python" true)]⟩,
    ⟨"first", .upsertRelationships [.plain "a.py" "b.py" .dependsOn]⟩, ⟨"first", .commit⟩,
    ⟨"second", .begin⟩, ⟨"second", .deleteFiles ["a.py"]⟩,
    ⟨"second", .upsertNodes [.entity ⟨"a.py", "a", .table, 1⟩]⟩]

theorem reachable_graphs_wellFormed_rewriting :
    ∃ history after answer next transaction,
      takeTurns rewritingTurns (onGraph .empty) = some (history, after) ∧
        after.store.graph.WellFormed ∧ transaction.working.WellFormed ∧
        writeIn "second" (Writing.ask .commit) after = some (answer, next) ∧
        after.store.graph.kindOf? "a.py" = some .file ∧
        next.store.graph.kindOf? "a.py" = some .entity ∧
        after.transactions.find? "second" = some transaction ∧
        after.store.graph.Deletes transaction.staged "a.py" := by
  have told : (takeTurns rewritingTurns (onGraph .empty)).all (fun result =>
      decide (result.2.store.graph.kindOf? "a.py" = some .file) &&
        (writeIn "second" (Writing.ask .commit) result.2).all fun committed =>
          decide (committed.2.store.graph.kindOf? "a.py" = some .entity)) = true := by
    decide +kernel
  obtain ⟨history, after, ran, shared, copies, turned⟩ :=
    reachable_graphs_wellFormed rewritingTurns
  obtain ⟨answer, next, answered, changes, _⟩ := turned ⟨"second", .commit⟩
  simp only [ran, answered, Option.all_some, Bool.and_eq_true, decide_eq_true_eq] at told
  obtain ⟨_, transaction, isOpen, deletes⟩ :=
    changes "a.py" .file .entity told.1 told.2 (by decide)
  exact ⟨history, after, answer, next, transaction, ran, shared,
    copies "second" transaction isOpen, answered, told.1, told.2, isOpen, deletes⟩

end Simulation

end QueryImpact
