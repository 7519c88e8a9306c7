import Mathlib
import QueryImpact.Proofs.Store.Growth
import QueryImpact.Proofs.Store.Kinds

/-!
# Batches that clash

A batch of nodes is refused exactly when some key would belong to nodes of two kinds, the node
stored under the key and the nodes of the batch taken together.  That is no matter of the order of
the batch.  A refused batch leaves everything as it was; an accepted one leaves under each of its
keys its last node with that key.
-/

namespace QueryImpact

namespace Graph

/-- A key belongs to a node of a kind, stored or in the batch. -/
def Occurs (graph : Graph) (batch : List Node) (key : String) (kind : NodeKind) : Prop :=
  graph.kindOf? key = some kind ∨ ∃ node ∈ batch, node.key = key ∧ node.kind = kind

/-- A key belongs to nodes of both kinds, and these differ. -/
structure ClashesAt (graph : Graph) (batch : List Node) (key : String)
    (first second : NodeKind) : Prop where
  /-- The one kind. -/
  hasFirst : graph.Occurs batch key first
  /-- The other kind. -/
  hasSecond : graph.Occurs batch key second
  /-- They are not the same. -/
  different : first ≠ second

/-- Some key belongs to nodes of two kinds. -/
def Clashes (graph : Graph) (batch : List Node) : Prop :=
  ∃ key first second, graph.ClashesAt batch key first second

variable {graph : Graph} {batch : List Node}

theorem Occurs.of_subset {other : List Node} {key : String} {kind : NodeKind}
    (occurs : graph.Occurs batch key kind) (subset : batch ⊆ other) :
    graph.Occurs other key kind := by
  rcases occurs with stored | ⟨node, member, sameKey, sameKind⟩
  · exact .inl stored
  · exact .inr ⟨node, subset member, sameKey, sameKind⟩

theorem Clashes.of_subset {other : List Node} (clashes : graph.Clashes batch)
    (subset : batch ⊆ other) : graph.Clashes other := by
  obtain ⟨key, first, second, clash⟩ := clashes
  exact ⟨key, first, second, clash.hasFirst.of_subset subset, clash.hasSecond.of_subset subset,
    clash.different⟩

/-- Whether a batch clashes does not depend on its order. -/
theorem clashes_congr {other : List Node} (perm : batch.Perm other) :
    graph.Clashes batch ↔ graph.Clashes other :=
  ⟨fun clashes => clashes.of_subset perm.subset,
    fun clashes => clashes.of_subset perm.symm.subset⟩

/-- In an accepted batch a key belongs to nodes of one kind. -/
theorem Accepts.eq_of_occurs (accepts : graph.Accepts batch) {key : String}
    {first second : NodeKind} (one : graph.Occurs batch key first)
    (two : graph.Occurs batch key second) : first = second := by
  rcases one with stored | ⟨node, member, rfl, rfl⟩
  · rcases two with also | ⟨other, otherMember, rfl, rfl⟩
    · exact Option.some.inj (stored.symm.trans also)
    · exact accepts.stored other otherMember first stored
  · rcases two with stored | ⟨other, otherMember, sameKey, rfl⟩
    · exact (accepts.stored node member second stored).symm
    · exact accepts.agree node member other otherMember sameKey.symm

theorem accepts_iff_not_clashes : graph.Accepts batch ↔ ¬ graph.Clashes batch := by
  constructor
  · rintro accepts ⟨key, first, second, clash⟩
    exact clash.different (accepts.eq_of_occurs clash.hasFirst clash.hasSecond)
  · intro noClash
    have agree : ∀ key first second, graph.Occurs batch key first →
        graph.Occurs batch key second → first = second := by
      intro key first second one two
      by_contra different
      exact noClash ⟨key, first, second, one, two, different⟩
    constructor
    · intro node member kind stored
      exact agree node.key kind node.kind (.inl stored) (.inr ⟨node, member, rfl, rfl⟩)
    · intro first firstMember second secondMember sameKey
      exact agree first.key first.kind second.kind (.inr ⟨first, firstMember, rfl, rfl⟩)
        (.inr ⟨second, secondMember, sameKey.symm, rfl⟩)

/-! ## The conflict that is reported -/

theorem occurs_of_boundKind? {seen : List Node} {key : String} {kind : NodeKind}
    (bound : graph.boundKind? seen key = some kind) : graph.Occurs seen key kind := by
  rcases Option.or_eq_some_iff.mp bound with stored | ⟨_, found⟩
  · exact .inl stored
  · obtain ⟨node, first, sameKind⟩ := Option.map_eq_some_iff.mp found
    have sameKey := List.find?_some first
    rw [decide_eq_true_eq] at sameKey
    exact .inr ⟨node, List.mem_of_find?_eq_some first, sameKey, sameKind⟩

/-- A conflict names a key with two of the kinds of its nodes; of these it attempts to write the one
of a node in the batch. -/
theorem clashesAt_of_conflict? {seen : List Node} {error : StoreError}
    (found : graph.conflict? seen batch = some error) :
    ∃ key existing attempted, error = .conflict key existing.label attempted ∧
      graph.ClashesAt (seen ++ batch) key existing attempted := by
  induction batch generalizing seen with
  | nil => cases found
  | cons node rest ih =>
      -- Whatever clashes once the node is looked at clashes in the whole batch.
      have later : graph.conflict? (node :: seen) rest = some error →
          ∃ key existing attempted, error = .conflict key existing.label attempted ∧
            graph.ClashesAt (seen ++ node :: rest) key existing attempted := by
        intro found
        obtain ⟨key, existing, attempted, rfl, clash⟩ := ih found
        have subset : node :: seen ++ rest ⊆ seen ++ node :: rest :=
          (List.perm_middle.symm).subset
        exact ⟨key, existing, attempted, rfl, clash.hasFirst.of_subset subset,
          clash.hasSecond.of_subset subset, clash.different⟩
      cases bound : graph.boundKind? seen node.key with
      | none =>
          simp only [conflict?, bound] at found
          exact later found
      | some kind =>
          by_cases same : kind = node.kind
          · simp only [conflict?, bound, if_pos same] at found
            exact later found
          · simp only [conflict?, bound, if_neg same] at found
            cases found
            refine ⟨node.key, kind, node.kind, rfl, ?_, ?_, same⟩
            · exact (occurs_of_boundKind? bound).of_subset (List.subset_append_left _ _)
            · exact .inr ⟨node, List.mem_append_right _ List.mem_cons_self, rfl, rfl⟩

/-! ## What a batch leaves -/

/-- A graph overwritten by a batch of nodes, and the counts of the batch. -/
structure Overwritten (graph : Graph) (batch : List Node) (next : Graph)
    (stats : UpsertStats) : Prop where
  /-- Under each key stands the last node of the batch with that key, else what was there. -/
  nodes : ∀ key, next.nodes.find? key =
    ((batch.filter fun node => node.key = key).getLast?).or (graph.nodes.find? key)
  /-- The relationships are those from before. -/
  relationships : next.relationships = graph.relationships
  /-- The keys that were not there count as created, each once. -/
  created : stats.created =
    ((batch.map Node.key).toFinset.filter fun key => graph.nodes.find? key = none).card
  /-- Every node of the batch is counted. -/
  counted : stats.created + stats.updated = batch.length
  /-- No node is left out. -/
  missing : stats.missingEndpoints = 0

theorem overwritten_foldl_putNode (graph : Graph) (batch : List Node) :
    graph.Overwritten batch (graph.withNodes batch) (batch.foldl putNode (graph, .none)).2 where
  nodes key := by
    rw [withNodes, OrderedMap.find?_overwrite, List.getLast?_eq_head?_reverse,
      ← List.filter_reverse, List.head?_filter]
  relationships := rfl
  created := by
    rw [WriteChunk.stats_nodes]
    change ((batch.map Node.key).toFinset.filter fun key =>
      graph.nodes.contains key = false).card = _
    congr 1
    apply Finset.filter_congr
    intro key _
    rw [OrderedMap.contains, Option.isSome_eq_false_iff, Option.isNone_iff_eq_none]
  counted := by
    rw [(graph.foldl_putNode_counts .none batch).written]
    exact Nat.zero_add _
  missing := (graph.foldl_putNode_counts .none batch).missing

/-- What the writing of a batch gives: a conflict that the batch really has, or the overwritten
graph. -/
theorem upsertNodes_cases (graph : Graph) (batch : List Node) :
    (∃ key existing attempted, graph.ClashesAt batch key existing attempted ∧
        graph.upsertNodes batch = .error (.conflict key existing.label attempted)) ∨
      ¬ graph.Clashes batch ∧ ∃ next stats, graph.upsertNodes batch = .ok (next, stats) ∧
        graph.Overwritten batch next stats := by
  cases written : graph.upsertNodes batch with
  | ok result =>
      obtain ⟨accepts, rfl⟩ := upsertNodes_eq_ok_iff.mp written
      right
      refine ⟨accepts_iff_not_clashes.mp accepts, _, _, rfl, ?_⟩
      rw [foldl_putNode_fst]
      exact overwritten_foldl_putNode graph batch
  | error error =>
      left
      rw [upsertNodes] at written
      cases found : graph.conflict? [] batch with
      | none =>
          simp only [found] at written
          cases written
      | some conflict =>
          simp only [found] at written
          cases written
          obtain ⟨key, existing, attempted, rfl, clash⟩ := clashesAt_of_conflict? found
          exact ⟨key, existing, attempted, clash, rfl⟩

end Graph

namespace MemoryStore

/-- The answer and the store after a batch of nodes is written in a transaction. -/
def afterNodes (shared : Graph) (transaction : Transaction) (batch : List Node) :
    Except StoreError UpsertStats × MemoryStore :=
  handle (.upsertNodes batch) ⟨shared, some transaction⟩

variable {shared : Graph} {transaction : Transaction} {batch : List Node}

theorem afterNodes_of_error {error : StoreError}
    (refused : transaction.working.upsertNodes batch = .error error) :
    afterNodes shared transaction batch = (.error error, ⟨shared, some transaction⟩) := by
  simp only [afterNodes, handle, handleOpen, Transaction.upsertNodes, refused]
  rfl

theorem afterNodes_of_ok {next : Graph} {stats : UpsertStats}
    (written : transaction.working.upsertNodes batch = .ok (next, stats)) :
    afterNodes shared transaction batch =
      (.ok stats, ⟨shared, some ⟨next, transaction.staged ++ [.nodes batch]⟩⟩) := by
  simp only [afterNodes, handle, handleOpen, Transaction.upsertNodes, written]
  rfl

/-- A batch is answered with success exactly when it does not clash. -/
theorem isOk_afterNodes_iff :
    (afterNodes shared transaction batch).1.isOk = true ↔ ¬ transaction.working.Clashes batch := by
  rcases transaction.working.upsertNodes_cases batch with
    ⟨key, existing, attempted, clash, refused⟩ | ⟨noClash, next, stats, written, _⟩
  · rw [afterNodes_of_error refused]
    constructor
    · rintro ⟨⟩
    · intro noClash
      exact absurd ⟨key, existing, attempted, clash⟩ noClash
  · rw [afterNodes_of_ok written]
    exact ⟨fun _ => noClash, fun _ => rfl⟩

/-- A batch of nodes is refused with a conflict exactly when some key would belong to nodes of two
kinds.  The conflict names such a key and the store stays as it was.  Any other batch overwrites
the nodes and leaves the relationships alone.  The order of the batch does not matter to
whether it is refused. -/
theorem refuses_iff_clashes (shared : Graph) (transaction : Transaction) (batch : List Node) :
    let graph := transaction.working
    let after := afterNodes shared transaction batch
    ((∃ key existing attempted, after.1 = .error (.conflict key existing attempted)) ↔
        graph.Clashes batch) ∧
      (∀ error, after.1 = .error error →
        after.2 = ⟨shared, some transaction⟩ ∧
          ∃ key existing attempted, error = .conflict key existing.label attempted ∧
            graph.ClashesAt batch key existing attempted) ∧
      (¬ graph.Clashes batch →
        ∃ next stats,
          after = (.ok stats, ⟨shared, some ⟨next, transaction.staged ++ [.nodes batch]⟩⟩) ∧
            graph.Overwritten batch next stats) ∧
      ∀ other, batch.Perm other →
        (afterNodes shared transaction other).1.isOk = after.1.isOk := by
  intro graph after
  have sameOrder : ∀ other, batch.Perm other →
      (afterNodes shared transaction other).1.isOk = after.1.isOk := by
    intro other perm
    rw [Bool.eq_iff_iff, isOk_afterNodes_iff, isOk_afterNodes_iff, Graph.clashes_congr perm]
  rcases graph.upsertNodes_cases batch with
    ⟨key, existing, attempted, clash, refused⟩ | ⟨noClash, next, stats, written, overwritten⟩
  · have failed : after = (.error (.conflict key existing.label attempted), _) :=
      afterNodes_of_error refused
    have clashes : graph.Clashes batch := ⟨key, existing, attempted, clash⟩
    refine ⟨?_, ?_, absurd clashes, sameOrder⟩
    · rw [failed]
      exact ⟨fun _ => clashes, fun _ => ⟨key, existing.label, attempted, rfl⟩⟩
    · rw [failed]
      rintro _ ⟨⟩
      exact ⟨rfl, key, existing, attempted, rfl, clash⟩
  · have succeeded : after = (.ok stats, _) := afterNodes_of_ok written
    refine ⟨?_, ?_, fun _ => ⟨next, stats, succeeded, overwritten⟩, sameOrder⟩
    · rw [succeeded]
      constructor
      · rintro ⟨_, _, _, ⟨⟩⟩
      · intro clashes
        exact absurd clashes noClash
    · rw [succeeded]
      rintro _ ⟨⟩

end MemoryStore

end QueryImpact
