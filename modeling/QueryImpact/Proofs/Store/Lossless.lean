import QueryImpact.Proofs.Build.Fragment
import QueryImpact.Proofs.Store.Integrity

/-!
# Writes without loss

A write of nodes is refused only for a conflict of kinds, and a relationship is left out only when
it lacks an end.  Where keys tell the kinds of all nodes, no write is refused, on whatever graph of
such nodes it is made.  Where the ends of every relationship are given before it, none is left out.
The graph is then the initial one with all given nodes and relationships stored under their keys, in
the order of the writes.
-/

namespace QueryImpact

/-! ## Nothing is refused -/

section Kinds

variable {tell : String → NodeKind}

/-- The keys of the given nodes tell their kinds. -/
def WriteOperation.Tells (tell : String → NodeKind) (operation : WriteOperation) : Prop :=
  ∀ node ∈ operation.givenNodes, tell node.key = node.kind

namespace Graph

/-- The keys of the stored nodes tell their kinds. -/
def Tells (tell : String → NodeKind) (graph : Graph) : Prop :=
  ∀ key kind, graph.kindOf? key = some kind → tell key = kind

theorem tells_empty : empty.Tells tell := by
  intro key kind found
  simp [kindOf?, empty] at found

/-- Where keys tell kinds, a batch of nodes is accepted. -/
theorem Tells.accepts {graph : Graph} (tells : graph.Tells tell) {batch : List Node}
    (told : ∀ node ∈ batch, tell node.key = node.kind) : graph.Accepts batch where
  stored node member kind found := (tells node.key kind found).symm.trans (told node member)
  agree := kindsAgree_of_tells tell told

theorem Tells.apply {graph : Graph} (tells : graph.Tells tell) {chunk : WriteChunk}
    (told : chunk.operation.Tells tell) :
    ∃ next, graph.apply chunk.operation = .ok next ∧ next.Tells tell := by
  cases chunk with
  | nodes batch =>
      have accepts := tells.accepts told
      refine ⟨_, apply_nodes_eq_ok_iff.mpr ⟨accepts, rfl⟩, ?_⟩
      intro key kind found
      rcases (accepts.kindOf?_withNodes key kind).mp found with stored | ⟨node, member, rfl, rfl⟩
      · exact tells key kind stored
      · exact told node member
  | relationships batch =>
      refine ⟨_, rfl, ?_⟩
      rw [upsertRelationships_fst]
      exact tells

/-- Where keys tell kinds, chunks are written one after the other. -/
theorem Tells.applyAll {graph : Graph} (tells : graph.Tells tell) {chunks : List WriteChunk}
    (told : ∀ chunk ∈ chunks, chunk.operation.Tells tell) :
    ∃ last, graph.applyAll (chunks.map WriteChunk.operation) = .ok last ∧ last.Tells tell := by
  induction chunks generalizing graph with
  | nil => exact ⟨graph, rfl, tells⟩
  | cons chunk rest ih =>
      obtain ⟨here, later⟩ := List.forall_mem_cons.mp told
      obtain ⟨next, applied, nextTells⟩ := tells.apply here
      obtain ⟨last, appliedLater, lastTells⟩ := ih nextTells later
      exact ⟨last, applyAll_cons_eq_ok_iff.mpr ⟨next, applied, appliedLater⟩, lastTells⟩

end Graph

end Kinds

/-! ## Nothing is left out -/

/-- The ends of the given relationships are known, or are given before them.  Nothing is deleted. -/
def EndsGiven (known : String → Prop) : List WriteOperation → Prop
  | [] => True
  | .nodes batch :: rest =>
      EndsGiven (fun key => known key ∨ ∃ node ∈ batch, node.key = key) rest
  | .relationships batch :: rest =>
      (∀ relationship ∈ batch, known relationship.source ∧ known relationship.target) ∧
        EndsGiven known rest
  | .deleteFiles _ :: _ => False

namespace EndsGiven

variable {known : String → Prop}

/-- It does no harm to know more. -/
theorem mono {other : String → Prop} {operations : List WriteOperation}
    (ends : EndsGiven known operations) (more : ∀ key, known key → other key) :
    EndsGiven other operations := by
  induction operations generalizing known other with
  | nil => trivial
  | cons operation rest ih =>
      cases operation with
      | nodes batch =>
          apply ih ends
          rintro key (before | given)
          · exact Or.inl (more key before)
          · exact Or.inr given
      | relationships batch =>
          obtain ⟨here, later⟩ := ends
          constructor
          · intro relationship member
            obtain ⟨source, target⟩ := here relationship member
            exact ⟨more _ source, more _ target⟩
          · exact ih later more
      | deleteFiles paths => exact ends

/-- Writes in a row: the later ones know the nodes of the earlier ones. -/
theorem append_iff {first second : List WriteOperation} :
    EndsGiven known (first ++ second) ↔
      EndsGiven known first ∧
        EndsGiven (fun key => known key ∨
          ∃ node ∈ first.flatMap WriteOperation.givenNodes, node.key = key) second := by
  induction first generalizing known with
  | nil => simp [EndsGiven]
  | cons operation rest ih =>
      cases operation with
      | nodes batch =>
          rw [List.cons_append, EndsGiven, EndsGiven, ih]
          simp [WriteOperation.givenNodes, or_and_right, exists_or, or_assoc]
      | relationships batch =>
          rw [List.cons_append, EndsGiven, EndsGiven, ih, and_assoc]
          simp [WriteOperation.givenNodes]
      | deleteFiles paths => simp [EndsGiven]

theorem of_nodes (batches : List (List Node)) : EndsGiven known (batches.map .nodes) := by
  induction batches generalizing known with
  | nil => trivial
  | cons batch rest ih => exact ih

theorem of_relationships {batches : List (List Relationship)}
    (ends : ∀ relationship ∈ batches.flatten,
      known relationship.source ∧ known relationship.target) :
    EndsGiven known (batches.map .relationships) := by
  induction batches with
  | nil => trivial
  | cons batch rest ih =>
      rw [List.flatten_cons] at ends
      constructor
      · exact fun relationship member => ends relationship (List.mem_append_left _ member)
      · exact ih fun relationship member => ends relationship (List.mem_append_right _ member)

/-- An import gives the ends of its relationships first, if its nodes are those ends. -/
theorem of_writes {input : ImportInput} (size : Nat)
    (hasEnds : ∀ relationship ∈ input.relationships, relationship.HasEnds input.nodes) :
    EndsGiven (fun _ => False) (input.writes size) := by
  rw [ImportInput.writes_eq, append_iff]
  refine ⟨of_nodes _, of_relationships ?_⟩
  have given : ((chunks size input.nodes).map WriteOperation.nodes).flatMap
      WriteOperation.givenNodes = input.nodes := by
    simp [List.flatMap_map, WriteOperation.givenNodes, List.flatMap_id']
  rw [flatten_chunks, given]
  intro relationship member
  obtain ⟨source, target⟩ := hasEnds relationship member
  exact ⟨Or.inr source, Or.inr target⟩

/-- Where ends are given first, everything that is given is stored. -/
theorem applyAll {graph last : Graph} {operations : List WriteOperation}
    (ends : EndsGiven (fun key => graph.nodes.contains key = true) operations)
    (applied : graph.applyAll operations = .ok last) :
    last = (graph.withNodes (operations.flatMap WriteOperation.givenNodes)).withRelationships
      (operations.flatMap WriteOperation.givenRelationships) := by
  induction operations generalizing graph with
  | nil => exact (Except.ok.inj applied).symm
  | cons operation rest ih =>
      obtain ⟨next, appliedHere, appliedLater⟩ := Graph.applyAll_cons_eq_ok_iff.mp applied
      rw [List.flatMap_cons, List.flatMap_cons]
      cases operation with
      | nodes batch =>
          obtain ⟨_, rfl⟩ := Graph.apply_nodes_eq_ok_iff.mp appliedHere
          have endsLater : EndsGiven
              (fun key => (graph.withNodes batch).nodes.contains key = true) rest := by
            rw [EndsGiven] at ends
            apply ends.mono
            rintro key (before | given)
            · exact (OrderedMap.contains_overwrite _).mpr (Or.inr before)
            · exact (OrderedMap.contains_overwrite _).mpr (Or.inl given)
          rw [ih endsLater appliedLater, ← Graph.withNodes_append]
          rfl
      | relationships batch =>
          obtain ⟨here, later⟩ := ends
          have whole : batch.filter graph.hasEnds = batch := by
            apply List.filter_eq_self.mpr
            intro relationship member
            exact Bool.and_eq_true_iff.mpr (here relationship member)
          obtain rfl := Except.ok.inj appliedHere
          rw [Graph.upsertRelationships_fst, whole] at appliedLater
          rw [@ih (graph.withRelationships batch) later appliedLater,
            WriteOperation.givenRelationships, Graph.withRelationships_append]
          rfl
      | deleteFiles paths => exact absurd ends id

end EndsGiven

end QueryImpact
