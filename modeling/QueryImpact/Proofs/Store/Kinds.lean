import QueryImpact.Proofs.Store.Upsert

/-!
# Kinds of stored nodes

A key keeps the kind of its node when nodes and relationships are written.  A batch of nodes is
accepted exactly when this is possible: its nodes agree with each other and with what is stored.
So a batch that was refused once is refused again later, and one that was accepted once is accepted
again.
-/

namespace QueryImpact

/-- Nodes with one key have one kind. -/
def KindsAgree (nodes : List Node) : Prop :=
  ∀ first ∈ nodes, ∀ second ∈ nodes, first.key = second.key → first.kind = second.kind

theorem KindsAgree.of_subset {nodes others : List Node} (agree : KindsAgree nodes)
    (subset : others ⊆ nodes) : KindsAgree others :=
  fun first firstMember second secondMember =>
    agree first (subset firstMember) second (subset secondMember)

/-- Where keys tell kinds, the kinds agree. -/
theorem kindsAgree_of_tells (tell : String → NodeKind) {nodes : List Node}
    (told : ∀ node ∈ nodes, tell node.key = node.kind) : KindsAgree nodes := by
  intro first firstMember second secondMember sameKey
  rw [← told first firstMember, ← told second secondMember, sameKey]

namespace Graph

/-- The kind of the node under a key. -/
def kindOf? (graph : Graph) (key : String) : Option NodeKind :=
  (graph.nodes.find? key).map Node.kind

/-- Keys that have a kind in the first graph have it in the second. -/
def KeepsKinds (graph next : Graph) : Prop :=
  ∀ key kind, graph.kindOf? key = some kind → next.kindOf? key = some kind

theorem KeepsKinds.refl (graph : Graph) : graph.KeepsKinds graph :=
  fun _ _ found => found

theorem KeepsKinds.trans {first second third : Graph} (one : first.KeepsKinds second)
    (two : second.KeepsKinds third) : first.KeepsKinds third :=
  fun key kind found => two key kind (one key kind found)

/-! ## Accepted batches -/

/-- A batch of nodes that brings no key two kinds. -/
structure Accepts (graph : Graph) (batch : List Node) : Prop where
  /-- The nodes agree with what is stored. -/
  stored : ∀ node ∈ batch, ∀ kind, graph.kindOf? node.key = some kind → kind = node.kind
  /-- The nodes agree with each other. -/
  agree : KindsAgree batch

theorem kindsAgree_cons {node : Node} {rest : List Node} :
    KindsAgree (node :: rest) ↔
      (∀ other ∈ rest, node.key = other.key → node.kind = other.kind) ∧ KindsAgree rest := by
  constructor
  · intro agree
    constructor
    · intro other member
      exact agree node List.mem_cons_self other (List.mem_cons_of_mem _ member)
    · intro first firstMember second secondMember
      exact agree first (List.mem_cons_of_mem _ firstMember) second
        (List.mem_cons_of_mem _ secondMember)
  · rintro ⟨headAgrees, agree⟩ first firstMember second secondMember sameKey
    rcases List.mem_cons.mp firstMember with rfl | firstLater
    · rcases List.mem_cons.mp secondMember with rfl | secondLater
      · rfl
      · exact headAgrees second secondLater sameKey
    · rcases List.mem_cons.mp secondMember with rfl | secondLater
      · exact (headAgrees first firstLater sameKey.symm).symm
      · exact agree first firstLater second secondLater sameKey

/-- Before any node is looked at, the stored kinds are bound. -/
@[simp]
theorem boundKind?_nil (graph : Graph) (key : String) :
    graph.boundKind? [] key = graph.kindOf? key :=
  Option.or_none

/-- Looking at a node that agrees with what is bound binds its key to its kind. -/
theorem boundKind?_cons {graph : Graph} {node : Node} {seen : List Node}
    (agrees : ∀ kind, graph.boundKind? seen node.key = some kind → kind = node.kind)
    (key : String) :
    graph.boundKind? (node :: seen) key =
      if node.key = key then some node.kind else graph.boundKind? seen key := by
  by_cases same : node.key = key
  · subst same
    cases stored : graph.nodes.find? node.key with
    | none => simp [boundKind?, stored]
    | some known =>
        have sameKind : known.kind = node.kind := agrees known.kind (by simp [boundKind?, stored])
        simp [boundKind?, stored, sameKind]
  · simp [boundKind?, same]

/-- A batch has no conflict exactly when its nodes agree with the kinds bound before and with each
other. -/
theorem conflict?_eq_none_iff {graph : Graph} {seen batch : List Node} :
    graph.conflict? seen batch = none ↔
      (∀ node ∈ batch, ∀ kind, graph.boundKind? seen node.key = some kind → kind = node.kind) ∧
        KindsAgree batch := by
  induction batch generalizing seen with
  | nil => simp [conflict?, KindsAgree]
  | cons node rest ih =>
      have step : graph.conflict? seen (node :: rest) = none ↔
          (∀ kind, graph.boundKind? seen node.key = some kind → kind = node.kind) ∧
            graph.conflict? (node :: seen) rest = none := by
        rw [conflict?]
        cases bound : graph.boundKind? seen node.key with
        | none => simp
        | some kind => by_cases same : kind = node.kind <;> simp [same]
      rw [step, ih, List.forall_mem_cons, kindsAgree_cons, and_assoc]
      apply and_congr_right
      intro agrees
      rw [← and_assoc]
      apply and_congr_left
      intro _
      rw [← forall₂_and]
      apply forall₂_congr
      intro other _
      rw [boundKind?_cons agrees]
      by_cases same : node.key = other.key
      · rw [if_pos same, ← same]
        constructor
        · intro bound
          have sameKind := bound node.kind rfl
          exact ⟨fun kind found => (agrees kind found).trans sameKind, fun _ => sameKind⟩
        · rintro ⟨_, sameKind⟩ kind found
          exact (Option.some.inj found).symm.trans (sameKind rfl)
      · rw [if_neg same]
        simp [same]

theorem upsertNodes_eq_ok_iff {graph : Graph} {batch : List Node}
    {result : Graph × UpsertStats} :
    graph.upsertNodes batch = .ok result ↔
      graph.Accepts batch ∧ result = batch.foldl putNode (graph, .none) := by
  have accepted : graph.conflict? [] batch = none ↔ graph.Accepts batch := by
    rw [conflict?_eq_none_iff]
    simp only [boundKind?_nil]
    constructor
    · rintro ⟨stored, agree⟩
      exact ⟨stored, agree⟩
    · rintro ⟨stored, agree⟩
      exact ⟨stored, agree⟩
  rw [← accepted, upsertNodes]
  cases graph.conflict? [] batch with
  | none => simp [eq_comm]
  | some error => simp

/-- A batch that fits a graph fits every graph with fewer kinds. -/
theorem Accepts.of_keepsKinds {graph next : Graph} {batch : List Node}
    (accepts : next.Accepts batch) (keeps : graph.KeepsKinds next) : graph.Accepts batch where
  stored node member kind found := accepts.stored node member kind (keeps _ _ found)
  agree := accepts.agree

/-! ## Kinds after writes -/

/-- After a batch is written, its keys have the kinds of its nodes, and the other keys what they
had. -/
theorem Accepts.kindOf?_withNodes {graph : Graph} {batch : List Node}
    (accepts : graph.Accepts batch) (key : String) (kind : NodeKind) :
    (graph.withNodes batch).kindOf? key = some kind ↔
      graph.kindOf? key = some kind ∨ ∃ node ∈ batch, node.key = key ∧ node.kind = kind := by
  have last : (graph.withNodes batch).kindOf? key =
      ((batch.reverse.find? fun node => node.key = key).map Node.kind).or
        (graph.kindOf? key) := by
    rw [kindOf?, withNodes, OrderedMap.find?_overwrite, kindOf?]
    cases batch.reverse.find? fun node => node.key = key <;> rfl
  rw [last]
  cases found : batch.reverse.find? fun node => node.key = key with
  | none =>
      have absent := List.find?_eq_none.mp found
      simp only [List.mem_reverse, decide_eq_true_eq] at absent
      simp only [Option.map_none, Option.none_or]
      constructor
      · exact Or.inl
      · rintro (stored | ⟨node, member, sameKey, _⟩)
        · exact stored
        · exact absurd sameKey (absent node member)
  | some written =>
      have member : written ∈ batch := List.mem_reverse.mp (List.mem_of_find?_eq_some found)
      have sameKey := List.find?_some found
      simp only [decide_eq_true_eq] at sameKey
      simp only [Option.map_some, Option.some_or, Option.some.injEq]
      constructor
      · intro sameKind
        exact Or.inr ⟨written, member, sameKey, sameKind⟩
      · rintro (stored | ⟨node, nodeMember, nodeKey, rfl⟩)
        · rw [← sameKey] at stored
          exact (accepts.stored written member kind stored).symm
        · exact accepts.agree written member node nodeMember (sameKey.trans nodeKey.symm)

theorem Accepts.keepsKinds_withNodes {graph : Graph} {batch : List Node}
    (accepts : graph.Accepts batch) : graph.KeepsKinds (graph.withNodes batch) := by
  intro key kind found
  exact (accepts.kindOf?_withNodes key kind).mpr (Or.inl found)

end Graph

end QueryImpact
