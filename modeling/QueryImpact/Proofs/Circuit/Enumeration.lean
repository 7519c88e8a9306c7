import Mathlib
import QueryImpact.Analysis.Circuit
import QueryImpact.Proofs.OrderedMap

/-!
# Plain enumeration of circuits

Continuing a path in all ways that meet no node of the path again, and with no other bookkeeping,
gives the circuits through its nodes in increasing order, each once.
-/

namespace QueryImpact

/-- Distinct members of a set are at most as many as its members. -/
theorem OrderedSet.length_le_size {set : OrderedSet String} {members : List String}
    (nodup : members.Nodup) (contained : ∀ member ∈ members, member ∈ set.toList) :
    members.length ≤ set.size := by
  have size : set.size = set.toList.length := by
    simp [OrderedMap.size, OrderedSet.toList, OrderedMap.keys]
  rw [size]
  exact (List.subperm_of_subset nodup contained).length_le

namespace Adjacency

/-- Whether an edge leads from one node to another. -/
def HasEdge (adjacency : Adjacency) (source target : String) : Prop :=
  target ∈ adjacency.targets source

theorem hasEdge_iff {adjacency : Adjacency} {source target : String} :
    adjacency.HasEdge source target ↔
      ∃ targets, adjacency.find? source = some targets ∧ targets.contains target = true := by
  rw [HasEdge, targets]
  cases adjacency.find? source with
  | none => simp
  | some targets => simp [OrderedSet.mem_toList_iff]

theorem hasEdge_addEdge {adjacency : Adjacency} {edge : String × String}
    {source target : String} :
    (adjacency.addEdge edge).HasEdge source target ↔
      (source, target) = edge ∨ adjacency.HasEdge source target := by
  obtain ⟨edgeSource, edgeTarget⟩ := edge
  simp only [hasEdge_iff, addEdge, OrderedMap.alter, OrderedMap.find?_insert, Prod.mk.injEq]
  by_cases same : source = edgeSource
  · subst same
    cases adjacency.find? source with
    | none => simp [OrderedSet.contains_add]
    | some targets => simp [OrderedSet.contains_add]
  · simp [same]

theorem hasEdge_foldl_addEdge {edges : List (String × String)} {adjacency : Adjacency}
    {source target : String} :
    (edges.foldl addEdge adjacency).HasEdge source target ↔
      (source, target) ∈ edges ∨ adjacency.HasEdge source target := by
  induction edges generalizing adjacency with
  | nil => simp
  | cons edge rest ih =>
      rw [List.foldl_cons, ih, hasEdge_addEdge, List.mem_cons, or_left_comm, or_assoc]

/-- The edges of a graph made from a list are those of the list. -/
theorem hasEdge_ofEdges {edges : List (String × String)} {source target : String} :
    (ofEdges edges).HasEdge source target ↔ (source, target) ∈ edges := by
  rw [ofEdges, hasEdge_foldl_addEdge, hasEdge_iff]
  simp

@[simp]
theorem mem_successors {adjacency : Adjacency} {start node next : String} :
    next ∈ adjacency.successors start node ↔ adjacency.HasEdge node next ∧ start ≤ next := by
  rw [successors, List.mem_filter, HasEdge, Std.LawfulLECmp.isGE_iff_ge]

theorem sorted_successors (adjacency : Adjacency) (start node : String) :
    (adjacency.successors start node).Pairwise (· < ·) := by
  apply List.Pairwise.filter
  rw [targets]
  cases adjacency.find? node with
  | none => exact List.Pairwise.nil
  | some targets => exact OrderedSet.sorted_toList targets

theorem mem_keys_of_hasEdge {adjacency : Adjacency} {source target : String}
    (edge : adjacency.HasEdge source target) : source ∈ adjacency.keys := by
  obtain ⟨targets, found, _⟩ := hasEdge_iff.mp edge
  exact OrderedMap.mem_keys_iff.mpr ⟨targets, found⟩

theorem mem_nodes_of_mem_keys {adjacency : Adjacency} {node : String}
    (member : node ∈ adjacency.keys) : node ∈ adjacency.nodes.toList := by
  rw [nodes, OrderedSet.mem_toList_ofList, List.mem_append]
  exact Or.inl member

theorem mem_nodes_of_hasEdge {adjacency : Adjacency} {source target : String}
    (edge : adjacency.HasEdge source target) : target ∈ adjacency.nodes.toList := by
  obtain ⟨targets, found, contained⟩ := hasEdge_iff.mp edge
  rw [nodes, OrderedSet.mem_toList_ofList, List.mem_append]
  right
  apply List.mem_flatMap.mpr
  exact ⟨targets, OrderedMap.mem_values_iff.mpr ⟨source, found⟩,
    OrderedSet.mem_toList_iff.mpr contained⟩

/-- Every node of a chain but the first is entered by an edge. -/
theorem exists_hasEdge_of_mem {adjacency : Adjacency} {first file : String} {rest : List String}
    (chain : List.IsChain adjacency.HasEdge (first :: rest)) (member : file ∈ rest) :
    ∃ source, adjacency.HasEdge source file := by
  induction rest generalizing first with
  | nil => exact absurd member List.not_mem_nil
  | cons next later ih =>
      obtain ⟨edge, chainRest⟩ := List.isChain_cons_cons.mp chain
      rcases List.mem_cons.mp member with rfl | memberLater
      · exact ⟨first, edge⟩
      · exact ih chainRest memberLater

/-- Distinct nodes of a graph are at most as many as its nodes. -/
theorem length_le_size_nodes {adjacency : Adjacency} {path : List String} (nodup : path.Nodup)
    (known : ∀ node ∈ path, node ∈ adjacency.nodes.toList) :
    path.length ≤ adjacency.nodes.size :=
  OrderedSet.length_le_size nodup known

/-- The ways on from a node at the end of a path and back to the start, through nodes above the
start that are new to the path. -/
inductive WayBack (adjacency : Adjacency) (start : String) :
    List String → String → List String → Prop
  /-- An edge leads back to the start. -/
  | close {path : List String} {node : String} :
      adjacency.HasEdge node start → WayBack adjacency start path node []
  /-- An edge leads to a new node, and there is a way on from there. -/
  | onward {path : List String} {node next : String} {rest : List String} :
      adjacency.HasEdge node next → start < next → next ∉ path ++ [node] →
        WayBack adjacency start (path ++ [node]) next rest →
          WayBack adjacency start path node (next :: rest)

/-- The circuits that continue a path through a node and enter at most so many nodes. -/
def circuitsThrough (adjacency : Adjacency) (start : String) :
    Nat → List String → String → List (List String)
  | 0, _, _ => []
  | remaining + 1, path, node =>
      (adjacency.successors start node).flatMap fun next =>
        if next = start then [path ++ [node]]
        else if next ∈ path ++ [node] then []
        else circuitsThrough adjacency start remaining (path ++ [node]) next

theorem mem_circuitsThrough_iff {adjacency : Adjacency} {start : String} {remaining : Nat}
    {path files : List String} {node : String} :
    files ∈ adjacency.circuitsThrough start remaining path node ↔
      ∃ rest, adjacency.WayBack start path node rest ∧ rest.length < remaining ∧
        files = path ++ node :: rest := by
  induction remaining generalizing path node with
  | zero => simp [circuitsThrough]
  | succ remaining ih =>
      rw [circuitsThrough, List.mem_flatMap]
      constructor
      · rintro ⟨next, successor, member⟩
        obtain ⟨edge, above⟩ := mem_successors.mp successor
        split at member
        · rename_i same
          subst same
          exact ⟨[], .close edge, Nat.succ_pos _, List.mem_singleton.mp member⟩
        · rename_i notStart
          split at member
          · exact absurd member List.not_mem_nil
          · rename_i new
            obtain ⟨rest, wayBack, short, rfl⟩ := ih.mp member
            refine ⟨next :: rest, .onward edge ?_ new wayBack, Nat.succ_lt_succ short, ?_⟩
            · exact lt_of_le_of_ne above (Ne.symm notStart)
            · rw [List.append_assoc, List.singleton_append]
      · rintro ⟨rest, wayBack, short, rfl⟩
        cases wayBack with
        | close edge =>
            refine ⟨start, mem_successors.mpr ⟨edge, le_refl start⟩, ?_⟩
            rw [if_pos rfl]
            exact List.mem_singleton_self _
        | @onward _ _ next rest edge above new wayBack =>
            refine ⟨next, mem_successors.mpr ⟨edge, le_of_lt above⟩, ?_⟩
            rw [if_neg (ne_of_gt above), if_neg new, ih]
            refine ⟨rest, wayBack, Nat.lt_of_succ_lt_succ short, ?_⟩
            rw [List.append_assoc, List.singleton_append]

/-- The enumeration is in increasing order. -/
theorem sorted_circuitsThrough (adjacency : Adjacency) (start : String) (remaining : Nat)
    (path : List String) (node : String) :
    (adjacency.circuitsThrough start remaining path node).Pairwise (· < ·) := by
  induction remaining generalizing path node with
  | zero => exact List.Pairwise.nil
  | succ remaining ih =>
      rw [circuitsThrough, List.pairwise_flatMap]
      constructor
      · intro next _
        split
        · exact List.pairwise_singleton _ _
        · split
          · exact List.Pairwise.nil
          · exact ih _ _
      · apply (adjacency.sorted_successors start node).imp_of_mem
        intro first second firstMember _ below files filesMember later laterMember
        have aboveStart : start < second :=
          lt_of_le_of_lt (mem_successors.mp firstMember).2 below
        -- Only the first successor can be the start, so the later circuit goes on.
        rw [if_neg (ne_of_gt aboveStart)] at laterMember
        split at laterMember
        · exact absurd laterMember List.not_mem_nil
        · obtain ⟨laterRest, _, _, rfl⟩ := mem_circuitsThrough_iff.mp laterMember
          split at filesMember
          · rw [List.mem_singleton.mp filesMember]
            have longer : path ++ [node] ++ [] < path ++ [node] ++ second :: laterRest :=
              List.append_left_lt (List.nil_lt_cons second laterRest)
            rwa [List.append_nil] at longer
          · split at filesMember
            · exact absurd filesMember List.not_mem_nil
            · obtain ⟨rest, _, _, rfl⟩ := mem_circuitsThrough_iff.mp filesMember
              apply List.append_left_lt
              exact List.cons_lt_cons_iff.mpr (Or.inl below)

/-- A way back is a chain of edges to the start through distinct new nodes above it. -/
theorem wayBack_iff {adjacency : Adjacency} {start node : String} {path rest : List String} :
    adjacency.WayBack start path node rest ↔
      List.IsChain adjacency.HasEdge (node :: (rest ++ [start])) ∧ rest.Nodup ∧
        ∀ file ∈ rest, start < file ∧ file ∉ path ++ [node] := by
  induction rest generalizing path node with
  | nil =>
      constructor
      · rintro ⟨edge⟩
        simpa using edge
      · rintro ⟨chain, _, _⟩
        exact .close (by simpa using chain)
  | cons next rest ih =>
      constructor
      · rintro (_ | ⟨edge, above, new, wayBack⟩)
        obtain ⟨chain, nodup, fresh⟩ := ih.mp wayBack
        refine ⟨List.isChain_cons_cons.mpr ⟨edge, chain⟩, ?_, ?_⟩
        · refine List.nodup_cons.mpr ⟨fun member => ?_, nodup⟩
          exact (fresh next member).2 (by simp)
        · intro file member
          rcases List.mem_cons.mp member with rfl | later
          · exact ⟨above, new⟩
          · refine ⟨(fresh file later).1, fun visited => ?_⟩
            exact (fresh file later).2 (List.mem_append_left _ visited)
      · rintro ⟨chain, nodup, fresh⟩
        obtain ⟨edge, chainRest⟩ := List.isChain_cons_cons.mp chain
        obtain ⟨different, nodupRest⟩ := List.nodup_cons.mp nodup
        obtain ⟨above, new⟩ := fresh next List.mem_cons_self
        refine .onward edge above new (ih.mpr ⟨chainRest, nodupRest, fun file member => ?_⟩)
        obtain ⟨fileAbove, fileNew⟩ := fresh file (List.mem_cons_of_mem _ member)
        refine ⟨fileAbove, fun visited => ?_⟩
        rcases List.mem_append.mp visited with before | here
        · exact fileNew before
        · rw [List.mem_singleton.mp here] at member
          exact different member

end Adjacency

end QueryImpact
