import QueryImpact.Proofs.Circuit.Elementary
import QueryImpact.Proofs.Graph.Route

/-!
# Distances along edges

The distance of a node from a start is the least number of edges that lead to it.  The nodes at one
distance more than a given one are the targets of edges from the nodes at that distance, apart from
the nodes that are as near or nearer.  This is what a search by layers computes.
-/

namespace QueryImpact

variable {α : Type}

/-- A number of edges leads from the start to a node. -/
inductive Hops (edge : α → α → Prop) (start : α) : Nat → α → Prop
  /-- The start itself. -/
  | none : Hops edge start 0 start
  /-- One edge more. -/
  | step {count : Nat} {source target : α} (hops : Hops edge start count source)
      (leads : edge source target) : Hops edge start (count + 1) target

/-- The least number of edges that lead from the start to a node. -/
def IsDistance (edge : α → α → Prop) (start target : α) (count : Nat) : Prop :=
  Hops edge start count target ∧ ∀ other, Hops edge start other target → count ≤ other

variable {edge : α → α → Prop} {start source target : α} {count other : Nat}

/-- Without an edge only the start is reached. -/
theorem Hops.zero_iff : Hops edge start 0 target ↔ target = start := by
  constructor
  · intro hops
    cases hops
    rfl
  · rintro rfl
    exact .none

/-- A node that can be reached has a distance. -/
theorem Hops.exists_isDistance (hops : Hops edge start count target) :
    ∃ least ≤ count, IsDistance edge start target least := by
  classical
  have reachable : ∃ number, Hops edge start number target := ⟨count, hops⟩
  refine ⟨Nat.find reachable, Nat.find_min' reachable hops, Nat.find_spec reachable, ?_⟩
  intro other otherHops
  exact Nat.find_min' reachable otherHops

namespace IsDistance

/-- A node has one distance. -/
theorem unique (first : IsDistance edge start target count)
    (second : IsDistance edge start target other) : count = other :=
  Nat.le_antisymm (first.2 other second.1) (second.2 count first.1)

/-- Only the start is at distance zero. -/
theorem zero_iff : IsDistance edge start target 0 ↔ target = start := by
  rw [IsDistance, Hops.zero_iff]
  exact and_iff_left fun other _ => Nat.zero_le other

/-- The nodes at one distance more. -/
theorem succ_iff :
    IsDistance edge start target (count + 1) ↔
      (∃ source, IsDistance edge start source count ∧ edge source target) ∧
        ∀ nearer ≤ count, ¬ IsDistance edge start target nearer := by
  constructor
  · intro distance
    obtain ⟨hops, least⟩ := distance
    rcases hops with _ | ⟨before, leads⟩
    refine ⟨⟨_, ⟨before, ?_⟩, leads⟩, ?_⟩
    · intro other otherHops
      exact Nat.le_of_succ_le_succ (least (other + 1) (otherHops.step leads))
    · intro nearer le nearerDistance
      exact Nat.not_succ_le_self count ((least nearer nearerDistance.1).trans le)
  · rintro ⟨⟨source, distance, leads⟩, notNearer⟩
    refine ⟨distance.1.step leads, ?_⟩
    intro other hops
    obtain ⟨least, le, isLeast⟩ := hops.exists_isDistance
    by_contra fewer
    exact notNearer least (by omega) isLeast

/-- On the way to a node, every smaller distance occurs. -/
theorem exists_of_le (distance : IsDistance edge start target count) (le : other ≤ count) :
    ∃ node, IsDistance edge start node other := by
  induction count generalizing target with
  | zero =>
      obtain rfl := Nat.le_zero.mp le
      exact ⟨target, distance⟩
  | succ count ih =>
      rcases Nat.eq_or_lt_of_le le with rfl | less
      · exact ⟨target, distance⟩
      · obtain ⟨⟨source, before, -⟩, -⟩ := succ_iff.mp distance
        exact ih before (Nat.le_of_lt_succ less)

end IsDistance

/-! ## Searching by layers -/

/-- A search by layers has visited the nodes up to a distance and goes on from those at it. -/
structure Layered (edge : α → α → Prop) (start : α) (depth : Nat) (visited frontier : Set α) :
    Prop where
  /-- The visited nodes. -/
  visited_iff : ∀ node, node ∈ visited ↔ ∃ near ≤ depth, IsDistance edge start node near
  /-- The frontier. -/
  frontier_iff : ∀ node, node ∈ frontier ↔ IsDistance edge start node depth

namespace Layered

variable {depth : Nat} {visited frontier next : Set α}

/-- At first, only the start is visited. -/
theorem initial (isVisited : ∀ node, node ∈ visited ↔ node = start)
    (isFrontier : ∀ node, node ∈ frontier ↔ node = start) :
    Layered edge start 0 visited frontier where
  visited_iff node := by
    simp [isVisited, IsDistance.zero_iff]
  frontier_iff node := by
    rw [isFrontier, IsDistance.zero_iff]

/-- The new nodes next to the frontier are the nodes one step further away. -/
theorem next_iff (layered : Layered edge start depth visited frontier) {node : α} :
    (∃ source ∈ frontier, edge source node) ∧ node ∉ visited ↔
      IsDistance edge start node (depth + 1) := by
  rw [IsDistance.succ_iff, layered.visited_iff]
  apply and_congr
  · simp only [layered.frontier_iff]
  · push Not
    rfl

/-- With the new nodes next to the frontier, the search has come one step further. -/
theorem step (layered : Layered edge start depth visited frontier)
    (isNext : ∀ node, node ∈ next ↔ (∃ source ∈ frontier, edge source node) ∧ node ∉ visited)
    {after : Set α} (isAfter : ∀ node, node ∈ after ↔ node ∈ next ∨ node ∈ visited) :
    Layered edge start (depth + 1) after next where
  visited_iff node := by
    rw [isAfter, isNext, layered.next_iff, layered.visited_iff]
    constructor
    · rintro (atNext | ⟨near, le, distance⟩)
      · exact ⟨depth + 1, Nat.le_refl _, atNext⟩
      · exact ⟨near, Nat.le_succ_of_le le, distance⟩
    · rintro ⟨near, le, distance⟩
      rcases Nat.eq_or_lt_of_le le with rfl | less
      · exact Or.inl distance
      · exact Or.inr ⟨near, Nat.le_of_lt_succ less, distance⟩
  frontier_iff node := by
    rw [isNext, layered.next_iff]

/-- When nothing is left to go on from, nothing is as far away. -/
theorem lt_of_empty (layered : Layered edge start depth visited frontier)
    (empty : ∀ node, node ∉ frontier) (distance : IsDistance edge start target count) :
    count < depth := by
  by_contra far
  obtain ⟨node, atDepth⟩ := distance.exists_of_le (Nat.not_lt.mp far)
  exact empty node ((layered.frontier_iff node).mpr atDepth)

end Layered

namespace Graph

/-- Some files and dependencies between them. -/
def ofDependencies (files : List String) (dependencies : List (String × String)) : Graph :=
  let edges := dependencies.map fun pair => Relationship.plain pair.1 pair.2 .dependsOn
  ⟨.ofList (files.map fun path => (path, .file (.ofPath path "java" true))),
    .ofList (edges.map fun edge => (edge.key, edge))⟩

variable {graph : Graph} {files : List String} {file other : String}

theorem mem_neighbors_outgoing_iff :
    (file, other) ∈ graph.neighbors files .outgoing ↔
      file ∈ files ∧ graph.DependsOn file other := by
  simp only [neighbors, edges, orient, DependsOn, List.mem_filter, List.mem_map, Prod.mk.injEq,
    decide_eq_true_eq, and_assoc, and_comm]

theorem mem_neighbors_incoming_iff :
    (file, other) ∈ graph.neighbors files .incoming ↔
      file ∈ files ∧ graph.DependsOn other file := by
  simp only [neighbors, edges, orient, DependsOn, List.mem_filter, List.mem_map, Prod.mk.injEq,
    decide_eq_true_eq, and_assoc, and_comm]

end Graph

end QueryImpact
