import QueryImpact.Proofs.Circuit.Blocking

/-!
# The search equals the plain enumeration

A contract for entering a node, proved by induction on how many nodes may still be entered: the
search adds exactly the circuits of the plain enumeration, tells whether there is one, and keeps
its bookkeeping sound.  The number of nodes is enough room for every path.
-/

namespace QueryImpact

namespace Adjacency

/-- The circuits that continue a path by an edge to the given node. -/
def circuitsVia (adjacency : Adjacency) (start : String) (remaining : Nat) (path : List String)
    (next : String) : List (List String) :=
  if next = start then [path]
  else if next ∈ path then []
  else adjacency.circuitsThrough start remaining path next

theorem circuitsThrough_succ (adjacency : Adjacency) (start : String) (remaining : Nat)
    (path : List String) (node : String) :
    adjacency.circuitsThrough start (remaining + 1) path node =
      (adjacency.successors start node).flatMap
        (adjacency.circuitsVia start remaining (path ++ [node])) :=
  rfl

/-- A path of distinct nodes, with as much room left as there are other nodes. -/
structure HasRoom (adjacency : Adjacency) (remaining : Nat) (path : List String) : Prop where
  /-- No node is repeated. -/
  nodup : path.Nodup
  /-- The path stays in the graph. -/
  known : ∀ node ∈ path, node ∈ adjacency.nodes.toList
  /-- What is left covers the nodes off the path. -/
  covers : adjacency.nodes.size ≤ path.length + remaining

theorem HasRoom.nodup_append {adjacency : Adjacency} {remaining : Nat} {path : List String}
    (room : adjacency.HasRoom remaining path) {node : String} (new : node ∉ path) :
    (path ++ [node]).Nodup := by
  rw [← List.concat_eq_append]
  exact room.nodup.concat new

theorem HasRoom.known_append {adjacency : Adjacency} {remaining : Nat} {path : List String}
    (room : adjacency.HasRoom remaining path) {node : String}
    (nodeKnown : node ∈ adjacency.nodes.toList) :
    ∀ other ∈ path ++ [node], other ∈ adjacency.nodes.toList := by
  intro other member
  rcases List.mem_append.mp member with before | here
  · exact room.known other before
  · rwa [List.mem_singleton.mp here]

/-- A new node takes one place of the room. -/
theorem HasRoom.append {adjacency : Adjacency} {remaining : Nat} {path : List String}
    (room : adjacency.HasRoom (remaining + 1) path) {node : String} (new : node ∉ path)
    (nodeKnown : node ∈ adjacency.nodes.toList) :
    adjacency.HasRoom remaining (path ++ [node]) where
  nodup := room.nodup_append new
  known := room.known_append nodeKnown
  covers := by
    have covers := room.covers
    rw [List.length_append, List.length_singleton]
    omega

/-- A path that misses a node has room for one more. -/
theorem HasRoom.ne_zero {adjacency : Adjacency} {path : List String} {node : String}
    (new : node ∉ path) (nodeKnown : node ∈ adjacency.nodes.toList) :
    ¬adjacency.HasRoom 0 path := by
  intro room
  have longer := length_le_size_nodes (room.nodup_append new) (room.known_append nodeKnown)
  have covers := room.covers
  rw [List.length_append, List.length_singleton] at longer
  omega

end Adjacency

namespace CircuitSearch

/-- What entering a node at the end of a path does. -/
structure Explored (adjacency : Adjacency) (start : String) (remaining : Nat)
    (path : List String) (node : String) (search : CircuitSearch)
    (result : Bool × CircuitSearch) : Prop where
  /-- The circuits through the node are added. -/
  found : result.2.found = search.found ++ adjacency.circuitsThrough start remaining path node
  /-- The answer tells whether there are any. -/
  closed : result.1 = true ↔ adjacency.circuitsThrough start remaining path node ≠ []
  /-- The bookkeeping is sound for the path before the node. -/
  keeps : Keeps adjacency start path result.2
  /-- Nothing is taken back. -/
  extended : search.Extends result.2
  /-- A node without a circuit stays blocked. -/
  stuck : result.1 = false → node ∈ result.2.blocked

/-- What a walk along some of the successors of the last node of a path does. -/
structure Visited (adjacency : Adjacency) (start : String) (remaining : Nat)
    (path : List String) (search : CircuitSearch) (done : List String)
    (state : Bool × CircuitSearch) : Prop where
  /-- The circuits along these successors are added. -/
  found : state.2.found =
    search.found ++ done.flatMap (adjacency.circuitsVia start remaining path)
  /-- The flag tells whether there are any. -/
  closed : state.1 = true ↔ done.flatMap (adjacency.circuitsVia start remaining path) ≠ []
  /-- The bookkeeping is sound for the path. -/
  keeps : Keeps adjacency start path state.2
  /-- Nothing is taken back. -/
  extended : search.Extends state.2
  /-- Without a circuit, all these successors are blocked. -/
  stuck : state.1 = false → ∀ next ∈ done, next ≠ start ∧ next ∈ state.2.blocked

/-- One successor of the walk. -/
def visitNext (adjacency : Adjacency) (start : String) (remaining : Nat) (path : List String)
    (state : Bool × CircuitSearch) (next : String) : Bool × CircuitSearch :=
  if next = start then (true, state.2.record path)
  else if next ∈ state.2.blocked then state
  else
    let inner := circuit adjacency start remaining path next state.2
    (state.1 || inner.1, inner.2)

theorem circuit_succ (adjacency : Adjacency) (start : String) (remaining : Nat)
    (path : List String) (node : String) (search : CircuitSearch) :
    circuit adjacency start (remaining + 1) path node search =
      let visited := (adjacency.successors start node).foldl
        (visitNext adjacency start remaining (path ++ [node])) (false, search.block node)
      (visited.1, visited.2.leave node (adjacency.successors start node) visited.1) :=
  rfl

section Walk

variable {adjacency : Adjacency} {start : String} {remaining : Nat} {path done : List String}
  {search : CircuitSearch} {state : Bool × CircuitSearch}

theorem visited_nil (keeps : Keeps adjacency start path search) :
    Visited adjacency start remaining path search [] (false, search) where
  found := (List.append_nil _).symm
  closed := by simp
  keeps := keeps
  extended := .refl search
  stuck _ _ member := absurd member List.not_mem_nil

/-- A successor that is the start closes a circuit. -/
theorem Visited.close (visited : Visited adjacency start remaining path search done state) :
    Visited adjacency start remaining path search (done ++ [start])
      (true, state.2.record path) := by
  have via : adjacency.circuitsVia start remaining path start = [path] := if_pos rfl
  constructor
  · rw [List.flatMap_append, List.flatMap_singleton, via, ← List.append_assoc, ← visited.found]
    rfl
  · simp [via]
  · exact visited.keeps.record path
  · exact visited.extended.trans (extends_record _ _)
  · intro unclosed
    exact absurd unclosed (by simp)

/-- Skipping a blocked successor skips no circuit. -/
theorem Visited.skip (visited : Visited adjacency start remaining path search done state)
    {next : String} (notStart : next ≠ start) (blocked : next ∈ state.2.blocked) :
    Visited adjacency start remaining path search (done ++ [next]) state := by
  have via : adjacency.circuitsVia start remaining path next = [] := by
    rw [Adjacency.circuitsVia, if_neg notStart]
    split
    · rfl
    · rename_i offPath
      exact visited.keeps.circuitsThrough_eq_nil blocked offPath remaining fun _ member => member
  have same : (done ++ [next]).flatMap (adjacency.circuitsVia start remaining path) =
      done.flatMap (adjacency.circuitsVia start remaining path) := by
    rw [List.flatMap_append, List.flatMap_singleton, via, List.append_nil]
  constructor
  · rw [same]
    exact visited.found
  · rw [same]
    exact visited.closed
  · exact visited.keeps
  · exact visited.extended
  · intro unclosed other member
    rcases List.mem_append.mp member with before | here
    · exact visited.stuck unclosed other before
    · rw [List.mem_singleton.mp here]
      exact ⟨notStart, blocked⟩

/-- Entering a free successor adds the circuits through it. -/
theorem Visited.enter (visited : Visited adjacency start remaining path search done state)
    {next : String} (notStart : next ≠ start) (free : next ∉ state.2.blocked)
    {inner : Bool × CircuitSearch}
    (explored : Explored adjacency start remaining path next state.2 inner) :
    Visited adjacency start remaining path search (done ++ [next])
      (state.1 || inner.1, inner.2) := by
  have via : adjacency.circuitsVia start remaining path next =
      adjacency.circuitsThrough start remaining path next := by
    have offPath : next ∉ path := fun onPath => free (visited.keeps.path_blocked next onPath)
    rw [Adjacency.circuitsVia, if_neg notStart, if_neg offPath]
  constructor
  · rw [explored.found, visited.found, List.flatMap_append, List.flatMap_singleton, via,
      List.append_assoc]
  · rw [List.flatMap_append, List.flatMap_singleton, via, Bool.or_eq_true, visited.closed,
      explored.closed, ne_eq, ne_eq, ne_eq, List.append_eq_nil_iff, not_and_or]
  · exact explored.keeps
  · exact visited.extended.trans explored.extended
  · intro unclosed other member
    obtain ⟨unclosedBefore, unclosedInner⟩ := Bool.or_eq_false_iff.mp unclosed
    rcases List.mem_append.mp member with before | here
    · obtain ⟨otherNotStart, blocked⟩ := visited.stuck unclosedBefore other before
      exact ⟨otherNotStart, explored.extended.blocked other blocked⟩
    · rw [List.mem_singleton.mp here]
      exact ⟨notStart, explored.stuck unclosedInner⟩

/-- A walk along a list of successors, when entering each free one keeps the contract. -/
theorem Visited.foldl (visited : Visited adjacency start remaining path search done state)
    (nexts : List String)
    (enters : ∀ next ∈ nexts, ∀ current : CircuitSearch, next ∉ current.blocked →
      Keeps adjacency start path current →
        Explored adjacency start remaining path next current
          (circuit adjacency start remaining path next current)) :
    Visited adjacency start remaining path search (done ++ nexts)
      (nexts.foldl (visitNext adjacency start remaining path) state) := by
  induction nexts generalizing done state with
  | nil => simpa using visited
  | cons next rest ih =>
      have step : Visited adjacency start remaining path search (done ++ [next])
          (visitNext adjacency start remaining path state next) := by
        rw [visitNext]
        split
        · rename_i same
          rw [same]
          exact visited.close
        · rename_i notStart
          split
          · rename_i blocked
            exact visited.skip notStart blocked
          · rename_i free
            exact visited.enter notStart free
              (enters next List.mem_cons_self state.2 free visited.keeps)
      have walked := ih step fun other member => enters other (List.mem_cons_of_mem _ member)
      rwa [List.append_assoc, List.singleton_append] at walked

end Walk

/-- After the walk along all successors of a node, leaving it meets the contract for the node. -/
theorem Visited.leave {adjacency : Adjacency} {start node : String} {remaining : Nat}
    {path : List String} {search : CircuitSearch} {state : Bool × CircuitSearch}
    (visited : Visited adjacency start remaining (path ++ [node]) (search.block node)
      (adjacency.successors start node) state)
    (keeps : Keeps adjacency start path search) (free : node ∉ search.blocked) :
    Explored adjacency start (remaining + 1) path node search
      (state.1, state.2.leave node (adjacency.successors start node) state.1) := by
  have extended := (search.extends_block node).trans visited.extended
  cases answer : state.1 with
  | true =>
      obtain ⟨keepsLeft, extendedLeft⟩ := keeps.unblock extended free visited.keeps
      constructor
      · exact (state.2.without_unblock node).found.trans visited.found
      · rw [Adjacency.circuitsThrough_succ, ← visited.closed, answer]
      · exact keepsLeft
      · exact extendedLeft
      · intro unclosed
        exact absurd unclosed (by simp)
  | false =>
      obtain ⟨keepsLeft, extendedLeft⟩ :=
        Keeps.await extended free visited.keeps (visited.stuck answer)
      obtain ⟨sameBlocked, sameFound, _⟩ :=
        foldl_await_eq node (adjacency.successors start node) state.2
      constructor
      · exact sameFound.trans visited.found
      · rw [Adjacency.circuitsThrough_succ, ← visited.closed, answer]
      · exact keepsLeft
      · exact extendedLeft
      · intro _
        change node ∈ ((adjacency.successors start node).foldl (await node) state.2).blocked
        rw [sameBlocked]
        exact visited.keeps.path_blocked node (by simp)

/-- Entering a free node of the graph does what the contract says. -/
theorem explored_circuit {adjacency : Adjacency} {start : String} {remaining : Nat}
    {path : List String} (room : adjacency.HasRoom remaining path) {node : String}
    (known : node ∈ adjacency.nodes.toList) {search : CircuitSearch}
    (free : node ∉ search.blocked) (keeps : Keeps adjacency start path search) :
    Explored adjacency start remaining path node search
      (circuit adjacency start remaining path node search) := by
  have new : node ∉ path := fun onPath => free (keeps.path_blocked node onPath)
  induction remaining generalizing path node search with
  | zero => exact absurd room (Adjacency.HasRoom.ne_zero new known)
  | succ remaining ih =>
      have roomAfter := room.append new known
      have walked : Visited adjacency start remaining (path ++ [node]) (search.block node)
          ([] ++ adjacency.successors start node)
          ((adjacency.successors start node).foldl
            (visitNext adjacency start remaining (path ++ [node])) (false, search.block node)) := by
        apply (visited_nil (keeps.block node)).foldl
        intro next successor current nextFree nextKeeps
        have edge := (Adjacency.mem_successors.mp successor).1
        exact ih roomAfter (Adjacency.mem_nodes_of_hasEdge edge) nextFree nextKeeps
          fun onPath => nextFree (nextKeeps.path_blocked next onPath)
      rw [circuit_succ]
      exact walked.leave keeps free

/-- The circuits from a node are those of the plain enumeration. -/
theorem circuitsFrom_eq {adjacency : Adjacency} {start : String}
    (known : start ∈ adjacency.nodes.toList) :
    circuitsFrom adjacency start =
      adjacency.circuitsThrough start adjacency.nodes.size [] start := by
  have room : adjacency.HasRoom adjacency.nodes.size [] :=
    ⟨List.nodup_nil, fun _ member => absurd member List.not_mem_nil, by simp⟩
  have explored := explored_circuit room known List.not_mem_nil (keeps_fresh adjacency start)
  exact explored.found

end CircuitSearch

end QueryImpact
