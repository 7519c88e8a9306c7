import QueryImpact.OrderedMap

/-!
# Circuits through a smallest node

The search looks for all elementary circuits that start at a given node and visit no smaller one.
It walks along edges and blocks the nodes of its path.  A node from which the start could not be
reached stays blocked until one of its successors is released; releasing a node releases, in turn,
the blocked nodes that wait for it.
-/

namespace QueryImpact

/-- The targets of the edges of a directed graph, by source. -/
abbrev Adjacency : Type :=
  OrderedMap String (OrderedSet String)

namespace Adjacency

/-- Add an edge. -/
def addEdge (adjacency : Adjacency) (edge : String × String) : Adjacency :=
  adjacency.alter edge.1 .empty fun targets => targets.add edge.2

/-- The graph with the given edges. -/
def ofEdges (edges : List (String × String)) : Adjacency :=
  edges.foldl addEdge .empty

/-- The targets of the edges that leave a node, in order. -/
def targets (adjacency : Adjacency) (node : String) : List String :=
  match adjacency.find? node with
  | some targets => targets.toList
  | none => []

/-- All sources and targets. -/
def nodes (adjacency : Adjacency) : OrderedSet String :=
  .ofList (adjacency.keys ++ adjacency.values.flatMap OrderedSet.toList)

/-- The targets of the edges that leave a node and do not lead below the start. -/
def successors (adjacency : Adjacency) (start node : String) : List String :=
  (adjacency.targets node).filter fun next => (compare next start).isGE

end Adjacency

/-- What a circuit search remembers. -/
structure CircuitSearch where
  /-- The nodes that are not to be entered. -/
  blocked : List String
  /-- For a node, the nodes that are to be released when it is. -/
  waiting : OrderedMap String (List String)
  /-- The circuits found so far, each from its start on. -/
  found : List (List String)

namespace CircuitSearch

/-- The search before its first step. -/
def fresh : CircuitSearch :=
  ⟨[], .empty, []⟩

/-- Block a node. -/
def block (search : CircuitSearch) (node : String) : CircuitSearch :=
  { search with blocked := node :: search.blocked.filter fun other => other ≠ node }

/-- The nodes that wait for a node. -/
def waitersOf (search : CircuitSearch) (node : String) : List String :=
  (search.waiting.find? node).getD []

/-- Unblock a node, and let nobody wait for it any more. -/
def forget (search : CircuitSearch) (node : String) : CircuitSearch :=
  { search with
    blocked := search.blocked.filter fun other => other ≠ node
    waiting := search.waiting.filter fun other _ => other ≠ node }

theorem length_blocked_forget_lt {search : CircuitSearch} {node : String}
    (member : node ∈ search.blocked) :
    (search.forget node).blocked.length < search.blocked.length := by
  apply List.length_filter_lt_length_iff_exists.mpr
  exact ⟨node, member, by simp⟩

/-- Release the pending nodes that are blocked, and after each of them, first, the nodes that wait
for it. -/
def release (search : CircuitSearch) (pending : List String) : CircuitSearch :=
  match pending with
  | [] => search
  | node :: rest =>
      if node ∈ search.blocked then
        (search.forget node).release (search.waitersOf node ++ rest)
      else search.release rest
termination_by (search.blocked.length, pending.length)
decreasing_by
  · exact Prod.Lex.left _ _ (length_blocked_forget_lt (by assumption))
  · exact Prod.Lex.right _ (Nat.lt_succ_self _)

/-- Unblock a node, and with it the blocked nodes that wait for it. -/
def unblock (search : CircuitSearch) (node : String) : CircuitSearch :=
  (search.forget node).release (search.waitersOf node)

/-- Let a node wait for another one. -/
def await (node : String) (search : CircuitSearch) (next : String) : CircuitSearch :=
  { search with
    waiting := search.waiting.alter next [] fun waiters =>
      if node ∈ waiters then waiters else waiters ++ [node] }

/-- Note a circuit. -/
def record (search : CircuitSearch) (path : List String) : CircuitSearch :=
  { search with found := search.found ++ [path] }

/-- Leave a node: unblock it if a circuit was closed through it, else let it wait for its
successors. -/
def leave (search : CircuitSearch) (node : String) (successors : List String) (closed : Bool) :
    CircuitSearch :=
  if closed then search.unblock node else successors.foldl (await node) search

/-- Enter a node at the end of a path and look for circuits along its successors; tell whether one
was closed.  The first argument bounds how many nodes may still be entered. -/
def circuit (adjacency : Adjacency) (start : String) :
    Nat → List String → String → CircuitSearch → Bool × CircuitSearch
  | 0, _, _, search => (false, search)
  | remaining + 1, path, node, search =>
      let extended := path ++ [node]
      let successors := adjacency.successors start node
      let visited := successors.foldl
        (fun (state : Bool × CircuitSearch) next =>
          if next = start then (true, state.2.record extended)
          else if next ∈ state.2.blocked then state
          else
            let inner := circuit adjacency start remaining extended next state.2
            (state.1 || inner.1, inner.2))
        (false, search.block node)
      (visited.1, visited.2.leave node successors visited.1)

/-- The elementary circuits that start at a node and visit no smaller one.  A path enters no node
twice, so the number of nodes bounds its length. -/
def circuitsFrom (adjacency : Adjacency) (start : String) : List (List String) :=
  (circuit adjacency start adjacency.nodes.size [] start fresh).2.found

end CircuitSearch

end QueryImpact
