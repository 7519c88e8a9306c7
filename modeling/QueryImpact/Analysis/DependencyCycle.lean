import QueryImpact.Analysis.Circuit
import QueryImpact.Json.Value
import QueryImpact.Store.Lookup
import Std.Data.HashSet

/-!
# Circular dependencies

Every elementary cycle of dependencies is reported once, starting at its smallest file.
-/

namespace QueryImpact

/-- A cycle of dependencies. -/
structure DependencyCycle where
  /-- The files in order; the last one depends on the first. -/
  files : List String
deriving DecidableEq

namespace DependencyCycle

/-- The number of files. -/
def length (cycle : DependencyCycle) : Nat :=
  cycle.files.length

/-- The smallest of some files, at least as small as the given one. -/
def smallest (first : String) (files : List String) : String :=
  files.foldl (fun least file => if compare file least = .lt then file else least) first

/-- The same cycle from its smallest file on. -/
def canonical (cycle : DependencyCycle) : List String :=
  match cycle.files with
  | [] => []
  | first :: rest =>
      let start := cycle.files.findIdx fun file => file == smallest first rest
      cycle.files.drop start ++ cycle.files.take start

/-- Cycles of which none is a rotation of another. -/
structure Collection where
  /-- The cycles in the order in which they came. -/
  cycles : Array DependencyCycle
  /-- The same cycles from their smallest files on. -/
  seen : Std.HashSet (List String)

namespace Collection

/-- No cycles. -/
def empty : Collection :=
  ⟨#[], ∅⟩

/-- Keep a cycle unless it is a rotation of one that is there. -/
def add (collection : Collection) (files : List String) : Collection :=
  let cycle : DependencyCycle := ⟨files⟩
  if collection.seen.contains cycle.canonical then collection
  else ⟨collection.cycles.push cycle, collection.seen.insert cycle.canonical⟩

end Collection

/-- The elementary cycles of a graph, by their smallest nodes. -/
def elementary (adjacency : Adjacency) : List DependencyCycle :=
  let circuits := adjacency.keys.flatMap (CircuitSearch.circuitsFrom adjacency)
  (circuits.foldl Collection.add .empty).cycles.toList

/-- Find all cycles of dependencies. -/
def find : Analysis (List DependencyCycle) := do
  let edges : List (String × String) ← Analysis.ask .dependencyEdges
  pure (elementary (.ofEdges edges))

/-- The JSON form of a cycle. -/
def toJson (cycle : DependencyCycle) : Json :=
  .object [("files", .texts cycle.files), ("length", .count cycle.length)]

end DependencyCycle

end QueryImpact
