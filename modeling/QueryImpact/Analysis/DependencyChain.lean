import QueryImpact.Json.Value
import QueryImpact.Store.Lookup

/-!
# Dependency chains

The shortest way from one file to another along dependencies, within a number of steps.  Among
several shortest ways, each file is entered from the smallest file possible.
-/

namespace QueryImpact

/-- The files along a way of dependencies, both ends included. -/
structure DependencyChain where
  /-- The files in order. -/
  files : List String
deriving DecidableEq

namespace DependencyChain

/-- The number of dependencies along the way. -/
def length (chain : DependencyChain) : Nat :=
  chain.files.length - 1

/-- The reached files, each with the file it was entered from. -/
structure Trail where
  /-- Where the search started. -/
  start : String
  /-- The file that each further file was entered from. -/
  parents : OrderedMap String String

namespace Trail

/-- Whether a file was reached. -/
def isReached (trail : Trail) (file : String) : Bool :=
  file = trail.start || trail.parents.contains file

/-- Enter a file from another one. -/
def enter (trail : Trail) (source target : String) : Trail :=
  { trail with parents := trail.parents.insert target source }

/-- The way back from a file to the start, read forwards; at most the given number of steps. -/
def wayTo (trail : Trail) : Nat → String → List String
  | 0, file => [file]
  | steps + 1, file =>
      if file = trail.start then [file]
      else
        match trail.parents.find? file with
        | some parent => wayTo trail steps parent ++ [file]
        | none => [file]

/-- The chain that ends at a file. -/
def chainTo (trail : Trail) (file : String) : DependencyChain :=
  ⟨trail.wayTo trail.parents.size file⟩

end Trail

/-- What becomes of a search when the files one step further are entered. -/
inductive Expansion where
  /-- The target was among them. -/
  | arrived (trail : Trail)
  /-- The newly reached files. -/
  | frontier (trail : Trail) (files : List String)

/-- Enter the targets of dependencies in order, up to the target looked for. -/
def expand (goal : String) (trail : Trail) (next : List String) :
    List (String × String) → Expansion
  | [] => .frontier trail next
  | (source, target) :: rest =>
      if trail.isReached target then expand goal trail next rest
      else if target = goal then .arrived (trail.enter source target)
      else expand goal (trail.enter source target) (next ++ [target]) rest

/-- Pairs in order of their first, then their second component. -/
def sortPairs (pairs : List (String × String)) : List (String × String) :=
  pairs.mergeSort fun a b => (compareLex (compareOn Prod.fst) (compareOn Prod.snd) a b).isLE

/-- Search from the frontier; at most the given number of steps. -/
def searchFrom (goal : String) :
    Nat → Trail → List String → Analysis (Option DependencyChain)
  | 0, _, _ => pure none
  | steps + 1, trail, frontier =>
      if frontier = [] then pure none
      else do
        let pairs : List (String × String) ← Analysis.ask (.neighbors frontier .outgoing)
        match expand goal trail [] (sortPairs pairs) with
        | .arrived trail => pure (some (trail.chainTo goal))
        | .frontier trail next => searchFrom goal steps trail next

/-- Trace the shortest chain between two files of at most the given length. -/
def trace (start goal : String) (maxDepth : Nat) : Analysis (Option DependencyChain) := do
  let startExists : Bool ← Analysis.ask (.fileExists start)
  if !startExists then pure none
  else if start = goal then pure (some ⟨[start]⟩)
  else do
    let goalExists : Bool ← Analysis.ask (.fileExists goal)
    if !goalExists then pure none
    else searchFrom goal maxDepth ⟨start, .empty⟩ [start]

/-- The JSON form of a chain that may not exist. -/
def toJson : Option DependencyChain → Json
  | some chain =>
      .object
        [("files", .texts chain.files), ("found", .bool true), ("length", .count chain.length),
          ("status", .string "found")]
  | none =>
      .object [("found", .bool false), ("length", .null), ("status", .string "not_found")]

end DependencyChain

end QueryImpact
