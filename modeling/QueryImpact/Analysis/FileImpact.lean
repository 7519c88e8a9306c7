import QueryImpact.Risk
import QueryImpact.Store.Lookup

/-!
# Impact of a file

The files that depend on a changed file, or that it depends on, each with the least number of
steps, up to a depth; and the classes and methods that these files contain.
-/

namespace QueryImpact

/-- Which side of the dependencies is affected. -/
inductive ImpactDirection where
  /-- The files that depend on the changed one. -/
  | dependents
  /-- The files that the changed one depends on. -/
  | dependencies
deriving DecidableEq

namespace ImpactDirection

/-- The name of the direction. -/
def name : ImpactDirection → String
  | dependents => "dependents"
  | dependencies => "dependencies"

/-- How dependencies are followed. -/
def edgeDirection : ImpactDirection → EdgeDirection
  | dependents => .incoming
  | dependencies => .outgoing

end ImpactDirection

/-- How far an impact is followed. -/
structure FileImpactOptions where
  /-- The largest number of steps. -/
  maxDepth : Nat
  /-- Whether more than one step is made. -/
  recursive : Bool
  /-- Which side is affected. -/
  direction : ImpactDirection
deriving DecidableEq

namespace FileImpactOptions

/-- Follow the dependents for five steps. -/
def plain : FileImpactOptions :=
  ⟨5, true, .dependents⟩

/-- Follow the dependents for one step. -/
def directOnly : FileImpactOptions :=
  ⟨5, false, .dependents⟩

/-- The number of steps that are made. -/
def depthLimit (options : FileImpactOptions) : Nat :=
  if options.recursive then options.maxDepth else min options.maxDepth 1

end FileImpactOptions

/-- A file that a change reaches. -/
structure AffectedFile where
  /-- Its path. -/
  path : String
  /-- The least number of steps from the changed file. -/
  depth : Nat
deriving DecidableEq

/-- What changes if a file changes. -/
structure FileImpact where
  /-- The changed file. -/
  filePath : String
  /-- Whether it is known. -/
  found : Bool
  /-- Which side was followed. -/
  direction : ImpactDirection
  /-- The affected files, by depth, then path. -/
  affectedFiles : List AffectedFile
  /-- The number of classes in them. -/
  affectedClasses : Nat
  /-- The number of methods in them. -/
  affectedMethods : Nat
  /-- The risk of the change. -/
  risk : Risk
deriving DecidableEq

namespace FileImpact

/-- The impact of an unknown file. -/
def unknown (path : String) (direction : ImpactDirection) : FileImpact :=
  ⟨path, false, direction, [], 0, 0, .none⟩

/-- The number of steps to a file. -/
def depthOf? (impact : FileImpact) (path : String) : Option Nat :=
  (impact.affectedFiles.find? fun file => file.path = path).map AffectedFile.depth

/-- The files that are not visited yet, each once. -/
def newFiles (visited : List String) : List String → List String
  | [] => []
  | file :: rest =>
      if file ∈ visited then newFiles visited rest else file :: newFiles (file :: visited) rest

/-- Texts in order. -/
def sortTexts (texts : List String) : List String :=
  texts.mergeSort fun a b => (compare a b).isLE

/-- Go on from the frontier, at the given depth, for at most the given number of steps; return the
files that are reached. -/
def spread (direction : EdgeDirection) :
    (steps depth : Nat) → (visited frontier : List String) → Analysis (List AffectedFile)
  | 0, _, _, _ => pure []
  | steps + 1, depth, visited, frontier =>
      if frontier = [] then pure []
      else do
        let pairs : List (String × String) ← Analysis.ask (.neighbors frontier direction)
        let next := newFiles visited (pairs.map Prod.snd)
        let further ← spread direction steps (depth + 1) (next ++ visited) (sortTexts next)
        pure (next.map (⟨·, depth⟩) ++ further)

/-- Files by depth, then path. -/
def sortFiles (files : List AffectedFile) : List AffectedFile :=
  files.mergeSort fun a b =>
    (compareLex (compareOn AffectedFile.depth) (compareOn AffectedFile.path) a b).isLE

/-- Find what changes if a file changes. -/
def analyze (path : String) (options : FileImpactOptions) : Analysis FileImpact := do
  let known : Bool ← Analysis.ask (.fileExists path)
  if !known then pure (unknown path options.direction)
  else do
    let reached ←
      spread options.direction.edgeDirection options.depthLimit 1 [path] [path]
    let affected := sortFiles reached
    let members : MemberCounts ← Analysis.ask (.members (affected.map AffectedFile.path))
    pure {
      filePath := path
      found := true
      direction := options.direction
      affectedFiles := affected
      affectedClasses := members.classes
      affectedMethods := members.methods
      risk := .assess affected.length members.classes members.methods }

/-- The JSON members of an impact. -/
def members (impact : FileImpact) : List (String × Json) :=
  [("affected_classes", .count impact.affectedClasses),
    ("affected_files", .array (impact.affectedFiles.map fun file =>
      .object [("depth", .count file.depth), ("path", .string file.path)])),
    ("affected_methods", .count impact.affectedMethods),
    ("direction", .string impact.direction.name), ("file_path", .string impact.filePath),
    ("found", .bool impact.found), ("risk", impact.risk.toJson)]

end FileImpact

end QueryImpact
