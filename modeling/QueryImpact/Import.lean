import QueryImpact.Build.Draft
import QueryImpact.Program
import QueryImpact.Store.Transaction

/-!
# Importing into a store

Writing programs: they begin transactions, write, and commit or roll back.  Batched writes use a
transaction per chunk and try a chunk once more after a pause when the store is unavailable.  A
refused chunk does not end an import, but a store that stays unavailable does.
-/

namespace QueryImpact

/-- A call of a writing program.  The writes and the end of a transaction belong to the last one
begun. -/
inductive WriteCall where
  /-- Begin a transaction. -/
  | begin
  /-- Write nodes. -/
  | upsertNodes (nodes : List Node)
  /-- Write relationships. -/
  | upsertRelationships (relationships : List Relationship)
  /-- Delete files with what they contain. -/
  | deleteFiles (paths : List String)
  /-- Commit the transaction. -/
  | commit
  /-- Give the transaction up. -/
  | rollback
  /-- Wait for a while. -/
  | pause (span : Milliseconds)
deriving DecidableEq

namespace WriteCall

/-- What a call is answered with. -/
def Answer : WriteCall → Type
  | begin => Except StoreError Unit
  | upsertNodes _ => Except StoreError UpsertStats
  | upsertRelationships _ => Except StoreError UpsertStats
  | deleteFiles _ => Except StoreError Nat
  | commit => Except StoreError Unit
  | rollback => Except StoreError Unit
  | pause _ => Unit

end WriteCall

/-- A program that writes. -/
abbrev Writing (α : Type) : Type :=
  Program WriteCall WriteCall.Answer α

namespace Writing

/-- Make a call. -/
def ask (request : WriteCall) : Writing request.Answer :=
  Program.ask request

/-- Do some work in one transaction: commit when it succeeds, else roll back.  The work's own
error is the answer, also when the rollback fails. -/
def inTransaction {α : Type} (work : Writing (Except StoreError α)) :
    Writing (Except StoreError α) := do
  match ← ask .begin with
  | .error error => pure (.error error)
  | .ok () =>
      match ← work with
      | .ok value =>
          match ← ask .commit with
          | .ok () => pure (.ok value)
          | .error error => pure (.error error)
      | .error error => do
          let _ ← ask .rollback
          pure (.error error)

end Writing

/-- What a chunk holds. -/
inductive ChunkKind where
  /-- Nodes. -/
  | node
  /-- Relationships. -/
  | relationship
deriving DecidableEq

namespace ChunkKind

/-- How messages name the content of a chunk. -/
def name : ChunkKind → String
  | node => "node"
  | relationship => "relationship"

end ChunkKind

/-- Elements that are written together. -/
inductive WriteChunk where
  /-- Some nodes. -/
  | nodes (nodes : List Node)
  /-- Some relationships. -/
  | relationships (relationships : List Relationship)
deriving DecidableEq

namespace WriteChunk

/-- What a chunk holds. -/
def kind : WriteChunk → ChunkKind
  | nodes _ => .node
  | relationships _ => .relationship

/-- Write a chunk in the open transaction. -/
def write : WriteChunk → Writing (Except StoreError UpsertStats)
  | nodes batch => Writing.ask (.upsertNodes batch)
  | relationships batch => Writing.ask (.upsertRelationships batch)

/-- Write a chunk in a transaction of its own. -/
def attempt (chunk : WriteChunk) : Writing (Except StoreError UpsertStats) :=
  Writing.inTransaction chunk.write

/-- Write a chunk; when the store is unavailable, pause and try once more. -/
def commit (backoff : Milliseconds) (chunk : WriteChunk) :
    Writing (Except StoreError UpsertStats) := do
  match ← chunk.attempt with
  | .ok stats => pure (.ok stats)
  | .error error =>
      if error.isTransient then do
        Writing.ask (.pause backoff)
        chunk.attempt
      else pure (.error error)

end WriteChunk

/-- The elements to import. -/
structure ImportInput where
  /-- The nodes. -/
  nodes : List Node
  /-- The relationships. -/
  relationships : List Relationship
  /-- How many findings were left out before. -/
  skipped : Nat
deriving DecidableEq

namespace ImportInput

/-- What a draft has collected. -/
def ofDraft (draft : Draft) : ImportInput :=
  ⟨draft.nodes, draft.relationships, draft.skipped.length⟩

/-- The chunks of an import: those of the nodes, then those of the relationships. -/
def writeChunks (input : ImportInput) (size : Nat) : List WriteChunk :=
  (chunks size input.nodes).map .nodes ++ (chunks size input.relationships).map .relationships

end ImportInput

/-- A chunk that was refused. -/
structure ChunkFailure where
  /-- What it holds. -/
  kind : ChunkKind
  /-- Its place among all chunks. -/
  index : Nat
  /-- Why it was refused. -/
  cause : StoreError
deriving DecidableEq

/-- The wording of a refused chunk. -/
def ChunkFailure.message (failure : ChunkFailure) : String :=
  failure.kind.name ++ " chunk " ++ toString failure.index ++ ": " ++ failure.cause.message

/-- What an import has done. -/
structure ImportReport where
  /-- How many nodes are new. -/
  nodesCreated : Nat
  /-- How many nodes were replaced. -/
  nodesUpdated : Nat
  /-- How many relationships are new. -/
  relationshipsCreated : Nat
  /-- How many relationships were replaced. -/
  relationshipsUpdated : Nat
  /-- How many relationships were left out because an end is missing. -/
  missingEndpoints : Nat
  /-- How many findings were left out before. -/
  skipped : Nat
  /-- The refused chunks. -/
  failures : List ChunkFailure
deriving DecidableEq

namespace ImportReport

/-- The report before anything is written. -/
def start (skipped : Nat) : ImportReport :=
  ⟨0, 0, 0, 0, 0, skipped, []⟩

/-- Add a written batch of the given content. -/
def add (report : ImportReport) (kind : ChunkKind) (stats : UpsertStats) : ImportReport :=
  match kind with
  | .node =>
      { report with
        nodesCreated := report.nodesCreated + stats.created
        nodesUpdated := report.nodesUpdated + stats.updated }
  | .relationship =>
      { report with
        relationshipsCreated := report.relationshipsCreated + stats.created
        relationshipsUpdated := report.relationshipsUpdated + stats.updated
        missingEndpoints := report.missingEndpoints + stats.missingEndpoints }

/-- Add a refused chunk. -/
def addFailure (report : ImportReport) (failure : ChunkFailure) : ImportReport :=
  { report with failures := report.failures ++ [failure] }

/-- Whether everything was written. -/
def isClean (report : ImportReport) : Bool :=
  report.failures.isEmpty && report.missingEndpoints == 0

/-- The JSON form of a report. -/
def toJson (report : ImportReport) : Json :=
  .object
    [("clean", .bool report.isClean),
      ("errors", .texts (report.failures.map ChunkFailure.message)),
      ("missing_endpoints", .count report.missingEndpoints),
      ("nodes_created", .count report.nodesCreated),
      ("nodes_updated", .count report.nodesUpdated),
      ("relationships_created", .count report.relationshipsCreated),
      ("relationships_updated", .count report.relationshipsUpdated),
      ("skipped", .count report.skipped)]

end ImportReport

/-- What a single write has done. -/
inductive WriteResult where
  /-- Elements were written. -/
  | upserted (stats : UpsertStats)
  /-- Nodes were deleted. -/
  | deleted (count : Nat)
deriving DecidableEq

/-- A step of the work in a transaction. -/
inductive TransactionStep where
  /-- A write. -/
  | write (operation : WriteOperation)
  /-- The work gives up for a reason of its own. -/
  | fail (reason : String)
deriving DecidableEq

/-- How writes are batched. -/
structure BatchSettings where
  /-- How many elements a chunk holds. -/
  size : Nat
  /-- How long to pause before the second try of a chunk. -/
  backoff : Milliseconds
deriving DecidableEq

namespace Writing

/-- Refuse a batch size of zero. -/
def withPositiveSize {α : Type} (size : Nat) (program : Writing (Except StoreError α)) :
    Writing (Except StoreError α) :=
  if size = 0 then pure (.error (.misconfigured .emptyBatches)) else program

/-- Write chunks one by one, up to the first that fails; count what is new. -/
def commitAll (backoff : Milliseconds) (created : Nat) :
    List WriteChunk → Writing (Except StoreError Nat)
  | [] => pure (.ok created)
  | chunk :: rest => do
      match ← chunk.commit backoff with
      | .ok stats => commitAll backoff (created + stats.created) rest
      | .error error => pure (.error error)

/-- Write nodes in chunks. -/
def createNodes (backoff : Milliseconds) (size : Nat) (nodes : List Node) :
    Writing (Except StoreError Nat) :=
  withPositiveSize size (commitAll backoff 0 ((chunks size nodes).map .nodes))

/-- Write relationships in chunks. -/
def createRelationships (backoff : Milliseconds) (size : Nat)
    (relationships : List Relationship) : Writing (Except StoreError Nat) :=
  withPositiveSize size (commitAll backoff 0 ((chunks size relationships).map .relationships))

/-- Import chunks, the first of which has the given index.  A refused chunk is noted; an
unavailable store ends the import. -/
def importChunks (backoff : Milliseconds) (index : Nat) (report : ImportReport) :
    List WriteChunk → Writing (Except StoreError ImportReport)
  | [] => pure (.ok report)
  | chunk :: rest => do
      match ← chunk.commit backoff with
      | .ok stats => importChunks backoff (index + 1) (report.add chunk.kind stats) rest
      | .error error =>
          if error.isTransient then pure (.error error)
          else
            importChunks backoff (index + 1) (report.addFailure ⟨chunk.kind, index, error⟩) rest

/-- Import nodes, then relationships, in chunks. -/
def importAll (settings : BatchSettings) (input : ImportInput) :
    Writing (Except StoreError ImportReport) :=
  withPositiveSize settings.size
    (importChunks settings.backoff 0 (.start input.skipped) (input.writeChunks settings.size))

/-- Write chunks in the open transaction, up to the first that fails. -/
def writeAll (report : ImportReport) :
    List WriteChunk → Writing (Except StoreError ImportReport)
  | [] => pure (.ok report)
  | chunk :: rest => do
      match ← chunk.write with
      | .ok stats => writeAll (report.add chunk.kind stats) rest
      | .error error => pure (.error error)

/-- Import nodes and relationships in a single transaction, all or nothing. -/
def importAtomic (settings : BatchSettings) (input : ImportInput) :
    Writing (Except StoreError ImportReport) :=
  withPositiveSize settings.size
    (inTransaction (writeAll (.start input.skipped) (input.writeChunks settings.size)))

/-- Make a write in the open transaction. -/
def perform : WriteOperation → Writing (Except StoreError WriteResult)
  | .nodes nodes => do
      let result : Except StoreError UpsertStats ← ask (.upsertNodes nodes)
      pure (result.map .upserted)
  | .relationships relationships => do
      let result : Except StoreError UpsertStats ← ask (.upsertRelationships relationships)
      pure (result.map .upserted)
  | .deleteFiles paths => do
      let result : Except StoreError Nat ← ask (.deleteFiles paths)
      pure (result.map .deleted)

/-- Take one step of the work in a transaction. -/
def takeStep : TransactionStep → Writing (Except StoreError WriteResult)
  | .write operation => perform operation
  | .fail reason => pure (.error (.failed reason))

/-- Take steps in the open transaction, up to the first that fails. -/
def takeSteps (results : List WriteResult) :
    List TransactionStep → Writing (Except StoreError (List WriteResult))
  | [] => pure (.ok results)
  | step :: rest => do
      match ← takeStep step with
      | .ok result => takeSteps (results ++ [result]) rest
      | .error error => pure (.error error)

/-- Take steps in one transaction. -/
def runSteps (steps : List TransactionStep) : Writing (Except StoreError (List WriteResult)) :=
  inTransaction (takeSteps [] steps)

/-- Delete files with what they contain; entities are kept. -/
def clearFiles (paths : List String) : Writing (Except StoreError Nat) :=
  inTransaction (ask (.deleteFiles paths))

end Writing

end QueryImpact
