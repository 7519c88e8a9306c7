import QueryImpact.Import

/-!
# A store in memory

A stored graph together with the transaction that a writing program has open.  It answers every
call of the program; a call that needs a transaction fails when none is open.
-/

namespace QueryImpact

/-- A stored graph and the transaction in progress. -/
structure MemoryStore where
  /-- The graph that everyone sees. -/
  graph : Graph
  /-- The open transaction. -/
  current : Option Transaction
deriving DecidableEq

namespace WriteCall

/-- Refuse a call; a pause cannot be refused. -/
def refuse (error : StoreError) : (call : WriteCall) → call.Answer
  | begin => (.error error : Except StoreError Unit)
  | upsertNodes _ => (.error error : Except StoreError UpsertStats)
  | upsertRelationships _ => (.error error : Except StoreError UpsertStats)
  | deleteFiles _ => (.error error : Except StoreError Nat)
  | commit => (.error error : Except StoreError Unit)
  | rollback => (.error error : Except StoreError Unit)
  | pause _ => ()

end WriteCall

namespace MemoryStore

/-- An empty graph without an open transaction. -/
def empty : MemoryStore :=
  ⟨.empty, none⟩

/-- Why a write without a transaction fails. -/
def noTransaction : StoreError :=
  .failed "no open transaction"

/-- Answer a call that belongs to an open transaction. -/
def handleOpen (store : MemoryStore) (transaction : Transaction) :
    (call : WriteCall) → call.Answer × MemoryStore
  | .begin => ((.ok () : Except StoreError Unit), { store with current := some (.begin store.graph) })
  | .upsertNodes nodes =>
      match transaction.upsertNodes nodes with
      | .ok (transaction, stats) =>
          ((.ok stats : Except StoreError UpsertStats),
            { store with current := some transaction })
      | .error error => ((.error error : Except StoreError UpsertStats), store)
  | .upsertRelationships relationships =>
      let result := transaction.upsertRelationships relationships
      ((.ok result.2 : Except StoreError UpsertStats), { store with current := some result.1 })
  | .deleteFiles paths =>
      let result := transaction.deleteFiles paths
      ((.ok result.2 : Except StoreError Nat), { store with current := some result.1 })
  | .commit =>
      match transaction.commit store.graph with
      | .ok graph => ((.ok () : Except StoreError Unit), ⟨graph, none⟩)
      | .error error =>
          ((.error error : Except StoreError Unit), { store with current := none })
  | .rollback => ((.ok () : Except StoreError Unit), { store with current := none })
  | .pause _ => ((), store)

/-- Answer a call. -/
def handle (call : WriteCall) (store : MemoryStore) : call.Answer × MemoryStore :=
  match call, store.current with
  | call, some transaction => store.handleOpen transaction call
  | .begin, none =>
      ((.ok () : Except StoreError Unit), { store with current := some (.begin store.graph) })
  | .pause _, none => ((), store)
  | call, none => (call.refuse noTransaction, store)

/-- Run a writing program on a stored graph. -/
def run {α : Type} (program : Writing α) (store : MemoryStore) : α × MemoryStore :=
  Program.run (m := StateM MemoryStore) handle program store

end MemoryStore

end QueryImpact
