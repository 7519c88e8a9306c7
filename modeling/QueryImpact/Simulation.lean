import QueryImpact.Control
import QueryImpact.Schema
import QueryImpact.Store.Memory

/-!
# Simulated sessions

A simulated store keeps a graph in memory and can be made slow, made to hang, and made to fail at
chosen calls.  Time is a number that only waiting moves.  Calls to the store itself (to begin a
transaction, to apply the schema, to ask a question) pass a gate: they hang if the store hangs,
take the configured delay, and then fail if a fault is due.  The calls inside a transaction only
fail if a fault is due.  Several transactions can be open at once, by name.
-/

namespace QueryImpact

/-- Where a fault can strike. -/
inductive FaultPoint where
  /-- A call to the store itself. -/
  | call
  /-- A write of nodes. -/
  | nodes
  /-- A write of relationships. -/
  | relationships
  /-- A deletion of files. -/
  | delete
  /-- A commit. -/
  | commit
  /-- A rollback. -/
  | rollback
deriving DecidableEq

/-- How a fault shows. -/
inductive FaultKind where
  /-- The store cannot be reached. -/
  | unavailable
  /-- The store refuses the request. -/
  | refused
deriving DecidableEq

/-- The error that a fault leads to. -/
def FaultKind.error : FaultKind → StoreError
  | unavailable => .unavailable "in-memory store outage"
  | refused => .failed "injected failure"

/-- Calls at a point that are to fail. -/
structure Fault where
  /-- Where it strikes. -/
  point : FaultPoint
  /-- How it shows. -/
  kind : FaultKind
  /-- How many calls pass before. -/
  skip : Nat
  /-- How many calls fail then. -/
  times : Nat
deriving DecidableEq

namespace Fault

/-- The fault that is due at a point, and the faults that are left.  Faults at one point are used
up in order. -/
def consult (point : FaultPoint) : List Fault → Option FaultKind × List Fault
  | [] => (none, [])
  | fault :: rest =>
      if fault.point ≠ point then
        let later := consult point rest
        (later.1, fault :: later.2)
      else if 0 < fault.skip then (none, { fault with skip := fault.skip - 1 } :: rest)
      else if 0 < fault.times then
        (some fault.kind, { fault with times := fault.times - 1 } :: rest)
      else consult point rest

end Fault

/-- Where a fault strikes a call of a writing program. -/
def WriteCall.faultPoint? : WriteCall → Option FaultPoint
  | begin => some .call
  | upsertNodes _ => some .nodes
  | upsertRelationships _ => some .relationships
  | deleteFiles _ => some .delete
  | commit => some .commit
  | rollback => some .rollback
  | pause _ => none

/-- A simulated store. -/
structure Simulation where
  /-- The graph and the transaction of the running program. -/
  store : MemoryStore
  /-- The transactions that are open by name. -/
  transactions : OrderedMap String Transaction
  /-- The names of the applied schema elements. -/
  schema : OrderedSet String
  /-- The time. -/
  clock : Milliseconds
  /-- How long a call to the store takes. -/
  delay : Milliseconds
  /-- Whether calls to the store hang. -/
  stalled : Bool
  /-- The faults to come. -/
  faults : List Fault

/-- An action in a simulation; it has no result if it never ends or does not begin. -/
abbrev Simulated (α : Type) : Type :=
  StateT Simulation Option α

namespace Simulation

/-- The simulation at its start. -/
def start : Simulation where
  store := .empty
  transactions := .empty
  schema := .empty
  clock := 0
  delay := 0
  stalled := false
  faults := []

/-- The error that is due at a point, and the simulation after it was looked for. -/
def faultAt (point : FaultPoint) (simulation : Simulation) : Option StoreError × Simulation :=
  let due := Fault.consult point simulation.faults
  (due.1.map FaultKind.error, { simulation with faults := due.2 })

/-- How long a call to the store takes now. -/
def wait? (simulation : Simulation) : Option Milliseconds :=
  if simulation.stalled then none else some simulation.delay

/-- Let a call to the store wait. -/
def pass : Simulated Unit := fun simulation =>
  simulation.wait?.map fun span => ((), { simulation with clock := simulation.clock + span })

/-- A transaction that ends by a fault is gone. -/
def abandon (call : WriteCall) (simulation : Simulation) : Simulation :=
  match call with
  | .commit | .rollback =>
      { simulation with store := { simulation.store with current := none } }
  | _ => simulation

/-- Answer a call after its waiting time. -/
def answerWrite (call : WriteCall) (simulation : Simulation) : call.Answer × Simulation :=
  let checked := match call.faultPoint? with
    | some point => faultAt point simulation
    | none => (none, simulation)
  match checked with
  | (some error, after) => (call.refuse error, abandon call after)
  | (none, after) =>
      let result := MemoryStore.handle call after.store
      (result.1, { after with store := result.2 })

/-- Answer a call of a writing program. -/
def handle (call : WriteCall) : Simulated call.Answer := do
  match call with
  | .begin => pass
  | .pause span => modify fun simulation => { simulation with clock := simulation.clock + span }
  | _ => pure ()
  modifyGet (answerWrite call)

/-- Run a writing program. -/
def write {α : Type} (program : Writing α) : Simulated α :=
  Program.run handle program

/-- Run a writing program with the named transaction as its own. -/
def writeIn {α : Type} (name : String) (program : Writing α) : Simulated α := do
  modify fun simulation =>
    { simulation with
      store := { simulation.store with current := simulation.transactions.find? name } }
  let result ← write program
  modify fun simulation =>
    { simulation with
      transactions :=
        match simulation.store.current with
        | some transaction => simulation.transactions.insert name transaction
        | none => simulation.transactions.filter fun other _ => other ≠ name
      store := { simulation.store with current := none } }
  pure result

/-- The simulated store as one that takes time to answer questions. -/
def timed : TimedStore Simulation where
  course simulation _ := .wait simulation.wait?
  answer question simulation :=
    match faultAt .call simulation with
    | (some error, after) => (.error error, after)
    | (none, after) => (.ok (after.store.graph.answer question), after)

/-- Run an analysis under a control. -/
def analyze {α : Type} (control : Control) (analysis : Analysis α) :
    Simulated (Except StoreError α) := fun simulation =>
  match analysis.runControlled timed ⟨control, none⟩ simulation.clock simulation with
  | (.returned result, progress) => some (result, { progress.store with clock := progress.now })
  | _ => none

/-- Ask a single question. -/
def ask (question : Lookup) : Simulated (Except StoreError question.Answer) :=
  analyze .none (Analysis.ask question)

/-- Apply the schema; the answer lists the names of all applied elements. -/
def applySchema (elements : List SchemaElement) :
    Simulated (Except StoreError (List String)) := do
  pass
  match ← modifyGet (faultAt .call) with
  | some error => pure (.error error)
  | none => do
      modify fun simulation =>
        { simulation with
          schema := (elements.map SchemaElement.name).foldl OrderedSet.add simulation.schema }
      pure (.ok (← get).schema.toList)

/-- Plan a fault. -/
def addFault (fault : Fault) (simulation : Simulation) : Simulation :=
  { simulation with faults := simulation.faults ++ [fault] }

end Simulation

end QueryImpact
