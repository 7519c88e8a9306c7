import QueryImpact.Proofs.Calls
import QueryImpact.Proofs.Store.Import
import QueryImpact.Proofs.Store.Turn

/-!
# Chunks during outages

An outage makes some of the calls that begin a transaction fail, as a schedule says.  A transaction
that can begin is not disturbed.  A chunk whose first call fails is tried once more: it is written
as without an outage if its second call succeeds, and lost if that fails too.
-/

namespace QueryImpact

/-! ## Outages -/

/-- Which of the calls that begin a transaction fail; those beyond the list succeed. -/
abbrev OutageSchedule : Type :=
  List Bool

namespace OutageSchedule

/-- Whether a call fails. -/
def failsAt (schedule : OutageSchedule) (place : Nat) : Bool :=
  schedule.getD place false

/-- The faults that make the calls fail as scheduled: one for each call, which strikes it or lets it
pass. -/
def faults (schedule : OutageSchedule) : List Fault :=
  schedule.map fun fails =>
    if fails then ⟨.call, .unavailable, 0, 1⟩ else ⟨.call, .unavailable, 1, 0⟩

/-- How many calls the next chunk makes: a second one if the first one fails. -/
def callsOfNext (schedule : OutageSchedule) : Nat :=
  if schedule.failsAt 0 then 2 else 1

/-- How many calls a number of chunks make. -/
def callsOf (schedule : OutageSchedule) : Nat → Nat
  | 0 => 0
  | chunks + 1 => schedule.callsOfNext + callsOf (schedule.drop schedule.callsOfNext) chunks

/-- Whether both calls of a chunk fail. -/
def Loses (schedule : OutageSchedule) (chunk : Nat) : Prop :=
  schedule.failsAt (schedule.callsOf chunk) = true ∧
    schedule.failsAt (schedule.callsOf chunk + 1) = true

instance (schedule : OutageSchedule) (chunk : Nat) : Decidable (schedule.Loses chunk) :=
  inferInstanceAs (Decidable (_ ∧ _))

theorem failsAt_drop (schedule : OutageSchedule) (count place : Nat) :
    failsAt (schedule.drop count) place = schedule.failsAt (count + place) := by
  simp [failsAt, List.getD_eq_getElem?_getD]

theorem failsAt_tail (schedule : OutageSchedule) (place : Nat) :
    failsAt schedule.tail place = schedule.failsAt (place + 1) := by
  rw [← List.drop_one, failsAt_drop, Nat.add_comm]

theorem loses_zero {schedule : OutageSchedule} :
    schedule.Loses 0 ↔ schedule.failsAt 0 = true ∧ schedule.failsAt 1 = true :=
  Iff.rfl

/-- The chunks after the first one meet the rest of the schedule. -/
theorem loses_succ (schedule : OutageSchedule) (chunk : Nat) :
    schedule.Loses (chunk + 1) ↔ Loses (schedule.drop schedule.callsOfNext) chunk := by
  rw [Loses, Loses, callsOf, failsAt_drop, failsAt_drop, Nat.add_assoc]

theorem not_loses_nil (chunk : Nat) : ¬ Loses [] chunk := by
  simp [Loses, failsAt]

end OutageSchedule

namespace Fault

/-- A fault that has struck. -/
def spent : Fault :=
  ⟨.call, .unavailable, 0, 0⟩

/-- Faults that are left of a schedule; the last one that was looked at may still be there. -/
def Follows (faults : List Fault) (schedule : OutageSchedule) : Prop :=
  faults = schedule.faults ∨ faults = spent :: schedule.faults

/-- The next call fails as scheduled. -/
theorem Follows.consult_call {faults : List Fault} {schedule : OutageSchedule}
    (follows : Follows faults schedule) :
    ∃ left, consult .call faults =
        (if schedule.failsAt 0 then some .unavailable else none, left) ∧
      Follows left schedule.tail := by
  have unspent : consult .call (spent :: schedule.faults) = consult .call schedule.faults := rfl
  have same : consult .call faults = consult .call schedule.faults := by
    rcases follows with rfl | rfl
    · rfl
    · exact unspent
  rw [same]
  cases schedule with
  | nil => exact ⟨[], rfl, Or.inl rfl⟩
  | cons fails rest =>
      cases fails with
      | true => exact ⟨spent :: OutageSchedule.faults rest, rfl, Or.inr rfl⟩
      | false => exact ⟨spent :: OutageSchedule.faults rest, rfl, Or.inr rfl⟩

theorem Follows.point_eq {faults : List Fault} {schedule : OutageSchedule}
    (follows : Follows faults schedule) : ∀ fault ∈ faults, fault.point = .call := by
  have scheduled : ∀ fault ∈ schedule.faults, fault.point = .call := by
    intro fault member
    obtain ⟨fails, _, rfl⟩ := List.mem_map.mp member
    cases fails <;> rfl
  rcases follows with rfl | rfl
  · exact scheduled
  · intro fault member
    rcases List.mem_cons.mp member with rfl | later
    · rfl
    · exact scheduled fault later

/-- Faults at other points are not due. -/
theorem consult_of_forall_ne {point : FaultPoint} {faults : List Fault}
    (elsewhere : ∀ fault ∈ faults, fault.point ≠ point) : consult point faults = (none, faults) := by
  induction faults with
  | nil => rfl
  | cons fault rest ih =>
      obtain ⟨here, later⟩ := List.forall_mem_cons.mp elsewhere
      rw [consult, if_pos here, ih later]

end Fault

/-- A transaction makes a single call to begin.  If the call fails, nothing is left to do. -/
theorem Writing.exists_inTransaction_eq {α : Type} {work : Writing (Except StoreError α)}
    (avoids : work.Avoids .begin) :
    ∃ next : Except StoreError Unit → Writing (Except StoreError α),
      Writing.inTransaction work = (Writing.ask .begin >>= next) ∧
        (∀ error, next (.error error) = pure (.error error)) ∧
        ∀ answer, (next answer).Avoids .begin := by
  refine ⟨_, rfl, fun _ => rfl, ?_⟩
  intro answer
  cases answer with
  | error error => trivial
  | ok value =>
      apply Program.Avoids.bind avoids
      intro result
      cases result with
      | ok stats =>
          constructor
          · nofun
          · intro committed
            cases committed <;> trivial
      | error error =>
          constructor
          · nofun
          · intro _
            trivial

theorem WriteChunk.write_avoids (chunk : WriteChunk) : chunk.write.Avoids .begin := by
  cases chunk with
  | nodes nodes => exact ⟨nofun, fun _ => trivial⟩
  | relationships relationships => exact ⟨nofun, fun _ => trivial⟩

/-- An attempt fails for a reason that no waiting resolves. -/
theorem MemoryStore.isTransient_of_run_attempt {chunk : WriteChunk} {graph : Graph}
    {error : StoreError} {store : MemoryStore}
    (ran : run chunk.attempt ⟨graph, none⟩ = (.error error, store)) : error.isTransient = false := by
  rw [run_attempt] at ran
  cases written : graph.writeChunk chunk with
  | ok result =>
      rw [written] at ran
      exact absurd (congrArg Prod.fst ran) nofun
  | error cause =>
      rw [written] at ran
      obtain rfl := Except.error.inj (congrArg Prod.fst ran)
      exact Graph.isTransient_of_writeChunk written

namespace Simulation

/-- A call that no fault strikes is answered by the store. -/
theorem answerWrite_of_unstruck {call : WriteCall} {simulation : Simulation}
    (unstruck : ∀ point, call.faultPoint? = some point →
      Fault.consult point simulation.faults = (none, simulation.faults)) :
    answerWrite call simulation =
      ((MemoryStore.handle call simulation.store).1,
        { simulation with store := (MemoryStore.handle call simulation.store).2 }) := by
  unfold answerWrite
  cases asked : call.faultPoint? with
  | none => rfl
  | some point =>
      simp only [faultAt, unstruck point asked]
      rfl

/-- Calls other than those that begin a transaction are answered as without an outage. -/
theorem handle_of_ne_begin {call : WriteCall} (notBegin : call ≠ .begin) {simulation : Simulation}
    (atCalls : ∀ fault ∈ simulation.faults, fault.point = .call) :
    ∃ time, handle call simulation =
      some ((MemoryStore.handle call simulation.store).1,
        { simulation with
          store := (MemoryStore.handle call simulation.store).2
          clock := time }) := by
  have timed : ∃ time, handle call simulation =
      some (answerWrite call { simulation with clock := time }) := by
    cases call with
    | begin => exact absurd rfl notBegin
    | pause span => exact ⟨simulation.clock + span, rfl⟩
    | _ => exact ⟨simulation.clock, rfl⟩
  obtain ⟨time, answered⟩ := timed
  have unstruck : ∀ point, call.faultPoint? = some point →
      Fault.consult point simulation.faults = (none, simulation.faults) := by
    intro point asked
    apply Fault.consult_of_forall_ne
    intro fault member
    rw [atCalls fault member]
    rintro rfl
    cases call <;> simp_all [WriteCall.faultPoint?]
  have served := @answerWrite_of_unstruck call { simulation with clock := time } unstruck
  exact ⟨time, answered.trans (congrArg some served)⟩

/-- A program that begins no transaction runs as without an outage. -/
theorem write_traced_of_avoids {α : Type} {program : Writing α}
    (avoids : program.Avoids .begin) {simulation : Simulation}
    (atCalls : ∀ fault ∈ simulation.faults, fault.point = .call) :
    ∃ calls time,
      write program.traced simulation =
          some (((MemoryStore.run program simulation.store).1, calls),
            { simulation with
              store := (MemoryStore.run program simulation.store).2
              clock := time }) ∧
        WriteCall.begin ∉ calls := by
  induction program generalizing simulation with
  | done value => exact ⟨[], simulation.clock, rfl, List.not_mem_nil⟩
  | call request next ih =>
      obtain ⟨notBegin, later⟩ := avoids
      obtain ⟨time, answered⟩ := handle_of_ne_begin notBegin atCalls
      obtain ⟨calls, finish, ran, noBegin⟩ := @ih _ (later _)
        { simulation with
          store := (MemoryStore.handle request simulation.store).2
          clock := time } atCalls
      refine ⟨request :: calls, finish, ?_, ?_⟩
      · change write (Writing.ask request >>= next).traced simulation = _
        exact write_traced_bind (write_traced_ask answered) ran
      · rw [List.mem_cons, not_or]
        exact ⟨notBegin.symm, noBegin⟩

/-! ## Chunks during an outage -/

/-- A simulation between two transactions, with a graph, a time and some faults to come. -/
def idle (simulation : Simulation) (graph : Graph) (time : Milliseconds) (faults : List Fault) :
    Simulation :=
  { simulation with store := ⟨graph, none⟩, clock := time, faults := faults }

section Chunks

variable {simulation : Simulation} (running : simulation.stalled = false) {graph : Graph}
  {time : Milliseconds} {faults left : List Fault}

include running

theorem handle_begin :
    handle .begin (simulation.idle graph time faults) =
      some (answerWrite .begin (simulation.idle graph (time + simulation.delay) faults)) := by
  obtain ⟨store, transactions, schema, clock, delay, stalled, known⟩ := simulation
  cases running
  rfl

/-- A transaction that cannot begin is over. -/
theorem write_inTransaction_of_struck {α : Type} {work : Writing (Except StoreError α)}
    (avoids : work.Avoids .begin)
    (struck : Fault.consult .call faults = (some .unavailable, left)) :
    write (Writing.inTransaction work).traced (simulation.idle graph time faults) =
      some ((.error FaultKind.unavailable.error, [.begin]),
        simulation.idle graph (time + simulation.delay) left) := by
  obtain ⟨next, parts, ended, _⟩ := Writing.exists_inTransaction_eq avoids
  have begun : handle .begin (simulation.idle graph time faults) =
      some ((.error FaultKind.unavailable.error : Except StoreError Unit),
        simulation.idle graph (time + simulation.delay) left) := by
    rw [handle_begin running]
    simp only [answerWrite, WriteCall.faultPoint?, faultAt, idle, struck]
    rfl
  rw [parts]
  apply write_traced_bind (write_traced_ask begun)
  rw [ended]
  rfl

/-- A transaction that can begin runs as without an outage. -/
theorem write_inTransaction_of_unstruck {α : Type} {work : Writing (Except StoreError α)}
    (avoids : work.Avoids .begin) (unstruck : Fault.consult .call faults = (none, left))
    (atCalls : ∀ fault ∈ left, fault.point = .call) {result : Except StoreError α} {after : Graph}
    (ran : MemoryStore.run (Writing.inTransaction work) ⟨graph, none⟩ = (result, ⟨after, none⟩)) :
    ∃ calls finish,
      write (Writing.inTransaction work).traced (simulation.idle graph time faults) =
          some ((result, calls), simulation.idle after finish left) ∧
        calls.count .begin = 1 := by
  obtain ⟨next, parts, _, later⟩ := Writing.exists_inTransaction_eq avoids
  let middle : Simulation :=
    { simulation with
      store := ⟨graph, some (.begin graph)⟩
      clock := time + simulation.delay
      faults := left }
  have begun : handle .begin (simulation.idle graph time faults) =
      some ((.ok () : Except StoreError Unit), middle) := by
    rw [handle_begin running]
    simp only [answerWrite, WriteCall.faultPoint?, faultAt, idle, unstruck]
    rfl
  obtain ⟨calls, finish, rest, noBegin⟩ :=
    @write_traced_of_avoids _ (next (.ok ())) (later _) middle atCalls
  have inner : MemoryStore.run (next (.ok ())) middle.store = (result, ⟨after, none⟩) := by
    rw [← ran, parts]
    rfl
  rw [inner] at rest
  refine ⟨.begin :: calls, finish, ?_, ?_⟩
  · rw [parts]
    exact write_traced_bind (write_traced_ask begun) rest
  · rw [List.count_cons_self, List.count_eq_zero_of_not_mem noBegin]

/-- A chunk whose first call fails is tried once more after a pause. -/
theorem write_commit_of_struck (chunk : WriteChunk) (backoff : Milliseconds)
    (struck : Fault.consult .call faults = (some .unavailable, left))
    {result : Except StoreError UpsertStats} {calls : List WriteCall} {after : Simulation}
    (retried : write chunk.attempt.traced
      (simulation.idle graph (time + simulation.delay + backoff) left) =
        some ((result, calls), after)) :
    write (chunk.commit backoff).traced (simulation.idle graph time faults) =
      some ((result, .begin :: .pause backoff :: calls), after) := by
  apply write_traced_bind (write_inTransaction_of_struck running chunk.write_avoids struck)
  have paused : handle (.pause backoff) (simulation.idle graph (time + simulation.delay) left) =
      some ((), simulation.idle graph (time + simulation.delay + backoff) left) := rfl
  exact write_traced_bind (write_traced_ask paused) retried

/-- A chunk whose first or second call succeeds is written as without an outage. -/
theorem write_commit_of_not_loses {schedule : OutageSchedule}
    (follows : Fault.Follows faults schedule) (kept : ¬ schedule.Loses 0)
    (backoff : Milliseconds) (chunk : WriteChunk) {result : Except StoreError UpsertStats}
    {after : Graph}
    (ran : MemoryStore.run (chunk.commit backoff) ⟨graph, none⟩ = (result, ⟨after, none⟩)) :
    ∃ calls finish left,
      write (chunk.commit backoff).traced (simulation.idle graph time faults) =
          some ((result, calls), simulation.idle after finish left) ∧
        Fault.Follows left (schedule.drop schedule.callsOfNext) ∧
        calls.count .begin = schedule.callsOfNext := by
  rw [MemoryStore.run_commit, ← MemoryStore.run_attempt] at ran
  obtain ⟨left, due, leftFollows⟩ := follows.consult_call
  cases first : schedule.failsAt 0 with
  | false =>
      rw [first] at due
      obtain ⟨calls, finish, wrote, count⟩ := write_inTransaction_of_unstruck running
        chunk.write_avoids due leftFollows.point_eq ran
      rw [OutageSchedule.callsOfNext, first]
      refine ⟨calls, finish, left, ?_, ?_, count⟩
      · rw [← List.append_nil calls]
        apply write_traced_bind wrote
        cases result with
        | ok stats => rfl
        | error error =>
            dsimp only
            rw [MemoryStore.isTransient_of_run_attempt ran]
            rfl
      · rwa [← List.drop_one] at leftFollows
  | true =>
      rw [first] at due
      obtain ⟨last, dueAgain, lastFollows⟩ := leftFollows.consult_call
      have second : OutageSchedule.failsAt schedule.tail 0 = false := by
        rw [OutageSchedule.failsAt_tail, ← Bool.not_eq_true]
        intro fails
        exact kept (OutageSchedule.loses_zero.mpr ⟨first, fails⟩)
      rw [second] at dueAgain
      obtain ⟨calls, finish, wrote, count⟩ := write_inTransaction_of_unstruck running
        chunk.write_avoids dueAgain lastFollows.point_eq ran
      rw [OutageSchedule.callsOfNext, first]
      refine ⟨.begin :: .pause backoff :: calls, finish, last,
        write_commit_of_struck running chunk backoff due wrote, ?_, ?_⟩
      · rwa [← List.drop_one, ← List.drop_one, List.drop_drop] at lastFollows
      · rw [List.count_cons_self, List.count_cons_of_ne (by nofun), count]
        rfl

/-- A chunk both of whose calls fail is given up. -/
theorem write_commit_of_loses {schedule : OutageSchedule}
    (follows : Fault.Follows faults schedule) (lost : schedule.Loses 0)
    (backoff : Milliseconds) (chunk : WriteChunk) :
    ∃ calls finish left,
      write (chunk.commit backoff).traced (simulation.idle graph time faults) =
          some ((.error FaultKind.unavailable.error, calls), simulation.idle graph finish left) ∧
        calls.count .begin = 2 := by
  obtain ⟨left, due, leftFollows⟩ := follows.consult_call
  obtain ⟨last, dueAgain, lastFollows⟩ := leftFollows.consult_call
  obtain ⟨first, second⟩ := OutageSchedule.loses_zero.mp lost
  rw [first] at due
  rw [OutageSchedule.failsAt_tail, second] at dueAgain
  have retried : write chunk.attempt.traced
      (simulation.idle graph (time + simulation.delay + backoff) left) = _ :=
    write_inTransaction_of_struck running chunk.write_avoids dueAgain
  exact ⟨_, _, last, write_commit_of_struck running chunk backoff due retried, rfl⟩

end Chunks

end Simulation

end QueryImpact
