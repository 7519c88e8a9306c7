import QueryImpact.Proofs.Store.Import
import QueryImpact.Proofs.Store.Turn

/-!
# Interleaved transactions are serial

Any number of clients take turns on one store.  From the answers alone one can tell which writes a
client has made in its transaction, and which of them are committed, in the order of the commits.
The shared graph is at every moment the initial graph after the committed writes, and a transaction
during which nobody else commits is itself committed as it stands.

The history of a run has the last event first.
-/

namespace QueryImpact

/-! ## Reading a history -/

namespace Event

/-- The client has begun a transaction. -/
def Begins (event : Event) : Prop :=
  event.call = .begin ∧ event.call.Succeeded event.answer

/-- The client has committed its transaction. -/
def Commits (event : Event) : Prop :=
  event.call = .commit ∧ event.call.Succeeded event.answer

/-- The transaction of the client is over, committed or not. -/
def Ends (event : Event) : Prop :=
  event.call = .commit ∨ event.call = .rollback

/-- The write that the client has made. -/
def write? (event : Event) : Option WriteOperation :=
  if event.call.Succeeded event.answer then event.call.operation? else none

instance (event : Event) : Decidable event.Begins :=
  inferInstanceAs (Decidable (_ ∧ _))

instance (event : Event) : Decidable event.Commits :=
  inferInstanceAs (Decidable (_ ∧ _))

instance (event : Event) : Decidable event.Ends :=
  inferInstanceAs (Decidable (_ ∨ _))

end Event

namespace History

/-- Whether a client has a transaction open. -/
def IsOpen (client : String) : List Event → Prop
  | [] => False
  | event :: past =>
      if event.client = client then event.Begins ∨ ¬ event.Ends ∧ IsOpen client past
      else IsOpen client past

/-- The successful writes of a client in its transaction. -/
def stagedWrites (client : String) : List Event → List WriteOperation
  | [] => []
  | event :: past =>
      if event.client = client then
        if event.Begins ∨ event.Ends then []
        else stagedWrites client past ++ event.write?.toList
      else stagedWrites client past

/-- The successful writes of the committed transactions, in the order of the commits. -/
def committedWrites : List Event → List WriteOperation
  | [] => []
  | event :: past =>
      if event.Commits then committedWrites past ++ stagedWrites event.client past
      else committedWrites past

/-- Whether nobody has committed since a client has begun its transaction. -/
def IsUndisturbed (client : String) : List Event → Prop
  | [] => False
  | event :: past =>
      event.client = client ∧ event.Begins ∨ ¬ event.Commits ∧ IsUndisturbed client past

instance decidableIsOpen (client : String) : (history : List Event) →
    Decidable (IsOpen client history)
  | [] => isFalse id
  | event :: past =>
      have := decidableIsOpen client past
      inferInstanceAs (Decidable (if event.client = client then _ else _))

instance decidableIsUndisturbed (client : String) : (history : List Event) →
    Decidable (IsUndisturbed client history)
  | [] => isFalse id
  | _ :: past =>
      have := decidableIsUndisturbed client past
      inferInstanceAs (Decidable (_ ∨ _))

end History

/-! ## Runs -/

namespace Simulation

/-- Take a turn and put it in front of the history. -/
def takeTurn (history : List Event) (turn : Turn) : Simulated (List Event) := do
  let answer ← writeIn turn.client (Writing.ask turn.call)
  pure (⟨turn.client, turn.call, answer⟩ :: history)

/-- Take turns; the answer is the history of the run. -/
def takeTurns (turns : List Turn) : Simulated (List Event) :=
  turns.foldlM takeTurn []

theorem takeTurn_of_writeIn {turn : Turn} {simulation after : Simulation}
    {answer : turn.call.Answer}
    (answered : writeIn turn.client (Writing.ask turn.call) simulation = some (answer, after))
    (history : List Event) :
    takeTurn history turn simulation = some (⟨turn.client, turn.call, answer⟩ :: history, after) := by
  simp only [takeTurn, bind, StateT.bind, answered]
  rfl

/-- What every turn of a list keeps holds after the run. -/
theorem foldlM_takeTurn_of_mem {Kept : List Event → Simulation → Prop} {turns : List Turn}
    (step : ∀ turn ∈ turns, ∀ history simulation, Kept history simulation → ∃ event after,
      takeTurn history turn simulation = some (event :: history, after) ∧
        Kept (event :: history) after)
    {history : List Event} {simulation : Simulation} (kept : Kept history simulation) :
    ∃ past after, turns.foldlM takeTurn history simulation = some (past, after) ∧
      Kept past after := by
  induction turns generalizing history simulation with
  | nil => exact ⟨history, simulation, rfl, kept⟩
  | cons turn rest ih =>
      obtain ⟨first, later⟩ := List.forall_mem_cons.mp step
      obtain ⟨event, middle, taken, keptMiddle⟩ := first history simulation kept
      obtain ⟨past, after, ran, keptAfter⟩ := ih later keptMiddle
      refine ⟨past, after, ?_, keptAfter⟩
      rw [List.foldlM_cons]
      simp [bind, StateT.bind, taken, ran]

/-- What every turn keeps holds after every run. -/
theorem foldlM_takeTurn {Kept : List Event → Simulation → Prop}
    (step : ∀ history simulation, Kept history simulation → ∀ turn : Turn, ∃ event after,
      takeTurn history turn simulation = some (event :: history, after) ∧
        Kept (event :: history) after)
    {history : List Event} {simulation : Simulation} (kept : Kept history simulation)
    (turns : List Turn) :
    ∃ past after, turns.foldlM takeTurn history simulation = some (past, after) ∧
      Kept past after :=
  foldlM_takeTurn_of_mem
    (fun turn _ history simulation kept => step history simulation kept turn) kept

/-- What the history tells about the transaction of a client. -/
structure ClientAgrees (graph : Graph) (history : List Event) (client : String)
    (current : Option Transaction) : Prop where
  isOpen : History.IsOpen client history ↔ ∃ transaction, current = some transaction
  staged : ∀ transaction ∈ current, transaction.staged = History.stagedWrites client history
  undisturbed : ∀ transaction ∈ current, History.IsUndisturbed client history →
    graph.applyAll transaction.staged = .ok transaction.working

/-- A turn of somebody else does not change what the history tells about a client, unless it is a
commit, which disturbs the client. -/
theorem ClientAgrees.other {graph next : Graph} {history : List Event} {client : String}
    {current : Option Transaction} (agrees : ClientAgrees graph history client current)
    {event : Event} (different : event.client ≠ client)
    (unchanged : ¬ event.Commits → next = graph) :
    ClientAgrees next (event :: history) client current where
  isOpen := by
    rw [History.IsOpen, if_neg different]
    exact agrees.isOpen
  staged := by
    rw [History.stagedWrites, if_neg different]
    exact agrees.staged
  undisturbed := by
    rintro transaction isOpen (⟨same, _⟩ | ⟨noCommit, undisturbed⟩)
    · exact absurd same different
    · rw [unchanged noCommit]
      exact agrees.undisturbed transaction isOpen undisturbed

/-- Once its transaction is over, a client has none. -/
theorem clientAgrees_of_ends {graph : Graph} {history : List Event} {event : Event}
    (ends : event.Ends) : ClientAgrees graph (event :: history) event.client none where
  isOpen := by
    have notBegins : ¬ event.Begins := by
      rintro ⟨isBegin, _⟩
      rcases ends with isCommit | isRollback
      · exact absurd (isBegin.symm.trans isCommit) nofun
      · exact absurd (isBegin.symm.trans isRollback) nofun
    rw [History.IsOpen, if_pos rfl]
    constructor
    · rintro (begins | ⟨goesOn, _⟩)
      · exact absurd begins notBegins
      · exact absurd ends goesOn
    · rintro ⟨transaction, found⟩
      contradiction
  staged := nofun
  undisturbed := nofun

/-- An open transaction that goes on keeps the writes of its client, the new one included. -/
theorem ClientAgrees.goesOn {graph : Graph} {history : List Event} {event : Event}
    {transaction next : Transaction}
    (agrees : ClientAgrees graph history event.client (some transaction))
    (notBegins : ¬ event.Begins) (notEnds : ¬ event.Ends)
    (staged : next.staged = transaction.staged ++ event.write?.toList)
    (working : transaction.working.applyAll event.write?.toList = .ok next.working) :
    ClientAgrees graph (event :: history) event.client (some next) where
  isOpen := by
    rw [History.IsOpen, if_pos rfl]
    exact ⟨fun _ => ⟨next, rfl⟩, fun _ => Or.inr ⟨notEnds, agrees.isOpen.mpr ⟨transaction, rfl⟩⟩⟩
  staged := by
    intro other isOpen
    obtain rfl := Option.mem_some_iff.mp isOpen
    rw [History.stagedWrites, if_pos rfl, if_neg (not_or.mpr ⟨notBegins, notEnds⟩), staged,
      agrees.staged transaction rfl]
  undisturbed := by
    rintro other isOpen (⟨_, begins⟩ | ⟨_, undisturbed⟩)
    · exact absurd begins notBegins
    · obtain rfl := Option.mem_some_iff.mp isOpen
      have before := agrees.undisturbed transaction rfl undisturbed
      rw [staged, Graph.applyAll_append_of_ok before, working]

/-- A client without a transaction that neither begins nor ends one goes on without one. -/
theorem ClientAgrees.without {graph : Graph} {history : List Event} {event : Event}
    (agrees : ClientAgrees graph history event.client none) (notBegins : ¬ event.Begins) :
    ClientAgrees graph (event :: history) event.client none where
  isOpen := by
    rw [History.IsOpen, if_pos rfl]
    constructor
    · rintro (begins | ⟨_, wasOpen⟩)
      · exact absurd begins notBegins
      · exact agrees.isOpen.mp wasOpen
    · rintro ⟨transaction, found⟩
      contradiction
  staged := nofun
  undisturbed := nofun

/-- A turn of the client itself: its transaction and the history stay in step. -/
theorem ClientAgrees.own {graph : Graph} {history : List Event} {client : String}
    {current : Option Transaction} (agrees : ClientAgrees graph history client current)
    {call : WriteCall} {answer : call.Answer} {result : MemoryStore}
    (effect : CallEffect call answer graph current result) :
    ClientAgrees result.graph (⟨client, call, answer⟩ :: history) client result.current := by
  cases effect with
  | begun isBegin succeeded =>
      have begins : Event.Begins ⟨client, call, answer⟩ := ⟨isBegin, succeeded⟩
      refine ⟨?_, ?_, ?_⟩
      · rw [History.IsOpen, if_pos rfl]
        exact ⟨fun _ => ⟨_, rfl⟩, fun _ => Or.inl begins⟩
      · intro transaction isOpen
        obtain rfl := Option.mem_some_iff.mp isOpen
        rw [History.stagedWrites, if_pos rfl, if_pos (Or.inl begins)]
        rfl
      · intro transaction isOpen _
        obtain rfl := Option.mem_some_iff.mp isOpen
        rfl
  | wrote operation transaction working asksFor isOpen succeeded applied =>
      subst isOpen
      have written : Event.write? ⟨client, call, answer⟩ = some operation :=
        (if_pos succeeded).trans asksFor
      refine ClientAgrees.goesOn agrees ?_ ?_ (by rw [written]; rfl) ?_
      · rintro ⟨rfl, _⟩
        contradiction
      · rintro (rfl | rfl) <;> contradiction
      · rw [written]
        exact (Graph.applyAll_singleton _ _).trans applied
  | committed transaction next isCommit isOpen succeeded replayed =>
      exact clientAgrees_of_ends (Or.inl isCommit)
  | refusedCommit isCommit failed cause => exact clientAgrees_of_ends (Or.inl isCommit)
  | rolledBack isRollback => exact clientAgrees_of_ends (Or.inr isRollback)
  | refusedWrite operation asksFor failed cause =>
      have notBegins : ¬ Event.Begins ⟨client, call, answer⟩ := fun begins => failed begins.2
      cases current with
      | none => exact ClientAgrees.without agrees notBegins
      | some transaction =>
          have written : Event.write? ⟨client, call, answer⟩ = none := if_neg failed
          refine ClientAgrees.goesOn agrees notBegins ?_ (by simp [written]) (by simp [written])
          rintro (rfl | rfl) <;> contradiction
  | paused span isPause =>
      subst isPause
      cases current with
      | none => exact ClientAgrees.without agrees nofun
      | some transaction =>
          exact ClientAgrees.goesOn agrees nofun nofun (List.append_nil _).symm rfl

/-- What the history tells about the shared graph and the open transactions. -/
structure Agrees (initial : Graph) (history : List Event) (simulation : Simulation) : Prop where
  quiet : simulation.Quiet
  shared : initial.applyAll (History.committedWrites history) = .ok simulation.store.graph
  clients : ∀ client, ClientAgrees simulation.store.graph history client
    (simulation.transactions.find? client)

theorem agrees_onGraph (graph : Graph) : Agrees graph [] (onGraph graph) where
  quiet := quiet_onGraph graph
  shared := rfl
  clients _ := ⟨⟨False.elim, fun ⟨_, found⟩ => nomatch found⟩, nofun, nofun⟩

/-- The committed writes make up the shared graph after a turn as they did before. -/
theorem applyAll_committedWrites_cons {initial graph : Graph} {history : List Event}
    {client : String} {current : Option Transaction}
    (shared : initial.applyAll (History.committedWrites history) = .ok graph)
    (agrees : ClientAgrees graph history client current) {call : WriteCall}
    {answer : call.Answer} {result : MemoryStore}
    (effect : CallEffect call answer graph current result) :
    initial.applyAll (History.committedWrites (⟨client, call, answer⟩ :: history)) =
      .ok result.graph := by
  by_cases commits : Event.Commits ⟨client, call, answer⟩
  · rw [History.committedWrites, if_pos commits, Graph.applyAll_append_of_ok shared]
    obtain ⟨transaction, isOpen, replayed⟩ := effect.exists_of_commits commits
    rw [← agrees.staged transaction isOpen]
    exact replayed
  · rw [History.committedWrites, if_neg commits, shared, effect.graph_eq commits]

/-- The history and the store stay in step when a call has one of the effects. -/
theorem Agrees.of_effect {initial : Graph} {history : List Event} {simulation after : Simulation}
    (agrees : Agrees initial history simulation) {client : String} {call : WriteCall}
    {answer : call.Answer} {result : MemoryStore} (quiet : after.Quiet)
    (effect : CallEffect call answer simulation.store.graph
      (simulation.transactions.find? client) result)
    (graphEq : after.store.graph = result.graph)
    (transactionsEq : after.transactions =
      keepTransaction simulation.transactions client result.current) :
    Agrees initial (⟨client, call, answer⟩ :: history) after where
  quiet := quiet
  shared := by
    rw [graphEq]
    exact applyAll_committedWrites_cons agrees.shared (agrees.clients client) effect
  clients := by
    intro other
    rw [graphEq, transactionsEq, find?_keepTransaction]
    split
    · rename_i same
      rw [same]
      exact (agrees.clients client).own effect
    · rename_i different
      exact (agrees.clients other).other (Ne.symm different) fun noCommit =>
        effect.graph_eq noCommit

/-- The history and the store stay in step. -/
theorem Agrees.step {initial : Graph} {history : List Event} {simulation : Simulation}
    (agrees : Agrees initial history simulation) (turn : Turn) :
    ∃ event after, takeTurn history turn simulation = some (event :: history, after) ∧
      Agrees initial (event :: history) after := by
  obtain ⟨answer, after, result, answered, quiet, effect, graphEq, transactionsEq⟩ :=
    writeIn_effect agrees.quiet turn.client turn.call
  exact ⟨⟨turn.client, turn.call, answer⟩, after, takeTurn_of_writeIn answered history,
    agrees.of_effect quiet effect graphEq transactionsEq⟩

/-- The history and the store are in step after every run. -/
theorem Agrees.run {initial : Graph} {history : List Event} {simulation : Simulation}
    (agrees : Agrees initial history simulation) (turns : List Turn) :
    ∃ past after, turns.foldlM takeTurn history simulation = some (past, after) ∧
      Agrees initial past after :=
  foldlM_takeTurn (fun _ _ agrees => agrees.step) agrees turns

/-- Whatever the order of the turns, the run goes on, and after every run
* the shared graph is the initial graph after the writes of the committed transactions, in the
  order of their commits,
* a turn that is not a successful commit leaves the shared graph as it is, and
* a client whose transaction nobody has disturbed by a commit commits with success, and its copy
  becomes the shared graph. -/
theorem interleaved_transactions_serial (graph : Graph) (turns : List Turn) :
    ∃ history after,
      takeTurns turns (onGraph graph) = some (history, after) ∧
        graph.applyAll (History.committedWrites history) = .ok after.store.graph ∧
        (∀ turn : Turn, ∃ answer next,
          writeIn turn.client (Writing.ask turn.call) after = some (answer, next) ∧
            (¬ (turn.call = .commit ∧ turn.call.Succeeded answer) →
              next.store.graph = after.store.graph)) ∧
        ∀ client, History.IsOpen client history → History.IsUndisturbed client history →
          ∃ transaction next,
            after.transactions.find? client = some transaction ∧
              transaction.staged = History.stagedWrites client history ∧
              writeIn client (Writing.ask .commit) after =
                some ((.ok () : Except StoreError Unit), next) ∧
              next.store.graph = transaction.working := by
  obtain ⟨history, after, ran, agrees⟩ := (agrees_onGraph graph).run turns
  refine ⟨history, after, ran, agrees.shared, ?_, ?_⟩
  · intro turn
    obtain ⟨answer, next, result, answered, _, effect, graphEq, _⟩ :=
      writeIn_effect agrees.quiet turn.client turn.call
    exact ⟨answer, next, answered, fun noCommit => graphEq.trans (effect.graph_eq noCommit)⟩
  · intro client isOpen undisturbed
    have clientAgrees := agrees.clients client
    obtain ⟨transaction, found⟩ := clientAgrees.isOpen.mp isOpen
    have replayed := clientAgrees.undisturbed transaction found undisturbed
    obtain ⟨answer, next, result, answered, _, effect, graphEq, _⟩ :=
      writeIn_effect agrees.quiet client .commit
    obtain ⟨rfl, resultEq⟩ := effect.of_commit found replayed
    exact ⟨transaction, next, found, clientAgrees.staged transaction found, answered,
      graphEq.trans resultEq⟩

/-- Turns of three clients: the first commits a file while the second has a transaction open, and
the third begins after that. -/
def overlappingTurns : List Turn :=
  [⟨"first", .begin⟩, ⟨"first", .upsertNodes [.file (.ofPath "a.py" "python" true)]⟩,
    ⟨"second", .begin⟩, ⟨"second", .deleteFiles ["a.py"]⟩, ⟨"first", .commit⟩,
    ⟨"third", .begin⟩, ⟨"third", .upsertNodes [.file (.ofPath "b.py" "python" true)]⟩]

theorem interleaved_transactions_serial_overlapping :
    ∃ history after transaction next,
      takeTurns overlappingTurns (onGraph .empty) = some (history, after) ∧
        ¬ History.IsUndisturbed "second" history ∧
        after.transactions.find? "third" = some transaction ∧
        writeIn "third" (Writing.ask .commit) after =
          some ((.ok () : Except StoreError Unit), next) ∧
        next.store.graph = transaction.working := by
  have told : (takeTurns overlappingTurns (onGraph .empty)).all (fun result =>
      decide (History.IsOpen "third" result.1 ∧ History.IsUndisturbed "third" result.1 ∧
        ¬ History.IsUndisturbed "second" result.1)) = true := by
    decide +kernel
  obtain ⟨history, after, ran, _, _, commits⟩ :=
    interleaved_transactions_serial .empty overlappingTurns
  rw [ran, Option.all_some, decide_eq_true_eq] at told
  obtain ⟨isOpen, undisturbed, disturbed⟩ := told
  obtain ⟨transaction, next, found, _, answered, shared⟩ := commits "third" isOpen undisturbed
  exact ⟨history, after, transaction, next, ran, disturbed, found, answered, shared⟩

end Simulation

end QueryImpact
