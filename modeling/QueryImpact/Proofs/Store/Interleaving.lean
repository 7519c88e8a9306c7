import QueryImpact.Proofs.Store.Lossless
import QueryImpact.Proofs.Store.Script

/-!
# Transactions of several imports

Several imports run on one store, and their calls come in any order.  A transaction works on a copy
of the shared graph that is stale as soon as somebody else commits, but a commit makes the writes of
the transaction once more, on the shared graph as it is then.  So if keys tell the kinds of nodes,
no call fails, whatever the others do, and every turn brings a client nearer to the end of its
import.  A client commits the nodes of its relationships before them or with them, so none of them
lacks an end.
-/

namespace QueryImpact

/-! ## What a client has committed -/

namespace History

/-- The writes of the committed transactions of a client, in the order of the commits. -/
def committedBy (client : String) : List Event → List WriteOperation
  | [] => []
  | event :: past =>
      if event.client = client ∧ event.Commits then
        committedBy client past ++ stagedWrites client past
      else committedBy client past

theorem committedBy_cons_of_commits {event : Event} (commits : event.Commits)
    (past : List Event) :
    committedBy event.client (event :: past) =
      committedBy event.client past ++ stagedWrites event.client past :=
  if_pos ⟨rfl, commits⟩

theorem committedBy_cons_of_not_commits {event : Event} (noCommit : ¬ event.Commits)
    (client : String) (past : List Event) :
    committedBy client (event :: past) = committedBy client past :=
  if_neg fun both => noCommit both.2

theorem committedBy_cons_of_ne {event : Event} {client : String} (other : event.client ≠ client)
    (past : List Event) : committedBy client (event :: past) = committedBy client past :=
  if_neg fun both => other both.1

theorem committedWrites_cons_of_commits {event : Event} (commits : event.Commits)
    (past : List Event) :
    committedWrites (event :: past) = committedWrites past ++ stagedWrites event.client past :=
  if_pos commits

theorem committedWrites_cons_of_not_commits {event : Event} (noCommit : ¬ event.Commits)
    (past : List Event) : committedWrites (event :: past) = committedWrites past :=
  if_neg noCommit

theorem committedBy_subset (client : String) (history : List Event) :
    committedBy client history ⊆ committedWrites history := by
  induction history with
  | nil => exact List.Subset.refl _
  | cons event past ih =>
      by_cases commits : event.Commits
      · rw [committedWrites_cons_of_commits commits]
        by_cases own : event.client = client
        · subst own
          rw [committedBy_cons_of_commits commits]
          exact List.append_subset.mpr ⟨List.subset_append_of_subset_left _ ih,
            List.subset_append_right _ _⟩
        · rw [committedBy_cons_of_ne own]
          exact List.subset_append_of_subset_left _ ih
      · rw [committedWrites_cons_of_not_commits commits, committedBy_cons_of_not_commits commits]
        exact ih

/-- A committed write belongs to a client that has taken a turn. -/
theorem exists_of_mem_committedWrites {operation : WriteOperation} {history : List Event}
    (member : operation ∈ committedWrites history) :
    ∃ event ∈ history, operation ∈ committedBy event.client history := by
  induction history with
  | nil => exact absurd member List.not_mem_nil
  | cons event past ih =>
      have earlier : operation ∈ committedWrites past →
          ∃ other ∈ event :: past, operation ∈ committedBy other.client (event :: past) := by
        intro before
        obtain ⟨other, otherMember, committed⟩ := ih before
        refine ⟨other, List.mem_cons_of_mem _ otherMember, ?_⟩
        rw [committedBy]
        split
        · exact List.mem_append_left _ committed
        · exact committed
      by_cases commits : event.Commits
      · rw [committedWrites_cons_of_commits commits] at member
        rcases List.mem_append.mp member with before | here
        · exact earlier before
        · refine ⟨event, List.mem_cons_self, ?_⟩
          rw [committedBy_cons_of_commits commits]
          exact List.mem_append_right _ here
      · rw [committedWrites_cons_of_not_commits commits] at member
        exact earlier member

/-- The nodes that were committed, in the order of the commits. -/
def committedNodes (history : List Event) : List Node :=
  (committedWrites history).flatMap WriteOperation.givenNodes

/-- The relationships that were committed, in the order of the commits. -/
def committedRelationships (history : List Event) : List Relationship :=
  (committedWrites history).flatMap WriteOperation.givenRelationships

end History

namespace Simulation

/-! ## Interleavings -/

/-- Imports under way: what the clients have still to do, and what has happened so far, the last
event first. -/
structure Running where
  /-- What every client has still to do. -/
  programs : String → Writing (Except StoreError ImportReport)
  /-- What has happened. -/
  history : List Event

/-- A client makes its next call, if it has not ended. -/
def takeCall (running : Running) (client : String) : Simulated Running :=
  match running.programs client with
  | .done _ => pure running
  | .call request next => do
      let answer ← writeIn client (Writing.ask request)
      pure ⟨Function.update running.programs client (next answer),
        ⟨client, request, answer⟩ :: running.history⟩

/-- Run the programs of some clients; the schedule tells whose turn it is. -/
def interleave (programs : String → Writing (Except StoreError ImportReport))
    (schedule : List String) : Simulated Running :=
  schedule.foldlM takeCall ⟨programs, []⟩

/-- Transactions with writes that cannot be refused and relationships that cannot be left out. -/
structure IsOrderly (tell : String → NodeKind) (transactions : List (List WriteChunk)) :
    Prop where
  /-- Keys tell kinds. -/
  told : ∀ chunk ∈ transactions.flatten, chunk.operation.Tells tell
  /-- Nodes come before the relationships between them. -/
  ends : EndsGiven (fun _ => False) (transactions.flatten.map WriteChunk.operation)

/-- How far a client has come with its transactions, and how many calls it has still to make. -/
inductive Progress (transactions : List (List WriteChunk)) (history : List Event)
    (client : String) (current : Option Transaction)
    (program : Writing (Except StoreError ImportReport)) : Nat → Prop
  /-- Some transactions are finished, and the next has not begun. -/
  | between (finished rest : List (List WriteChunk)) (split : transactions = finished ++ rest)
      (committed : History.committedBy client history =
        finished.flatten.map WriteChunk.operation)
      (performs : Writing.Performs Writing.IsFaultless (Writing.transactionCalls rest) program) :
      Progress transactions history client current program
        (Writing.transactionCalls rest).length
  /-- A transaction is open, and some of its chunks are written. -/
  | within (finished : List (List WriteChunk)) (written left : List WriteChunk)
      (rest : List (List WriteChunk)) (transaction : Transaction)
      (split : transactions = finished ++ (written ++ left) :: rest)
      (isOpen : current = some transaction)
      (staged : transaction.staged = written.map WriteChunk.operation)
      (committed : History.committedBy client history =
        finished.flatten.map WriteChunk.operation)
      (performs : Writing.Performs Writing.IsFaultless
        (left.map WriteChunk.call ++ .commit :: Writing.transactionCalls rest) program) :
      Progress transactions history client current program
        (left.map WriteChunk.call ++ .commit :: Writing.transactionCalls rest).length

/-- Keys tell kinds in the shared graph and in the copy of a transaction, and the ends of every
committed relationship were known or committed before it. -/
structure Regular (tell : String → NodeKind) (known : String → Prop) (history : List Event)
    (store : MemoryStore) : Prop where
  /-- In the shared graph. -/
  shared : store.graph.Tells tell
  /-- In the copy. -/
  copy : ∀ transaction ∈ store.current, transaction.working.Tells tell
  /-- Ends of relationships. -/
  ends : EndsGiven known (History.committedWrites history)

/-! ## A turn of a client -/

section Step

variable {tell : String → NodeKind} {known : String → Prop}
  {transactions : List (List WriteChunk)} {history : List Event} {client : String}
  {graph : Graph} {current : Option Transaction}
  {program : Writing (Except StoreError ImportReport)} {count : Nat}

/-- A turn of somebody else does not change how far a client has come. -/
theorem Progress.other (progress : Progress transactions history client current program count)
    {event : Event} (different : event.client ≠ client) :
    Progress transactions (event :: history) client current program count := by
  cases progress with
  | between finished rest split committed performs =>
      refine .between finished rest split ?_ performs
      rw [History.committedBy_cons_of_ne different, committed]
  | within finished written left rest transaction split isOpen staged committed performs =>
      refine .within finished written left rest transaction split isOpen staged ?_ performs
      rw [History.committedBy_cons_of_ne different, committed]

/-- What a turn of a client has to keep. -/
def GoesOn (tell : String → NodeKind) (known : String → Prop)
    (transactions : List (List WriteChunk)) (history : List Event) (client : String)
    (graph : Graph) (current : Option Transaction)
    (program : Writing (Except StoreError ImportReport)) (count : Nat) : Prop :=
  ∃ request next, program = .call request next ∧
    ∀ answer result, CallEffect request answer graph current result →
      Progress transactions (⟨client, request, answer⟩ :: history) client result.current
          (next answer) count ∧
        Regular tell known (⟨client, request, answer⟩ :: history) result

theorem goesOn_of_begin (regular : Regular tell known history ⟨graph, current⟩)
    {finished rest : List (List WriteChunk)} {chunks : List WriteChunk}
    (split : transactions = finished ++ chunks :: rest)
    (committed : History.committedBy client history = finished.flatten.map WriteChunk.operation)
    (performs : Writing.Performs Writing.IsFaultless
      (Writing.transactionCalls (chunks :: rest)) program) :
    GoesOn tell known transactions history client graph current program
      (chunks.map WriteChunk.call ++ .commit :: Writing.transactionCalls rest).length := by
  obtain ⟨next, rfl, later⟩ := performs
  refine ⟨.begin, next, rfl, ?_⟩
  intro answer result effect
  obtain ⟨succeeded, rfl⟩ := effect.of_begin
  have noCommit : ¬ Event.Commits ⟨client, .begin, answer⟩ := by
    rintro ⟨isCommit, _⟩
    contradiction
  constructor
  · refine .within finished [] chunks rest (.begin graph) split rfl rfl ?_ (later answer succeeded)
    rw [History.committedBy_cons_of_not_commits noCommit, committed]
  · refine ⟨regular.shared, ?_, ?_⟩
    · intro transaction isOpen
      obtain rfl := Option.mem_some_iff.mp isOpen
      exact regular.shared
    · rw [History.committedWrites_cons_of_not_commits noCommit]
      exact regular.ends

theorem goesOn_of_write (orderly : IsOrderly tell transactions)
    (regular : Regular tell known history ⟨graph, current⟩)
    {finished rest : List (List WriteChunk)} {written left : List WriteChunk} {chunk : WriteChunk}
    {transaction : Transaction}
    (split : transactions = finished ++ (written ++ chunk :: left) :: rest)
    (isOpen : current = some transaction)
    (staged : transaction.staged = written.map WriteChunk.operation)
    (committed : History.committedBy client history = finished.flatten.map WriteChunk.operation)
    (performs : Writing.Performs Writing.IsFaultless
      ((chunk :: left).map WriteChunk.call ++ .commit :: Writing.transactionCalls rest) program) :
    GoesOn tell known transactions history client graph current program
      (left.map WriteChunk.call ++ .commit :: Writing.transactionCalls rest).length := by
  obtain ⟨next, rfl, later⟩ := performs
  refine ⟨chunk.call, next, rfl, ?_⟩
  intro answer result effect
  have told : chunk.operation.Tells tell := by
    apply orderly.told
    simp [split]
  obtain ⟨working, applied, workingTells⟩ := (regular.copy transaction isOpen).apply told
  obtain ⟨succeeded, rfl⟩ := effect.of_write chunk.operation?_call isOpen applied
  have noCommit : ¬ Event.Commits ⟨client, chunk.call, answer⟩ := by
    rintro ⟨isCommit, _⟩
    cases chunk <;> contradiction
  constructor
  · refine .within finished (written ++ [chunk]) left rest _ ?_ rfl ?_ ?_ (later answer succeeded)
    · rw [split, List.append_assoc]
      rfl
    · simp [staged]
    · rw [History.committedBy_cons_of_not_commits noCommit, committed]
  · refine ⟨regular.shared, ?_, ?_⟩
    · intro other otherOpen
      obtain rfl := Option.mem_some_iff.mp otherOpen
      exact workingTells
    · rw [History.committedWrites_cons_of_not_commits noCommit]
      exact regular.ends

/-- The writes of an open transaction find the ends of their relationships in the shared graph,
whatever others have committed in between. -/
theorem endsGiven_of_commit (orderly : IsOrderly tell transactions)
    (ends : EndsGiven known (History.committedWrites history))
    {finished rest : List (List WriteChunk)} {written : List WriteChunk}
    (split : transactions = finished ++ written :: rest)
    (committed : History.committedBy client history =
      finished.flatten.map WriteChunk.operation) :
    EndsGiven known
      (History.committedWrites history ++ written.map WriteChunk.operation) := by
  have own := orderly.ends
  rw [split, List.flatten_append, List.flatten_cons, List.map_append, List.map_append,
    EndsGiven.append_iff, EndsGiven.append_iff] at own
  refine EndsGiven.append_iff.mpr ⟨ends, own.2.1.mono ?_⟩
  rintro key (none | ⟨node, member, sameKey⟩)
  · exact none.elim
  · obtain ⟨operation, operationMember, given⟩ := List.mem_flatMap.mp member
    rw [← committed] at operationMember
    exact Or.inr ⟨node, List.mem_flatMap.mpr
      ⟨operation, History.committedBy_subset _ _ operationMember, given⟩, sameKey⟩

theorem goesOn_of_commit (orderly : IsOrderly tell transactions)
    (agrees : ClientAgrees graph history client current)
    (regular : Regular tell known history ⟨graph, current⟩)
    {finished rest : List (List WriteChunk)} {written : List WriteChunk}
    {transaction : Transaction} (split : transactions = finished ++ written :: rest)
    (isOpen : current = some transaction)
    (staged : transaction.staged = written.map WriteChunk.operation)
    (committed : History.committedBy client history = finished.flatten.map WriteChunk.operation)
    (performs : Writing.Performs Writing.IsFaultless
      (.commit :: Writing.transactionCalls rest) program) :
    GoesOn tell known transactions history client graph current program
      (Writing.transactionCalls rest).length := by
  obtain ⟨next, rfl, later⟩ := performs
  refine ⟨.commit, next, rfl, ?_⟩
  intro answer result effect
  have told : ∀ chunk ∈ written, chunk.operation.Tells tell := by
    intro chunk member
    apply orderly.told
    simp [split, member]
  obtain ⟨last, replayed, lastTells⟩ := regular.shared.applyAll told
  rw [← staged] at replayed
  obtain ⟨answered, graphEq⟩ := effect.of_commit isOpen replayed
  have commits : Event.Commits ⟨client, .commit, answer⟩ := ⟨rfl, (), answered⟩
  have stagedWrites : History.stagedWrites client history = written.map WriteChunk.operation := by
    rw [← agrees.staged transaction isOpen, staged]
  constructor
  · refine .between (finished ++ [written]) rest ?_ ?_ (later answer ⟨(), answered⟩)
    · rw [split, List.append_assoc]
      rfl
    · rw [History.committedBy_cons_of_commits commits, committed, stagedWrites]
      simp
  · refine ⟨graphEq ▸ lastTells, ?_, ?_⟩
    · rw [effect.current_of_commit]
      intro other otherOpen
      contradiction
    · rw [History.committedWrites_cons_of_commits commits, stagedWrites]
      exact endsGiven_of_commit orderly regular.ends split committed

/-- At its turn a client has ended, or its next call succeeds. -/
theorem Progress.step (progress : Progress transactions history client current program count)
    (orderly : IsOrderly tell transactions)
    (agrees : ClientAgrees graph history client current)
    (regular : Regular tell known history ⟨graph, current⟩) :
    (count = 0 ∧ ∃ value, program = .done value) ∨
      GoesOn tell known transactions history client graph current program (count - 1) := by
  cases progress with
  | between finished rest split committed performs =>
      cases rest with
      | nil =>
          obtain ⟨value, isDone, _⟩ := performs
          exact Or.inl ⟨rfl, value, isDone⟩
      | cons chunks more => exact Or.inr (goesOn_of_begin regular split committed performs)
  | within finished written left rest transaction split isOpen staged committed performs =>
      cases left with
      | nil =>
          rw [List.append_nil] at split
          exact Or.inr (goesOn_of_commit orderly agrees regular split isOpen staged committed
            performs)
      | cons chunk more =>
          exact Or.inr (goesOn_of_write orderly regular split isOpen staged committed performs)

/-- A client with no calls left has ended without a failure, and all its writes are committed. -/
theorem Progress.of_zero (progress : Progress transactions history client current program 0) :
    (∃ report, program = .done (.ok report) ∧ report.failures = []) ∧
      History.committedBy client history = transactions.flatten.map WriteChunk.operation := by
  generalize noneLeft : 0 = count at progress
  cases progress with
  | between finished rest split committed performs =>
      cases rest with
      | nil =>
          obtain ⟨_, rfl, report, rfl, clean⟩ := performs
          rw [List.append_nil] at split
          rw [split]
          exact ⟨⟨report, rfl, clean⟩, committed⟩
      | cons chunks more => simp [Writing.transactionCalls] at noneLeft
  | within finished written left rest transaction split isOpen staged committed performs =>
      simp at noneLeft

end Step

/-! ## Runs -/

section Run

variable {tell : String → NodeKind} {initial : Graph} {clients : List String}
  {transactions : String → List (List WriteChunk)}

/-- What every turn keeps, when the clients have taken the given turns. -/
structure InStep (tell : String → NodeKind) (initial : Graph) (clients : List String)
    (transactions : String → List (List WriteChunk)) (taken : List String) (running : Running)
    (simulation : Simulation) : Prop where
  /-- The history tells what is shared and what is staged. -/
  agrees : Agrees initial running.history simulation
  /-- No client has a copy in which a write could be refused. -/
  regular : ∀ client, Regular tell (fun key => initial.nodes.contains key = true)
    running.history ⟨simulation.store.graph, simulation.transactions.find? client⟩
  /-- Nobody else has taken a turn. -/
  turns : ∀ event ∈ running.history, event.client ∈ clients
  /-- Every turn brings a client nearer to its end. -/
  progress : ∀ client ∈ clients,
    Progress (transactions client) running.history client
      (simulation.transactions.find? client) (running.programs client)
      ((Writing.transactionCalls (transactions client)).length - taken.count client)

theorem inStep_onGraph (tells : initial.Tells tell)
    {programs : String → Writing (Except StoreError ImportReport)}
    (performs : ∀ client ∈ clients, Writing.Performs Writing.IsFaultless
      (Writing.transactionCalls (transactions client)) (programs client)) :
    InStep tell initial clients transactions [] ⟨programs, []⟩ (onGraph initial) where
  agrees := agrees_onGraph initial
  regular _ := ⟨tells, fun _ isOpen => absurd isOpen (by simp [onGraph, start]), trivial⟩
  turns _ member := absurd member List.not_mem_nil
  progress client member := .between [] (transactions client) rfl rfl (performs client member)

section Turn

variable {taken : List String} {running : Running} {simulation : Simulation} {client : String}

/-- A turn of a client that has ended changes nothing. -/
theorem InStep.of_done (inStep : InStep tell initial clients transactions taken running simulation)
    (noneLeft : (Writing.transactionCalls (transactions client)).length - taken.count client = 0) :
    InStep tell initial clients transactions (client :: taken) running simulation where
  agrees := inStep.agrees
  regular := inStep.regular
  turns := inStep.turns
  progress := by
    intro other otherMember
    have progress := inStep.progress other otherMember
    by_cases same : client = other
    · subst same
      have stillNone : (Writing.transactionCalls (transactions client)).length -
          (client :: taken).count client = 0 := by
        rw [List.count_cons_self]
        omega
      rwa [stillNone, ← noneLeft]
    · rwa [List.count_cons_of_ne same]

/-- A call of a client leaves the others where they are. -/
theorem InStep.of_effect
    (inStep : InStep tell initial clients transactions taken running simulation)
    (member : client ∈ clients) {after : Simulation} {request : WriteCall}
    {next : request.Answer → Writing (Except StoreError ImportReport)} {answer : request.Answer}
    {result : MemoryStore} (quiet : after.Quiet)
    (effect : CallEffect request answer simulation.store.graph
      (simulation.transactions.find? client) result)
    (graphEq : after.store.graph = result.graph)
    (transactionsEq : after.transactions =
      keepTransaction simulation.transactions client result.current)
    (progress : Progress (transactions client) (⟨client, request, answer⟩ :: running.history)
      client result.current (next answer)
      ((Writing.transactionCalls (transactions client)).length - taken.count client - 1))
    (regular : Regular tell (fun key => initial.nodes.contains key = true)
      (⟨client, request, answer⟩ :: running.history) result) :
    InStep tell initial clients transactions (client :: taken)
      ⟨Function.update running.programs client (next answer),
        ⟨client, request, answer⟩ :: running.history⟩ after where
  agrees := inStep.agrees.of_effect quiet effect graphEq transactionsEq
  regular := by
    intro other
    rw [graphEq, transactionsEq, find?_keepTransaction]
    split
    · exact regular
    · exact ⟨regular.shared, (inStep.regular other).copy, regular.ends⟩
  turns := List.forall_mem_cons.mpr ⟨member, inStep.turns⟩
  progress := by
    intro other otherMember
    dsimp only
    rw [transactionsEq, find?_keepTransaction]
    by_cases same : other = client
    · subst same
      rw [if_pos rfl, Function.update_self, List.count_cons_self, ← Nat.sub_sub]
      exact progress
    · rw [if_neg same, Function.update_of_ne same, List.count_cons_of_ne (Ne.symm same)]
      exact (inStep.progress other otherMember).other (Ne.symm same)

/-- A turn keeps everything in step. -/
theorem InStep.takeCall
    (inStep : InStep tell initial clients transactions taken running simulation)
    (orderly : ∀ client ∈ clients, IsOrderly tell (transactions client))
    (member : client ∈ clients) :
    ∃ next after, takeCall running client simulation = some (next, after) ∧
      InStep tell initial clients transactions (client :: taken) next after := by
  rcases (inStep.progress client member).step (orderly client member)
    (inStep.agrees.clients client) (inStep.regular client) with
    ⟨noneLeft, value, isDone⟩ | ⟨request, next, calls, goesOn⟩
  · refine ⟨running, simulation, ?_, inStep.of_done noneLeft⟩
    simp only [Simulation.takeCall, isDone]
    rfl
  · obtain ⟨answer, after, result, answered, quiet, effect, graphEq, transactionsEq⟩ :=
      writeIn_effect inStep.agrees.quiet client request
    obtain ⟨progress, regular⟩ := goesOn answer result effect
    refine ⟨_, after, ?_,
      inStep.of_effect member quiet effect graphEq transactionsEq progress regular⟩
    simp only [Simulation.takeCall, calls, bind, StateT.bind, answered]
    rfl

end Turn

/-- Every run keeps everything in step. -/
theorem InStep.run {taken : List String} {running : Running} {simulation : Simulation}
    (inStep : InStep tell initial clients transactions taken running simulation)
    (orderly : ∀ client ∈ clients, IsOrderly tell (transactions client))
    {schedule : List String} (turns : ∀ client ∈ schedule, client ∈ clients) :
    ∃ last after, schedule.foldlM Simulation.takeCall running simulation = some (last, after) ∧
      InStep tell initial clients transactions (schedule.reverse ++ taken) last after := by
  induction schedule generalizing taken running simulation with
  | nil => exact ⟨running, simulation, rfl, inStep⟩
  | cons client rest ih =>
      obtain ⟨here, later⟩ := List.forall_mem_cons.mp turns
      obtain ⟨next, middle, taken, nextInStep⟩ := inStep.takeCall orderly here
      obtain ⟨last, after, ran, lastInStep⟩ := ih nextInStep later
      refine ⟨last, after, ?_, ?_⟩
      · rw [List.foldlM_cons]
        simp [bind, StateT.bind, taken, ran]
      · rw [List.reverse_cons, List.append_assoc]
        exact lastInStep

end Run

end Simulation

end QueryImpact
