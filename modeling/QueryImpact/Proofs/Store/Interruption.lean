import QueryImpact.Proofs.Store.Outage

/-!
# Imports during outages

An import during an outage goes on as long as each chunk is written at its first or second try, and
then nobody can tell that there was an outage.  The first chunk that is lost ends the import, and
the graph holds what the chunks before it have written.
-/

namespace QueryImpact

namespace Simulation

section Walks

variable {simulation : Simulation} (running : simulation.stalled = false) {graph : Graph}
  {time : Milliseconds} {faults : List Fault}

include running

/-- An import goes on after a chunk that is not lost, as without an outage. -/
theorem write_importChunks_cons {schedule : OutageSchedule}
    (follows : Fault.Follows faults schedule) (kept : ¬ schedule.Loses 0) (graph : Graph)
    (time backoff : Milliseconds) (index : Nat) (report : ImportReport) (chunk : WriteChunk)
    (rest : List WriteChunk) :
    ∃ calls middle left, Fault.Follows left (schedule.drop schedule.callsOfNext) ∧
      calls.count .begin = schedule.callsOfNext ∧
      ∀ result later after,
        write (Writing.importChunks backoff (index + 1)
              (graph.importChunks index report [chunk]).2 rest).traced
            (simulation.idle (graph.importChunks index report [chunk]).1 middle left) =
          some ((result, later), after) →
        write (Writing.importChunks backoff index report (chunk :: rest)).traced
            (simulation.idle graph time faults) =
          some ((result, calls ++ later), after) := by
  have ran := MemoryStore.run_commit backoff chunk graph
  cases written : graph.writeChunk chunk with
  | ok outcome =>
      rw [written] at ran
      obtain ⟨calls, middle, left, wrote, leftFollows, count⟩ :=
        write_commit_of_not_loses running follows kept backoff chunk ran
      refine ⟨calls, middle, left, leftFollows, count, ?_⟩
      rw [Graph.importChunks_cons_of_ok _ _ _ written]
      intro result later after walked
      exact write_traced_bind wrote walked
  | error error =>
      rw [written] at ran
      obtain ⟨calls, middle, left, wrote, leftFollows, count⟩ :=
        write_commit_of_not_loses running follows kept backoff chunk ran
      refine ⟨calls, middle, left, leftFollows, count, ?_⟩
      rw [Graph.importChunks_cons_of_error _ _ _ written]
      intro result later after walked
      apply write_traced_bind wrote
      dsimp only
      rw [Graph.isTransient_of_writeChunk written]
      exact walked

/-- An import that loses no chunk runs as without an outage. -/
theorem write_importChunks_of_not_loses {schedule : OutageSchedule}
    (follows : Fault.Follows faults schedule) (backoff : Milliseconds) (index : Nat)
    (report : ImportReport) {chunks : List WriteChunk}
    (kept : ∀ place < chunks.length, ¬ schedule.Loses place) :
    ∃ calls finish left,
      write (Writing.importChunks backoff index report chunks).traced
            (simulation.idle graph time faults) =
          some ((.ok (graph.importChunks index report chunks).2, calls),
            simulation.idle (graph.importChunks index report chunks).1 finish left) ∧
        calls.count .begin = schedule.callsOf chunks.length := by
  induction chunks generalizing schedule graph time faults index report with
  | nil => exact ⟨[], time, faults, rfl, rfl⟩
  | cons chunk rest ih =>
      have laterKept : ∀ place < rest.length,
          ¬ OutageSchedule.Loses (schedule.drop schedule.callsOfNext) place := by
        intro place bounded
        rw [← OutageSchedule.loses_succ]
        exact kept (place + 1) (Nat.succ_lt_succ bounded)
      obtain ⟨calls, middle, left, leftFollows, count, goesOn⟩ := write_importChunks_cons running
        follows (kept 0 (Nat.succ_pos _)) graph time backoff index report chunk rest
      obtain ⟨later, finish, last, walked, laterCount⟩ := ih leftFollows (index + 1) _ laterKept
      rw [Graph.importChunks_cons]
      refine ⟨calls ++ later, finish, last, goesOn _ _ _ walked, ?_⟩
      rw [List.count_append, count, laterCount]
      rfl

/-- An import ends at the first chunk that is lost; what the chunks before it have written is
there. -/
theorem write_importChunks_of_loses {schedule : OutageSchedule}
    (follows : Fault.Follows faults schedule) (backoff : Milliseconds) (index : Nat)
    (report : ImportReport) {chunks : List WriteChunk} {place : Nat}
    (bounded : place < chunks.length) (lost : schedule.Loses place)
    (kept : ∀ earlier < place, ¬ schedule.Loses earlier) :
    ∃ calls finish left,
      write (Writing.importChunks backoff index report chunks).traced
            (simulation.idle graph time faults) =
          some ((.error FaultKind.unavailable.error, calls),
            simulation.idle (graph.importChunks index report (chunks.take place)).1 finish left) ∧
        calls.count .begin = schedule.callsOf place + 2 := by
  induction chunks generalizing schedule graph time faults index report place with
  | nil => exact absurd bounded (Nat.not_lt_zero place)
  | cons chunk rest ih =>
      cases place with
      | zero =>
          obtain ⟨calls, finish, left, wrote, count⟩ :=
            write_commit_of_loses running follows lost backoff chunk
          refine ⟨calls ++ [], finish, left, write_traced_bind wrote rfl, ?_⟩
          rw [List.append_nil, count]
          rfl
      | succ before =>
          have laterKept : ∀ earlier < before,
              ¬ OutageSchedule.Loses (schedule.drop schedule.callsOfNext) earlier := by
            intro earlier isEarlier
            rw [← OutageSchedule.loses_succ]
            exact kept (earlier + 1) (Nat.succ_lt_succ isEarlier)
          obtain ⟨calls, middle, left, leftFollows, count, goesOn⟩ :=
            write_importChunks_cons running follows (kept 0 (Nat.succ_pos _)) graph time backoff
              index report chunk rest
          obtain ⟨later, finish, last, walked, laterCount⟩ :=
            ih leftFollows (index + 1) _ (Nat.lt_of_succ_lt_succ bounded)
              ((OutageSchedule.loses_succ schedule before).mp lost) laterKept
          rw [List.take_succ_cons, Graph.importChunks_cons]
          refine ⟨calls ++ later, finish, last, goesOn _ _ _ walked, ?_⟩
          rw [List.count_append, count, laterCount, OutageSchedule.callsOf, Nat.add_assoc]

end Walks

/-- Two simulations with the same graph, the same transactions and the same schema; times and
faults may differ. -/
structure SameContents (first second : Simulation) : Prop where
  store : first.store = second.store
  transactions : first.transactions = second.transactions
  schema : first.schema = second.schema

theorem eq_idle {simulation : Simulation} (quiet : simulation.Quiet)
    (between : simulation.store.current = none) :
    simulation = simulation.idle simulation.store.graph simulation.clock [] := by
  obtain ⟨⟨graph, current⟩, transactions, schema, clock, delay, stalled, faults⟩ := simulation
  obtain rfl := between
  obtain rfl := quiet.noFaults
  rfl

/-- During an outage, an import either is not told from one without, or it ends at the first chunk
that is lost.  Then the graph is what an import of the chunks before makes of it, and the second
call of the lost chunk was the last one to begin a transaction. -/
theorem write_importAll_during_outage (settings : BatchSettings) (positive : 0 < settings.size)
    (input : ImportInput) (simulation : Simulation) (quiet : simulation.Quiet)
    (between : simulation.store.current = none) (schedule : OutageSchedule) :
    let chunks := input.writeChunks settings.size
    let struck : Simulation := { simulation with faults := schedule.faults }
    ((∀ place < chunks.length, ¬ schedule.Loses place) →
      ∃ report after calls struckAfter,
        write (Writing.importAll settings input) simulation = some (.ok report, after) ∧
          write (Writing.importAll settings input).traced struck =
            some ((.ok report, calls), struckAfter) ∧
          struckAfter.SameContents after ∧
          calls.count .begin = schedule.callsOf chunks.length) ∧
    ∀ place < chunks.length, schedule.Loses place →
      (∀ earlier < place, ¬ schedule.Loses earlier) →
      ∃ report after calls struckAfter,
        write (Writing.importChunks settings.backoff 0 (.start input.skipped) (chunks.take place))
            simulation = some (.ok report, after) ∧
          write (Writing.importAll settings input).traced struck =
            some ((.error FaultKind.unavailable.error, calls), struckAfter) ∧
          struckAfter.SameContents after ∧
          calls.count .begin = schedule.callsOf place + 2 := by
  intro chunks struck
  have program : Writing.importAll settings input =
      Writing.importChunks settings.backoff 0 (.start input.skipped) chunks := by
    rw [Writing.importAll, Writing.withPositiveSize, if_neg (Nat.ne_of_gt positive)]
  have struckIdle : struck =
      simulation.idle simulation.store.graph simulation.clock schedule.faults := by
    change { simulation with faults := schedule.faults } = _
    rw [eq_idle quiet between]
    rfl
  have undisturbed := fun walk : List WriteChunk =>
    @write_importChunks_of_not_loses simulation quiet.notStalled simulation.store.graph
      simulation.clock [] [] (Or.inl rfl) settings.backoff 0 (.start input.skipped) walk
      fun place _ => OutageSchedule.not_loses_nil place
  rw [← eq_idle quiet between] at undisturbed
  rw [program, struckIdle]
  constructor
  · intro kept
    obtain ⟨_, _, _, ran, _⟩ := undisturbed chunks
    obtain ⟨calls, finish, left, ranStruck, count⟩ :=
      write_importChunks_of_not_loses quiet.notStalled (Or.inl rfl) settings.backoff 0
        (.start input.skipped) kept
    exact ⟨_, _, calls, _, write_of_traced ran, ranStruck, ⟨rfl, rfl, rfl⟩, count⟩
  · intro place bounded lost kept
    obtain ⟨_, _, _, ran, _⟩ := undisturbed (chunks.take place)
    obtain ⟨calls, finish, left, ranStruck, count⟩ :=
      write_importChunks_of_loses quiet.notStalled (Or.inl rfl) settings.backoff 0
        (.start input.skipped) bounded lost kept
    exact ⟨_, _, calls, _, write_of_traced ran, ranStruck, ⟨rfl, rfl, rfl⟩, count⟩

/-- Three files. -/
def threeFiles : ImportInput where
  nodes :=
    [.file (.ofPath "a.py" "python" true), .file (.ofPath "b.py" "python" true),
      .file (.ofPath "c.py" "python" true)]
  relationships := []
  skipped := 0

/-- Files in chunks of their own.  If only the first call for each of them fails, all are written; if
both calls for the second one fail, only the first one is. -/
theorem write_importAll_during_outage_threeFiles :
    (∃ report after calls struckAfter,
      write (Writing.importAll ⟨1, 50⟩ threeFiles) (onGraph .empty) = some (.ok report, after) ∧
        write (Writing.importAll ⟨1, 50⟩ threeFiles).traced
            { onGraph .empty with
              faults := OutageSchedule.faults [true, false, true, false, true, false] } =
          some ((.ok report, calls), struckAfter) ∧
        struckAfter.SameContents after ∧ calls.count .begin = 6) ∧
    ∃ report after calls struckAfter,
      write (Writing.importChunks 50 0 (.start 0) [.nodes [.file (.ofPath "a.py" "python" true)]])
          (onGraph .empty) = some (.ok report, after) ∧
        write (Writing.importAll ⟨1, 50⟩ threeFiles).traced
            { onGraph .empty with faults := OutageSchedule.faults [true, false, true, true] } =
          some ((.error FaultKind.unavailable.error, calls), struckAfter) ∧
        struckAfter.SameContents after ∧ calls.count .begin = 4 := by
  have single : threeFiles.writeChunks 1 = threeFiles.nodes.map fun node => .nodes [node] := by
    decide +kernel
  constructor
  · have kept := (write_importAll_during_outage ⟨1, 50⟩ (by decide) threeFiles (onGraph .empty)
      (quiet_onGraph .empty) rfl [true, false, true, false, true, false]).1
    rw [single] at kept
    exact kept (by decide)
  · have lost := (write_importAll_during_outage ⟨1, 50⟩ (by decide) threeFiles (onGraph .empty)
      (quiet_onGraph .empty) rfl [true, false, true, true]).2 1
    rw [single] at lost
    exact lost (by decide) (by decide) (by decide)

end Simulation

end QueryImpact
