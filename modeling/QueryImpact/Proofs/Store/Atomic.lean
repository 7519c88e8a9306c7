import QueryImpact.Proofs.Store.Import

/-!
# Imports in a single transaction

An import in one transaction writes all its chunks or none.  It succeeds exactly when an import of
the same chunks, each in a transaction of its own, has none refused, and then does the same; else it
fails for the reason of the first chunk that is refused there.
-/

namespace QueryImpact

namespace Graph

/-- Write chunks one after the other, up to the first that is refused. -/
def writeAll (graph : Graph) (report : ImportReport) :
    List WriteChunk → Except StoreError (Graph × ImportReport)
  | [] => .ok (graph, report)
  | chunk :: rest =>
      match graph.writeChunk chunk with
      | .ok (next, stats) => next.writeAll (report.add chunk.kind stats) rest
      | .error error => .error error

/-- Refused chunks stay in the report. -/
theorem failures_importChunks (graph : Graph) (index : Nat) (report : ImportReport)
    (chunks : List WriteChunk) :
    report.failures <+: (graph.importChunks index report chunks).2.failures := by
  induction chunks generalizing graph index report with
  | nil => exact List.prefix_rfl
  | cons chunk rest ih =>
      cases written : graph.writeChunk chunk with
      | ok result =>
          rw [importChunks_cons_of_ok _ _ _ written]
          rw [← report.failures_add chunk.kind result.2]
          exact ih _ _ _
      | error error =>
          rw [importChunks_cons_of_error _ _ _ written]
          have longer : report.failures <+:
              (report.addFailure ⟨chunk.kind, index, error⟩).failures := List.prefix_append _ _
          exact longer.trans (ih _ _ _)

/-- Writing chunks up to the first that is refused is a walk over the chunks that refuses none. -/
theorem writeAll_eq {report : ImportReport} (clean : report.failures = []) (graph : Graph)
    (index : Nat) (chunks : List WriteChunk) :
    graph.writeAll report chunks =
      match (graph.importChunks index report chunks).2.failures.head? with
      | none => .ok (graph.importChunks index report chunks)
      | some failure => .error failure.cause := by
  induction chunks generalizing graph index report with
  | nil =>
      rw [writeAll, importChunks, clean]
      rfl
  | cons chunk rest ih =>
      rw [writeAll]
      cases written : graph.writeChunk chunk with
      | ok result =>
          rw [importChunks_cons_of_ok _ _ _ written]
          exact ih ((report.failures_add _ _).trans clean) result.1 (index + 1)
      | error error =>
          rw [importChunks_cons_of_error _ _ _ written]
          obtain ⟨later, failures⟩ := failures_importChunks graph (index + 1)
            (report.addFailure ⟨chunk.kind, index, error⟩) rest
          rw [← failures, ImportReport.addFailure, clean]
          rfl

end Graph

namespace MemoryStore

/-- Writing chunks in a transaction that would commit as it stands: so it does afterwards. -/
theorem run_writeAll {graph : Graph} {transaction : Transaction}
    (replays : transaction.commit graph = .ok transaction.working) (report : ImportReport)
    (chunks : List WriteChunk) :
    ∃ after : Transaction, after.commit graph = .ok after.working ∧
      match transaction.working.writeAll report chunks with
      | .ok (next, last) =>
          after.working = next ∧
            run (Writing.writeAll report chunks) ⟨graph, some transaction⟩ =
              (.ok last, ⟨graph, some after⟩)
      | .error error =>
          run (Writing.writeAll report chunks) ⟨graph, some transaction⟩ =
            (.error error, ⟨graph, some after⟩) := by
  induction chunks generalizing transaction report with
  | nil => exact ⟨transaction, replays, rfl, rfl⟩
  | cons chunk rest ih =>
      have wrote := run_write chunk graph transaction
      rw [Graph.writeAll]
      cases written : transaction.working.writeChunk chunk with
      | error error =>
          rw [written] at wrote
          refine ⟨transaction, replays, ?_⟩
          dsimp only
          rw [Writing.writeAll, run_bind, wrote]
          rfl
      | ok result =>
          rw [written] at wrote
          have replaysNext : graph.applyAll (transaction.staged ++ [chunk.operation]) =
              .ok result.1 := by
            rw [Graph.applyAll_append_of_ok replays, Graph.applyAll_singleton,
              Graph.apply_operation written]
          obtain ⟨after, replaysAfter, ran⟩ :=
            @ih ⟨result.1, transaction.staged ++ [chunk.operation]⟩ replaysNext
              (report.add chunk.kind result.2)
          refine ⟨after, replaysAfter, ?_⟩
          rw [Writing.writeAll, run_bind, wrote]
          exact ran

/-- An import in one transaction, on a store without open transactions. -/
theorem run_importAtomic_eq {settings : BatchSettings} (positive : 0 < settings.size)
    (input : ImportInput) (graph : Graph) :
    run (Writing.importAtomic settings input) ⟨graph, none⟩ =
      match graph.writeAll (.start input.skipped) (input.writeChunks settings.size) with
      | .ok (next, report) => (.ok report, ⟨next, none⟩)
      | .error error => (.error error, ⟨graph, none⟩) := by
  rw [Writing.importAtomic, Writing.withPositiveSize, if_neg (Nat.ne_of_gt positive)]
  obtain ⟨after, replays, ran⟩ := @run_writeAll graph (.begin graph) rfl (.start input.skipped)
    (input.writeChunks settings.size)
  rw [Transaction.begin] at ran
  cases written : graph.writeAll (.start input.skipped) (input.writeChunks settings.size) with
  | error error =>
      rw [written] at ran
      exact run_inTransaction_of_error ran
  | ok result =>
      rw [written] at ran
      obtain ⟨working, worked⟩ := ran
      rw [working] at replays
      exact run_inTransaction_of_ok worked replays

/-- Where an import in chunks has none refused, an import in one transaction does the same. -/
theorem run_importAtomic_of_failures {settings : BatchSettings} (positive : 0 < settings.size)
    (input : ImportInput) (graph : Graph) :
    let walk := graph.importChunks 0 (.start input.skipped) (input.writeChunks settings.size)
    walk.2.failures = [] →
      run (Writing.importAtomic settings input) ⟨graph, none⟩ = (.ok walk.2, ⟨walk.1, none⟩) := by
  intro walk none
  have start : (ImportReport.start input.skipped).failures = [] := rfl
  rw [run_importAtomic_eq positive, Graph.writeAll_eq start graph 0, none]
  rfl

end MemoryStore

end QueryImpact
