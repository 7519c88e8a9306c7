import Mathlib
import QueryImpact.Cypher.Upsert
import QueryImpact.Proofs.Cypher.Dialogue

/-!
# Conflicts at a graph database

Nodes are checked and merged kind by kind.  So a writing of nodes that ends with a conflict has sent
a check and a merge for each earlier kind of the batch, and the check of the kind in conflict.  It
has merged nothing exactly when no node of the batch is of an earlier kind.
-/

namespace QueryImpact

namespace NodeKind

/-- The place of a kind among all. -/
def rank (kind : NodeKind) : Nat :=
  all.idxOf kind

theorem mem_all (kind : NodeKind) : kind ∈ all := by
  cases kind <;> decide

/-- The kinds stand in the order of their places. -/
theorem pairwise_rank_all : all.Pairwise fun first second => first.rank < second.rank := by
  decide

end NodeKind

/-- The kind that could not be written, when the error is a conflict. -/
def StoreError.attempted? : StoreError → Option NodeKind
  | conflict _ _ attempted => some attempted
  | _ => none

namespace Cypher.Dialogue

/-! ## Errors that are no conflict -/

variable {cause : StoreError}

/-- A column that cannot be read is no conflict. -/
theorem attempted?_of_column {α : Type} {column : String} {reading : Except ColumnFault α}
    (failed : reading.mapError (ColumnFault.toStoreError column) = .error cause) :
    cause.attempted? = none := by
  cases reading with
  | ok value => cases failed
  | error fault =>
      cases failed
      rfl

theorem attempted?_of_firstCount {rows : List Row} {column : String}
    (failed : Row.firstCount rows column = .error cause) : cause.attempted? = none := by
  cases rows with
  | nil => cases failed
  | cons row rest =>
      rw [Row.firstCount, Row.count] at failed
      cases read : (row.integerIn column).mapError (ColumnFault.toStoreError column) with
      | ok value =>
          rw [read] at failed
          cases failed
      | error fault =>
          rw [read] at failed
          cases failed
          exact attempted?_of_column read

theorem attempted?_of_reply {reply : Reply}
    (failed : .error cause = reply.mapError LinkFault.toStoreError) :
    cause.attempted? = none := by
  cases reply with
  | ok rows => cases failed
  | error fault =>
      cases failed
      cases fault <;> rfl

/-! ## Checking and merging one kind -/

variable {log : Log} {kind : NodeKind} {nodes : List Node}

/-- A row of the answer to a check makes a conflict about the kind, if its columns can be read. -/
theorem runs_throw_conflict {row : Row} {result : Except StoreError Unit}
    (runs : Program.Runs (do
      let key ← row.text "key"
      let existing ← row.text "existing"
      throw (.conflict key existing kind) : Dialogue Unit).run log result) :
    log = [] ∧ ∃ cause, result = .error cause ∧
      (cause.attempted? = none ∨ cause.attempted? = some kind) := by
  rcases runs_bind_iff.mp runs with ⟨cause, rfl, read⟩ | ⟨_, _, key, rfl, read, found⟩
  · obtain ⟨rfl, failed⟩ := runs_liftM_iff.mp read
    exact ⟨rfl, cause, rfl, .inl (attempted?_of_column failed.symm)⟩
  obtain ⟨rfl, _⟩ := runs_liftM_iff.mp read
  rcases runs_bind_iff.mp found with ⟨cause, rfl, read⟩ | ⟨_, _, existing, rfl, read, thrown⟩
  · obtain ⟨rfl, failed⟩ := runs_liftM_iff.mp read
    exact ⟨rfl, cause, rfl, .inl (attempted?_of_column failed.symm)⟩
  obtain ⟨rfl, _⟩ := runs_liftM_iff.mp read
  obtain ⟨rfl, rfl⟩ := runs_throw_iff.mp thrown
  exact ⟨rfl, _, rfl, .inr rfl⟩

/-- A check is one message; the conflict that it finds is about the kind it was made for. -/
theorem sent_checkConflict {result : Except StoreError Unit}
    (runs : Program.Runs (checkConflict kind nodes).run log result) :
    log.sent = [.run (.findConflict nodes)] ∧
      (result = .ok () ∨ ∃ cause, result = .error cause ∧
        (cause.attempted? = none ∨ cause.attempted? = some kind)) := by
  rcases runs_bind_iff.mp runs with ⟨cause, rfl, fetched⟩ | ⟨_, after, rows, rfl, fetched, rest⟩
  · obtain ⟨reply, rfl, failed⟩ := runs_fetch_iff.mp fetched
    exact ⟨rfl, .inr ⟨cause, rfl, .inl (attempted?_of_reply failed)⟩⟩
  · obtain ⟨reply, rfl, _⟩ := runs_fetch_iff.mp fetched
    cases rows with
    | nil =>
        obtain ⟨rfl, rfl⟩ := runs_pure_iff.mp rest
        exact ⟨rfl, .inl rfl⟩
    | cons row others =>
        obtain ⟨rfl, failed⟩ := runs_throw_conflict rest
        exact ⟨rfl, .inr failed⟩

/-- A count is one message, and it finds no conflict. -/
theorem sent_fetchCount {statement : Statement} {column : String} {result : Except StoreError Nat}
    (runs : Program.Runs (fetchCount statement column).run log result) :
    log.sent = [.run statement] ∧
      ∀ cause, result = .error cause → cause.attempted? = none := by
  rcases runs_bind_iff.mp runs with ⟨cause, rfl, fetched⟩ | ⟨_, after, rows, rfl, fetched, rest⟩
  · obtain ⟨reply, rfl, failed⟩ := runs_fetch_iff.mp fetched
    constructor
    · rfl
    · rintro _ ⟨⟩
      exact attempted?_of_reply failed
  · obtain ⟨reply, rfl, _⟩ := runs_fetch_iff.mp fetched
    obtain ⟨rfl, rfl⟩ := runs_liftM_iff.mp rest
    exact ⟨rfl, fun _ => attempted?_of_firstCount⟩

/-- The messages that check and merge the nodes of one kind. -/
def exchanges (group : NodeKind × List Node) : List Exchange :=
  [.run (.findConflict group.2), .run (.mergeNodes group.1 group.2)]

/-- What the writing of one kind can do: it fails at its check, or it goes on to its merge and then
finds no conflict. -/
theorem sent_mergeKind {result : Except StoreError UpsertStats}
    (runs : Program.Runs (mergeKind kind nodes).run log result) :
    (log.sent = [.run (.findConflict nodes)] ∧ ∃ cause, result = .error cause ∧
        (cause.attempted? = none ∨ cause.attempted? = some kind)) ∨
      log.sent = exchanges (kind, nodes) ∧
        ∀ cause, result = .error cause → cause.attempted? = none := by
  rcases runs_bind_iff.mp runs with ⟨cause, rfl, checked⟩ | ⟨before, after, _, rfl, checked, rest⟩
  · rcases sent_checkConflict checked with ⟨sent, succeeded | ⟨_, failed, about⟩⟩
    · cases succeeded
    · cases failed
      exact .inl ⟨sent, cause, rfl, about⟩
  have sentBefore := (sent_checkConflict checked).1
  rcases runs_bind_iff.mp rest with ⟨cause, rfl, merged⟩ | ⟨_, _, count, rfl, merged, counted⟩
  · obtain ⟨sentAfter, noConflict⟩ := sent_fetchCount merged
    right
    constructor
    · rw [Log.sent_append, sentBefore, sentAfter]
      rfl
    · rintro _ ⟨⟩
      exact noConflict cause rfl
  · obtain ⟨rfl, rfl⟩ := runs_pure_iff.mp counted
    right
    constructor
    · rw [List.append_nil, Log.sent_append, sentBefore, (sent_fetchCount merged).1]
      rfl
    · rintro _ ⟨⟩

/-! ## All kinds of a batch -/

/-- A conflict ends the groups at the one it is about: those before it are checked and merged. -/
theorem sent_sumGroups_of_conflict {groups : List (NodeKind × List Node)} {stats : UpsertStats}
    (runs : Program.Runs (sumGroups (fun group => mergeKind group.1 group.2) stats groups).run log
      (.error cause)) (conflict : cause.attempted? = some kind) :
    ∃ before nodes after, groups = before ++ (kind, nodes) :: after ∧
      log.sent = before.flatMap exchanges ++ [.run (.findConflict nodes)] := by
  induction groups generalizing stats log with
  | nil => cases (runs_pure_iff.mp runs).2
  | cons group rest ih =>
      rcases runs_bind_iff.mp runs with ⟨_, failed, merged⟩ |
        ⟨first, second, added, rfl, merged, later⟩
      · cases failed
        -- The first group fails with the conflict, and only its check can find one.
        rcases sent_mergeKind merged with ⟨sent, _, failed, about⟩ | ⟨_, noConflict⟩
        · cases failed
          rw [conflict] at about
          rcases about with ⟨⟨⟩⟩ | ⟨⟨⟩⟩
          exact ⟨[], group.2, rest, rfl, sent⟩
        · rw [noConflict cause rfl] at conflict
          cases conflict
      · obtain ⟨before, nodes, after, rfl, sent⟩ := ih later
        rcases sent_mergeKind merged with ⟨_, _, failed, _⟩ | ⟨sentFirst, _⟩
        · cases failed
        · exact ⟨group :: before, nodes, after, rfl, by
            rw [Log.sent_append, sentFirst, sent, List.flatMap_cons, List.append_assoc]⟩

theorem mem_nodeGroups_iff {group : NodeKind × List Node} :
    group ∈ nodeGroups nodes ↔
      group.2 = nodes.filter (fun node => node.kind = group.1) ∧ group.2 ≠ [] := by
  simp only [nodeGroups, List.mem_filter, List.mem_map, Bool.not_eq_true',
    List.isEmpty_eq_false_iff]
  constructor
  · rintro ⟨⟨kind, _, rfl⟩, filled⟩
    exact ⟨rfl, filled⟩
  · rintro ⟨same, filled⟩
    exact ⟨⟨group.1, group.1.mem_all, by rw [← same]⟩, filled⟩

/-- The groups stand in the order of their kinds. -/
theorem pairwise_rank_nodeGroups (nodes : List Node) :
    (nodeGroups nodes).Pairwise fun first second => first.1.rank < second.1.rank := by
  apply List.Pairwise.filter
  exact List.pairwise_map.mpr NodeKind.pairwise_rank_all

/-- The kinds of the groups are the kinds of the nodes. -/
theorem exists_mem_nodeGroups {node : Node} (member : node ∈ nodes) :
    ∃ group ∈ nodeGroups nodes, group.1 = node.kind := by
  have filled : node ∈ nodes.filter fun other => other.kind = node.kind :=
    List.mem_filter.mpr ⟨member, decide_eq_true rfl⟩
  exact ⟨(node.kind, _), mem_nodeGroups_iff.mpr ⟨rfl, List.ne_nil_of_mem filled⟩, rfl⟩

/-- The groups before the one of a kind are those of the earlier kinds. -/
theorem filter_rank_nodeGroups {before after : List (NodeKind × List Node)} {group : List Node}
    (split : nodeGroups nodes = before ++ (kind, group) :: after) :
    ((nodeGroups nodes).filter fun other => other.1.rank < kind.rank) = before := by
  have ordered := pairwise_rank_nodeGroups nodes
  rw [split, List.pairwise_append, List.pairwise_cons] at ordered
  obtain ⟨_, ⟨later, _⟩, earlier⟩ := ordered
  rw [split, List.filter_append, List.filter_cons_of_neg (by simp)]
  have keepsBefore : (before.filter fun other => other.1.rank < kind.rank) = before :=
    List.filter_eq_self.mpr fun other member =>
      decide_eq_true (earlier other member _ List.mem_cons_self)
  have dropsAfter : (after.filter fun other => other.1.rank < kind.rank) = [] :=
    List.filter_eq_nil_iff.mpr fun other member isEarlier =>
      absurd (of_decide_eq_true isEarlier) (Nat.lt_asymm (later other member))
  rw [keepsBefore, dropsAfter, List.append_nil]

/-- There are groups of earlier kinds exactly when there are nodes of earlier kinds. -/
theorem filter_rank_nodeGroups_eq_nil_iff :
    ((nodeGroups nodes).filter fun other => other.1.rank < kind.rank) = [] ↔
      ∀ node ∈ nodes, kind.rank ≤ node.kind.rank := by
  rw [List.filter_eq_nil_iff]
  constructor
  · intro noEarlier node member
    obtain ⟨group, groupMember, sameKind⟩ := exists_mem_nodeGroups member
    have notEarlier := noEarlier group groupMember
    rw [sameKind, decide_eq_true_eq] at notEarlier
    exact Nat.le_of_not_lt notEarlier
  · intro noEarlier group groupMember isEarlier
    obtain ⟨same, filled⟩ := mem_nodeGroups_iff.mp groupMember
    obtain ⟨node, member⟩ := List.exists_mem_of_ne_nil _ filled
    rw [same, List.mem_filter, decide_eq_true_eq] at member
    have notEarlier := noEarlier node member.1
    rw [member.2] at notEarlier
    exact absurd (of_decide_eq_true isEarlier) (Nat.not_lt_of_le notEarlier)

/-- Groups that are written before a last check are merged. -/
theorem unmerged_iff {before : List (NodeKind × List Node)} :
    (∀ statement, .run statement ∈ before.flatMap exchanges ++ [.run (.findConflict nodes)] →
      statement.isMerge = false) ↔ before = [] := by
  constructor
  · intro unmerged
    cases before with
    | nil => rfl
    | cons group rest => cases unmerged (.mergeNodes group.1 group.2) (by simp [exchanges])
  · rintro rfl statement member
    cases List.mem_singleton.mp member
    rfl

/-- A writing of nodes that ends with a conflict has checked and merged all nodes of earlier kinds,
and then checked the nodes of the kind in conflict.  So it has merged nothing exactly when there
are no nodes of earlier kinds. -/
theorem sent_upsertNodes_of_conflict (nodes : List Node) (replies : List Reply)
    {key existing : String} {kind : NodeKind}
    (conflict : ((upsertNodes nodes).run.rehearse replies).1 =
      .error (.conflict key existing kind)) :
    ((upsertNodes nodes).run.rehearse replies).2 =
        ((nodeGroups nodes).filter fun group => group.1.rank < kind.rank).flatMap exchanges ++
          [.run (.findConflict (nodes.filter fun node => node.kind = kind))] ∧
      ((∀ statement, .run statement ∈ ((upsertNodes nodes).run.rehearse replies).2 →
          statement.isMerge = false) ↔
        ∀ node ∈ nodes, kind.rank ≤ node.kind.rank) := by
  obtain ⟨log, runs, sent⟩ := (upsertNodes nodes).run.exists_runs_rehearse replies
  rw [conflict] at runs
  obtain ⟨before, group, after, split, sentBefore⟩ := sent_sumGroups_of_conflict runs rfl
  have ofKind : group = nodes.filter fun node => node.kind = kind :=
    (mem_nodeGroups_iff.mp (split ▸ List.mem_append_right before List.mem_cons_self)).1
  rw [← sent, sentBefore, ← filter_rank_nodeGroups split, ← ofKind]
  exact ⟨rfl, unmerged_iff.trans filter_rank_nodeGroups_eq_nil_iff⟩

/-- The answer of a check that finds a file under the key of a class. -/
def takenByFile : Reply :=
  .ok [[("existing", .string "File"), ("key", .string "A.java::A")]]

theorem sent_upsertNodes_of_conflict_taken :
    let nodes : List Node := [.method (.ofSignature "load" "" "A.java::A"),
      .classDef (.ofName "A" "" "A.java")]
    let rehearsal := (upsertNodes nodes).run.rehearse [takenByFile]
    rehearsal.1 = .error (.conflict "A.java::A" "File" .classDef) ∧
      rehearsal.2 = [.run (.findConflict [.classDef (.ofName "A" "" "A.java")])] ∧
      ∀ statement, .run statement ∈ rehearsal.2 → statement.isMerge = false := by
  intro nodes rehearsal
  have conflict : rehearsal.1 = .error (.conflict "A.java::A" "File" .classDef) := by decide +kernel
  obtain ⟨sent, unmerged⟩ := sent_upsertNodes_of_conflict nodes [takenByFile] conflict
  exact ⟨conflict, sent.trans (by decide +kernel), unmerged.mpr (by decide +kernel)⟩

/-- A file is merged before its class turns out to have the key of another file. -/
theorem merged_before_conflict :
    let file : Node := .file (.ofPath "A.java" "java" true)
    let rehearsal := (upsertNodes [file, .classDef (.ofName "A" "" "A.java")]).run.rehearse
      [.ok [], .ok [[("created", .integer 1)]], takenByFile]
    rehearsal.1 = .error (.conflict "A.java::A" "File" .classDef) ∧
      .run (.mergeNodes .file [file]) ∈ rehearsal.2 := by
  decide +kernel

end Cypher.Dialogue

end QueryImpact
