import Mathlib
import QueryImpact.Proofs.Cypher.Carried
import QueryImpact.Proofs.Cypher.Conflict

/-!
# Batches at a graph database

A batch is written group by group.  When every check finds nothing and every merge reports counts
that its rows allow, each element of the batch is carried by one merge, in the order of the batch,
and the counts add up to the number of elements.
-/

namespace QueryImpact

theorem NodeKind.nodup_all : NodeKind.all.Nodup := by
  decide

theorem RelationshipType.mem_all (type : RelationshipType) : type ∈ RelationshipType.all := by
  cases type <;> decide

theorem RelationshipType.nodup_all : RelationshipType.all.Nodup := by
  decide

namespace Cypher

/-! ## What is sent and what is reported -/

/-- The rows that a message carries. -/
def Exchange.rows : Exchange → List Value
  | .run statement => statement.rows
  | _ => []

/-- The rows that a message merges. -/
def Exchange.mergedRows : Exchange → List Value
  | .run statement => if statement.isMerge then statement.rows else []
  | _ => []

/-- The count in a column of a reply. -/
def Reply.count? (column : String) : Reply → Option Nat
  | .ok rows => (Row.firstCount rows column).toOption
  | .error _ => none

/-- A reply without rows counts nothing. -/
@[simp]
theorem Reply.count?_nil (column : String) : Reply.count? column (.ok []) = some 0 :=
  rfl

/-- Whether a reply is one that lets a writing go on: a check finds nothing, and the counts of a
merge do not exceed what was merged. -/
def Exchange.allows : Exchange → Reply → Bool
  | .run (.findConflict _), .ok rows => rows.isEmpty
  | .run (.findConflict _), .error _ => false
  | .run (.mergeNodes _ nodes), reply =>
      (Reply.count? "created" reply).any fun created => created ≤ nodes.length
  | .run (.mergeRelationships _ relationships), reply =>
      (Reply.count? "written" reply).any fun written =>
        written ≤ relationships.length &&
          (Reply.count? "created" reply).any fun created => created ≤ written
  | _, _ => true

theorem Exchange.exists_created_of_allows {kind : NodeKind} {nodes : List Node} {reply : Reply}
    (allowed : Exchange.allows (.run (.mergeNodes kind nodes)) reply = true) :
    ∃ created, Reply.count? "created" reply = some created ∧ created ≤ nodes.length := by
  simpa [allows, Option.any_eq_true] using allowed

theorem Exchange.exists_written_of_allows {type : RelationshipType}
    {relationships : List Relationship} {reply : Reply}
    (allowed : Exchange.allows (.run (.mergeRelationships type relationships)) reply = true) :
    ∃ created written, Reply.count? "created" reply = some created ∧
      Reply.count? "written" reply = some written ∧ created ≤ written ∧
        written ≤ relationships.length := by
  simp only [allows, Option.any_eq_true, Bool.and_eq_true, decide_eq_true_eq] at allowed
  obtain ⟨written, readWritten, bound, created, readCreated, below⟩ := allowed
  exact ⟨created, written, readCreated, readWritten, below, bound⟩

namespace Log

/-- All replies let the writing go on. -/
def IsOrderly (log : Log) : Prop :=
  ∀ exchange ∈ log, exchange.call.allows exchange.answer = true

instance (log : Log) : Decidable log.IsOrderly :=
  inferInstanceAs (Decidable (∀ exchange ∈ log, exchange.call.allows exchange.answer = true))

/-- The sum of the counts in a column of all replies. -/
def reported (column : String) (log : Log) : Nat :=
  (log.map fun exchange => (Reply.count? column exchange.answer).getD 0).sum

theorem isOrderly_append {first second : Log} :
    Log.IsOrderly (first ++ second) ↔ first.IsOrderly ∧ second.IsOrderly :=
  List.forall_mem_append

@[simp]
theorem reported_nil (column : String) : Log.reported column [] = 0 :=
  rfl

@[simp]
theorem reported_cons (column : String) (exchange : QueryImpact.Exchange Exchange fun _ => Reply)
    (log : Log) :
    Log.reported column (exchange :: log) =
      (Reply.count? column exchange.answer).getD 0 + log.reported column := by
  rw [reported, List.map_cons, List.sum_cons]
  rfl

@[simp]
theorem reported_append (column : String) (first second : Log) :
    Log.reported column (first ++ second) = first.reported column + second.reported column := by
  rw [reported, List.map_append, List.sum_append]
  rfl

end Log

namespace Dialogue

/-! ## Groups -/

section Groups

variable {α κ : Type} [DecidableEq κ] (tag : α → κ)

/-- The elements with a tag, in the order of the batch. -/
def tagged (items : List α) (key : κ) : List α :=
  items.filter fun item => tag item = key

/-- Those of the listed tags that elements of the batch have. -/
def tagsOf (keys : List κ) (items : List α) : List κ :=
  keys.filter fun key => items.any fun item => tag item = key

variable {tag} {keys : List κ} {items : List α}

theorem tag_of_mem_tagged {key : κ} {item : α} (member : item ∈ tagged tag items key) :
    tag item = key :=
  of_decide_eq_true (List.mem_filter.mp member).2

/-- Groups without empty ones are the groups of the tags that there are. -/
theorem filter_isEmpty_map_tagged :
    ((keys.map fun key => (key, tagged tag items key)).filter fun group => !group.2.isEmpty) =
      (tagsOf tag keys items).map fun key => (key, tagged tag items key) := by
  rw [List.filter_map, tagsOf]
  congr 1
  apply List.filter_congr
  intro key _
  rw [Bool.eq_iff_iff]
  simp [tagged]

/-- The groups of different tags together are the elements that have one of the tags. -/
theorem flatMap_tagged_perm (nodup : keys.Nodup) (covered : ∀ item ∈ items, tag item ∈ keys) :
    (keys.flatMap (tagged tag items)).Perm items := by
  induction keys generalizing items with
  | nil =>
      cases items with
      | nil => exact .refl _
      | cons item rest => cases covered item List.mem_cons_self
  | cons key rest ih =>
      obtain ⟨fresh, nodupRest⟩ := List.nodup_cons.mp nodup
      have laterGroups : rest.flatMap (tagged tag items) =
          rest.flatMap (tagged tag (items.filter fun item => !decide (tag item = key))) := by
        apply List.flatMap_congr
        intro other member
        rw [tagged, tagged, List.filter_filter]
        apply List.filter_congr
        intro item _
        by_cases same : tag item = other
        · have apart : other ≠ key := fun equal => fresh (equal ▸ member)
          simp [same, apart]
        · simp [same]
      have coveredRest : ∀ item ∈ items.filter fun item => !decide (tag item = key),
          tag item ∈ rest := by
        intro item member
        obtain ⟨given, other⟩ := List.mem_filter.mp member
        rcases List.mem_cons.mp (covered item given) with same | later
        · simp [same] at other
        · exact later
      rw [List.flatMap_cons, laterGroups]
      exact ((ih nodupRest coveredRest).append_left _).trans (List.filter_append_perm _ _)

theorem flatMap_tagged_tagsOf_perm (nodup : keys.Nodup) (complete : ∀ key, key ∈ keys) :
    ((tagsOf tag keys items).flatMap (tagged tag items)).Perm items := by
  apply flatMap_tagged_perm (nodup.filter _)
  intro item given
  apply List.mem_filter.mpr
  constructor
  · exact complete _
  · exact List.any_eq_true.mpr ⟨item, given, decide_eq_true rfl⟩

/-- The groups have as many elements as the batch. -/
theorem sum_length_tagged (nodup : keys.Nodup) (complete : ∀ key, key ∈ keys) :
    (((tagsOf tag keys items).map fun key => (key, tagged tag items key)).map fun group =>
      group.2.length).sum = items.length := by
  rw [List.map_map, ← (flatMap_tagged_tagsOf_perm nodup complete).length_eq, List.length_flatMap]
  rfl

/-- Messages whose merged rows tell the elements of each group tell those of the batch. -/
theorem mergedRows_perm {β : Type} (nodup : keys.Nodup) (complete : ∀ key, key ∈ keys)
    {read : Value → β} {told : α → β} {messages : κ → List Exchange}
    (merged : ∀ key, ((messages key).flatMap Exchange.mergedRows).map read =
      (tagged tag items key).map told) :
    ((((tagsOf tag keys items).flatMap messages).flatMap Exchange.mergedRows).map read).Perm
      (items.map told) := by
  have rows : (((tagsOf tag keys items).flatMap messages).flatMap Exchange.mergedRows).map read =
      ((tagsOf tag keys items).flatMap (tagged tag items)).map told := by
    rw [List.flatMap_assoc, List.map_flatMap, List.map_flatMap]
    exact List.flatMap_congr fun key _ => merged key
  rw [rows]
  exact (flatMap_tagged_tagsOf_perm nodup complete).map told

end Groups

/-! ## Writing one group -/

section OneGroup

variable {log : Log} {column : String} {reply : Reply}

theorem exists_rows_of_count? {count : Nat} (read : Reply.count? column reply = some count) :
    ∃ rows, reply = .ok rows ∧ Row.firstCount rows column = .ok count := by
  cases reply with
  | error fault => cases read
  | ok rows =>
      cases counted : Row.firstCount rows column with
      | error cause =>
          rw [Reply.count?, counted] at read
          cases read
      | ok number =>
          rw [Reply.count?, counted] at read
          cases read
          exact ⟨rows, rfl, counted⟩

/-- A check whose reply lets the writing go on is one message without an answer. -/
theorem runs_checkConflict {kind : NodeKind} {nodes : List Node} {result : Except StoreError Unit}
    (runs : Program.Runs (checkConflict kind nodes).run log result) (orderly : log.IsOrderly) :
    log = [⟨.run (.findConflict nodes), .ok []⟩] ∧ result = .ok () := by
  rcases runs_bind_iff.mp runs with ⟨cause, rfl, fetched⟩ | ⟨_, after, rows, rfl, fetched, rest⟩
  · obtain ⟨reply, rfl, failed⟩ := runs_fetch_iff.mp fetched
    cases reply with
    | ok rows => cases failed
    | error fault => cases orderly _ List.mem_cons_self
  · obtain ⟨reply, rfl, answered⟩ := runs_fetch_iff.mp fetched
    cases reply with
    | error fault => cases answered
    | ok found =>
        cases answered
        have nothing : rows = [] := List.isEmpty_iff.mp (orderly _ List.mem_cons_self)
        subst nothing
        obtain ⟨rfl, rfl⟩ := runs_pure_iff.mp rest
        exact ⟨rfl, rfl⟩

/-- What the writing of nodes tells after some messages about a number of nodes: the new ones are
those reported, and each node is new or replaces another one. -/
structure CountsNodes (stats : UpsertStats) (log : Log) (size : Nat) : Prop where
  /-- The nodes that are new. -/
  created : stats.created = log.reported "created"
  /-- The nodes that were written. -/
  written : stats.created + stats.updated = size
  /-- No node is left out. -/
  missing : stats.missingEndpoints = 0

/-- What the writing of relationships tells after some messages about a number of relationships:
the new and the written ones are those reported, and the others lack an end. -/
structure CountsRelationships (stats : UpsertStats) (log : Log) (size : Nat) : Prop where
  /-- The relationships that are new. -/
  created : stats.created = log.reported "created"
  /-- The relationships that were written. -/
  written : stats.created + stats.updated = log.reported "written"
  /-- All relationships. -/
  all : stats.created + stats.updated + stats.missingEndpoints = size

/-- A count is one message, and its result is what the reply says. -/
theorem runs_fetchCount {statement : Statement} {result : Except StoreError Nat}
    (runs : Program.Runs (fetchCount statement column).run log result) :
    ∃ reply, log = [⟨.run statement, reply⟩] ∧
      ∀ count, Reply.count? column reply = some count → result = .ok count := by
  rcases runs_bind_iff.mp runs with ⟨cause, rfl, fetched⟩ | ⟨_, after, rows, rfl, fetched, rest⟩
  · obtain ⟨reply, rfl, failed⟩ := runs_fetch_iff.mp fetched
    refine ⟨reply, rfl, ?_⟩
    intro count read
    obtain ⟨rows, rfl, _⟩ := exists_rows_of_count? read
    cases failed
  · obtain ⟨reply, rfl, answered⟩ := runs_fetch_iff.mp fetched
    obtain ⟨rfl, rfl⟩ := runs_liftM_iff.mp rest
    refine ⟨reply, rfl, ?_⟩
    intro count read
    obtain ⟨found, rfl, counted⟩ := exists_rows_of_count? read
    cases answered
    exact counted

/-- The nodes of one kind are checked and merged, and the counts are those of the reply. -/
theorem runs_mergeKind {group : NodeKind × List Node} {result : Except StoreError UpsertStats}
    (runs : Program.Runs (mergeKind group.1 group.2).run log result) (orderly : log.IsOrderly) :
    log.sent = exchanges group ∧
      ∃ added, result = .ok added ∧ CountsNodes added log group.2.length := by
  rcases runs_bind_iff.mp runs with ⟨cause, rfl, checked⟩ | ⟨before, after, _, rfl, checked, rest⟩
  · cases (runs_checkConflict checked orderly).2
  obtain ⟨orderlyBefore, orderlyAfter⟩ := Log.isOrderly_append.mp orderly
  obtain ⟨rfl, _⟩ := runs_checkConflict checked orderlyBefore
  rcases runs_bind_iff.mp rest with ⟨cause, rfl, merged⟩ | ⟨_, _, created, rfl, merged, counted⟩
  · obtain ⟨reply, rfl, read⟩ := runs_fetchCount merged
    obtain ⟨count, told, _⟩ := Exchange.exists_created_of_allows (orderlyAfter _ List.mem_cons_self)
    cases read count told
  · obtain ⟨reply, rfl, read⟩ := runs_fetchCount merged
    obtain ⟨rfl, rfl⟩ := runs_pure_iff.mp counted
    obtain ⟨count, told, bound⟩ :=
      Exchange.exists_created_of_allows (orderlyAfter _ List.mem_cons_self)
    cases read count told
    refine ⟨rfl, _, rfl, ?_, ?_, rfl⟩
    · simp [told]
    · exact Nat.add_sub_of_le bound

/-- The relationships of one type are merged, and the counts are those of the reply. -/
theorem runs_mergeType {group : RelationshipType × List Relationship}
    {result : Except StoreError UpsertStats}
    (runs : Program.Runs (mergeType group.1 group.2).run log result) (orderly : log.IsOrderly) :
    log.sent = [.run (.mergeRelationships group.1 group.2)] ∧
      ∃ added, result = .ok added ∧ CountsRelationships added log group.2.length := by
  rcases runs_bind_iff.mp runs with ⟨cause, rfl, fetched⟩ | ⟨_, after, rows, rfl, fetched, rest⟩
  · obtain ⟨reply, rfl, failed⟩ := runs_fetch_iff.mp fetched
    obtain ⟨created, _, readCreated, _⟩ :=
      Exchange.exists_written_of_allows (orderly _ List.mem_cons_self)
    obtain ⟨rows, rfl, _⟩ := exists_rows_of_count? readCreated
    cases failed
  obtain ⟨reply, rfl, answered⟩ := runs_fetch_iff.mp fetched
  obtain ⟨created, written, readCreated, readWritten, below, bound⟩ :=
    Exchange.exists_written_of_allows (orderly _ List.mem_cons_self)
  obtain ⟨_, rfl, countedCreated⟩ := exists_rows_of_count? readCreated
  obtain ⟨_, ⟨⟩, countedWritten⟩ := exists_rows_of_count? readWritten
  cases answered
  -- Both counts can be read, so neither reading ends the work.
  rw [countedCreated, countedWritten] at rest
  rcases runs_bind_iff.mp rest with ⟨_, rfl, read⟩ | ⟨_, _, count, rfl, read, rest⟩
  · cases (runs_liftM_iff.mp read).2
  obtain ⟨rfl, ⟨⟩⟩ := runs_liftM_iff.mp read
  rcases runs_bind_iff.mp rest with ⟨_, rfl, read⟩ | ⟨_, _, count, rfl, read, counted⟩
  · cases (runs_liftM_iff.mp read).2
  obtain ⟨rfl, ⟨⟩⟩ := runs_liftM_iff.mp read
  obtain ⟨rfl, rfl⟩ := runs_pure_iff.mp counted
  refine ⟨rfl, _, rfl, ?_, ?_, ?_⟩
  · simp [readCreated]
  · simp [readWritten, below]
  · dsimp only
    omega

end OneGroup

/-! ## Writing all groups -/

theorem CountsNodes.add {stats added : UpsertStats} {earlier later : Log} {known more : Nat}
    (first : CountsNodes stats earlier known) (second : CountsNodes added later more) :
    CountsNodes (stats.add added) (earlier ++ later) (known + more) where
  created := by
    rw [Log.reported_append, ← first.created, ← second.created]
    rfl
  written := by
    rw [← first.written, ← second.written]
    exact Nat.add_add_add_comm ..
  missing := by
    rw [UpsertStats.add, first.missing, second.missing]

theorem CountsRelationships.add {stats added : UpsertStats} {earlier later : Log}
    {known more : Nat} (first : CountsRelationships stats earlier known)
    (second : CountsRelationships added later more) :
    CountsRelationships (stats.add added) (earlier ++ later) (known + more) where
  created := by
    rw [Log.reported_append, ← first.created, ← second.created]
    rfl
  written := by
    rw [Log.reported_append, ← first.written, ← second.written]
    exact Nat.add_add_add_comm ..
  all := by
    rw [← first.all, ← second.all]
    simp only [UpsertStats.add]
    omega

/-- What holds of the writing of each group holds of all groups: their messages stand one after
another, and their counts are added. -/
theorem runs_sumGroups {γ : Type} {work : γ → Dialogue UpsertStats}
    {messages : γ → List Exchange} {size : γ → Nat} {Counts : UpsertStats → Log → Nat → Prop}
    (add : ∀ {stats added : UpsertStats} {earlier later : Log} {known more : Nat},
      Counts stats earlier known → Counts added later more →
        Counts (stats.add added) (earlier ++ later) (known + more))
    (step : ∀ {group : γ} {log : Log} {result : Except StoreError UpsertStats},
      Program.Runs (work group).run log result → log.IsOrderly →
        log.sent = messages group ∧ ∃ added, result = .ok added ∧ Counts added log (size group))
    {groups : List γ} {stats : UpsertStats} {earlier log : Log} {known : Nat}
    {result : Except StoreError UpsertStats} (counted : Counts stats earlier known)
    (runs : Program.Runs (sumGroups work stats groups).run log result) (orderly : log.IsOrderly) :
    log.sent = groups.flatMap messages ∧
      ∃ total, result = .ok total ∧
        Counts total (earlier ++ log) (known + (groups.map size).sum) := by
  induction groups generalizing stats earlier log known with
  | nil =>
      obtain ⟨rfl, rfl⟩ := runs_pure_iff.mp runs
      exact ⟨rfl, stats, rfl, by rwa [List.append_nil, List.map_nil, List.sum_nil, Nat.add_zero]⟩
  | cons group rest ih =>
      rcases runs_bind_iff.mp runs with ⟨cause, rfl, worked⟩ |
        ⟨first, second, added, rfl, worked, later⟩
      · obtain ⟨_, _, ⟨⟩, _⟩ := step worked orderly
      obtain ⟨orderlyFirst, orderlySecond⟩ := Log.isOrderly_append.mp orderly
      obtain ⟨sentFirst, _, ⟨⟩, countedFirst⟩ := step worked orderlyFirst
      obtain ⟨sent, total, rfl, countedAll⟩ := ih (add counted countedFirst) later orderlySecond
      constructor
      · rw [Log.sent_append, sentFirst, sent, List.flatMap_cons]
      · refine ⟨total, rfl, ?_⟩
        rwa [List.append_assoc, Nat.add_assoc, ← List.sum_cons, ← List.map_cons] at countedAll

/-! ## A batch of nodes -/

/-- The messages write each node of a batch once, and the result counts the nodes. -/
structure WritesNodes (nodes : List Node) (sent : List Exchange) (log : Log)
    (result : Except StoreError UpsertStats) : Prop where
  /-- For each kind in the batch, in the order of the kinds, the nodes of that kind are checked and
  then merged, in the order of the batch. -/
  grouped : sent = (tagsOf Node.kind NodeKind.all nodes).flatMap fun kind =>
    [.run (.findConflict (tagged Node.kind nodes kind)),
      .run (.mergeNodes kind (tagged Node.kind nodes kind))]
  /-- The rows of both messages tell the key, the label of the kind and the properties of each of
  these nodes. -/
  told : (sent.map fun message => message.rows.map NodeRow.read?) =
    (tagsOf Node.kind NodeKind.all nodes).flatMap fun kind =>
      List.replicate 2 ((tagged Node.kind nodes kind).map fun node =>
        some ⟨node.key, kind.label, node.properties⟩)
  /-- The merges carry the nodes with all their fields, each as often as the batch has it. -/
  carried : ((sent.flatMap Exchange.mergedRows).map fun row =>
    (NodeRow.read? row).bind NodeRow.node?).Perm (nodes.map some)
  /-- A merge comes right after the check of the same rows. -/
  checked : ∀ before statement after, sent = before ++ .run statement :: after →
    statement.isMerge = true →
      ∃ earlier group, before = earlier ++ [.run (.findConflict group)] ∧
        (Statement.findConflict group).rows = statement.rows
  /-- The counts add up to the nodes. -/
  counted : ∃ stats, result = .ok stats ∧ CountsNodes stats log nodes.length

theorem nodeGroups_eq (nodes : List Node) :
    nodeGroups nodes = (tagsOf Node.kind NodeKind.all nodes).map fun kind =>
      (kind, tagged Node.kind nodes kind) :=
  filter_isEmpty_map_tagged

/-- Among the messages of groups of nodes a merge comes right after its check. -/
theorem eq_append_findConflict {groups : List (NodeKind × List Node)}
    {before after : List Exchange} {statement : Statement}
    (split : groups.flatMap exchanges = before ++ .run statement :: after)
    (merges : statement.isMerge = true) :
    ∃ earlier group, before = earlier ++ [.run (.findConflict group)] ∧
      (Statement.findConflict group).rows = statement.rows := by
  induction groups generalizing before with
  | nil => simp at split
  | cons group rest ih =>
      rw [List.flatMap_cons, exchanges] at split
      cases before with
      | nil =>
          cases split
          cases merges
      | cons check others =>
          cases others with
          | nil =>
              cases split
              refine ⟨[], group.2, rfl, ?_⟩
              rw [Statement.rows_findConflict, Statement.rows_mergeNodes]
          | cons merge others =>
              obtain ⟨earlier, group, rfl, same⟩ := ih (List.cons.inj (List.cons.inj split).2).2
              exact ⟨check :: merge :: earlier, group, rfl, same⟩

theorem writesNodes_of_runs {nodes : List Node} {log : Log}
    {result : Except StoreError UpsertStats}
    (runs : Program.Runs (upsertNodes nodes).run log result) (orderly : log.IsOrderly) :
    WritesNodes nodes log.sent log result := by
  have nothing : CountsNodes .none [] 0 := ⟨rfl, rfl, rfl⟩
  obtain ⟨sent, total, rfl, counted⟩ :=
    runs_sumGroups CountsNodes.add runs_mergeKind nothing runs orderly
  have sentKinds := sent
  rw [nodeGroups_eq, List.flatMap_map] at sentKinds
  constructor
  case grouped => exact sentKinds
  case told =>
    rw [sentKinds, List.map_flatMap]
    apply List.flatMap_congr
    intro kind _
    have rows : ((tagged Node.kind nodes kind).map nodeRow).map NodeRow.read? =
        (tagged Node.kind nodes kind).map fun node =>
          some ⟨node.key, kind.label, node.properties⟩ := by
      rw [List.map_map]
      apply List.map_congr_left
      intro node member
      rw [Function.comp_apply, NodeRow.read?_nodeRow, tag_of_mem_tagged member]
    simp only [exchanges, List.map_cons, List.map_nil, Exchange.rows, Statement.rows_findConflict,
      Statement.rows_mergeNodes, rows, List.replicate]
  case carried =>
    rw [sentKinds]
    apply mergedRows_perm NodeKind.nodup_all NodeKind.mem_all
    intro kind
    simp [exchanges, Exchange.mergedRows, Statement.isMerge, Statement.rows_mergeNodes,
      NodeRow.node?_eq_some]
  case checked =>
    intro before statement after split merges
    rw [sent] at split
    exact eq_append_findConflict split merges
  case counted =>
    rw [Nat.zero_add, nodeGroups_eq, sum_length_tagged NodeKind.nodup_all NodeKind.mem_all]
      at counted
    exact ⟨total, rfl, counted⟩

/-! ## A batch of relationships -/

/-- The messages write each relationship of a batch once, and the result counts the
relationships. -/
structure WritesRelationships (relationships : List Relationship) (sent : List Exchange)
    (log : Log) (result : Except StoreError UpsertStats) : Prop where
  /-- For each type in the batch, in the order of the types, the relationships of that type are
  merged, in the order of the batch. -/
  grouped : sent = (tagsOf Relationship.type RelationshipType.all relationships).map fun type =>
    .run (.mergeRelationships type (tagged Relationship.type relationships type))
  /-- The rows tell the ends and the properties of each of these relationships. -/
  told : (sent.map fun message => message.rows.map RelationshipRow.read?) =
    (tagsOf Relationship.type RelationshipType.all relationships).map fun type =>
      (tagged Relationship.type relationships type).map fun relationship =>
        some ⟨relationship.source, relationship.target, relationship.properties⟩
  /-- The merges carry the relationships, each as often as the batch has it. -/
  carried : ((sent.flatMap Exchange.mergedRows).map RelationshipRow.read?).Perm
    (relationships.map fun relationship =>
      some ⟨relationship.source, relationship.target, relationship.properties⟩)
  /-- The counts add up to the relationships. -/
  counted : ∃ stats, result = .ok stats ∧ CountsRelationships stats log relationships.length

theorem relationshipGroups_eq (relationships : List Relationship) :
    relationshipGroups relationships =
      (tagsOf Relationship.type RelationshipType.all relationships).map fun type =>
        (type, tagged Relationship.type relationships type) :=
  filter_isEmpty_map_tagged

theorem writesRelationships_of_runs {relationships : List Relationship} {log : Log}
    {result : Except StoreError UpsertStats}
    (runs : Program.Runs (upsertRelationships relationships).run log result)
    (orderly : log.IsOrderly) : WritesRelationships relationships log.sent log result := by
  have nothing : CountsRelationships .none [] 0 := ⟨rfl, rfl, rfl⟩
  obtain ⟨sent, total, rfl, counted⟩ :=
    runs_sumGroups CountsRelationships.add runs_mergeType nothing runs orderly
  rw [relationshipGroups_eq, List.flatMap_map] at sent
  constructor
  case grouped =>
    rw [sent, ← List.map_eq_flatMap]
  case told =>
    rw [sent, ← List.map_eq_flatMap, List.map_map]
    apply List.map_congr_left
    intro type _
    simp [Exchange.rows, Statement.rows_mergeRelationships]
  case carried =>
    rw [sent]
    apply mergedRows_perm RelationshipType.nodup_all RelationshipType.mem_all
    intro type
    simp [Exchange.mergedRows, Statement.isMerge, Statement.rows_mergeRelationships]
  case counted =>
    rw [Nat.zero_add, relationshipGroups_eq,
      sum_length_tagged RelationshipType.nodup_all RelationshipType.mem_all] at counted
    exact ⟨total, rfl, counted⟩

end Dialogue

end Cypher

end QueryImpact
