import Mathlib
import QueryImpact.Proofs.Analysis.RowOrder
import QueryImpact.Proofs.Graph.Route
import QueryImpact.Proofs.Impact.Entity

/-!
# The impact of an entity in any graph

In a graph with any edges, a class may be in several files, a query in several methods and an issue
at several queries.  The impact of an entity tells of the ways from files to the entities with its
name: it counts ends of such ways, not ways, and lists an issue at several queries once.
-/

namespace QueryImpact

namespace Graph

variable {graph : Graph} {name : String}

/-! ## Ways to an entity -/

/-- A way from a file to an entity with a name, in whatever letter case. -/
structure IsAccess (graph : Graph) (name : String) (row : AccessRow) : Prop where
  /-- The file contains the class. -/
  contains : graph.Joins .contains row.filePath row.classKey
  /-- The class defines the method. -/
  defines : graph.Joins .defines row.classKey row.methodKey
  /-- The method executes the query. -/
  executes : graph.Joins .executes row.methodKey row.queryKey
  /-- The query accesses an entity with the name. -/
  accesses : ∃ entity, graph.Accesses row.queryKey row.operation entity ∧
    entity.name.toLower = name.toLower

/-- A stored issue at a query on a way to an entity with a name. -/
structure IsIssue (graph : Graph) (name : String) (row : IssueRow) : Prop where
  /-- The query is on a way. -/
  onWay : ∃ access, graph.IsAccess name access ∧ access.queryKey = row.queryKey
  /-- The issue is attached to the query. -/
  attached : graph.Joins .hasIssue row.queryKey row.issueKey
  /-- The issue is stored as the row says. -/
  stored : ∃ issue, graph.nodes.find? row.issueKey = some (.issue issue) ∧ issue.kind = row.kind ∧
    issue.severity = row.severity ∧ issue.message = row.message

/-- Rows for one issue say how severe it is alike. -/
theorem IsIssue.severity_eq {first second : IssueRow} (isFirst : graph.IsIssue name first)
    (isSecond : graph.IsIssue name second) (same : first.issueKey = second.issueKey) :
    first.severity = second.severity := by
  obtain ⟨issue, found, -, severity, -⟩ := isFirst.stored
  obtain ⟨other, otherFound, -, otherSeverity, -⟩ := isSecond.stored
  rw [same, otherFound] at found
  rw [← severity, ← otherSeverity, Node.issue.inj (Option.some.inj found)]

/-- The rows of an entity are the ways to it. -/
theorem Keyed.mem_entityAccesses_iff (keyed : graph.Keyed) {row : AccessRow} :
    row ∈ graph.entityAccesses name ↔ graph.IsAccess name row := by
  simp only [entityAccesses, List.mem_flatMap, List.mem_map, List.mem_filter,
    OrderedSet.contains_ofList, keyed.mem_entityKeys_iff, sameName_iff, mem_sourcesOf_iff]
  constructor
  · rintro ⟨access, ⟨member, entity, found, sameName⟩, method, executes, classKey, defines, file,
      contains, rfl⟩
    exact ⟨contains, defines, executes, entity, ⟨access, member, rfl, rfl, found⟩, sameName⟩
  · rintro ⟨contains, defines, executes, entity, ⟨access, member, source, operation, found⟩,
      sameName⟩
    rw [← source] at executes
    exact ⟨access, ⟨member, entity, found, sameName⟩, row.methodKey, executes, row.classKey,
      defines, row.filePath, contains, by rw [accessOperation, operation, source]⟩

/-- The rows of queries are the issues at them. -/
theorem Keyed.mem_queryIssues_iff (keyed : graph.Keyed) {keys : List String} {row : IssueRow} :
    row ∈ graph.queryIssues keys ↔
      row.queryKey ∈ keys ∧ graph.Joins .hasIssue row.queryKey row.issueKey ∧
        ∃ issue, graph.nodes.find? row.issueKey = some (.issue issue) ∧ issue.kind = row.kind ∧
          issue.severity = row.severity ∧ issue.message = row.message := by
  simp only [queryIssues, List.mem_filterMap, List.mem_filter, decide_eq_true_eq]
  constructor
  · rintro ⟨edge, ⟨member, asked⟩, listed⟩
    split at listed
    · rename_i issue found
      obtain rfl := Option.some.inj listed
      have ownKey : issue.key = edge.target := keyed edge.target (.issue issue) found
      exact ⟨asked, ⟨edge, member, rfl, ownKey.symm⟩, issue, ownKey ▸ found, rfl, rfl, rfl⟩
    · contradiction
  · rintro ⟨asked, ⟨edge, member, source, target⟩, issue, found, kind, severity, message⟩
    have ownKey : issue.key = row.issueKey := keyed row.issueKey (.issue issue) found
    refine ⟨edge, ⟨member, source ▸ asked⟩, ?_⟩
    rw [target, found]
    simp only [source, ownKey, kind, severity, message]

end Graph

/-! ## Rows for one issue -/

section Lists

variable {α β : Type} [DecidableEq β]

/-- Where rows with repeated keys are dropped, every key stays, and once only. -/
theorem map_eraseDupsBy (keyOf : α → β) (rows : List α) :
    (rows.eraseDupsBy fun a b => keyOf a = keyOf b).map keyOf = (rows.map keyOf).eraseDups := by
  cases rows with
  | nil => simp
  | cons row rest =>
      have sameTest : (fun other => decide (decide (keyOf other = keyOf row) = false)) =
          (fun key => !key == keyOf row) ∘ keyOf := by
        funext other
        simp [beq_eq_decide]
      rw [List.eraseDupsBy_cons, List.map_cons, map_eraseDupsBy keyOf, List.map_cons,
        List.eraseDups_cons, List.filter_map, sameTest]
termination_by rows.length
decreasing_by
  exact Nat.lt_succ_of_le (List.length_filter_le _ _)

theorem sublist_eraseDupsBy (repeats : α → α → Bool) (rows : List α) :
    (rows.eraseDupsBy repeats).Sublist rows := by
  cases rows with
  | nil => simp
  | cons row rest =>
      rw [List.eraseDupsBy_cons]
      exact ((sublist_eraseDupsBy repeats _).trans List.filter_sublist).cons_cons row
termination_by rows.length
decreasing_by
  exact Nat.lt_succ_of_le (List.length_filter_le _ _)

end Lists

namespace EntityImpact

/-- The first row for each issue. -/
def firstRows (issues : List IssueRow) : List IssueRow :=
  issues.eraseDupsBy fun a b => a.issueKey = b.issueKey

variable {issues : List IssueRow}

theorem nodup_firstRows : ((firstRows issues).map IssueRow.issueKey).Nodup := by
  rw [firstRows, map_eraseDupsBy]
  exact nodup_eraseDups _

theorem mem_of_mem_firstRows {row : IssueRow} (first : row ∈ firstRows issues) : row ∈ issues :=
  (sublist_eraseDupsBy _ issues).subset first

theorem exists_mem_firstRows {row : IssueRow} (member : row ∈ issues) :
    ∃ first ∈ firstRows issues, first.issueKey = row.issueKey := by
  rw [← List.mem_map, firstRows, map_eraseDupsBy, List.mem_eraseDups]
  exact List.mem_map_of_mem member

/-- The first rows of a severity, in order. -/
def rowsWith (issues : List IssueRow) (severity : Severity) : List IssueRow :=
  sortIssues ((firstRows issues).filter fun issue => issue.severity = severity)

theorem mem_rowsWith_iff {severity : Severity} {row : IssueRow} :
    row ∈ rowsWith issues severity ↔ row ∈ firstRows issues ∧ row.severity = severity := by
  rw [rowsWith, sortIssues, List.mem_mergeSort, List.mem_filter, decide_eq_true_eq]

theorem sorted_rowsWith (issues : List IssueRow) (severity : Severity) :
    (rowsWith issues severity).Pairwise fun first second => first.issueKey < second.issueKey := by
  have apart : (firstRows issues).Pairwise fun first second =>
      compare first.issueKey second.issueKey ≠ .eq :=
    (List.pairwise_map.mp nodup_firstRows).imp fun differ same =>
      differ (compare_eq_iff_eq.mp same)
  exact (pairwise_mergeSort_lt (compareOn IssueRow.issueKey) (apart.filter _)).imp
    compare_lt_iff_lt.mp

theorem groupIssues_eq (issues : List IssueRow) :
    groupIssues issues =
      (Severity.all.map fun severity => (severity, rowsWith issues severity)).filter
        fun group => group.2 ≠ [] := by
  rw [← List.filterMap_eq_filter, List.filterMap_map]
  apply List.filterMap_congr
  intro severity _
  have sameEmpty : rowsWith issues severity = [] ↔
      (firstRows issues).filter (fun issue => issue.severity = severity) = [] := by
    rw [rowsWith, sortIssues, ← List.length_eq_zero_iff, List.length_mergeSort,
      List.length_eq_zero_iff]
  change (if (firstRows issues).filter (fun issue => issue.severity = severity) = [] then none
    else some (severity, rowsWith issues severity)) = _
  by_cases empty : rowsWith issues severity = []
  · rw [if_pos (sameEmpty.mp empty)]
    simp [Option.guard, empty]
  · rw [if_neg (fun none => empty (sameEmpty.mpr none))]
    simp [Option.guard, empty]

/-- Each group stands under a severity of its own, from the most severe on. -/
theorem sublist_groupIssues (issues : List IssueRow) :
    ((groupIssues issues).map Prod.fst).Sublist Severity.all := by
  rw [groupIssues_eq]
  have all : (Severity.all.map fun severity => (severity, rowsWith issues severity)).map Prod.fst =
      Severity.all := by
    rw [List.map_map]
    exact List.map_id _
  exact all ▸ List.filter_sublist.map Prod.fst

theorem mem_groupIssues_iff {group : Severity × List IssueRow} :
    group ∈ groupIssues issues ↔ group.2 = rowsWith issues group.1 ∧ group.2 ≠ [] := by
  rw [groupIssues_eq, List.mem_filter, List.mem_map, decide_eq_true_eq]
  apply and_congr_left
  intro _
  constructor
  · rintro ⟨severity, -, rfl⟩
    rfl
  · intro rows
    exact ⟨group.1, group.1.mem_all, by rw [← rows]⟩

/-- No issue is listed twice, in one group or in two. -/
theorem nodup_groupIssues (issues : List IssueRow) :
    (((groupIssues issues).flatMap Prod.snd).map IssueRow.issueKey).Nodup := by
  rw [List.Nodup, List.pairwise_map, List.pairwise_flatMap]
  constructor
  · intro group member
    rw [(mem_groupIssues_iff.mp member).1]
    exact (sorted_rowsWith issues group.1).imp ne_of_lt
  · have severities : (groupIssues issues).Pairwise fun first second => first.1 ≠ second.1 := by
      apply List.pairwise_map.mp
      exact (sublist_groupIssues issues).nodup (by decide)
    apply severities.imp_of_mem
    intro first second isFirst isSecond differ row inFirst other inSecond sameKey
    rw [(mem_groupIssues_iff.mp isFirst).1, mem_rowsWith_iff] at inFirst
    rw [(mem_groupIssues_iff.mp isSecond).1, mem_rowsWith_iff] at inSecond
    -- First rows with one key are one row, which has one severity.
    have same := List.inj_on_of_nodup_map nodup_firstRows inFirst.1 inSecond.1 sameKey
    rw [same] at inFirst
    exact differ (inFirst.2.symm.trans inSecond.2)

/-! ## The impact -/

/-- What an impact says of an entity, on a stored graph. -/
structure Covers (graph : Graph) (name : String) (impact : EntityImpact) : Prop where
  /-- It is about the entity asked for. -/
  entityName_eq : impact.entityName = name
  /-- It tells whether an entity with the name is stored. -/
  found_iff : impact.found = true ↔ ∃ key entity,
    graph.nodes.find? key = some (.entity entity) ∧ entity.name.toLower = name.toLower
  /-- It lists the files from which ways lead to the entity. -/
  mem_affectedFiles_iff : ∀ file, file ∈ impact.affectedFiles ↔
    ∃ row, graph.IsAccess name row ∧ row.filePath = file
  /-- The files are in order, each once. -/
  sorted_affectedFiles : impact.affectedFiles.Pairwise (· < ·)
  /-- It counts the classes on such ways. -/
  affectedClasses_eq : impact.affectedClasses =
    {key | ∃ row, graph.IsAccess name row ∧ row.classKey = key}.ncard
  /-- It counts the methods on such ways. -/
  affectedMethods_eq : impact.affectedMethods =
    {key | ∃ row, graph.IsAccess name row ∧ row.methodKey = key}.ncard
  /-- It counts the queries on such ways by what they do, leaving out what none of them does. -/
  accessPatterns_eq : impact.accessPatterns =
    (AccessOperation.all.map fun operation => (operation,
      {key | ∃ row, graph.IsAccess name row ∧ row.operation = operation ∧
        row.queryKey = key}.ncard)).filter fun pattern => pattern.2 ≠ 0
  /-- The groups of issues have different severities, from the most severe on. -/
  severities : (impact.issuesBySeverity.map Prod.fst).Sublist Severity.all
  /-- A group has issues of its severity at queries on such ways, in order of their keys. -/
  groups : ∀ group ∈ impact.issuesBySeverity, group.2 ≠ [] ∧
    (∀ row ∈ group.2, row.severity = group.1 ∧ graph.IsIssue name row) ∧
      group.2.Pairwise fun first second => first.issueKey < second.issueKey
  /-- Every issue at such a query is in the group of its severity. -/
  complete : ∀ row, graph.IsIssue name row → ∃ group ∈ impact.issuesBySeverity,
    group.1 = row.severity ∧ ∃ listed ∈ group.2, listed.issueKey = row.issueKey
  /-- No issue is listed twice. -/
  once : ((impact.issuesBySeverity.flatMap Prod.snd).map IssueRow.issueKey).Nodup

section Counts

variable {graph : Graph} (keyed : graph.Keyed) (name : String)
include keyed

/-- The keys that rows have in some place are counted as the ends of ways. -/
theorem size_entityAccesses (keyOf : AccessRow → String) :
    (OrderedSet.ofList ((graph.entityAccesses name).map keyOf)).size =
      {key | ∃ row, graph.IsAccess name row ∧ keyOf row = key}.ncard := by
  simp only [OrderedSet.size_eq_ncard, OrderedSet.contains_ofList, List.mem_map,
    keyed.mem_entityAccesses_iff]

theorem queriesWith_entityAccesses (operation : AccessOperation) :
    queriesWith (graph.entityAccesses name) operation =
      {key | ∃ row, graph.IsAccess name row ∧ row.operation = operation ∧
        row.queryKey = key}.ncard := by
  simp only [queriesWith, OrderedSet.size_eq_ncard, OrderedSet.contains_ofList, List.mem_map,
    List.mem_filter, keyed.mem_entityAccesses_iff, decide_eq_true_eq, and_assoc]

/-- The issues asked for are those at the queries on ways to the entity. -/
theorem mem_issues_iff {row : IssueRow} :
    row ∈ graph.queryIssues
        (OrderedSet.ofList ((graph.entityAccesses name).map AccessRow.queryKey)).toList ↔
      graph.IsIssue name row := by
  simp only [keyed.mem_queryIssues_iff, OrderedSet.mem_toList_ofList, List.mem_map,
    keyed.mem_entityAccesses_iff]
  constructor
  · rintro ⟨onWay, attached, stored⟩
    exact ⟨onWay, attached, stored⟩
  · rintro ⟨onWay, attached, stored⟩
    exact ⟨onWay, attached, stored⟩

end Counts

/-- The impact of an entity is what the ways to it in the graph say. -/
theorem covers_analyze {graph : Graph} (keyed : graph.Keyed) (name : String) :
    Covers graph name ((analyze name).on graph) := by
  rw [on_analyze]
  constructor
  case entityName_eq => rfl
  case found_iff =>
    rw [decide_eq_true_iff, ne_eq, List.eq_nil_iff_forall_not_mem, not_forall_not]
    simp only [keyed.mem_entityKeys_iff, Graph.sameName_iff]
  case mem_affectedFiles_iff =>
    intro file
    rw [OrderedSet.mem_toList_ofList, List.mem_map]
    simp only [keyed.mem_entityAccesses_iff]
  case sorted_affectedFiles => exact OrderedSet.sorted_toList _
  case affectedClasses_eq => exact size_entityAccesses keyed name AccessRow.classKey
  case affectedMethods_eq => exact size_entityAccesses keyed name AccessRow.methodKey
  case accessPatterns_eq =>
    rw [patterns_eq, queriesWith_entityAccesses keyed, queriesWith_entityAccesses keyed]
    rfl
  case severities => exact sublist_groupIssues _
  case groups =>
    intro group member
    obtain ⟨rows, nonempty⟩ := mem_groupIssues_iff.mp member
    refine ⟨nonempty, ?_, rows ▸ sorted_rowsWith _ _⟩
    intro row listed
    rw [rows, mem_rowsWith_iff] at listed
    exact ⟨listed.2, (mem_issues_iff keyed name).mp (mem_of_mem_firstRows listed.1)⟩
  case complete =>
    intro row isIssue
    have member := (mem_issues_iff keyed name).mpr isIssue
    obtain ⟨first, isFirst, same⟩ := exists_mem_firstRows member
    have isFirstIssue := (mem_issues_iff keyed name).mp (mem_of_mem_firstRows isFirst)
    have listed := mem_rowsWith_iff.mpr ⟨isFirst, isFirstIssue.severity_eq isIssue same⟩
    exact ⟨(row.severity, _), mem_groupIssues_iff.mpr ⟨rfl, List.ne_nil_of_mem listed⟩, rfl, first,
      listed, same⟩
  case once => exact nodup_groupIssues _

/-- Two entities of one name, a class in two files, a query in two methods, an issue at two
queries, and an access that does not say how. -/
theorem covers_analyze_shared :
    let impact := (analyze "USERS").on Graph.sharedGraph
    Covers Graph.sharedGraph "USERS" impact ∧ impact.affectedFiles = ["a.java", "b.java"] ∧
      impact.affectedClasses = 2 ∧ impact.affectedMethods = 3 ∧
      impact.accessPatterns = [(.read, 1), (.write, 1)] ∧
      impact.issuesBySeverity =
        [(.high, [⟨"p", "lock", "lock", .high, none⟩]),
          (.low, [⟨"q", "scan", "scan", .low, none⟩])] :=
  ⟨covers_analyze Graph.keyed_sharedGraph "USERS", by decide +kernel, by decide +kernel,
    by decide +kernel, by decide +kernel, by decide +kernel⟩

end EntityImpact

end QueryImpact
