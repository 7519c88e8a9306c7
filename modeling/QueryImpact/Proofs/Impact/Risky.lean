import Mathlib
import QueryImpact.Proofs.Analysis.RowOrder
import QueryImpact.Proofs.Graph.Route

/-!
# Which files are ranked as risky

The rows of a store say for each file and severity how many issues there are.  Adding the rows up
keeps this: the number of a file is the sum over its rows, and also the sum over its severities.  An
issue that several routes lead to is counted once, because the rows are made from sets of keys.  So
the ranking lists the files by the numbers of their issues, and no file twice.
-/

namespace QueryImpact

/-- Whether a query counts the issues of a severity. -/
def RiskyFilesQuery.Counts (query : RiskyFilesQuery) (severity : Severity) : Prop :=
  query.severities = [] ∨ severity ∈ query.severities

instance (query : RiskyFilesQuery) : DecidablePred query.Counts :=
  fun severity => inferInstanceAs (Decidable (query.severities = [] ∨ severity ∈ query.severities))

/-- Severities are as many as there are of each taken together. -/
theorem Severity.sum_count (severities : List Severity) :
    (all.map severities.count).sum = severities.length := by
  induction severities with
  | nil => rfl
  | cons severity rest ih =>
      rw [List.length_cons, ← ih]
      cases severity <;> simp [all, List.count_cons] <;> omega

namespace Graph

variable {graph : Graph} {file key : String} {severities : List Severity}

/-! ## The issues of a file -/

/-- The stored issues, of the wanted severities, to which a file leads by way of its classes, their
methods and the queries of these. -/
def issuesOf (graph : Graph) (file : String) (wanted : Severity → Prop) : Set String :=
  {key | graph.Route [.contains, .defines, .executes, .hasIssue] file key ∧
    ∃ issue, graph.nodes.find? key = some (.issue issue) ∧ wanted issue.severity}

theorem contains_issueKeys :
    (graph.issueKeys file).contains key = true ↔
      graph.Route [.contains, .defines, .executes, .hasIssue] file key := by
  simp only [issueKeys, OrderedSet.contains_ofList, List.mem_flatMap, mem_targetsOf_iff,
    route_cons_iff, route_nil_iff, exists_eq_right]

/-- Counting severities is counting issues: each issue is looked at once. -/
theorem countP_issueSeverities (graph : Graph) (file : String) (wanted : Severity → Prop)
    [DecidablePred wanted] :
    (graph.issueSeverities file).countP wanted = (graph.issuesOf file wanted).ncard := by
  rw [issueSeverities, List.countP_filterMap, List.countP_eq_length_filter,
    ← List.toFinset_card_of_nodup ((OrderedSet.nodup_toList _).filter _), ← Set.ncard_coe_finset]
  congr 1
  ext key
  simp only [List.coe_toFinset, List.mem_filter, Set.mem_ofPred_eq, OrderedSet.mem_toList_iff,
    contains_issueKeys, issuesOf]
  apply and_congr_right
  intro _
  cases graph.nodes.find? key with
  | none => simp
  | some node => cases node <;> simp

theorem count_issueSeverities (graph : Graph) (file : String) (severity : Severity) :
    (graph.issueSeverities file).count severity = (graph.issuesOf file (· = severity)).ncard := by
  rw [← countP_issueSeverities, List.count_eq_countP]
  rfl

/-! ## The rows of a file -/

/-- The rows of one file: the severities that count and occur, with the numbers of issues. -/
def ownRows (graph : Graph) (severities : List Severity) (file : String) : List FileIssueRow :=
  (Severity.all.filter fun severity => (severities = [] ∨ severity ∈ severities) ∧
    0 < (graph.issueSeverities file).count severity).map
      fun severity => ⟨file, severity, (graph.issueSeverities file).count severity⟩

theorem fileIssueCounts_eq (graph : Graph) (severities : List Severity) :
    graph.fileIssueCounts severities = graph.filePaths.flatMap (graph.ownRows severities) := by
  rw [fileIssueCounts]
  congr 1
  funext file
  rw [ownRows, ← List.filterMap_eq_filter, List.map_filterMap]
  apply List.filterMap_congr
  intro severity _
  simp only [Option.guard, decide_eq_true_eq]
  split <;> rfl

theorem mem_ownRows_iff {row : FileIssueRow} :
    row ∈ graph.ownRows severities file ↔
      row.filePath = file ∧ (severities = [] ∨ row.severity ∈ severities) ∧ 0 < row.issues ∧
        row.issues = (graph.issueSeverities file).count row.severity := by
  simp only [ownRows, List.mem_map, List.mem_filter, decide_eq_true_eq]
  constructor
  · rintro ⟨severity, ⟨-, isCounted, positive⟩, rfl⟩
    exact ⟨rfl, isCounted, positive, rfl⟩
  · rintro ⟨rfl, isCounted, positive, issues⟩
    exact ⟨row.severity, ⟨row.severity.mem_all, isCounted, issues ▸ positive⟩, by rw [← issues]⟩

theorem nodup_ownRows (graph : Graph) (severities : List Severity) (file : String) :
    ((graph.ownRows severities file).map FileIssueRow.severity).Nodup := by
  rw [ownRows, List.map_map]
  have same : (FileIssueRow.severity ∘ fun severity =>
      ⟨file, severity, (graph.issueSeverities file).count severity⟩) = id := rfl
  rw [same, List.map_id]
  exact List.Nodup.filter _ (by decide)

/-- The rows of a file add up to the number of its issues. -/
theorem sum_ownRows (graph : Graph) (query : RiskyFilesQuery) (file : String) :
    ((graph.ownRows query.severities file).map FileIssueRow.issues).sum =
      (graph.issuesOf file query.Counts).ncard := by
  let counted := (graph.issueSeverities file).filter query.Counts
  -- A severity that counts occurs among the counted ones as often as among all; others do not.
  have each (severities : List Severity) :
      ((severities.filter fun severity =>
        (query.severities = [] ∨ severity ∈ query.severities) ∧
          0 < (graph.issueSeverities file).count severity).map
            (graph.issueSeverities file).count).sum =
        (severities.map counted.count).sum := by
    induction severities with
    | nil => rfl
    | cons severity rest ih =>
        rw [List.filter_cons, List.map_cons, List.sum_cons, ← ih]
        by_cases isCounted : query.Counts severity
        · have same : counted.count severity = (graph.issueSeverities file).count severity :=
            List.count_filter (decide_eq_true isCounted)
          by_cases occurs : 0 < (graph.issueSeverities file).count severity
          · rw [if_pos (decide_eq_true ⟨isCounted, occurs⟩), same, List.map_cons, List.sum_cons]
          · rw [if_neg (by simp [occurs]), same, Nat.eq_zero_of_not_pos occurs, Nat.zero_add]
        · have none : counted.count severity = 0 := by
            simp [counted, List.count_eq_zero, isCounted]
          rw [if_neg, none, Nat.zero_add]
          rw [decide_eq_true_eq]
          exact fun both => isCounted both.1
  rw [← countP_issueSeverities, List.countP_eq_length_filter, ← Severity.sum_count, ← each,
    ownRows, List.map_map]
  rfl

end Graph

/-- In pieces that are joined, what belongs to one place is the piece of that place. -/
theorem filter_flatMap_of_nodup {α β : Type} [DecidableEq α] {places : List α}
    (nodup : places.Nodup) {piece : α → List β} {placeOf : β → α}
    (own : ∀ place, ∀ item ∈ piece place, placeOf item = place) {place : α}
    (member : place ∈ places) :
    (places.flatMap piece).filter (fun item => placeOf item = place) = piece place := by
  induction places with
  | nil => contradiction
  | cons first rest ih =>
      obtain ⟨fresh, nodupRest⟩ := List.nodup_cons.mp nodup
      rw [List.flatMap_cons, List.filter_append]
      rcases List.mem_cons.mp member with rfl | later
      · have others : (rest.flatMap piece).filter (fun item => placeOf item = place) = [] := by
          rw [List.filter_eq_nil_iff]
          intro item isItem
          obtain ⟨other, isOther, inOther⟩ := List.mem_flatMap.mp isItem
          rw [decide_eq_true_eq, own other item inOther]
          rintro rfl
          exact fresh isOther
        rw [others, List.append_nil, List.filter_eq_self]
        exact fun item isItem => decide_eq_true (own place item isItem)
      · have foreign : (piece first).filter (fun item => placeOf item = place) = [] := by
          rw [List.filter_eq_nil_iff]
          intro item isItem
          rw [decide_eq_true_eq, own first item isItem]
          rintro rfl
          exact fresh later
        rw [foreign, List.nil_append, ih nodupRest later]

namespace RiskyFile

/-! ## Adding up rows -/

/-- A file with the sums over some rows. -/
structure Sums (path : String) (rows : List FileIssueRow) (file : RiskyFile) : Prop where
  /-- It has the path. -/
  path_eq : file.path = path
  /-- The issues are those of all rows. -/
  issueCount_eq : file.issueCount = (rows.map FileIssueRow.issues).sum
  /-- Every row gives the number for its severity. -/
  find?_iff : ∀ severity count, file.bySeverity.find? severity = some count ↔
    ∃ row ∈ rows, row.severity = severity ∧ row.issues = count
  /-- The numbers for the severities add up. -/
  sum_bySeverity : file.bySeverity.values.sum = file.issueCount

theorem sums_ofPath (path : String) : (ofPath path).Sums path [] where
  path_eq := rfl
  issueCount_eq := rfl
  find?_iff severity count := by simp [ofPath]
  sum_bySeverity := rfl

/-- A row for a severity that has not been counted yet. -/
theorem Sums.add {path : String} {rows : List FileIssueRow} {file : RiskyFile}
    (sums : file.Sums path rows) {row : FileIssueRow}
    (fresh : ∀ other ∈ rows, other.severity ≠ row.severity) :
    (file.add row.severity row.issues).Sums path (rows ++ [row]) := by
  have uncounted : file.bySeverity.find? row.severity = none := by
    rw [Option.eq_none_iff_forall_ne_some]
    intro count found
    obtain ⟨other, member, same, -⟩ := (sums.find?_iff row.severity count).mp found
    exact fresh other member same
  have inserted : (file.add row.severity row.issues).bySeverity =
      file.bySeverity.insert row.severity row.issues := by
    rw [RiskyFile.add, OrderedMap.alter, uncounted, Option.getD_none, Nat.zero_add]
  constructor
  case path_eq => exact sums.path_eq
  case issueCount_eq =>
    rw [List.map_append, List.sum_append, ← sums.issueCount_eq]
    simp [RiskyFile.add]
  case find?_iff =>
    intro severity count
    rw [inserted, OrderedMap.find?_insert]
    simp only [List.mem_append, List.mem_singleton, or_and_right, exists_or, exists_eq_left,
      ← sums.find?_iff]
    by_cases same : severity = row.severity
    · subst same
      simp [uncounted]
    · simp [same, Ne.symm same]
  case sum_bySeverity =>
    rw [inserted, (OrderedMap.perm_values_insert uncounted row.issues).sum_eq, List.sum_cons,
      sums.sum_bySeverity]
    exact Nat.add_comm _ _

/-- Files with the sums over their rows: those that were listed before, and those with rows. -/
structure Tallied (listed : List String) (rows : List FileIssueRow)
    (files : OrderedMap String RiskyFile) : Prop where
  contains_iff : ∀ path, files.contains path = true ↔
    path ∈ listed ∨ ∃ row ∈ rows, row.filePath = path
  sums : ∀ path file, files.find? path = some file →
    file.Sums path (rows.filter fun row => row.filePath = path)

theorem tallied_ofList (listed : List String) :
    Tallied listed [] (.ofList (listed.map fun path => (path, ofPath path))) := by
  have overwritten : OrderedMap.ofList (listed.map fun path => (path, ofPath path)) =
      OrderedMap.empty.overwrite RiskyFile.path (listed.map ofPath) := by
    rw [OrderedMap.ofList, OrderedMap.overwrite, List.foldl_map, List.foldl_map]
    rfl
  rw [overwritten]
  constructor
  case contains_iff =>
    intro path
    simp [OrderedMap.contains_overwrite, ofPath]
  case sums =>
    intro path file found
    rcases OrderedMap.of_find?_overwrite _ found with ⟨member, rfl⟩ | stored
    · obtain ⟨other, -, rfl⟩ := List.mem_map.mp member
      exact sums_ofPath other
    · contradiction

namespace Tallied

variable {listed : List String} {rows : List FileIssueRow} {files : OrderedMap String RiskyFile}

/-- Before another row is added, its file has the sums so far, if only those of no rows. -/
theorem sums_getD (tallied : Tallied listed rows files) (path : String) :
    ((files.find? path).getD (ofPath path)).Sums path
      (rows.filter fun row => row.filePath = path) := by
  cases found : files.find? path with
  | some file => exact tallied.sums path file found
  | none =>
      have unlisted : files.contains path = false := by
        rw [OrderedMap.contains, found]
        rfl
      have without : rows.filter (fun row => row.filePath = path) = [] := by
        rw [List.filter_eq_nil_iff]
        intro row member
        rw [decide_eq_true_eq]
        intro own
        have listedNow := (tallied.contains_iff path).mpr (Or.inr ⟨row, member, own⟩)
        exact absurd (unlisted.symm.trans listedNow) (by decide)
      rw [without]
      exact sums_ofPath path

/-- Adding a row whose severity its file does not have yet. -/
theorem addRow (tallied : Tallied listed rows files) {row : FileIssueRow}
    (fresh : ∀ other ∈ rows, other.filePath = row.filePath → other.severity ≠ row.severity) :
    Tallied listed (rows ++ [row]) (RiskyFile.addRow files row) := by
  constructor
  case contains_iff =>
    intro path
    rw [RiskyFile.addRow, OrderedMap.alter, OrderedMap.contains_insert, tallied.contains_iff]
    simp only [List.mem_append, List.mem_singleton, or_and_right, exists_or, exists_eq_left]
    rw [or_comm, or_assoc, eq_comm]
  case sums =>
    intro path file found
    rw [RiskyFile.addRow, OrderedMap.alter, OrderedMap.find?_insert] at found
    rw [List.filter_append]
    by_cases same : row.filePath = path
    · subst same
      rw [if_pos rfl] at found
      rw [List.filter_cons_of_pos (by simp), List.filter_nil, ← Option.some.inj found]
      apply (tallied.sums_getD row.filePath).add
      intro other member
      obtain ⟨earlier, own⟩ := List.mem_filter.mp member
      exact fresh other earlier (of_decide_eq_true own)
    · rw [if_neg (Ne.symm same)] at found
      rw [List.filter_cons_of_neg (by simpa using same), List.filter_nil, List.append_nil]
      exact tallied.sums path file found

/-- Adding rows of which no two are for one file and severity. -/
theorem foldl_addRow (tallied : Tallied listed rows files) {added : List FileIssueRow}
    (distinct : (rows ++ added).Pairwise fun first second =>
      first.filePath = second.filePath → first.severity ≠ second.severity) :
    Tallied listed (rows ++ added) (added.foldl RiskyFile.addRow files) := by
  induction added generalizing rows files with
  | nil => simpa using tallied
  | cons row added ih =>
      rw [List.append_cons] at distinct ⊢
      apply ih (tallied.addRow _) distinct
      intro other earlier
      have before := (List.pairwise_append.mp distinct).1
      exact (List.pairwise_append.mp before).2.2 other earlier row (List.mem_singleton_self row)

end Tallied

/-! ## The ranking -/

instance : Std.TransCmp order := by
  have : Std.TransCmp fun a b : RiskyFile => compare b.issueCount a.issueCount :=
    @Std.TransCmp.opposite _ (compareOn RiskyFile.issueCount) _
  unfold order
  infer_instance

theorem order_eq_lt_iff {first second : RiskyFile} :
    order first second = .lt ↔ second.issueCount < first.issueCount ∨
      first.issueCount = second.issueCount ∧ first.path < second.path := by
  rw [order, compareLex, Ordering.then_eq_lt, compareOn, compare_lt_iff_lt, compare_eq_iff_eq,
    compare_lt_iff_lt, eq_comm]

theorem path_eq_of_order {first second : RiskyFile} (same : order first second = .eq) :
    first.path = second.path := by
  rw [order, compareLex_eq_eq] at same
  exact compare_eq_iff_eq.mp same.2

theorem on_find (graph : Graph) (query : RiskyFilesQuery) :
    let listed := if query.minIssues = 0 then graph.filePaths else []
    (find query).on graph =
      rank query ((graph.fileIssueCounts query.severities).foldl addRow
        (.ofList (listed.map fun path => (path, ofPath path)))) := by
  change Analysis.on (if query.minIssues = 0 then _ else _) graph = _
  by_cases zero : query.minIssues = 0
  · rw [if_pos zero, if_pos zero]
    rfl
  · rw [if_neg zero, if_neg zero]
    rfl

/-- What a ranked file says of a stored graph. -/
structure Describes (graph : Graph) (query : RiskyFilesQuery) (file : RiskyFile) : Prop where
  /-- The file is stored. -/
  isFile : ∃ node, graph.nodes.find? file.path = some (.file node)
  /-- It has the number of its issues that count. -/
  issueCount_eq : file.issueCount = (graph.issuesOf file.path query.Counts).ncard
  /-- It has the numbers for the severities that count, where there are such issues. -/
  find?_iff : ∀ severity count, file.bySeverity.find? severity = some count ↔
    query.Counts severity ∧ 0 < count ∧ count = (graph.issuesOf file.path (· = severity)).ncard
  /-- These numbers add up. -/
  sum_bySeverity : file.bySeverity.values.sum = file.issueCount

/-- A list of the files with enough issues.  Where none are asked for, all files have enough. -/
structure Ranks (graph : Graph) (query : RiskyFilesQuery) (ranked : List RiskyFile) : Prop where
  /-- Every entry describes its file. -/
  describes : ∀ file ∈ ranked, file.Describes graph query
  /-- The entries are for the files with enough issues. -/
  mem_iff : ∀ path, path ∈ ranked.map RiskyFile.path ↔
    (∃ node, graph.nodes.find? path = some (.file node)) ∧
      query.minIssues ≤ (graph.issuesOf path query.Counts).ncard
  /-- Files with more issues come first, and files with equally many by their paths. -/
  sorted : ranked.Pairwise fun first second => second.issueCount < first.issueCount ∨
    first.issueCount = second.issueCount ∧ first.path < second.path

section Files

variable {graph : Graph} (keyed : graph.Keyed) {query : RiskyFilesQuery}
include keyed

theorem distinct_fileIssueCounts (severities : List Severity) :
    (graph.fileIssueCounts severities).Pairwise fun first second =>
      first.filePath = second.filePath → first.severity ≠ second.severity := by
  rw [graph.fileIssueCounts_eq, List.pairwise_flatMap]
  constructor
  · intro file _
    apply (List.pairwise_map.mp (graph.nodup_ownRows severities file)).imp
    intro first second differ _
    exact differ
  · apply keyed.nodup_filePaths.imp
    intro file other differ first isFirst second isSecond sameFile
    rw [(Graph.mem_ownRows_iff.mp isFirst).1, (Graph.mem_ownRows_iff.mp isSecond).1] at sameFile
    exact absurd sameFile differ

theorem filter_fileIssueCounts {path : String} (stored : path ∈ graph.filePaths)
    (severities : List Severity) :
    (graph.fileIssueCounts severities).filter (fun row => row.filePath = path) =
      graph.ownRows severities path := by
  rw [graph.fileIssueCounts_eq]
  apply filter_flatMap_of_nodup keyed.nodup_filePaths _ stored
  intro file row member
  exact (Graph.mem_ownRows_iff.mp member).1

theorem tallied_fileIssueCounts (severities : List Severity) (listed : List String) :
    Tallied listed (graph.fileIssueCounts severities)
      ((graph.fileIssueCounts severities).foldl addRow
        (.ofList (listed.map fun path => (path, ofPath path)))) := by
  have distinct := distinct_fileIssueCounts keyed severities
  rw [← List.nil_append (graph.fileIssueCounts severities)] at distinct
  exact (tallied_ofList listed).foldl_addRow distinct

variable {listed : List String} {files : OrderedMap String RiskyFile}
  (tallied : Tallied listed (graph.fileIssueCounts query.severities) files)
include tallied

/-- The sums over the rows of a stored file describe it. -/
theorem Tallied.describes {path : String} {file : RiskyFile} (stored : path ∈ graph.filePaths)
    (found : files.find? path = some file) : file.Describes graph query := by
  have sums := tallied.sums path file found
  rw [filter_fileIssueCounts keyed stored] at sums
  obtain rfl := sums.path_eq
  constructor
  case isFile => exact keyed.mem_filePaths_iff.mp stored
  case issueCount_eq => rw [sums.issueCount_eq, Graph.sum_ownRows]
  case find?_iff =>
    intro severity count
    rw [sums.find?_iff, ← Graph.count_issueSeverities]
    constructor
    · rintro ⟨row, isRow, rfl, rfl⟩
      exact (Graph.mem_ownRows_iff.mp isRow).2
    · rintro ⟨isCounted, positive, count_eq⟩
      exact ⟨⟨file.path, severity, count⟩,
        Graph.mem_ownRows_iff.mpr ⟨rfl, isCounted, positive, count_eq⟩, rfl, rfl⟩
  case sum_bySeverity => exact sums.sum_bySeverity

/-- Files with issues that count are found, also where they were not listed before. -/
theorem Tallied.contains_of_pos {path : String} (stored : path ∈ graph.filePaths)
    (positive : 0 < (graph.issuesOf path query.Counts).ncard) : files.contains path = true := by
  have nonempty : graph.ownRows query.severities path ≠ [] := by
    intro empty
    rw [← Graph.sum_ownRows, empty] at positive
    contradiction
  obtain ⟨row, isRow⟩ := List.exists_mem_of_ne_nil _ nonempty
  rw [← filter_fileIssueCounts keyed stored, List.mem_filter] at isRow
  exact (tallied.contains_iff path).mpr (Or.inr ⟨row, isRow.1, of_decide_eq_true isRow.2⟩)

omit keyed in
/-- Only stored files are found. -/
theorem Tallied.mem_filePaths (isListed : listed ⊆ graph.filePaths) {path : String}
    (contained : files.contains path = true) : path ∈ graph.filePaths := by
  rcases (tallied.contains_iff path).mp contained with listedBefore | ⟨row, isRow, rfl⟩
  · exact isListed listedBefore
  · rw [graph.fileIssueCounts_eq] at isRow
    obtain ⟨file, isFile, own⟩ := List.mem_flatMap.mp isRow
    rw [(Graph.mem_ownRows_iff.mp own).1]
    exact isFile

/-- Sorted by the number of issues, the files with enough of them are a ranking. -/
theorem Tallied.ranks
    (listed_eq : listed = if query.minIssues = 0 then graph.filePaths else []) :
    Ranks graph query ((files.values.filter fun file => query.minIssues ≤ file.issueCount).mergeSort
      fun a b => (order a b).isLE) := by
  have isListed : listed ⊆ graph.filePaths := by
    rw [listed_eq]
    split <;> simp
  have described {path : String} {file : RiskyFile} (found : files.find? path = some file) :
      file.path = path ∧ file.Describes graph query :=
    ⟨(tallied.sums path file found).path_eq,
      tallied.describes keyed
        (tallied.mem_filePaths isListed (OrderedMap.contains_iff.mpr ⟨file, found⟩)) found⟩
  have ranked_iff {file : RiskyFile} :
      file ∈ (files.values.filter fun file => query.minIssues ≤ file.issueCount).mergeSort
          (fun a b => (order a b).isLE) ↔
        (∃ path, files.find? path = some file) ∧ query.minIssues ≤ file.issueCount := by
    rw [List.mem_mergeSort, List.mem_filter, OrderedMap.mem_values_iff, decide_eq_true_eq]
  constructor
  case describes =>
    intro file ranked
    obtain ⟨path, found⟩ := (ranked_iff.mp ranked).1
    exact (described found).2
  case mem_iff =>
    intro path
    rw [List.mem_map]
    constructor
    · rintro ⟨file, ranked, rfl⟩
      obtain ⟨⟨path, found⟩, enough⟩ := ranked_iff.mp ranked
      have describes := (described found).2
      rw [describes.issueCount_eq] at enough
      exact ⟨describes.isFile, enough⟩
    · rintro ⟨isFile, enough⟩
      have isPath := keyed.mem_filePaths_iff.mpr isFile
      -- A file without issues has no row, so it is found only where all files are listed.
      have contained : files.contains path = true := by
        by_cases zero : query.minIssues = 0
        · rw [if_pos zero] at listed_eq
          exact (tallied.contains_iff path).mpr (Or.inl (listed_eq ▸ isPath))
        · exact tallied.contains_of_pos keyed isPath ((Nat.pos_of_ne_zero zero).trans_le enough)
      obtain ⟨file, found⟩ := OrderedMap.contains_iff.mp contained
      obtain ⟨rfl, describes⟩ := described found
      rw [← describes.issueCount_eq] at enough
      exact ⟨file, ranked_iff.mpr ⟨⟨file.path, found⟩, enough⟩, rfl⟩
  case sorted =>
    have nodup : (files.values.map RiskyFile.path).Nodup := by
      rw [OrderedMap.map_values_eq_keys fun path file found => (described found).1]
      exact files.nodup_keys
    have apart := (List.pairwise_map.mp nodup).imp fun differ same => differ (path_eq_of_order same)
    exact (pairwise_mergeSort_lt order (apart.filter _)).imp order_eq_lt_iff.mp

end Files

/-- The riskiest files are the first of the ranking by the number of issues. -/
theorem find_eq_take_ranked {graph : Graph} (keyed : graph.Keyed) (query : RiskyFilesQuery) :
    ∃ ranked, Ranks graph query ranked ∧ (find query).on graph = ranked.take query.limit := by
  have tallied := tallied_fileIssueCounts keyed query.severities
    (if query.minIssues = 0 then graph.filePaths else [])
  exact ⟨_, tallied.ranks keyed rfl, on_find graph query⟩

/-- An issue on several ways, and a severity that is given twice, count once. -/
theorem find_eq_take_ranked_shared :
    (∃ ranked, Ranks Graph.sharedGraph ⟨0, [.low, .high, .low], 2⟩ ranked ∧
      (find ⟨0, [.low, .high, .low], 2⟩).on Graph.sharedGraph = ranked.take 2) ∧
      (find ⟨0, [.low, .high, .low], 2⟩).on Graph.sharedGraph =
        [⟨"b.java", 2, .ofList [(.high, 1), (.low, 1)]⟩, ⟨"a.java", 1, .ofList [(.high, 1)]⟩] :=
  ⟨find_eq_take_ranked Graph.keyed_sharedGraph _, by cbv⟩

end RiskyFile

end QueryImpact
