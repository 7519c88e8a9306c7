import Mathlib
import QueryImpact.Analysis.EntityImpact
import QueryImpact.Proofs.Impact.Sighted

/-!
# The impact of an entity is what the findings say

From findings through the draft, the import and the graph to the impact of an entity: nothing is
lost and nothing is confused.  The keys of the graph stand for the places of the sightings, so the
counts of keys are counts of classes, methods and queries.
-/

namespace QueryImpact

/-! ## Rows of the graph -/

theorem Graph.sameName_iff {first second : String} :
    sameName first second = true ↔ first.toLower = second.toLower := by
  rw [sameName, decide_eq_true_eq, String.toLower, String.toLower, ← String.toList_inj]
  simp

theorem Graph.accessOperation_accesses (query entity : String) (operation : AccessOperation) :
    accessOperation (.accesses query entity operation) = operation := by
  cases operation with
  | read => rfl
  | write => rfl

namespace Sighting

/-- The way from the file of a sighting to an entity of its query. -/
def row (sighting : Sighting) : AccessRow :=
  ⟨sighting.location.filePath, sighting.classKey, sighting.methodKey, sighting.queryKey,
    sighting.operation⟩

theorem operation_eq_iff {sighting : Sighting} {operation : AccessOperation} :
    sighting.operation = operation ↔ sighting.isRead = decide (operation = .read) := by
  rw [Sighting.operation, Fragment.operationOf, ← isRead]
  cases sighting.isRead with
  | true => cases operation <;> simp
  | false => cases operation <;> simp

theorem names_iff {sighting : Sighting} {name : String} :
    sighting.names name = true ↔
      ∃ entity ∈ Query.entities sighting.text, Graph.sameName entity name = true := by
  simp [names, Graph.sameName_iff]

end Sighting

/-- Sightings that keys tell apart: the locations are plain, and digests belong to one text. -/
structure Builder.Tells (builder : Builder) (findings : List Finding) : Prop where
  /-- No mark of keys in a location. -/
  plain : ∀ sighting ∈ builder.sightings findings, sighting.location.IsPlain
  /-- Different texts have different digests. -/
  digests : builder.DigestsTell findings

/-- The strategies of the library tell sightings apart when no path holds a colon. -/
theorem Builder.tells_of_isBuiltIn {builder : Builder}
    (builtIn : ∀ strategy ∈ builder.strategies, strategy.IsBuiltIn) {findings : List Finding}
    (colonFree : ∀ sighting ∈ builder.sightings findings,
      ':' ∉ sighting.location.filePath.toList)
    (digests : builder.DigestsTell findings) :
    builder.Tells findings := by
  refine ⟨?_, digests⟩
  intro sighting sighted
  exact LocationStrategy.isPlain_of_parseFirst builtIn
    (Builder.parse?_of_mem_sightings sighted) (colonFree sighting sighted)

namespace Builder.Tells

variable {builder : Builder} {findings : List Finding} (tells : builder.Tells findings)
  {first second : Sighting} (firstSighted : first ∈ builder.sightings findings)
  (secondSighted : second ∈ builder.sightings findings)

include tells firstSighted secondSighted

theorem classKey_eq_iff : first.classKey = second.classKey ↔
    first.seenClass = second.seenClass := by
  constructor
  · intro same
    obtain ⟨files, classes⟩ := SourceLocation.classKey_inj (tells.plain first firstSighted)
      (tells.plain second secondSighted) same
    rw [Sighting.seenClass, files, classes, Sighting.seenClass]
  · intro same
    obtain ⟨files, classes⟩ := Prod.mk.inj same
    simp [Sighting.classKey, SourceLocation.classNode, ClassNode.ofName, files, classes]

theorem methodKey_eq_iff : first.methodKey = second.methodKey ↔
    first.seenMethod = second.seenMethod := by
  constructor
  · intro same
    obtain ⟨files, classes, signatures⟩ :=
      SourceLocation.methodKey_inj (tells.plain first firstSighted)
        (tells.plain second secondSighted) same
    rw [Sighting.seenMethod, files, classes, signatures, Sighting.seenMethod]
  · intro same
    obtain ⟨files, classes, signatures⟩ :=
      (Prod.mk.inj same).imp_right fun inner => Prod.mk.inj inner
    simp [Sighting.methodKey, SourceLocation.methodNode, MethodNode.ofSignature,
      SourceLocation.classNode, ClassNode.ofName, files, classes, signatures]

theorem queryKey_eq_iff : first.queryKey = second.queryKey ↔
    first.seenQuery = second.seenQuery := by
  constructor
  · intro same
    obtain ⟨⟨files, classes, signatures⟩, lines, digests⟩ :=
      Fragment.queryKey_inj (tells.plain first firstSighted) (tells.plain second secondSighted)
        same
    have texts := tells.digests first firstSighted second secondSighted digests
    simp only [Sighting.seenQuery, Sighting.seenMethod, files, classes, signatures, lines,
      texts]
  · intro same
    obtain ⟨methods, lines, texts⟩ :=
      (Prod.mk.inj same).imp_right fun inner => Prod.mk.inj inner
    have methodKeys : first.location.methodNode.key = second.location.methodNode.key :=
      (methodKey_eq_iff tells firstSighted secondSighted).mpr methods
    simp only [Sighting.text] at texts
    simp only [Sighting.queryKey, Fragment.queryOf, Fragment.queryNode, QueryNode.ofText,
      QueryNode.keyOf, lines, texts, methodKeys]

end Builder.Tells

namespace Graph.Holds

variable {builder : Builder} {findings : List Finding} {graph : Graph}
  (holds : graph.Holds (Draft.ofFindings builder findings).nodes
    (Draft.ofFindings builder findings).relationships)
  (tells : builder.Tells findings)

include holds tells

section Descent

variable {sighting : Sighting} (sighted : sighting ∈ builder.sightings findings)

include sighted

/-- A query is executed by one method. -/
theorem mem_sourcesOf_query_iff {method : String} :
    method ∈ graph.sourcesOf .executes sighting.queryKey ↔ method = sighting.methodKey := by
  rw [holds.mem_sourcesOf_iff (by decide)]
  constructor
  · rintro ⟨other, otherSighted, found⟩
    obtain ⟨rfl, sameQuery⟩ := Prod.mk.inj (Option.some.inj found)
    have places := (tells.queryKey_eq_iff otherSighted sighted).mp sameQuery
    exact (tells.methodKey_eq_iff otherSighted sighted).mpr (Prod.mk.inj places).1
  · rintro rfl
    exact ⟨sighting, sighted, rfl⟩

/-- A method is defined by one class. -/
theorem mem_sourcesOf_method_iff {classKey : String} :
    classKey ∈ graph.sourcesOf .defines sighting.methodKey ↔ classKey = sighting.classKey := by
  rw [holds.mem_sourcesOf_iff (by decide)]
  constructor
  · rintro ⟨other, otherSighted, found⟩
    obtain ⟨rfl, sameMethod⟩ := Prod.mk.inj (Option.some.inj found)
    have places := (tells.methodKey_eq_iff otherSighted sighted).mp sameMethod
    obtain ⟨files, classes⟩ := (Prod.mk.inj places).imp_right fun inner => (Prod.mk.inj inner).1
    exact (tells.classKey_eq_iff otherSighted sighted).mpr (Prod.ext files classes)
  · rintro rfl
    exact ⟨sighting, sighted, rfl⟩

/-- A class is contained in one file. -/
theorem mem_sourcesOf_class_iff {file : String} :
    file ∈ graph.sourcesOf .contains sighting.classKey ↔
      file = sighting.location.filePath := by
  rw [holds.mem_sourcesOf_iff (by decide)]
  constructor
  · rintro ⟨other, otherSighted, found⟩
    obtain ⟨rfl, sameClass⟩ := Prod.mk.inj (Option.some.inj found)
    have places := (tells.classKey_eq_iff otherSighted sighted).mp sameClass
    exact (Prod.mk.inj places).1
  · rintro rfl
    exact ⟨sighting, sighted, rfl⟩

end Descent

/-- An entity is known when a sighting names it. -/
theorem entityKeys_ne_nil_iff {name : String} :
    graph.entityKeys name ≠ [] ↔
      ∃ sighting ∈ builder.sightings findings,
        ∃ entity ∈ Query.entities sighting.text, entity.toLower = name.toLower := by
  have agree := Draft.kindsAgree_ofFindings tells.plain
  constructor
  · intro nonempty
    obtain ⟨key, member⟩ := List.exists_mem_of_ne_nil _ nonempty
    obtain ⟨sighting, sighted, entity, named, sameAs, _⟩ :=
      (holds.mem_entityKeys_iff agree).mp member
    exact ⟨sighting, sighted, entity, named, sameName_iff.mp sameAs⟩
  · rintro ⟨sighting, sighted, entity, named, same⟩
    have member := (holds.mem_entityKeys_iff agree).mpr
      ⟨sighting, sighted, entity, named, sameName_iff.mpr same, rfl⟩
    exact List.ne_nil_of_mem member

/-- The rows of an entity are those of the sightings that name it. -/
theorem mem_entityAccesses_iff {name : String} {row : AccessRow} :
    row ∈ graph.entityAccesses name ↔
      ∃ sighting ∈ builder.sightings findings, sighting.names name = true ∧
        row = sighting.row := by
  have agree := Draft.kindsAgree_ofFindings tells.plain
  simp only [entityAccesses, List.mem_flatMap, List.mem_map, List.mem_filter,
    OrderedSet.contains_ofList, holds.mem_entityKeys_iff agree]
  constructor
  · rintro ⟨access, ⟨member, other, _, otherEntity, _, sameAs, sameKey⟩, method, executes,
      classKey, defines, file, contains, rfl⟩
    obtain ⟨sighting, sighted, entity, named, rfl⟩ := holds.exists_sighting_of_access member
    obtain rfl := Builder.entityKey_inj sameKey
    obtain rfl := (holds.mem_sourcesOf_query_iff tells sighted).mp executes
    obtain rfl := (holds.mem_sourcesOf_method_iff tells sighted).mp defines
    obtain rfl := (holds.mem_sourcesOf_class_iff tells sighted).mp contains
    refine ⟨sighting, sighted, Sighting.names_iff.mpr ⟨entity, named, sameAs⟩, ?_⟩
    rw [accessOperation_accesses]
    rfl
  · rintro ⟨sighting, sighted, names, rfl⟩
    obtain ⟨entity, named, sameAs⟩ := Sighting.names_iff.mp names
    obtain ⟨access, member, source, target⟩ :=
      holds.exists_access_of_mem_sightings sighted named
    refine ⟨access, ⟨member, sighting, sighted, entity, named, sameAs, target⟩,
      sighting.methodKey, ?_, sighting.classKey,
      (holds.mem_sourcesOf_method_iff tells sighted).mpr rfl, sighting.location.filePath,
      (holds.mem_sourcesOf_class_iff tells sighted).mpr rfl, ?_⟩
    · rw [source]
      exact (holds.mem_sourcesOf_query_iff tells sighted).mpr rfl
    · -- The stored edge may be that of another sighting of the same query.
      obtain ⟨other, otherSighted, otherEntity, _, rfl⟩ := holds.exists_sighting_of_access member
      have sameQuery : other.queryKey = sighting.queryKey := source
      have places := (tells.queryKey_eq_iff otherSighted sighted).mp sameQuery
      have texts : other.text = sighting.text := (Prod.mk.inj (Prod.mk.inj places).2).2
      rw [source, accessOperation_accesses, Sighting.operation, texts, Sighting.row,
        Sighting.operation]

end Graph.Holds

/-! ## Counts -/

/-- Distinct values are as many as distinct other values that are equal just when they are. -/
theorem card_toFinset_map_congr {α β γ : Type} [DecidableEq β] [DecidableEq γ] {items : List α}
    {first : α → β} {second : α → γ}
    (same : ∀ item ∈ items, ∀ other ∈ items,
      first item = first other ↔ second item = second other) :
    (items.map first).toFinset.card = (items.map second).toFinset.card := by
  induction items with
  | nil => rfl
  | cons item rest ih =>
      have sameRest := ih fun one oneMember other otherMember =>
        same one (List.mem_cons_of_mem _ oneMember) other (List.mem_cons_of_mem _ otherMember)
      have known : first item ∈ (rest.map first).toFinset ↔
          second item ∈ (rest.map second).toFinset := by
        simp only [List.mem_toFinset, List.mem_map]
        constructor
        · rintro ⟨other, member, equal⟩
          exact ⟨other, member, (same other (List.mem_cons_of_mem _ member) item
            List.mem_cons_self).mp equal⟩
        · rintro ⟨other, member, equal⟩
          exact ⟨other, member, (same other (List.mem_cons_of_mem _ member) item
            List.mem_cons_self).mpr equal⟩
      rw [List.map_cons, List.map_cons, List.toFinset_cons, List.toFinset_cons,
        Finset.card_insert_eq_ite, Finset.card_insert_eq_ite, sameRest]
      simp only [known]

namespace EntityImpact

/-- What an analysis answers.  Without an entity of the name there are no rows either. -/
theorem on_analyze (name : String) (graph : Graph) :
    let rows := graph.entityAccesses name
    let files := OrderedSet.ofList (rows.map AccessRow.filePath)
    let classes := OrderedSet.ofList (rows.map AccessRow.classKey)
    let methods := OrderedSet.ofList (rows.map AccessRow.methodKey)
    let queries := OrderedSet.ofList (rows.map AccessRow.queryKey)
    (analyze name).on graph =
      { entityName := name
        found := graph.entityKeys name ≠ []
        affectedFiles := files.toList
        affectedClasses := classes.size
        affectedMethods := methods.size
        accessPatterns := patterns rows
        issuesBySeverity := groupIssues (graph.queryIssues queries.toList)
        risk := if graph.entityKeys name = [] then .none
          else .assess files.size classes.size methods.size } := by
  intro rows files classes methods queries
  have sameEmpty : (OrderedSet.ofList (graph.entityKeys name)).toList = [] ↔
      graph.entityKeys name = [] := by
    simp only [List.eq_nil_iff_forall_not_mem, OrderedSet.mem_toList_ofList]
  have asked : (analyze name).on graph =
      Analysis.on (ite ((OrderedSet.ofList (graph.entityKeys name)).toList = []) _ _) graph := rfl
  by_cases unknown : graph.entityKeys name = []
  · have noRows : rows = [] := by
      simp [rows, Graph.entityAccesses, unknown, OrderedSet.ofList]
    have noIssues : graph.queryIssues queries.toList = [] := by
      simp [queries, noRows, Graph.queryIssues]
    rw [asked, if_pos (sameEmpty.mpr unknown), noIssues, if_pos unknown]
    simp only [files, classes, methods, noRows, unknown]
    rfl
  · rw [asked, if_neg (fun empty => unknown (sameEmpty.mp empty)), if_neg unknown,
      decide_eq_true unknown]
    rfl

/-- What an analysis answers, told by the rows of the entity. -/
theorem analyze_on (name : String) (graph : Graph) :
    let impact := (analyze name).on graph
    let rows := graph.entityAccesses name
    (impact.found = true ↔ graph.entityKeys name ≠ []) ∧
      impact.affectedFiles = (OrderedSet.ofList (rows.map AccessRow.filePath)).toList ∧
      impact.affectedClasses = (OrderedSet.ofList (rows.map AccessRow.classKey)).size ∧
      impact.affectedMethods = (OrderedSet.ofList (rows.map AccessRow.methodKey)).size ∧
      impact.accessPatterns = patterns rows := by
  rw [on_analyze]
  exact ⟨decide_eq_true_iff, rfl, rfl, rfl, rfl⟩

/-- The operations that occur, with the numbers of their queries. -/
theorem patterns_eq (rows : List AccessRow) :
    patterns rows =
      [(.read, queriesWith rows .read), (.write, queriesWith rows .write)].filter
        fun pattern => pattern.2 ≠ 0 := by
  by_cases noReads : queriesWith rows .read = 0
  · by_cases noWrites : queriesWith rows .write = 0
    · simp [patterns, AccessOperation.all, noReads, noWrites]
    · simp [patterns, AccessOperation.all, noReads, noWrites]
  · by_cases noWrites : queriesWith rows .write = 0
    · simp [patterns, AccessOperation.all, noReads, noWrites]
    · simp [patterns, AccessOperation.all, noReads, noWrites]

/-- Rows that are those of some sightings. -/
def RowsOf (rows : List AccessRow) (sightings : List Sighting) : Prop :=
  ∀ row, row ∈ rows ↔ ∃ sighting ∈ sightings, row = sighting.row

theorem RowsOf.filter {rows : List AccessRow} {sightings : List Sighting}
    (rowsOf : RowsOf rows sightings) (keep : AccessRow → Bool) :
    RowsOf (rows.filter keep) (sightings.filter fun sighting => keep sighting.row) := by
  intro row
  simp only [List.mem_filter, rowsOf row]
  constructor
  · rintro ⟨⟨sighting, member, rfl⟩, kept⟩
    exact ⟨sighting, ⟨member, kept⟩, rfl⟩
  · rintro ⟨sighting, ⟨member, kept⟩, rfl⟩
    exact ⟨⟨sighting, member, rfl⟩, kept⟩

theorem RowsOf.toFinset_map {rows : List AccessRow} {sightings : List Sighting}
    (rowsOf : RowsOf rows sightings) (key : AccessRow → String) :
    (rows.map key).toFinset = (sightings.map fun sighting => key sighting.row).toFinset := by
  ext value
  simp only [List.mem_toFinset, List.mem_map, rowsOf _]
  constructor
  · rintro ⟨row, ⟨sighting, member, rfl⟩, rfl⟩
    exact ⟨sighting, member, rfl⟩
  · rintro ⟨sighting, member, rfl⟩
    exact ⟨sighting.row, ⟨sighting, member, rfl⟩, rfl⟩

/-- Distinct keys in rows are distinct places of the sightings. -/
theorem RowsOf.size_map {rows : List AccessRow} {sightings : List Sighting}
    (rowsOf : RowsOf rows sightings) {γ : Type} [DecidableEq γ] {key : AccessRow → String}
    {place : Sighting → γ}
    (same : ∀ first ∈ sightings, ∀ second ∈ sightings,
      key first.row = key second.row ↔ place first = place second) :
    (OrderedSet.ofList (rows.map key)).size = (sightings.map place).toFinset.card := by
  rw [OrderedSet.size_ofList, rowsOf.toFinset_map]
  exact card_toFinset_map_congr same

theorem RowsOf.queriesWith_eq {rows : List AccessRow} {sightings : List Sighting}
    (rowsOf : RowsOf rows sightings)
    (same : ∀ first ∈ sightings, ∀ second ∈ sightings,
      first.queryKey = second.queryKey ↔ first.seenQuery = second.seenQuery)
    (operation : AccessOperation) :
    queriesWith rows operation =
      ((sightings.filter fun sighting => sighting.isRead = decide (operation = .read)).map
        Sighting.seenQuery).toFinset.card := by
  have sameFilter : (fun sighting : Sighting => decide (sighting.row.operation = operation)) =
      fun sighting => decide (sighting.isRead = decide (operation = .read)) := by
    funext sighting
    exact decide_eq_decide.mpr Sighting.operation_eq_iff
  rw [← sameFilter]
  apply (rowsOf.filter _).size_map
  intro first firstMember second secondMember
  exact same first (List.mem_filter.mp firstMember).1 second (List.mem_filter.mp secondMember).1

/-- After the draft of some findings is imported into an empty store, the impact of an entity is
what the accepted findings that name it say.  The location strategies are those of the library, no
path holds a colon, and different query texts have different digests. -/
theorem analyze_after_import {builder : Builder}
    (builtIn : ∀ strategy ∈ builder.strategies, strategy.IsBuiltIn) {findings : List Finding}
    (colonFree : ∀ sighting ∈ builder.sightings findings,
      ':' ∉ sighting.location.filePath.toList)
    (digests : builder.DigestsTell findings)
    {settings : BatchSettings} (positive : 1 ≤ settings.size) (name : String) :
    ∃ report store,
      MemoryStore.run (Writing.importAll settings (.ofDraft (.ofFindings builder findings)))
          .empty = (.ok report, store) ∧
        report.isClean = true ∧
        let impact := (analyze name).on store.graph
        let naming := (builder.sightings findings).filter (·.names name)
        (impact.found = true ↔
            ∃ sighting ∈ builder.sightings findings,
              ∃ entity ∈ Query.entities sighting.text, entity.toLower = name.toLower) ∧
          impact.affectedFiles = (naming.map (·.location.filePath)).toFinset.sort (· ≤ ·) ∧
          impact.affectedClasses = (naming.map Sighting.seenClass).toFinset.card ∧
          impact.affectedMethods = (naming.map Sighting.seenMethod).toFinset.card ∧
          impact.accessPatterns =
            [(.read, ((naming.filter fun sighting => sighting.isRead = true).map
                Sighting.seenQuery).toFinset.card),
              (.write, ((naming.filter fun sighting => sighting.isRead = false).map
                Sighting.seenQuery).toFinset.card)].filter fun pattern => pattern.2 ≠ 0 := by
  have tells := Builder.tells_of_isBuiltIn builtIn colonFree digests
  have agree := Draft.kindsAgree_ofFindings tells.plain
  obtain ⟨report, graph, imported, clean, holds⟩ :=
    MemoryStore.run_importAll positive (.ofDraft (.ofFindings builder findings)) agree
      fun relationship member => Draft.hasEnds_ofFindings member
  refine ⟨report, ⟨graph, none⟩, imported, clean, ?_⟩
  intro impact naming
  obtain ⟨found, files, classes, methods, patterns⟩ := analyze_on name graph
  have rows : RowsOf (graph.entityAccesses name) naming := by
    intro row
    rw [holds.mem_entityAccesses_iff tells]
    simp [naming, and_assoc]
  have sightedOf : ∀ sighting ∈ naming, sighting ∈ builder.sightings findings :=
    fun sighting member => (List.mem_filter.mp member).1
  refine ⟨?_, ?_, ?_, ?_, ?_⟩
  · exact found.trans (holds.entityKeys_ne_nil_iff tells)
  · rw [files, OrderedSet.toList_ofList_eq_sort, rows.toFinset_map]
    rfl
  · rw [classes]
    exact rows.size_map fun first firstMember second secondMember =>
      tells.classKey_eq_iff (sightedOf first firstMember) (sightedOf second secondMember)
  · rw [methods]
    exact rows.size_map fun first firstMember second secondMember =>
      tells.methodKey_eq_iff (sightedOf first firstMember) (sightedOf second secondMember)
  · have sameQueries : ∀ first ∈ naming, ∀ second ∈ naming,
        first.queryKey = second.queryKey ↔ first.seenQuery = second.seenQuery :=
      fun first firstMember second secondMember =>
        tells.queryKey_eq_iff (sightedOf first firstMember) (sightedOf second secondMember)
    rw [patterns, patterns_eq, rows.queriesWith_eq sameQueries, rows.queriesWith_eq sameQueries]
    rfl

/-- A query that adds users, and the place it is found at. -/
def addingUsers : Sighting where
  location := ⟨"OrderDao.java", "java", "", "OrderDao", "create", "create", 20⟩
  finding :=
    { sourceLocation := "OrderDao#create:20"
      queryText := " INSERT INTO Users(id) VALUES(?)"
      severity := .low }

/-- A query that reads users, and the place it is found at. -/
def readingUsers : Sighting where
  location := ⟨"UserDao.java", "java", "", "UserDao", "find", "find", 10⟩
  finding :=
    { sourceLocation := "UserDao#find:10", queryText := "SELECT * FROM users", severity := .low }

/-- The findings of the two queries, and one whose location cannot be read. -/
def userFindings : List Finding :=
  [addingUsers.finding,
    { sourceLocation := "nowhere", queryText := "SELECT * FROM users", severity := .low },
    readingUsers.finding]

theorem sightings_userFindings :
    Builder.java.sightings userFindings = [addingUsers, readingUsers] := by
  decide +kernel

theorem names_addingUsers : addingUsers.names "USERS" = true := by
  cbv

theorem names_readingUsers : readingUsers.names "USERS" = true := by
  cbv

theorem analyze_after_import_users :
    ∃ report store,
      MemoryStore.run (Writing.importAll ⟨1, 0⟩ (.ofDraft (.ofFindings .java userFindings)))
          .empty = (.ok report, store) ∧
        report.isClean = true ∧
        let impact := (analyze "USERS").on store.graph
        impact.found = true ∧ impact.affectedFiles = ["OrderDao.java", "UserDao.java"] ∧
          impact.affectedClasses = 2 ∧ impact.affectedMethods = 2 ∧
          impact.accessPatterns = [(.read, 1), (.write, 1)] := by
  have builtIn : ∀ strategy ∈ Builder.java.strategies, strategy.IsBuiltIn := by
    simp [Builder.java, LocationStrategy.java, LocationStrategy.IsBuiltIn]
  have different : Digest.textIdentifier addingUsers.text ≠
      Digest.textIdentifier readingUsers.text := by
    decide +kernel
  have digests : Builder.java.DigestsTell userFindings := by
    simp [Builder.DigestsTell, sightings_userFindings, different, different.symm]
  have naming : (Builder.java.sightings userFindings).filter (·.names "USERS") =
      [addingUsers, readingUsers] := by
    simp [sightings_userFindings, names_addingUsers, names_readingUsers]
  have reads : [addingUsers, readingUsers].filter (fun sighting => sighting.isRead = true) =
      [readingUsers] := by
    decide +kernel
  have writes : [addingUsers, readingUsers].filter (fun sighting => sighting.isRead = false) =
      [addingUsers] := by
    decide +kernel
  obtain ⟨report, store, imported, clean, found, files, classes, methods, patterns⟩ :=
    @analyze_after_import .java builtIn userFindings
      (by rw [sightings_userFindings]; decide +kernel) digests ⟨1, 0⟩ (le_refl 1) "USERS"
  rw [naming] at files classes methods
  rw [naming, reads, writes] at patterns
  refine ⟨report, store, imported, clean, found.mpr ?_, files.trans ?_, classes, methods,
    patterns⟩
  · obtain ⟨entity, named, same⟩ := Sighting.names_iff.mp names_readingUsers
    refine ⟨readingUsers, ?_, entity, named, Graph.sameName_iff.mp same⟩
    simp [sightings_userFindings]
  · exact (List.toFinset_sort _ (by decide)).mpr (by decide)

end EntityImpact

end QueryImpact
