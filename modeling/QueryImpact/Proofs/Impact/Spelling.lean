import Mathlib
import QueryImpact.Proofs.Impact.Access
import QueryImpact.Proofs.Query.Entity
import QueryImpact.Proofs.Store.Batching
import QueryImpact.Proofs.Store.Typing

/-!
# Entities under the spelling of a query

Entities are stored under names in lower case, and looked up apart from the case of ASCII letters
only.  So an entity is found under the spelling that a query uses exactly where the two agree: where
lower-casing the spelling changes nothing but ASCII letters.  Under any other spelling no entity is
found at all.
-/

namespace QueryImpact

/-! ## Names of entities -/

namespace Query

open QueryImpact.Text

theorem mem_entities_iff {text name : String} :
    name ∈ entities text ↔
      ∃ reference ∈ references text, cleanReference? reference = some name := by
  rw [entities, mem_foldl_addNew, List.mem_filterMap]
  simp

/-- The name of an entity is its own lower-case form. -/
theorem lowercaseChar_of_mem_entities {text name : String} (named : name ∈ entities text) :
    ∀ c ∈ name.toList, lowercaseChar c = [c] := by
  intro c member
  obtain ⟨reference, _, cleaned⟩ := mem_entities_iff.mp named
  rw [(cleanReference?_eq_some_iff.mp cleaned).1] at member
  exact (of_mem_lowercaseFrom member).1

theorem toLower_of_mem_entities {text name : String} (named : name ∈ entities text) :
    name.toLower = name := by
  rw [← String.toList_inj, String.toLower, String.toList_map]
  have kept : ∀ c ∈ name.toList, c.toLower = id c := fun c member =>
    toLower_of_lowercaseChar (lowercaseChar_of_mem_entities named c member)
  rw [List.map_congr_left kept, List.map_id]

/-- An entity is named by a spelling, apart from the case of ASCII letters, only if lower-casing the
spelling changes nothing else. -/
theorem lowercase_eq_toLower_of_named {text name asked : String} (named : name ∈ entities text)
    (same : name.toLower = asked.toLower) : lowercase asked = asked.toLower := by
  apply lowercase_eq_toLower_iff.mpr
  intro c member beyond
  have kept : c ∈ asked.toLower.toList := by
    rw [String.toLower, String.toList_map]
    exact List.mem_map.mpr ⟨c, member, toLower_of_beyond beyond⟩
  rw [← same, toLower_of_mem_entities named] at kept
  exact lowercaseChar_of_mem_entities named c kept

/-- A cleaned reference is the lower-case form of the bare one. -/
theorem eq_lowercase_of_cleanReference? {reference : List Char} {name : String}
    (cleaned : cleanReference? reference = some name) :
    name = lowercase (String.ofList (bareReference reference)) := by
  rw [lowercase, String.toList_ofList, ← (cleanReference?_eq_some_iff.mp cleaned).1,
    String.ofList_toList]

end Query

namespace EntityImpact

/-- Without an entity of the name there is no impact. -/
theorem analyze_eq_unknown {graph : Graph} {asked : String} (none : graph.entityKeys asked = []) :
    (analyze asked).on graph = unknown asked := by
  have noRows : graph.entityAccesses asked = [] := by
    simp [Graph.entityAccesses, none, OrderedSet.ofList]
  have noIssues : graph.queryIssues (OrderedSet.ofList []).toList = [] := by
    simp [Graph.queryIssues]
  rw [on_analyze, noRows, none]
  simp only [List.map_nil, noIssues]
  rfl

section Stored

variable {builder : Builder} {draft : Draft} {graph : Graph}
  (holds : graph.Holds draft.nodes draft.relationships) (collected : draft.Collected builder)

include holds collected

/-- Where lower-casing the asked name changes more than ASCII letters, nothing is found. -/
theorem analyze_eq_unknown_of_lowercase_ne {asked : String}
    (differs : Text.lowercase asked ≠ asked.toLower) :
    (analyze asked).on graph = unknown asked := by
  apply analyze_eq_unknown
  rw [List.eq_nil_iff_forall_not_mem]
  intro key member
  obtain ⟨node, found, same⟩ := holds.keyed.mem_entityKeys_iff.mp member
  obtain ⟨_, text, named⟩ := holds.exists_text_of_entity collected found
  exact differs (Query.lowercase_eq_toLower_of_named named (Graph.sameName_iff.mp same))

/-- An entity of an accepted finding is found under every spelling of its name that differs in ASCII
letters only, and the file of the finding is listed. -/
theorem listed_of_toLower_eq (agree : KindsAgree draft.nodes) {sighting : Sighting}
    (includes : draft.Includes (sighting.fragment builder.storeKind)) {name asked : String}
    (named : name ∈ Query.entities sighting.text) (same : name.toLower = asked.toLower) :
    ((analyze asked).on graph).found = true ∧
      sighting.location.filePath ∈ ((analyze asked).on graph).affectedFiles := by
  have mentioned : ∀ mention, mention ∈ (sighting.fragment builder.storeKind).relationships ↔ _ :=
    fun mention => Fragment.mem_relationships_ofLocatedFinding
  obtain ⟨node, found, rfl⟩ := holds.exists_entity_of_includes collected agree includes
    (Fragment.mem_nodes_ofLocatedFinding.mpr
      (Or.inr (Or.inr (Or.inr (Or.inr (Or.inr ⟨name, named, rfl⟩))))))
  obtain ⟨access, isAccess, source, target⟩ := holds.joins_of_includes includes
    ((mentioned _).mpr (Or.inr (Or.inr (Or.inr (Or.inr ⟨node.name, named, rfl⟩)))))
  have way : graph.IsAccess asked
      { sighting.row with operation := access.operation?.getD .read } := by
    constructor
    case contains => exact holds.joins_of_includes includes ((mentioned _).mpr (Or.inl rfl))
    case defines =>
      exact holds.joins_of_includes includes ((mentioned _).mpr (Or.inr (Or.inl rfl)))
    case executes =>
      exact holds.joins_of_includes includes ((mentioned _).mpr (Or.inr (Or.inr (Or.inl rfl))))
    case accesses =>
      refine ⟨node, ⟨access, isAccess, source, rfl, ?_⟩, same⟩
      rw [target]
      exact found
  obtain ⟨isFound, files, _⟩ := analyze_on asked graph
  refine ⟨isFound.mpr ?_, ?_⟩
  · have listed := holds.keyed.mem_entityKeys_iff.mpr ⟨node, found, Graph.sameName_iff.mpr same⟩
    exact List.ne_nil_of_mem listed
  · rw [files, OrderedSet.mem_toList_ofList]
    exact List.mem_map_of_mem (holds.keyed.mem_entityAccesses_iff.mpr way)

end Stored

end EntityImpact

/-! ## After an import -/

/-- After an import into an empty store that has succeeded and has refused no chunk, the graph holds
the whole draft, and its nodes with one key have one kind. -/
theorem Delivery.holds_of_failures {delivery : Delivery}
    (output : delivery.draft.IsOutput delivery.builder) {report : ImportReport}
    {store : MemoryStore}
    (imported : MemoryStore.run delivery.program .empty = (.ok report, store))
    (noConflict : report.failures = []) :
    store.graph.Holds delivery.draft.nodes delivery.draft.relationships ∧
      KindsAgree delivery.draft.nodes := by
  obtain ⟨result, next, ran, outcome⟩ := delivery.run_program .empty
  obtain ⟨rfl, rfl⟩ := Prod.mk.inj (imported.symm.trans ran)
  cases outcome with
  | walked =>
      have accepts := (Graph.failures_eq_nil_iff_accepts delivery.settings.size).mp noConflict
      have held := (Graph.holds_empty.importInput (.ofDraft delivery.draft) accepts.agree
        output.collected.hasEnds delivery.settings.size).1
      exact ⟨held, accepts.agree⟩

namespace EntityImpact

/-- The draft of some reports is imported into an empty store, in chunks or in one transaction, and
there is no conflict.  Then every entity of an accepted finding is found under its name, and the
file of the finding is listed.  Under the bare spelling of the query it is so exactly if
lower-casing the spelling changes nothing but ASCII letters; else nothing is found. -/
theorem listed_under_spelling_iff {builder : Builder} {findings : List Finding}
    {links : List Link} {settings : BatchSettings} {atomic : Bool} {report : ImportReport}
    {store : MemoryStore}
    (imported : MemoryStore.run
      (Delivery.program ⟨builder, .ofReports builder findings links, settings, atomic⟩) .empty =
        (.ok report, store))
    (noConflict : report.failures = []) {sighting : Sighting}
    (sighted : sighting ∈ builder.sightings findings) {reference : List Char}
    (scanned : reference ∈ Query.references sighting.text) {name : String}
    (cleaned : Query.cleanReference? reference = some name) :
    let impact (asked : String) := (analyze asked).on store.graph
    let listed (asked : String) := (impact asked).found = true ∧
      sighting.location.filePath ∈ (impact asked).affectedFiles
    let spelling := String.ofList (Query.bareReference reference)
    listed name ∧ (listed spelling ↔ Text.lowercase spelling = spelling.toLower) ∧
      (¬listed spelling → impact spelling = unknown spelling) := by
  intro impact listed spelling
  have output : (Draft.ofReports builder findings links).IsOutput builder :=
    .ofReports findings links
  have collected := output.collected
  obtain ⟨holds, agree⟩ := Delivery.holds_of_failures output imported noConflict
  have includes := Draft.includes_ofReports links sighted
  have named : name ∈ Query.entities sighting.text :=
    Query.mem_entities_iff.mpr ⟨reference, scanned, cleaned⟩
  have listedIff : listed spelling ↔ Text.lowercase spelling = spelling.toLower := by
    constructor
    · rintro ⟨found, _⟩
      by_contra differs
      have missing : impact spelling = unknown spelling :=
        analyze_eq_unknown_of_lowercase_ne holds collected differs
      rw [missing, unknown] at found
      contradiction
    · intro same
      apply listed_of_toLower_eq holds collected agree includes named
      rw [Query.toLower_of_mem_entities named, Query.eq_lowercase_of_cleanReference? cleaned, same]
  refine ⟨listed_of_toLower_eq holds collected agree includes named rfl, listedIff, ?_⟩
  intro notListed
  exact analyze_eq_unknown_of_lowercase_ne holds collected
    fun same => notListed (listedIff.mpr same)

/-- A query on two tables, one of which has a letter beyond ASCII in its name. -/
def joiningStates : Sighting where
  location := ⟨"UserDao.java", "java", "", "UserDao", "find", "find", 10⟩
  finding :=
    { sourceLocation := "UserDao#find:10", queryText := "SELECT * FROM Users JOIN ÉTATS"
      severity := .low }

/-- The report of the query. -/
def stateReports : Delivery where
  builder := .java
  draft := .ofReports .java [joiningStates.finding] []
  settings := ⟨1, 0⟩
  atomic := false

theorem exists_import_stateReports :
    ∃ report store, MemoryStore.run stateReports.program .empty = (.ok report, store) ∧
      report.failures = [] := by
  have plain : stateReports.IsPlain := by
    constructor
    · simp [stateReports, Builder.java, LocationStrategy.java, LocationStrategy.IsBuiltIn]
    · exact .ofReports _ _
    · decide +kernel
    · decide
  have agree : KindsAgree stateReports.draft.nodes := by
    have all := Delivery.kindsAgree_nodes (List.forall_mem_singleton.mpr plain)
    simpa [Delivery.nodes] using all
  obtain ⟨report, graph, ran, clean, _⟩ := plain.run_program Graph.holds_empty agree
  exact ⟨report, ⟨graph, none⟩, ran, (ImportReport.isClean_iff.mp clean).1⟩

theorem sighted_joiningStates :
    joiningStates ∈ Builder.java.sightings [joiningStates.finding] := by
  decide +kernel

theorem references_joiningStates :
    Query.references joiningStates.text = ["Users".toList, "ÉTATS".toList] := by
  cbv

theorem listed_under_spelling_iff_users :
    ∃ report store,
      MemoryStore.run stateReports.program .empty = (.ok report, store) ∧ report.failures = [] ∧
        joiningStates ∈ Builder.java.sightings [joiningStates.finding] ∧
        "Users".toList ∈ Query.references joiningStates.text ∧
        Query.cleanReference? "Users".toList = some "users" ∧
        ((analyze "Users").on store.graph).found = true ∧
        "UserDao.java" ∈ ((analyze "Users").on store.graph).affectedFiles := by
  obtain ⟨report, store, imported, noConflict⟩ := exists_import_stateReports
  have scanned : "Users".toList ∈ Query.references joiningStates.text := by
    simp [references_joiningStates]
  have cleaned : Query.cleanReference? "Users".toList = some "users" := by
    cbv
  have bare : Query.bareReference "Users".toList = "Users".toList := by
    simp [Query.bareReference, Query.isQuoting, Text.dropEndWhile]
  have settled : Text.lowercase "Users" = "Users".toLower :=
    Text.lowercase_eq_toLower_iff.mpr (by simp)
  obtain ⟨_, listedIff, _⟩ :=
    listed_under_spelling_iff imported noConflict sighted_joiningStates scanned cleaned
  rw [bare, String.ofList_toList] at listedIff
  exact ⟨report, store, imported, noConflict, sighted_joiningStates, scanned, cleaned,
    listedIff.mpr settled⟩

/-- The other table is in use, and not found under the spelling of the query. -/
theorem not_listed_under_spelling_states :
    ∃ report store,
      MemoryStore.run stateReports.program .empty = (.ok report, store) ∧ report.failures = [] ∧
        joiningStates ∈ Builder.java.sightings [joiningStates.finding] ∧
        "ÉTATS".toList ∈ Query.references joiningStates.text ∧
        Query.cleanReference? "ÉTATS".toList = some "états" ∧
        String.ofList (Query.bareReference "ÉTATS".toList) = "ÉTATS" ∧
        ((analyze "ÉTATS").on store.graph).found = false ∧
        ((analyze "ÉTATS").on store.graph).affectedFiles = [] := by
  obtain ⟨report, store, imported, noConflict⟩ := exists_import_stateReports
  have output : stateReports.draft.IsOutput stateReports.builder := .ofReports _ _
  have holds := (Delivery.holds_of_failures output imported noConflict).1
  have differs : Text.lowercase "ÉTATS" ≠ "ÉTATS".toLower := by
    intro same
    have kept := Text.lowercase_eq_toLower_iff.mp same 'É' (by simp) (by decide)
    exact absurd kept (by decide)
  have missing : (analyze "ÉTATS").on store.graph = unknown "ÉTATS" :=
    analyze_eq_unknown_of_lowercase_ne holds output.collected differs
  refine ⟨report, store, imported, noConflict, sighted_joiningStates, ?_, by cbv,
    by cbv, ?_, ?_⟩
  · simp [references_joiningStates]
  · rw [missing, unknown]
  · rw [missing, unknown]

end EntityImpact

end QueryImpact
