import Mathlib
import QueryImpact.Proofs.Analysis.RowOrder
import QueryImpact.Proofs.Graph.Distance

/-!
# What an impact of a file lists

The search for affected files goes by layers: before each step it has visited all files up to some
distance from the changed file, and its frontier is made of the files at that distance.  So an
impact lists the files up to the depth limit, each with its distance, and counts what these files
contain.
-/

namespace QueryImpact

/-- One analysis after another on a stored graph. -/
theorem Analysis.on_bind {α β : Type} (analysis : Analysis α) (next : α → Analysis β)
    (graph : Graph) :
    Analysis.on (analysis >>= next) graph = (next (analysis.on graph)).on graph := by
  induction analysis with
  | done value => rfl
  | call question rest ih => exact ih (graph.answer question)

namespace Graph

/-- The nodes to which stored relationships of a type lead from some nodes. -/
def targets (graph : Graph) (type : RelationshipType) (sources : Set String) : Set String :=
  {target | ∃ relationship ∈ graph.relationships.values,
    relationship.type = type ∧ relationship.source ∈ sources ∧ relationship.target = target}

theorem contains_step (graph : Graph) (keys : OrderedSet String) (type : RelationshipType) :
    {target | (graph.step keys type).contains target = true} =
      graph.targets type {source | keys.contains source = true} := by
  ext target
  simp [step, edges, targets, and_assoc, and_left_comm]

/-- The member counts of files are the numbers of their classes and of the methods of these. -/
theorem memberCounts_eq (graph : Graph) (files : List String) :
    let classes := graph.targets .contains {file | file ∈ files}
    graph.memberCounts files = ⟨classes.ncard, (graph.targets .defines classes).ncard⟩ := by
  simp only [memberCounts, OrderedSet.size_eq_ncard, contains_step, OrderedSet.contains_ofList]

/-- How an impact follows dependencies. -/
def Follows (graph : Graph) : ImpactDirection → String → String → Prop
  | .dependents, source, target => graph.DependsOn target source
  | .dependencies, source, target => graph.DependsOn source target

theorem mem_neighbors_iff_follows {graph : Graph} {direction : ImpactDirection}
    {files : List String} {source target : String} :
    (source, target) ∈ graph.neighbors files direction.edgeDirection ↔
      source ∈ files ∧ graph.Follows direction source target := by
  cases direction with
  | dependents => exact mem_neighbors_incoming_iff
  | dependencies => exact mem_neighbors_outgoing_iff

end Graph

namespace FileImpact

/-! ## The search by layers -/

variable {graph : Graph} {direction : ImpactDirection} {start : String} {depth : Nat}
  {visited frontier : List String}

/-- The files that a step adds. -/
theorem mem_next_iff (direction : ImpactDirection) (visited frontier : List String)
    (file : String) :
    file ∈ newFiles visited ((graph.neighbors frontier direction.edgeDirection).map Prod.snd) ↔
      (∃ source ∈ frontier, graph.Follows direction source file) ∧ file ∉ visited := by
  simp only [mem_newFiles_iff, List.mem_map, Prod.exists, exists_eq_right,
    Graph.mem_neighbors_iff_follows]

theorem layered_next
    (layered : Layered (graph.Follows direction) start depth {file | file ∈ visited}
      {file | file ∈ frontier}) :
    let next := newFiles visited
      ((graph.neighbors frontier direction.edgeDirection).map Prod.snd)
    Layered (graph.Follows direction) start (depth + 1) {file | file ∈ next ++ visited}
      {file | file ∈ sortTexts next} := by
  intro next
  apply layered.step
  · intro file
    exact List.mem_mergeSort.trans (mem_next_iff direction visited frontier file)
  · intro file
    exact List.mem_append.trans (or_congr_left List.mem_mergeSort.symm)

theorem on_spread_succ (direction : EdgeDirection) (steps : Nat) (nonempty : frontier ≠ []) :
    let next := newFiles visited ((graph.neighbors frontier direction).map Prod.snd)
    (spread direction (steps + 1) depth visited frontier).on graph =
      next.map (⟨·, depth⟩) ++
        (spread direction steps (depth + 1) (next ++ visited) (sortTexts next)).on graph := by
  intro next
  rw [spread, if_neg nonempty]
  exact Analysis.on_bind (spread direction steps (depth + 1) (next ++ visited) (sortTexts next))
    (fun further => pure (next.map (⟨·, depth⟩) ++ further)) graph

/-- The search reaches each file within its steps once, with its distance. -/
theorem on_spread (steps : Nat)
    (layered : Layered (graph.Follows direction) start depth {file | file ∈ visited}
      {file | file ∈ frontier}) :
    let reached := (spread direction.edgeDirection steps (depth + 1) visited frontier).on graph
    (∀ file, file ∈ reached ↔
      IsDistance (graph.Follows direction) start file.path file.depth ∧
        depth < file.depth ∧ file.depth ≤ depth + steps) ∧
      (reached.map AffectedFile.path).Nodup := by
  induction steps generalizing depth visited frontier with
  | zero =>
      refine ⟨?_, List.nodup_nil⟩
      intro file
      apply iff_of_false List.not_mem_nil
      rintro ⟨-, beyond, within⟩
      exact absurd (beyond.trans_le within) (lt_irrefl depth)
  | succ steps ih =>
      by_cases empty : frontier = []
      · subst empty
        refine ⟨?_, List.nodup_nil⟩
        intro file
        apply iff_of_false List.not_mem_nil
        rintro ⟨distance, beyond, -⟩
        exact lt_asymm beyond (layered.lt_of_empty (fun _ => List.not_mem_nil) distance)
      · obtain ⟨isFurther, nodupFurther⟩ := ih (layered_next layered)
        rw [on_spread_succ direction.edgeDirection steps empty]
        have isNext (file : String) :=
          (mem_next_iff direction visited frontier file).trans layered.next_iff
        constructor
        · intro file
          rw [List.mem_append, List.mem_map, isFurther]
          constructor
          · rintro (⟨path, isNew, rfl⟩ | ⟨distance, beyond, within⟩)
            · refine ⟨(isNext path).mp isNew, Nat.lt_succ_self depth, ?_⟩
              exact Nat.add_le_add_left (Nat.le_add_left 1 steps) depth
            · exact ⟨distance, by omega, by omega⟩
          · rintro ⟨distance, beyond, within⟩
            rcases Nat.eq_or_lt_of_le (Nat.succ_le_of_lt beyond) with atNext | later
            · rw [← atNext] at distance
              refine Or.inl ⟨file.path, (isNext file.path).mpr distance, ?_⟩
              rw [← Nat.succ_eq_add_one, atNext]
            · exact Or.inr ⟨distance, later, by omega⟩
        · rw [List.map_append, List.map_map, List.nodup_append']
          refine ⟨?_, nodupFurther, ?_⟩
          · have samePath : (AffectedFile.path ∘ fun path => ⟨path, depth + 1⟩) = id := rfl
            rw [samePath, List.map_id]
            exact nodup_newFiles _ _
          · intro path isNew isLater
            rw [List.mem_map] at isNew isLater
            obtain ⟨_, isNew, rfl⟩ := isNew
            obtain ⟨file, isReached, rfl⟩ := isLater
            obtain ⟨distance, beyond, -⟩ := (isFurther file).mp isReached
            exact absurd (((isNext _).mp isNew).unique distance) beyond.ne

/-! ## The impact -/

theorem perm_sortFiles {files : List AffectedFile} : (sortFiles files).Perm files :=
  List.mergeSort_perm _ _

/-- Files with different paths are sorted by depth, then path. -/
theorem pairwise_sortFiles {files : List AffectedFile}
    (nodup : (files.map AffectedFile.path).Nodup) :
    (sortFiles files).Pairwise fun first second =>
      first.depth < second.depth ∨ first.depth = second.depth ∧ first.path < second.path := by
  have sorted := pairwise_mergeSort_isLE
    (compareLex (compareOn AffectedFile.depth) (compareOn AffectedFile.path)) files
  have apart : (sortFiles files).Pairwise fun first second => first.path ≠ second.path :=
    List.pairwise_map.mp ((perm_sortFiles.map AffectedFile.path).nodup_iff.mpr nodup)
  apply (sorted.and apart).imp
  rintro first second ⟨below, differ⟩
  rw [compareLex, Ordering.isLE_then_iff_or] at below
  rcases below with nearer | ⟨sameDepth, notAbove⟩
  · exact Or.inl (compare_lt_iff_lt.mp nearer)
  · refine Or.inr ⟨compare_eq_iff_eq.mp sameDepth, lt_of_le_of_ne ?_ differ⟩
    exact compare_le_iff_le.mp (Ordering.isLE_iff_ne_gt.mp notAbove)

/-- What an impact says of a change, on a stored graph. -/
structure Reports (graph : Graph) (path : String) (options : FileImpactOptions)
    (impact : FileImpact) : Prop where
  /-- It is about the changed file. -/
  filePath_eq : impact.filePath = path
  /-- It follows the chosen direction. -/
  direction_eq : impact.direction = options.direction
  /-- It lists the files up to the depth limit with their distances. -/
  mem_affectedFiles_iff : ∀ file depth, ⟨file, depth⟩ ∈ impact.affectedFiles ↔
    file ≠ path ∧ IsDistance (graph.Follows options.direction) path file depth ∧
      1 ≤ depth ∧ depth ≤ if options.recursive then options.maxDepth else min options.maxDepth 1
  /-- It lists each file once. -/
  nodup : (impact.affectedFiles.map AffectedFile.path).Nodup
  /-- The files are in order of their distances, then paths. -/
  sorted : impact.affectedFiles.Pairwise fun first second =>
    first.depth < second.depth ∨ first.depth = second.depth ∧ first.path < second.path
  /-- It counts the classes in the files. -/
  classes_eq : impact.affectedClasses =
    (graph.targets .contains {file | file ∈ impact.affectedFiles.map AffectedFile.path}).ncard
  /-- It counts the methods of these classes. -/
  methods_eq : impact.affectedMethods =
    (graph.targets .defines
      (graph.targets .contains {file | file ∈ impact.affectedFiles.map AffectedFile.path})).ncard
  /-- The number of files decides the band of the risk. -/
  level_eq : impact.risk.level = .ofFiles impact.affectedFiles.length
  /-- The bands begin with one, five, twenty and fifty files. -/
  bands :
    (impact.risk.level = .minimal ↔ impact.affectedFiles.length = 0) ∧
      (impact.risk.level = .low ↔
        1 ≤ impact.affectedFiles.length ∧ impact.affectedFiles.length < 5) ∧
      (impact.risk.level = .medium ↔
        5 ≤ impact.affectedFiles.length ∧ impact.affectedFiles.length < 20) ∧
      (impact.risk.level = .high ↔
        20 ≤ impact.affectedFiles.length ∧ impact.affectedFiles.length < 50) ∧
      (impact.risk.level = .critical ↔ 50 ≤ impact.affectedFiles.length)

theorem on_analyze_of_unknown {graph : Graph} {path : String} (options : FileImpactOptions)
    (isUnknown : graph.isFile path = false) :
    (analyze path options).on graph = unknown path options.direction := by
  change Analysis.on (if !graph.isFile path then _ else _) graph = _
  rw [isUnknown]
  rfl

theorem on_analyze_of_known {graph : Graph} {path : String} (options : FileImpactOptions)
    (isKnown : graph.isFile path = true) :
    let affected := sortFiles
      ((spread options.direction.edgeDirection options.depthLimit 1 [path] [path]).on graph)
    let members := graph.memberCounts (affected.map AffectedFile.path)
    (analyze path options).on graph =
      ⟨path, true, options.direction, affected, members.classes, members.methods,
        .assess affected.length members.classes members.methods⟩ := by
  change Analysis.on (if !graph.isFile path then _ else _) graph = _
  rw [isKnown]
  exact Analysis.on_bind
    (spread options.direction.edgeDirection options.depthLimit 1 [path] [path]) _ graph

/-- The impact of a stored file. -/
theorem reports_of_known {graph : Graph} {path : String} (options : FileImpactOptions)
    (isKnown : graph.isFile path = true) :
    Reports graph path options ((analyze path options).on graph) := by
  have layered : Layered (graph.Follows options.direction) path 0 {file | file ∈ [path]}
      {file | file ∈ [path]} :=
    .initial (fun _ => List.mem_singleton) fun _ => List.mem_singleton
  obtain ⟨isReached, nodup⟩ := on_spread options.depthLimit layered
  rw [on_analyze_of_known options isKnown]
  constructor
  case filePath_eq => rfl
  case direction_eq => rfl
  case mem_affectedFiles_iff =>
    intro file depth
    rw [perm_sortFiles.mem_iff, isReached, Nat.zero_add]
    constructor
    · rintro ⟨distance, positive, within⟩
      refine ⟨?_, distance, positive, within⟩
      rintro rfl
      exact positive.ne ((IsDistance.zero_iff.mpr rfl).unique distance)
    · rintro ⟨-, distance, positive, within⟩
      exact ⟨distance, positive, within⟩
  case nodup => exact (perm_sortFiles.map AffectedFile.path).nodup_iff.mpr nodup
  case sorted => exact pairwise_sortFiles nodup
  case classes_eq => rw [Graph.memberCounts_eq]
  case methods_eq => rw [Graph.memberCounts_eq]
  case level_eq => rfl
  case bands => exact RiskLevel.ofFiles_bands _

/-- An impact is found exactly for a stored file.  It then lists the files within the depth limit
and counts what they contain; otherwise it is empty. -/
theorem reports_analyze (graph : Graph) (path : String) (options : FileImpactOptions) :
    (((analyze path options).on graph).found = false ↔
        ∀ node, graph.nodes.find? path ≠ some (.file node)) ∧
      (((analyze path options).on graph).found = false →
        (analyze path options).on graph =
          ⟨path, false, options.direction, [], 0, 0, ⟨.minimal, 0.0⟩⟩) ∧
      (((analyze path options).on graph).found = true →
        Reports graph path options ((analyze path options).on graph)) := by
  have isFile_eq_false_iff : graph.isFile path = false ↔
      ∀ node, graph.nodes.find? path ≠ some (.file node) := by
    rw [← Bool.not_eq_true, Graph.isFile_iff, not_exists]
  rw [← isFile_eq_false_iff]
  cases isKnown : graph.isFile path with
  | false =>
      rw [on_analyze_of_unknown options isKnown]
      refine ⟨iff_of_true rfl rfl, fun _ => rfl, ?_⟩
      intro isFound
      contradiction
  | true =>
      have reports := reports_of_known options isKnown
      rw [on_analyze_of_known options isKnown] at reports ⊢
      exact ⟨by simp, by simp, fun _ => reports⟩

/-- Three files, each of which depends on the next, the last on the first. -/
def ringGraph : Graph :=
  .ofDependencies ["A.java", "B.java", "C.java"]
    [("A.java", "B.java"), ("B.java", "C.java"), ("C.java", "A.java")]

/-- In a ring, the direct dependent of a file is affected at depth one, and the file itself is not,
though its own change comes back to it.  One affected file is a low risk. -/
theorem reports_analyze_ring :
    let impact := (analyze "A.java" ⟨5, false, .dependents⟩).on ringGraph
    impact.found = true ∧ ⟨"C.java", 1⟩ ∈ impact.affectedFiles ∧
      (∀ depth, ⟨"A.java", depth⟩ ∉ impact.affectedFiles) ∧ impact.risk.level = .low := by
  intro impact
  obtain ⟨isUnknown, -, reports⟩ := reports_analyze ringGraph "A.java" ⟨5, false, .dependents⟩
  have isFound : impact.found = true := by
    rw [← Bool.not_eq_false, isUnknown]
    intro noFile
    exact noFile (.ofPath "A.java" "java" true) (by decide +kernel)
  have isReported := (reports isFound).mem_affectedFiles_iff
  have leads : ringGraph.DependsOn "C.java" "A.java" :=
    ⟨.plain "C.java" "A.java" .dependsOn, by decide +kernel, rfl, rfl, rfl⟩
  have isOne : impact.affectedFiles.length = 1 := by decide +kernel
  refine ⟨isFound, ?_, ?_, ?_⟩
  · rw [isReported]
    refine ⟨by decide, ⟨Hops.none.step leads, ?_⟩, by decide, by decide⟩
    intro other hops
    rw [Nat.succ_le_iff, Nat.pos_iff_ne_zero]
    rintro rfl
    exact absurd (Hops.zero_iff.mp hops) (by decide)
  · intro depth
    rw [isReported]
    exact fun listed => listed.1 rfl
  · obtain ⟨-, isLow, -⟩ := (reports isFound).bands
    exact isLow.mpr (by rw [isOne]; decide)

end FileImpact

end QueryImpact
