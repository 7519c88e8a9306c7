import Mathlib
import QueryImpact.Analysis.DependencyCycle
import QueryImpact.Proofs.Circuit.Search

/-!
# The reported cycles are the elementary cycles

Searching from each source of an edge in turn gives the elementary cycles in increasing order,
each from its smallest member on.  None of them is a rotation of another, so none is left out as a
repetition, and every elementary cycle has exactly one rotation among them.
-/

namespace QueryImpact

/-- A closed chain of edges that meets no node twice. -/
def IsElementaryCycle (edge : String → String → Prop) : List String → Prop
  | [] => False
  | first :: rest => (first :: rest).Nodup ∧ List.IsChain edge (first :: (rest ++ [first]))

/-- Whether no member of a cycle is smaller than the one it is listed from. -/
def StartsSmallest : List String → Prop
  | [] => True
  | first :: rest => ∀ file ∈ rest, first ≤ file

/-! ## Rotations -/

theorem IsElementaryCycle.nodup {edge : String → String → Prop} {files : List String}
    (elementary : IsElementaryCycle edge files) : files.Nodup := by
  cases files with
  | nil => exact List.nodup_nil
  | cons first rest => exact elementary.1

/-- A cycle is elementary from whichever member it is listed. -/
theorem IsElementaryCycle.rotate {edge : String → String → Prop} {files other : List String}
    (elementary : IsElementaryCycle edge files) (rotated : files.IsRotated other) :
    IsElementaryCycle edge other := by
  cases files with
  | nil => exact elementary.elim
  | cons first rest =>
      obtain ⟨nodup, chain⟩ := elementary
      cases other with
      | nil => exact absurd (List.isRotated_nil_iff.mp rotated) (List.cons_ne_nil _ _)
      | cons otherFirst otherRest =>
          refine ⟨rotated.nodup_iff.mp nodup, ?_⟩
          have same : ((first :: rest : List String) : Cycle String) = (otherFirst :: otherRest) :=
            Cycle.coe_eq_coe.mpr rotated
          rw [← Cycle.chain_coe_cons, ← same, Cycle.chain_coe_cons]
          exact chain

/-- Some rotation of a nonempty list starts at its smallest member. -/
theorem exists_isRotated_startsSmallest {files : List String} (nonempty : files ≠ []) :
    ∃ other : List String, other.IsRotated files ∧ StartsSmallest other := by
  obtain ⟨least, member, below⟩ := files.toFinset.exists_min_image id
    (List.toFinset_nonempty_iff files |>.mpr nonempty)
  obtain ⟨before, after, rfl⟩ := List.append_of_mem (List.mem_toFinset.mp member)
  have rotated : (least :: after ++ before).IsRotated (before ++ least :: after) :=
    List.isRotated_append
  refine ⟨least :: (after ++ before), rotated, ?_⟩
  intro file fileMember
  apply below file
  rw [List.mem_toFinset, ← rotated.mem_iff]
  exact List.mem_cons_of_mem _ fileMember

/-- A list without repetitions has no other rotation with the same first member. -/
theorem eq_of_isRotated_cons {first : String} {rest otherRest : List String}
    (nodup : (first :: rest).Nodup)
    (rotated : (first :: rest).IsRotated (first :: otherRest)) : rest = otherRest := by
  obtain ⟨count, equal⟩ := rotated
  have positive : 0 < (first :: rest).length := Nat.succ_pos _
  have heads : (first :: rest)[count % (first :: rest).length]? = (first :: rest)[0]? := by
    have atZero := congrArg (fun files => files[0]?) equal
    rwa [List.getElem?_rotate positive, Nat.zero_add] at atZero
  have noShift : 0 = count % (first :: rest).length :=
    (List.getElem?_inj positive nodup).mp heads.symm
  rw [← List.rotate_mod, ← noShift, List.rotate_zero] at equal
  exact (List.cons.inj equal).2

/-! ## The circuits of all starts -/

namespace Adjacency

/-- The circuits from a start are the elementary cycles whose smallest member it is. -/
theorem mem_circuitsThrough_start_iff {adjacency : Adjacency} {start : String}
    {files : List String} :
    files ∈ adjacency.circuitsThrough start adjacency.nodes.size [] start ↔
      files.head? = some start ∧ IsElementaryCycle adjacency.HasEdge files ∧
        StartsSmallest files := by
  rw [mem_circuitsThrough_iff]
  constructor
  · rintro ⟨rest, wayBack, _, rfl⟩
    obtain ⟨chain, nodup, fresh⟩ := wayBack_iff.mp wayBack
    refine ⟨rfl, ⟨List.nodup_cons.mpr ⟨fun member => ?_, nodup⟩, chain⟩, fun file member => ?_⟩
    · exact lt_irrefl start (fresh start member).1
    · exact le_of_lt (fresh file member).1
  · rintro ⟨head, elementary, smallest⟩
    cases files with
    | nil => exact elementary.elim
    | cons first rest =>
        have same : first = start := Option.some.inj head
        subst same
        obtain ⟨nodup, chain⟩ := elementary
        obtain ⟨notLater, nodupRest⟩ := List.nodup_cons.mp nodup
        have apart : ∀ file ∈ rest, file ≠ first := by
          rintro file member rfl
          exact notLater member
        refine ⟨rest, wayBack_iff.mpr ⟨chain, nodupRest, fun file member => ⟨?_, ?_⟩⟩, ?_, rfl⟩
        · exact lt_of_le_of_ne (smallest file member) (Ne.symm (apart file member))
        · simpa using apart file member
        · have entered : ∀ file ∈ rest ++ [first], file ∈ adjacency.nodes.toList := by
            intro file member
            obtain ⟨source, edge⟩ := exists_hasEdge_of_mem chain member
            exact mem_nodes_of_hasEdge edge
          apply length_le_size_nodes nodup
          intro file member
          exact entered file (by simpa [or_comm] using member)

/-- The circuits of all starts, in the order of the starts. -/
def circuits (adjacency : Adjacency) : List (List String) :=
  adjacency.keys.flatMap (CircuitSearch.circuitsFrom adjacency)

theorem circuitsFrom_of_mem_keys {adjacency : Adjacency} {start : String}
    (member : start ∈ adjacency.keys) :
    CircuitSearch.circuitsFrom adjacency start =
      adjacency.circuitsThrough start adjacency.nodes.size [] start :=
  CircuitSearch.circuitsFrom_eq (mem_nodes_of_mem_keys member)

theorem mem_circuits_iff {adjacency : Adjacency} {files : List String} :
    files ∈ adjacency.circuits ↔
      IsElementaryCycle adjacency.HasEdge files ∧ StartsSmallest files := by
  rw [circuits, List.mem_flatMap]
  constructor
  · rintro ⟨start, member, found⟩
    rw [circuitsFrom_of_mem_keys member] at found
    exact (mem_circuitsThrough_start_iff.mp found).2
  · rintro ⟨elementary, smallest⟩
    cases files with
    | nil => exact elementary.elim
    | cons first rest =>
        have leaves : first ∈ adjacency.keys := by
          obtain ⟨next, later, equal⟩ : ∃ next later, rest ++ [first] = next :: later :=
            List.exists_cons_of_ne_nil (by simp)
          have chain := elementary.2
          rw [equal] at chain
          exact mem_keys_of_hasEdge (List.isChain_cons_cons.mp chain).1
        refine ⟨first, leaves, ?_⟩
        rw [circuitsFrom_of_mem_keys leaves]
        exact mem_circuitsThrough_start_iff.mpr ⟨rfl, elementary, smallest⟩

/-- The circuits come in increasing order. -/
theorem sorted_circuits (adjacency : Adjacency) : adjacency.circuits.Pairwise (· < ·) := by
  rw [circuits, List.pairwise_flatMap]
  constructor
  · intro start member
    rw [circuitsFrom_of_mem_keys member]
    exact adjacency.sorted_circuitsThrough start _ _ _
  · apply adjacency.pairwise_keys.imp_of_mem
    intro first second firstMember secondMember below files found later laterFound
    rw [circuitsFrom_of_mem_keys firstMember] at found
    rw [circuitsFrom_of_mem_keys secondMember] at laterFound
    obtain ⟨rest, _, _, rfl⟩ := mem_circuitsThrough_iff.mp found
    obtain ⟨laterRest, _, _, rfl⟩ := mem_circuitsThrough_iff.mp laterFound
    exact List.cons_lt_cons_iff.mpr (Or.inl (compare_lt_iff_lt.mp below))

end Adjacency

namespace DependencyCycle

/-! ## The collected cycles -/

theorem smallest_eq_first {first : String} {rest : List String}
    (below : ∀ file ∈ rest, first ≤ file) : smallest first rest = first := by
  induction rest with
  | nil => rfl
  | cons file later ih =>
      have notBelow : compare file first ≠ .lt := by
        rw [ne_eq, compare_lt_iff_lt, not_lt]
        exact below file List.mem_cons_self
      rw [smallest, List.foldl_cons, if_neg notBelow]
      exact ih fun other member => below other (List.mem_cons_of_mem _ member)

/-- A cycle listed from its smallest member on is listed so already. -/
theorem canonical_eq_files {files : List String} (startsSmallest : StartsSmallest files) :
    canonical ⟨files⟩ = files := by
  cases files with
  | nil => rfl
  | cons first rest =>
      simp [canonical, smallest_eq_first startsSmallest, List.findIdx_cons]

/-- Cycles listed from their smallest members on are all kept, when none is given twice. -/
theorem toList_cycles_foldl_add {circuits before : List (List String)} {collection : Collection}
    (nodup : (before ++ circuits).Nodup) (smallest : ∀ files ∈ circuits, StartsSmallest files)
    (seen : ∀ files, collection.seen.contains files = true ↔ files ∈ before) :
    (circuits.foldl Collection.add collection).cycles.toList =
      collection.cycles.toList ++ circuits.map DependencyCycle.mk := by
  induction circuits generalizing collection before with
  | nil => simp
  | cons files rest ih =>
      have canonical := canonical_eq_files (smallest files List.mem_cons_self)
      have unseen : collection.seen.contains files = false := by
        rw [Bool.eq_false_iff, ne_eq, seen]
        intro member
        exact (List.nodup_append.mp nodup).2.2 files member files List.mem_cons_self rfl
      have kept : collection.add files =
          ⟨collection.cycles.push ⟨files⟩, collection.seen.insert files⟩ := by
        simp [Collection.add, canonical, unseen]
      have nodupAfter : (before ++ [files] ++ rest).Nodup := by
        rwa [List.append_assoc, List.singleton_append]
      rw [List.foldl_cons, kept, ih nodupAfter]
      · simp
      · exact fun other member => smallest other (List.mem_cons_of_mem _ member)
      · intro other
        rw [Std.HashSet.contains_insert, Bool.or_eq_true, seen, beq_iff_eq, List.mem_append,
          List.mem_singleton, or_comm, eq_comm]

theorem elementary_eq (adjacency : Adjacency) :
    elementary adjacency = adjacency.circuits.map DependencyCycle.mk := by
  have nodup : ([] ++ adjacency.circuits).Nodup :=
    adjacency.sorted_circuits.imp fun below => ne_of_lt below
  apply toList_cycles_foldl_add nodup
  · intro files member
    exact (Adjacency.mem_circuits_iff.mp member).2
  · intro files
    simp [Collection.empty]

theorem mem_elementary_iff {adjacency : Adjacency} {cycle : DependencyCycle} :
    cycle ∈ elementary adjacency ↔
      IsElementaryCycle adjacency.HasEdge cycle.files ∧ StartsSmallest cycle.files := by
  rw [elementary_eq, List.mem_map]
  constructor
  · rintro ⟨files, member, rfl⟩
    exact Adjacency.mem_circuits_iff.mp member
  · intro cyclic
    exact ⟨cycle.files, Adjacency.mem_circuits_iff.mpr cyclic, rfl⟩

theorem nodup_elementary (adjacency : Adjacency) : (elementary adjacency).Nodup := by
  rw [elementary_eq]
  apply List.Nodup.map
  · intro files other same
    exact DependencyCycle.mk.inj same
  · exact adjacency.sorted_circuits.imp fun below => ne_of_lt below

/-- Graphs with the same edges have the same cycles, in the same order. -/
theorem elementary_eq_of_hasEdge {first second : Adjacency}
    (same : first.HasEdge = second.HasEdge) : elementary first = elementary second := by
  have members : ∀ files, files ∈ first.circuits ↔ files ∈ second.circuits := by
    intro files
    rw [Adjacency.mem_circuits_iff, Adjacency.mem_circuits_iff, same]
  have nodup (adjacency : Adjacency) : adjacency.circuits.Nodup :=
    adjacency.sorted_circuits.imp ne_of_lt
  have circuits : first.circuits = second.circuits := by
    apply List.Perm.eq_of_pairwise _ first.sorted_circuits second.sorted_circuits
      ((List.perm_ext_iff_of_nodup (nodup first) (nodup second)).mpr members)
    intro one other _ _ below above
    exact absurd below above.asymm
  rw [elementary_eq, elementary_eq, circuits]

/-! ## Exactness -/

/-- A list of cycles tells all about the elementary cycles of some edges, and nothing twice. -/
structure ReportsCycles (edge : String → String → Prop) (cycles : List DependencyCycle) :
    Prop where
  /-- What is reported is an elementary cycle, listed from its smallest member on. -/
  sound : ∀ cycle ∈ cycles, IsElementaryCycle edge cycle.files ∧ StartsSmallest cycle.files
  /-- Of every elementary cycle exactly one rotation is reported. -/
  complete : ∀ files, IsElementaryCycle edge files →
    ∃! cycle, cycle ∈ cycles ∧ cycle.files.IsRotated files
  /-- It is reported once. -/
  nodup : cycles.Nodup
  /-- The length of a reported cycle is the number of its members. -/
  length_eq : ∀ cycle ∈ cycles, cycle.length = cycle.files.toFinset.card

/-- The smallest members of two rotations of a list are the same, and so are the rotations. -/
theorem eq_of_isRotated {edge : String → String → Prop} {files other : List String}
    (elementary : IsElementaryCycle edge files) (smallest : StartsSmallest files)
    (otherSmallest : StartsSmallest other) (rotated : files.IsRotated other) :
    files = other := by
  cases files with
  | nil => exact elementary.elim
  | cons first rest =>
      cases other with
      | nil => exact absurd (List.isRotated_nil_iff.mp rotated) (List.cons_ne_nil _ _)
      | cons otherFirst otherRest =>
          have below : first ≤ otherFirst := by
            rcases List.mem_cons.mp (rotated.mem_iff.mpr List.mem_cons_self) with same | later
            · exact le_of_eq same.symm
            · exact smallest otherFirst later
          have above : otherFirst ≤ first := by
            rcases List.mem_cons.mp (rotated.mem_iff.mp List.mem_cons_self) with same | later
            · exact le_of_eq same.symm
            · exact otherSmallest first later
          have same := le_antisymm below above
          subst same
          rw [eq_of_isRotated_cons elementary.nodup rotated]

theorem reportsCycles_elementary (adjacency : Adjacency) :
    ReportsCycles adjacency.HasEdge (elementary adjacency) where
  sound _ member := mem_elementary_iff.mp member
  complete files cyclic := by
    have nonempty : files ≠ [] := by
      rintro rfl
      exact cyclic
    obtain ⟨other, rotated, smallest⟩ := exists_isRotated_startsSmallest nonempty
    have otherCyclic := cyclic.rotate rotated.symm
    refine ⟨⟨other⟩, ⟨mem_elementary_iff.mpr ⟨otherCyclic, smallest⟩, rotated⟩, ?_⟩
    rintro cycle ⟨member, cycleRotated⟩
    obtain ⟨cycleCyclic, cycleSmallest⟩ := mem_elementary_iff.mp member
    have same := eq_of_isRotated cycleCyclic cycleSmallest smallest
      (cycleRotated.trans rotated.symm)
    cases cycle
    exact congrArg DependencyCycle.mk same
  nodup := nodup_elementary adjacency
  length_eq cycle member :=
    (List.toFinset_card_of_nodup (mem_elementary_iff.mp member).1.nodup).symm

end DependencyCycle

/-- Whether a stored relationship says that a file depends on another. -/
def Graph.DependsOn (graph : Graph) (source target : String) : Prop :=
  ∃ relationship ∈ graph.relationships.values,
    relationship.type = .dependsOn ∧ relationship.source = source ∧ relationship.target = target

theorem Graph.hasEdge_dependencyEdges {graph : Graph} {source target : String} :
    (Adjacency.ofEdges graph.dependencyEdges).HasEdge source target ↔
      graph.DependsOn source target := by
  rw [Adjacency.hasEdge_ofEdges]
  simp [Graph.dependencyEdges, Graph.edges, Graph.DependsOn, and_assoc]

namespace DependencyCycle

/-- The search reports exactly the elementary cycles of every graph, and on a stored graph those
of its dependencies. -/
theorem reports_elementary_cycles :
    (∀ adjacency : Adjacency, ReportsCycles adjacency.HasEdge (elementary adjacency)) ∧
      ∀ graph : Graph, ReportsCycles graph.DependsOn (find.on graph) := by
  refine ⟨reportsCycles_elementary, fun graph => ?_⟩
  have sameEdges : (Adjacency.ofEdges graph.dependencyEdges).HasEdge = graph.DependsOn := by
    funext source target
    exact propext Graph.hasEdge_dependencyEdges
  rw [← sameEdges]
  exact reportsCycles_elementary (.ofEdges graph.dependencyEdges)

/-! ## Order -/

theorem contains_seen_add {collection : Collection} {files key : List String} :
    (collection.add files).seen.contains key = true ↔
      collection.seen.contains key = true ∨ canonical ⟨files⟩ = key := by
  rw [Collection.add]
  split
  · rename_i seen
    constructor
    · exact Or.inl
    · rintro (before | rfl)
      · exact before
      · exact seen
  · simp [or_comm]

/-- Seen are the cycles that were looked at, from their smallest members on. -/
theorem contains_seen_foldl_add {circuits : List (List String)} {collection : Collection}
    {key : List String} :
    (circuits.foldl Collection.add collection).seen.contains key = true ↔
      collection.seen.contains key = true ∨ ∃ files ∈ circuits, canonical ⟨files⟩ = key := by
  induction circuits generalizing collection with
  | nil => simp
  | cons files rest ih =>
      rw [List.foldl_cons, ih, contains_seen_add, or_assoc]
      simp

/-- A circuit that the search finds has not been seen before. -/
theorem not_seen_of_circuits_eq {adjacency : Adjacency} {before after : List (List String)}
    {files : List String} (found : adjacency.circuits = before ++ files :: after) :
    (before.foldl Collection.add .empty).seen.contains (canonical ⟨files⟩) = false := by
  have unrotated : ∀ other ∈ before ++ files :: after, canonical ⟨other⟩ = other := by
    intro other member
    rw [← found] at member
    exact canonical_eq_files (Adjacency.mem_circuits_iff.mp member).2
  have sorted := adjacency.sorted_circuits
  rw [found, List.pairwise_append] at sorted
  rw [Bool.eq_false_iff, ne_eq, contains_seen_foldl_add]
  rintro (initially | ⟨earlier, member, same⟩)
  · simp [Collection.empty] at initially
  · rw [unrotated earlier (by simp [member]), unrotated files (by simp)] at same
    have below := sorted.2.2 earlier member files List.mem_cons_self
    exact absurd same (ne_of_lt below)

/-- The cycles are reported in increasing order of their file lists, so that the edges alone
determine the report; none is a rotation of another, and none that the search finds is dropped. -/
theorem elementary_ascends (adjacency : Adjacency) :
    (elementary adjacency).Pairwise
        (fun cycle later => List.Lex (· < ·) cycle.files later.files) ∧
      (∀ other : Adjacency, other.HasEdge = adjacency.HasEdge →
        elementary other = elementary adjacency) ∧
      (elementary adjacency).Pairwise
        (fun cycle later => ¬cycle.files.IsRotated later.files) ∧
      (elementary adjacency).map files =
        adjacency.keys.flatMap (CircuitSearch.circuitsFrom adjacency) ∧
      ∀ before candidate after,
        adjacency.keys.flatMap (CircuitSearch.circuitsFrom adjacency) =
            before ++ candidate :: after →
          (before.foldl Collection.add .empty).seen.contains (canonical ⟨candidate⟩) = false := by
  refine ⟨?_, fun other same => elementary_eq_of_hasEdge same, ?_, ?_, ?_⟩
  · rw [elementary_eq, List.pairwise_map]
    exact adjacency.sorted_circuits
  · rw [elementary_eq, List.pairwise_map]
    apply adjacency.sorted_circuits.imp_of_mem
    intro files later member laterMember below rotated
    obtain ⟨cyclic, smallest⟩ := Adjacency.mem_circuits_iff.mp member
    have laterSmallest := (Adjacency.mem_circuits_iff.mp laterMember).2
    exact ne_of_lt below (eq_of_isRotated cyclic smallest laterSmallest rotated)
  · rw [elementary_eq, List.map_map]
    exact List.map_id _
  · intro before candidate after found
    exact not_seen_of_circuits_eq found

/-- A loop, and two cycles that share an edge. -/
def entangled : Adjacency :=
  .ofEdges [("C", "D"), ("A", "A"), ("D", "B"), ("B", "C"), ("C", "B")]

/-- The same edges, and a source that none of them leaves. -/
def entangledAndIdle : Adjacency :=
  entangled.insert "B0" .empty

theorem hasEdge_entangledAndIdle : entangledAndIdle.HasEdge = entangled.HasEdge := by
  funext source target
  rw [eq_iff_iff, Adjacency.hasEdge_iff, Adjacency.hasEdge_iff, entangledAndIdle,
    OrderedMap.find?_insert]
  split
  · rename_i same
    have absent : entangled.find? "B0" = none := by decide
    rw [same, absent]
    simp
  · rfl

theorem elementary_ascends_entangled :
    entangledAndIdle ≠ entangled ∧ elementary entangledAndIdle = elementary entangled ∧
      (elementary entangled).map files = [["A"], ["B", "C"], ["B", "C", "D"]] ∧
        ([["A"], ["B", "C"]].foldl Collection.add .empty).seen.contains
          (canonical ⟨["B", "C", "D"]⟩) = false := by
  have found : entangled.keys.flatMap (CircuitSearch.circuitsFrom entangled) =
      [["A"], ["B", "C"], ["B", "C", "D"]] := by cbv
  obtain ⟨_, determined, _, kept, unseen⟩ := elementary_ascends entangled
  refine ⟨?_, determined _ hasEdge_entangledAndIdle, kept.trans found, unseen _ _ [] found⟩
  intro same
  have keys := congrArg OrderedMap.keys same
  exact absurd keys (by decide)

end DependencyCycle

end QueryImpact
