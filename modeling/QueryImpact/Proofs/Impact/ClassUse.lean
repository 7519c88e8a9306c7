import Mathlib
import QueryImpact.Proofs.Analysis.RowOrder
import QueryImpact.Proofs.Graph.Route

/-!
# What classes use

Classes of one name are taken together, and so are entities of one name in stores of one kind.  A
query that several methods or classes execute is counted once for an entity.  The entities come in
an order that leaves no two of them at the same place.
-/

namespace QueryImpact

namespace Graph

variable {graph : Graph} {name : String}

/-- A way from a class with a name through a method and a query to an entity. -/
structure IsUse (graph : Graph) (name : String) (row : ClassAccessRow) : Prop where
  /-- The class has the name. -/
  named : ∃ node, graph.nodes.find? row.classKey = some (.classDef node) ∧ node.name = name
  /-- A method of the class executes the query. -/
  executes : graph.Route [.defines, .executes] row.classKey row.queryKey
  /-- The query accesses an entity with this name and kind of store. -/
  accesses : ∃ entity, graph.Accesses row.queryKey row.operation entity ∧
    entity.name = row.entityName ∧ entity.storeKind = row.storeKind

/-- The rows of a class are its ways to entities. -/
theorem Keyed.mem_classAccesses_iff (keyed : graph.Keyed) {row : ClassAccessRow} :
    row ∈ graph.classAccesses name ↔ graph.IsUse name row := by
  simp only [classAccesses, List.mem_flatMap, List.mem_filterMap, OrderedSet.mem_toList_ofList,
    keyed.mem_classKeys_iff, mem_targetsOf_iff, mem_edgesFrom_iff]
  constructor
  · rintro ⟨classKey, named, method, defines, query, executes, access, ⟨member, source⟩, listed⟩
    split at listed
    · rename_i entity found
      obtain rfl := Option.some.inj listed
      exact ⟨named, .step defines (.step executes (.stay query)), entity,
        ⟨access, member, source, rfl, found⟩, rfl, rfl⟩
    · contradiction
  · rintro ⟨named, route, entity, ⟨access, member, source, operation, found⟩, entityName, storeKind⟩
    simp only [route_cons_iff, route_nil_iff, exists_eq_right] at route
    obtain ⟨method, defines, executes⟩ := route
    refine ⟨row.classKey, named, method, defines, row.queryKey, executes, access,
      ⟨member, source⟩, ?_⟩
    rw [found]
    simp only [accessOperation, operation, entityName, storeKind]

end Graph

namespace ClassDependencies

/-- What the dependencies of a class say, on a stored graph. -/
structure Gathers (graph : Graph) (name : String) (dependencies : ClassDependencies) : Prop where
  /-- They are about the class asked for. -/
  className_eq : dependencies.className = name
  /-- They list the classes with the name. -/
  mem_classes_iff : ∀ key, key ∈ dependencies.classes ↔
    ∃ node, graph.nodes.find? key = some (.classDef node) ∧ node.name = name
  /-- The classes are in order, each once. -/
  sorted_classes : dependencies.classes.Pairwise (· < ·)
  /-- They list the entities to which ways lead, by name and kind of store. -/
  mem_entities_iff : ∀ entity,
    entity ∈ dependencies.entities.map (fun usage => (usage.name, usage.storeKind)) ↔
      ∃ row, graph.IsUse name row ∧ (row.entityName, row.storeKind) = entity
  /-- They list no entity twice. -/
  once : (dependencies.entities.map fun usage => (usage.name, usage.storeKind)).Nodup
  /-- They count the queries on ways to an entity. -/
  queryCount_eq : ∀ usage ∈ dependencies.entities, usage.queryCount =
    {query | ∃ row, graph.IsUse name row ∧ (row.entityName, row.storeKind) =
      (usage.name, usage.storeKind) ∧ row.queryKey = query}.ncard
  /-- They tell what the queries do. -/
  mem_operations_iff : ∀ usage ∈ dependencies.entities, ∀ operation,
    operation ∈ usage.operations ↔ ∃ row, graph.IsUse name row ∧
      (row.entityName, row.storeKind) = (usage.name, usage.storeKind) ∧ row.operation = operation
  /-- They tell it in order, reading first, each operation once. -/
  sublist_operations : ∀ usage ∈ dependencies.entities,
    usage.operations.Sublist AccessOperation.all
  /-- More queries come first, then names, then kinds of store. -/
  sorted_entities : dependencies.entities.Pairwise fun first second =>
    second.queryCount < first.queryCount ∨ first.queryCount = second.queryCount ∧
      (first.name < second.name ∨ first.name = second.name ∧
        first.storeKind.rank < second.storeKind.rank)

/-- What an analysis answers.  Without a class of the name there are no rows either. -/
theorem on_analyze (name : String) (graph : Graph) :
    (analyze name).on graph = ⟨name, (OrderedSet.ofList (graph.classKeys name)).toList,
      usages (graph.classAccesses name)⟩ := by
  change Analysis.on (if (OrderedSet.ofList (graph.classKeys name)).toList = [] then _ else _)
    graph = _
  by_cases none : (OrderedSet.ofList (graph.classKeys name)).toList = []
  · have noUsages : usages [] = [] := List.mergeSort_nil
    rw [if_pos none, Graph.classAccesses, none, List.flatMap_nil, noUsages]
    rfl
  · rw [if_neg none]
    rfl

section Usages

variable {rows : List ClassAccessRow} {entity : UsedEntity}

/-- What rows say of an entity. -/
def usesOf (rows : List ClassAccessRow) (entity : UsedEntity) : EntityUses :=
  let own := rows.filter fun row => UsedEntity.mk row.entityName row.storeKind = entity
  ⟨.ofList (own.map ClassAccessRow.queryKey), .ofList (own.map ClassAccessRow.operation)⟩

/-- The rows note of each of their entities what they say of it. -/
theorem find?_foldl_addRow (rows : List ClassAccessRow) (entity : UsedEntity) :
    (rows.foldl addRow .empty).find? entity =
      if ∃ row ∈ rows, UsedEntity.mk row.entityName row.storeKind = entity then
        some (usesOf rows entity) else none := by
  -- A row comes last, as the fold takes it.
  induction rows using List.reverseRecOn with
  | nil => simp
  | append_singleton rows row ih =>
      rw [List.foldl_append, List.foldl_cons, List.foldl_nil, addRow, OrderedMap.alter,
        OrderedMap.find?_insert]
      by_cases same : entity = ⟨row.entityName, row.storeKind⟩
      · subst same
        have before : ((rows.foldl addRow .empty).find? ⟨row.entityName, row.storeKind⟩).getD
            ⟨.empty, .empty⟩ = usesOf rows ⟨row.entityName, row.storeKind⟩ := by
          rw [ih]
          split
          · rfl
          · rename_i unknown
            have noRows : rows.filter (fun other => UsedEntity.mk other.entityName other.storeKind =
                ⟨row.entityName, row.storeKind⟩) = [] := by
              simpa using unknown
            rw [usesOf, noRows]
            rfl
        rw [if_pos rfl, if_pos ⟨row, by simp, rfl⟩, before]
        simp [usesOf, OrderedSet.ofList_append_singleton]
      · simp [same, Ne.symm same, ih, usesOf, or_and_right, exists_or]

/-- The usages are those of the entities in the rows. -/
theorem mem_usages_iff {usage : EntityUsage} :
    usage ∈ usages rows ↔ ∃ row ∈ rows,
      usageOf (⟨row.entityName, row.storeKind⟩, usesOf rows ⟨row.entityName, row.storeKind⟩) =
        usage := by
  simp only [usages, List.mem_mergeSort, List.mem_map, Prod.exists,
    ← OrderedMap.find?_eq_some_iff, find?_foldl_addRow, Option.ite_none_right_eq_some,
    Option.some.injEq]
  constructor
  · rintro ⟨_, _, ⟨⟨row, member, rfl⟩, rfl⟩, same⟩
    exact ⟨row, member, same⟩
  · rintro ⟨row, member, same⟩
    exact ⟨_, _, ⟨⟨row, member, rfl⟩, rfl⟩, same⟩

theorem queryCount_usageOf :
    (usageOf (entity, usesOf rows entity)).queryCount =
      {query | ∃ row ∈ rows, (row.entityName, row.storeKind) = (entity.name, entity.storeKind) ∧
        row.queryKey = query}.ncard := by
  cases entity
  simp only [usageOf, usesOf, OrderedSet.size_eq_ncard, OrderedSet.contains_ofList, List.mem_map,
    List.mem_filter, decide_eq_true_eq, and_assoc, UsedEntity.mk.injEq, Prod.mk.injEq]

theorem mem_operations_usageOf_iff {operation : AccessOperation} :
    operation ∈ (usageOf (entity, usesOf rows entity)).operations ↔
      ∃ row ∈ rows, (row.entityName, row.storeKind) = (entity.name, entity.storeKind) ∧
        row.operation = operation := by
  cases entity
  simp only [usageOf, usesOf, OrderedSet.mem_toList_ofList, List.mem_map, List.mem_filter,
    decide_eq_true_eq, and_assoc, UsedEntity.mk.injEq, Prod.mk.injEq]

/-- Operations in a set are listed in order, each once. -/
theorem sublist_toList (operations : OrderedSet AccessOperation) :
    operations.toList.Sublist AccessOperation.all := by
  have antisymm : Std.Antisymm fun first second : AccessOperation =>
      compare first second = .lt := by
    constructor
    intro first second below above
    rw [Std.OrientedCmp.gt_of_lt below] at above
    contradiction
  have known : operations.toList ⊆ AccessOperation.all := by
    intro operation _
    cases operation <;> decide
  exact List.sublist_of_subperm_of_pairwise ((OrderedSet.nodup_toList operations).subperm known)
    (OrderedMap.pairwise_keys operations) (by decide)

theorem nodup_usages :
    ((usages rows).map fun usage => (usage.name, usage.storeKind)).Nodup := by
  have sorted := (List.mergeSort_perm ((rows.foldl addRow .empty).entries.map usageOf)
    fun a b => (order a b).isLE).map fun usage => (usage.name, usage.storeKind)
  rw [usages, sorted.nodup_iff, List.map_map]
  have apart := (rows.foldl addRow .empty).nodup_keys.map
    (f := fun entity : UsedEntity => (entity.name, entity.storeKind)) (by
      rintro ⟨_, _⟩ ⟨_, _⟩ same
      simpa using same)
  rwa [OrderedMap.keys, List.map_map] at apart

/-- The usages are in order.  Those that the sort leaves as they come differ in their kind of
store. -/
theorem sorted_usages : (usages rows).Pairwise fun first second =>
    second.queryCount < first.queryCount ∨ first.queryCount = second.queryCount ∧
      (first.name < second.name ∨ first.name = second.name ∧
        first.storeKind.rank < second.storeKind.rank) := by
  have noted : ((rows.foldl addRow .empty).entries.map usageOf).Pairwise fun first second =>
      first.name < second.name ∨ first.name = second.name ∧
        first.storeKind.rank < second.storeKind.rank := by
    rw [List.pairwise_map]
    refine (rows.foldl addRow .empty).increasing.imp ?_
    intro first second below
    rcases Ordering.then_eq_lt.mp below with names | ⟨names, ranks⟩
    · exact Or.inl (compare_lt_iff_lt.mp names)
    · exact Or.inr ⟨compare_eq_iff_eq.mp names, compare_lt_iff_lt.mp ranks⟩
  refine (pairwise_mergeSort_of_pairwise order noted).imp ?_
  intro first second below
  simp only [order, compareLex, Ordering.then_eq_lt, Ordering.then_eq_eq, compareOn,
    compare_lt_iff_lt, compare_eq_iff_eq] at below
  rcases below with (more | ⟨count, name⟩) | ⟨⟨count, name⟩, kept⟩
  · exact Or.inl more
  · exact Or.inr ⟨count.symm, Or.inl name⟩
  · exact Or.inr ⟨count.symm, kept⟩

end Usages

/-- The dependencies of a class are what the ways from the classes with its name say. -/
theorem gathers_analyze {graph : Graph} (keyed : graph.Keyed) (name : String) :
    Gathers graph name ((analyze name).on graph) := by
  rw [on_analyze]
  constructor
  case className_eq => rfl
  case mem_classes_iff =>
    intro key
    rw [OrderedSet.mem_toList_ofList, keyed.mem_classKeys_iff]
  case sorted_classes => exact OrderedSet.sorted_toList _
  case mem_entities_iff =>
    intro entity
    simp only [List.mem_map, mem_usages_iff, ← keyed.mem_classAccesses_iff]
    constructor
    · rintro ⟨_, ⟨row, member, rfl⟩, same⟩
      exact ⟨row, member, same⟩
    · rintro ⟨row, member, same⟩
      exact ⟨_, ⟨row, member, rfl⟩, same⟩
  case once => exact nodup_usages
  case queryCount_eq =>
    intro usage member
    simp only [← keyed.mem_classAccesses_iff]
    obtain ⟨row, -, rfl⟩ := mem_usages_iff.mp member
    exact queryCount_usageOf
  case mem_operations_iff =>
    intro usage member operation
    simp only [← keyed.mem_classAccesses_iff]
    obtain ⟨row, -, rfl⟩ := mem_usages_iff.mp member
    exact mem_operations_usageOf_iff
  case sublist_operations =>
    intro usage member
    obtain ⟨row, -, rfl⟩ := mem_usages_iff.mp member
    exact sublist_toList _
  case sorted_entities => exact sorted_usages

/-- Two classes of one name with three methods, of which two execute one query, and entities of
which the names differ in letter case. -/
theorem gathers_analyze_shared :
    Gathers Graph.sharedGraph "Dao" ((analyze "Dao").on Graph.sharedGraph) ∧
      (analyze "Dao").on Graph.sharedGraph =
        ⟨"Dao", ["A", "B"],
          [⟨"users", .table, 2, [.read, .write]⟩, ⟨"Users", .collection, 1, [.read]⟩]⟩ :=
  ⟨gathers_analyze Graph.keyed_sharedGraph "Dao", by cbv⟩

end ClassDependencies

end QueryImpact
