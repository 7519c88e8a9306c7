import QueryImpact.Json.Value
import QueryImpact.Store.Lookup

/-!
# Entities that a class depends on

The entities that the queries in the methods of a class access.  Classes of one name in several
files are taken together.
-/

namespace QueryImpact

/-- An entity that a class uses. -/
structure EntityUsage where
  /-- Its name. -/
  name : String
  /-- Where it lives. -/
  storeKind : StoreKind
  /-- The number of queries that access it. -/
  queryCount : Nat
  /-- How they use it. -/
  operations : List AccessOperation
deriving DecidableEq

/-- What entities are grouped by. -/
structure UsedEntity where
  /-- The name. -/
  name : String
  /-- Where they live. -/
  storeKind : StoreKind
deriving DecidableEq

namespace UsedEntity

/-- By name, then by store kind. -/
def order : UsedEntity → UsedEntity → Ordering :=
  compareLex (compareOn UsedEntity.name) (compareOn fun entity => entity.storeKind.rank)

instance : Ord UsedEntity :=
  ⟨order⟩

instance : Std.TransOrd UsedEntity :=
  inferInstanceAs (Std.TransCmp
    (compareLex (compareOn UsedEntity.name) (compareOn fun entity => entity.storeKind.rank)))

instance : Std.LawfulEqOrd UsedEntity where
  eq_of_compare {first second} same := by
    obtain ⟨names, ranks⟩ := compareLex_eq_eq.mp same
    have sameName : first.name = second.name := Std.LawfulEqOrd.eq_of_compare names
    have sameKind : first.storeKind = second.storeKind :=
      StoreKind.rank_injective (Std.LawfulEqOrd.eq_of_compare ranks)
    cases first
    cases second
    cases sameName
    cases sameKind
    rfl

end UsedEntity

/-- The queries that use an entity, and what they do with it. -/
structure EntityUses where
  /-- The keys of the queries. -/
  queries : OrderedSet String
  /-- What they do. -/
  operations : OrderedSet AccessOperation

/-- The entities that a class depends on. -/
structure ClassDependencies where
  /-- The name of the class. -/
  className : String
  /-- The keys of all classes with the name. -/
  classes : List String
  /-- The entities, by falling number of queries, then name, then store kind. -/
  entities : List EntityUsage
deriving DecidableEq

namespace ClassDependencies

/-- Whether there is a class with the name. -/
def found (dependencies : ClassDependencies) : Bool :=
  !dependencies.classes.isEmpty

/-- Note what a row says of its entity. -/
def addRow (uses : OrderedMap UsedEntity EntityUses) (row : ClassAccessRow) :
    OrderedMap UsedEntity EntityUses :=
  uses.alter ⟨row.entityName, row.storeKind⟩ ⟨.empty, .empty⟩ fun own =>
    ⟨own.queries.add row.queryKey, own.operations.add row.operation⟩

/-- What was noted of an entity, for the answer. -/
def usageOf (entry : UsedEntity × EntityUses) : EntityUsage :=
  ⟨entry.1.name, entry.1.storeKind, entry.2.queries.size, entry.2.operations.toList⟩

/-- More queries first, then by name. -/
def order : EntityUsage → EntityUsage → Ordering :=
  compareLex (fun a b => compare b.queryCount a.queryCount) (compareOn EntityUsage.name)

/-- How the rows use their entities.  The sort is stable, so entities of one name that have the same
number of queries stay in the order of their store kinds. -/
def usages (rows : List ClassAccessRow) : List EntityUsage :=
  ((rows.foldl addRow .empty).entries.map usageOf).mergeSort fun a b => (order a b).isLE

/-- Find the entities that the classes with a name depend on. -/
def analyze (name : String) : Analysis ClassDependencies := do
  let classes : List String ← Analysis.ask (.classKeys name)
  if classes = [] then pure ⟨name, [], []⟩
  else do
    let rows : List ClassAccessRow ← Analysis.ask (.classAccesses name)
    pure ⟨name, classes, usages rows⟩

/-- The JSON form of the dependencies of a class. -/
def toJson (dependencies : ClassDependencies) : Json :=
  .object
    [("class_name", .string dependencies.className), ("classes", .texts dependencies.classes),
      ("entities", .array (dependencies.entities.map fun usage => .object
        [("name", .string usage.name),
          ("operations", .texts (usage.operations.map AccessOperation.name)),
          ("query_count", .count usage.queryCount),
          ("store_kind", .string usage.storeKind.name)])),
      ("found", .bool dependencies.found)]

end ClassDependencies

end QueryImpact
