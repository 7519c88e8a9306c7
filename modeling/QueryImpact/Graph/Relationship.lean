import QueryImpact.Graph.Property
import QueryImpact.Json.Record

/-!
# Relationships

A relationship is a directed edge of one of seven types.  It is known by its source, its target
and its type; two relationships that agree on these are the same.
-/

namespace QueryImpact

open QueryImpact.Json (RecordFormat FieldValues Field Decoder DecodeError)

/-- The type of a relationship. -/
inductive RelationshipType where
  /-- A file contains a class. -/
  | contains
  /-- A class defines a method. -/
  | defines
  /-- A method executes a query. -/
  | executes
  /-- A query accesses an entity. -/
  | accesses
  /-- A query has an issue. -/
  | hasIssue
  /-- A file depends on a file. -/
  | dependsOn
  /-- A method calls a method. -/
  | calls
deriving DecidableEq

namespace RelationshipType

/-- The name of the type. -/
def name : RelationshipType → String
  | contains => "CONTAINS"
  | defines => "DEFINES"
  | executes => "EXECUTES"
  | accesses => "ACCESSES"
  | hasIssue => "HAS_ISSUE"
  | dependsOn => "DEPENDS_ON"
  | calls => "CALLS"

/-- All types. -/
def all : List RelationshipType :=
  [contains, defines, executes, accesses, hasIssue, dependsOn, calls]

/-- The place of a type among all. -/
def rank : RelationshipType → Nat
  | contains => 0
  | defines => 1
  | executes => 2
  | accesses => 3
  | hasIssue => 4
  | dependsOn => 5
  | calls => 6

theorem rank_injective {first second : RelationshipType} (same : first.rank = second.rank) :
    first = second := by
  cases first <;> cases second <;> first | rfl | cases same

/-- Decode a relationship type. -/
def decode : Decoder RelationshipType :=
  Decoder.variant .null (all.map fun type => (type.name, type))

end RelationshipType

/-- How a query uses an entity. -/
inductive AccessOperation where
  /-- It only reads. -/
  | read
  /-- It may change it. -/
  | write
deriving DecidableEq

namespace AccessOperation

/-- The name of the operation. -/
def name : AccessOperation → String
  | read => "read"
  | write => "write"

/-- All operations. -/
def all : List AccessOperation :=
  [read, write]

/-- The operation with a given name. -/
def ofName? (name : String) : Option AccessOperation :=
  all.find? fun operation => operation.name == name

/-- The place of an operation among all. -/
def rank : AccessOperation → Nat
  | read => 0
  | write => 1

instance : Ord AccessOperation :=
  ⟨compareOn rank⟩

instance : Std.TransOrd AccessOperation :=
  inferInstanceAs (Std.TransCmp (compareOn rank))

theorem rank_injective {first second : AccessOperation} (same : first.rank = second.rank) :
    first = second := by
  cases first <;> cases second <;> first | rfl | cases same

instance : Std.LawfulEqOrd AccessOperation where
  eq_of_compare same := rank_injective (Std.LawfulEqOrd.eq_of_compare same)

end AccessOperation

/-- What a relationship is known by. -/
structure RelationshipKey where
  /-- The key of the node it leaves. -/
  source : String
  /-- The key of the node it enters. -/
  target : String
  /-- Its type. -/
  type : RelationshipType
deriving DecidableEq

namespace RelationshipKey

/-- Relationships are ordered by source, then target, then type. -/
def order : RelationshipKey → RelationshipKey → Ordering :=
  compareLex (compareOn source)
    (compareLex (compareOn target) (compareOn fun key => key.type.rank))

instance : Ord RelationshipKey :=
  ⟨order⟩

instance : Std.TransOrd RelationshipKey :=
  inferInstanceAs (Std.TransCmp (compareLex (compareOn source)
    (compareLex (compareOn target) (compareOn fun key => key.type.rank))))

instance : Std.LawfulEqOrd RelationshipKey where
  eq_of_compare {first second} same := by
    have parts : compare first.source second.source = .eq ∧
        compare first.target second.target = .eq ∧
        compare first.type.rank second.type.rank = .eq := by
      have ordered : order first second = .eq := same
      rwa [order, compareLex_eq_eq, compareLex_eq_eq] at ordered
    obtain ⟨sources, targets, ranks⟩ := parts
    cases first
    cases second
    simp only [RelationshipKey.mk.injEq]
    exact ⟨Std.LawfulEqOrd.eq_of_compare sources, Std.LawfulEqOrd.eq_of_compare targets,
      RelationshipType.rank_injective (Std.LawfulEqOrd.eq_of_compare ranks)⟩

end RelationshipKey

/-- A directed, typed edge between two nodes. -/
structure Relationship where
  /-- The key of the node it leaves. -/
  source : String
  /-- The key of the node it enters. -/
  target : String
  /-- Its type. -/
  type : RelationshipType
  /-- Its properties. -/
  properties : Properties
deriving DecidableEq

namespace Relationship

/-- An edge without properties. -/
def plain (source target : String) (type : RelationshipType) : Relationship :=
  ⟨source, target, type, .empty⟩

/-- The edge from a query to an entity, with the operation as a property. -/
def accesses (query entity : String) (operation : AccessOperation) : Relationship :=
  ⟨query, entity, .accesses, .ofList [("operation", .text operation.name)]⟩

/-- What the relationship is known by. -/
def key (relationship : Relationship) : RelationshipKey :=
  ⟨relationship.source, relationship.target, relationship.type⟩

/-- The operation of an access, when it is there and readable. -/
def operation? (relationship : Relationship) : Option AccessOperation :=
  ((relationship.properties.find? "operation").bind PropertyValue.text?).bind
    AccessOperation.ofName?

/-- The record format of a relationship; members that are no fields are ignored. -/
def format : RecordFormat where
  title := "struct Relationship"
  fields :=
    [Field.of "source" Decoder.text, Field.of "target" Decoder.text,
      Field.of "rel_type" RelationshipType.decode, Field.of "properties" Properties.decode]
  closed := false

/-- Build a relationship from its fields. -/
def ofFields (values : FieldValues) : Except DecodeError Relationship := do
  let source ← format.required values "source" Decoder.text
  let target ← format.required values "target" Decoder.text
  let type ← format.required values "rel_type" RelationshipType.decode
  let properties ← format.required values "properties" Properties.decode
  pure ⟨source, target, type, properties⟩

/-- Decode a relationship. -/
def decode : Decoder Relationship :=
  format.readAlone ofFields

/-- The JSON form of a relationship. -/
def toJson (relationship : Relationship) : Json :=
  .object
    [("properties", relationship.properties.toJson),
      ("rel_type", .string relationship.type.name), ("source", .string relationship.source),
      ("target", .string relationship.target)]

end Relationship

end QueryImpact
