import QueryImpact.Json.Decode

/-!
# Record formats

A record is written as an object with one member for each field, or as an array of the field
values in declaration order.  The members of an object are read by increasing name and the first
problem is the answer; fields that are absent are reported afterwards, in declaration order.
A tagged record carries the name of its alternative in a member of its own, or as the first item
of the array.
-/

namespace QueryImpact.Json

/-- A field of a record: its name and a check of its value. -/
structure Field where
  /-- The name of the field. -/
  name : String
  /-- Whether a value can be decoded as the field. -/
  check : Json → Except DecodeError Unit

/-- A field with the values of a decoder. -/
def Field.of {α : Type} (name : String) (decode : Decoder α) : Field :=
  ⟨name, fun value => (decode value).map fun _ => ()⟩

/-- The fields of a record, in declaration order. -/
structure RecordFormat where
  /-- How messages name the record. -/
  title : String
  /-- The fields, in declaration order. -/
  fields : List Field
  /-- Whether members that are no fields are refused. -/
  closed : Bool

/-- The names of the fields. -/
def RecordFormat.names (format : RecordFormat) : List String :=
  format.fields.map (·.name)

/-- The values that a record is built from. -/
inductive FieldValues where
  /-- The members of an object. -/
  | named (members : List (String × Json))
  /-- The items of an array. -/
  | listed (items : List Json)

namespace RecordFormat

/-- The problem with an array that ends before a field. -/
def tooShort (format : RecordFormat) (position : Nat) : DecodeError :=
  .invalidLength position
    (format.title ++ " with " ++ toString format.fields.length ++ " elements")

/-- The value given for a field, if any. -/
def value? (format : RecordFormat) (name : String) : FieldValues → Option Json
  | .named members => members.lookup name
  | .listed items => items[format.names.idxOf name]?

/-- The problem with a field that is absent. -/
def absent (format : RecordFormat) (name : String) : FieldValues → DecodeError
  | .named _ => .missingField name
  | .listed _ => format.tooShort (format.names.idxOf name)

/-- A field that has to be there. -/
def required {α : Type} (format : RecordFormat) (values : FieldValues) (name : String)
    (decode : Decoder α) : Except DecodeError α :=
  match format.value? name values with
  | some value => decode value
  | none => .error (format.absent name values)

/-- A field that may be left out of an object and of the end of an array. -/
def withDefault {α : Type} (format : RecordFormat) (values : FieldValues) (name : String)
    (initial : α) (decode : Decoder α) : Except DecodeError α :=
  match format.value? name values with
  | some value => decode value
  | none => .ok initial

/-- A field that may be null, or left out of an object but not out of an array. -/
def nullable {α : Type} (format : RecordFormat) (values : FieldValues) (name : String)
    (decode : Decoder α) : Except DecodeError (Option α) :=
  match format.value? name values, values with
  | some value, _ => Decoder.optional decode value
  | none, .named _ => .ok none
  | none, .listed _ => .error (format.absent name values)

/-- Check one member of an object. -/
def checkMember (format : RecordFormat) (member : String × Json) : Except DecodeError Unit :=
  match format.fields.find? (·.name == member.1) with
  | some field => field.check member.2
  | none =>
      if format.closed then .error (.unknownField member.1 format.names) else .ok ()

/-- Read a record.  `surplus` words the expectation for an array with too many items. -/
def read {α : Type} (format : RecordFormat) (surplus : String)
    (build : FieldValues → Except DecodeError α) : Decoder α
  | .object members => do
      members.forM format.checkMember
      build (.named members)
  | .array items => do
      let record ← build (.listed items)
      if format.fields.length < items.length then
        .error (.invalidLength items.length surplus)
      else .ok record
  | other => .error (.invalidType other.found format.title)

/-- Read a record that stands on its own. -/
def readAlone {α : Type} (format : RecordFormat)
    (build : FieldValues → Except DecodeError α) : Decoder α :=
  format.read "fewer elements in array" build

/-- Read the fields that follow the tag of a tagged record. -/
def readTagged {α : Type} (format : RecordFormat)
    (build : FieldValues → Except DecodeError α) : Decoder α :=
  format.read (toString format.fields.length ++ " elements in sequence") build

end RecordFormat

/-- The alternative named by the value of a tag. -/
def tagName {α : Type} (known : List (String × α)) : Decoder α
  | .string name => Decoder.choose known name
  | other => .error (.invalidType other.found "variant identifier")

/-- Read a tagged record: settle the alternative, then decode the other fields by it. -/
def tagged {α : Type} (title tag : String) (known : List (String × Decoder α)) : Decoder α
  | .object members =>
      match members.lookup tag with
      | some name => do
          let decode ← tagName known name
          decode (.object (members.filter fun member => member.1 != tag))
      | none => .error (.missingField tag)
  | .array (name :: items) => do
      let decode ← tagName known name
      decode (.array items)
  | .array [] => .error (.missingField tag)
  | other => .error (.invalidType other.found ("internally tagged enum " ++ title))

end QueryImpact.Json
