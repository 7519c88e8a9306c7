import Mathlib
import QueryImpact.Graph.NodeRecord
import QueryImpact.Graph.Relationship
import QueryImpact.Proofs.Json.Restored

/-!
# Reading nodes and relationships back

Nodes of every kind and relationships are restored from their JSON values, from arrays of their
field values and, as far as floating-point numbers are, from their texts.
-/

namespace QueryImpact

open QueryImpact.Json (RecordFormat FieldValues Field Decoder Restored Rereads IsRegular)

@[simp]
theorem Json.word32_toJson (value : UInt32) : Decoder.word32 (.word32 value) = .ok value :=
  Decoder.word32_integer value

theorem Query.StatementType.decode_name (type : Query.StatementType) :
    decode (.string type.name) = .ok type := by
  apply Decoder.variant_of_lookup
  cases type <;> rfl

theorem StoreKind.decode_name (kind : StoreKind) : decode (.string kind.name) = .ok kind := by
  apply Decoder.variant_of_lookup
  cases kind <;> rfl

namespace Json

theorem isRegular_word64 (value : UInt64) : IsRegular (.integer value.toNat) := by
  apply IsRegular.integer
  constructor
  · have least : Int64.minValue.toInt ≤ 0 := by decide
    omega
  · exact Int.ofNat_lt.mpr value.toNat_lt_size

theorem isRegular_word32 (value : UInt32) : IsRegular (.word32 value) := by
  apply IsRegular.integer
  constructor
  · have least : Int64.minValue.toInt ≤ 0 := by decide
    omega
  · have bound := value.toNat_lt_size
    have wider : UInt32.size ≤ UInt64.size := by decide
    omega

end Json

/-! ## Nodes of all kinds -/

namespace NodeKind

/-- The fields of nodes of a kind. -/
def format : NodeKind → RecordFormat
  | file => FileNode.format
  | classDef => ClassNode.format
  | method => MethodNode.format
  | query => QueryNode.format
  | entity => EntityNode.format
  | issue => IssueNode.format

/-- Build a node of a kind from its fields. -/
def build : NodeKind → FieldValues → Except Json.DecodeError Node
  | file, values => (FileNode.ofFields values).map .file
  | classDef, values => (ClassNode.ofFields values).map .classDef
  | method, values => (MethodNode.ofFields values).map .method
  | query, values => (QueryNode.ofFields values).map .query
  | entity, values => (EntityNode.ofFields values).map .entity
  | issue, values => (IssueNode.ofFields values).map .issue

theorem nodup_names_format (kind : NodeKind) : kind.format.names.Nodup := by
  cases kind <;> decide

end NodeKind

namespace Node

/-- The floating-point numbers of a node. -/
def floats : Node → List Float
  | issue node => node.confidence.toList
  | _ => []

/-- The names of the tag and the fields, in declaration order. -/
def fieldNames : Node → List String
  | file _ => "node_type" :: FileNode.format.names
  | classDef _ => "node_type" :: ClassNode.format.names
  | method _ => "node_type" :: MethodNode.format.names
  | query _ => "node_type" :: QueryNode.format.names
  | entity _ => "node_type" :: EntityNode.format.names
  | issue _ => "node_type" :: IssueNode.format.names

/-- The fields in declaration order, with a value for the confidence of an issue. -/
def fieldsWith (confidence : Json) : Node → List (String × Json)
  | file node =>
      [("key", .string node.key), ("path", .string node.path),
        ("language", .string node.language),
        ("size", .ofOption (fun size => .integer size.toNat) node.size),
        ("is_target", .bool node.isTarget), ("occurrences", .word32 node.occurrences)]
  | classDef node =>
      [("key", .string node.key), ("name", .string node.name), ("package", .string node.package),
        ("file_ref", .string node.fileRef), ("occurrences", .word32 node.occurrences)]
  | method node =>
      [("key", .string node.key), ("name", .string node.name),
        ("signature", .string node.signature), ("class_ref", .string node.classRef),
        ("occurrences", .word32 node.occurrences)]
  | query node =>
      [("key", .string node.key), ("text", .string node.text),
        ("query_type", .string node.statementType.name), ("line", .word32 node.line),
        ("complexity", .word32 node.complexity), ("method_ref", .string node.methodRef),
        ("occurrences", .word32 node.occurrences)]
  | entity node =>
      [("key", .string node.key), ("name", .string node.name),
        ("store_kind", .string node.storeKind.name), ("occurrences", .word32 node.occurrences)]
  | issue node =>
      [("key", .string node.key), ("kind", .string node.kind),
        ("severity", node.severity.toJson), ("message", .ofOption .string node.message),
        ("confidence", confidence), ("query_ref", .string node.queryRef)]

/-- The JSON form with a value for the confidence of an issue. -/
def toJsonWith (confidence : Json) : Node → Json
  | issue node =>
      .object
        [("confidence", confidence), ("key", .string node.key), ("kind", .string node.kind),
          ("message", .ofOption .string node.message), ("node_type", .string "issue"),
          ("query_ref", .string node.queryRef), ("severity", node.severity.toJson)]
  | other => other.toJson

/-- The node with a confidence, if it is an issue. -/
def withConfidence (confidence : Option Float) : Node → Node
  | issue node => .issue { node with confidence }
  | other => other

/-- Nodes are read by the format of their kind. -/
theorem decode_eq : decode = Json.tagged "Node" "node_type"
    (NodeKind.all.map fun kind => (kind.name, kind.format.readTagged kind.build)) := by
  simp only [decode, RecordFormat.map_readTagged]
  rfl

theorem lookup_readTagged (kind : NodeKind) :
    (NodeKind.all.map fun kind => (kind.name, kind.format.readTagged kind.build)).lookup
      kind.name = some (kind.format.readTagged kind.build) := by
  cases kind <;> rfl

section Fields

variable (node : Node) {confidence : Json} {content : Option Float}
  (decoded : Decoder.optional Decoder.number confidence = .ok content)
include decoded

theorem reads_fieldsWith :
    node.kind.format.Reads node.kind.build (node.fieldsWith confidence)
      (node.withConfidence content) := by
  have nodup := node.kind.nodup_names_format
  cases node <;>
  · refine ⟨rfl, nodup, ?_, ?_⟩
    · simp [fieldsWith, kind, NodeKind.format, FileNode.format, ClassNode.format,
        MethodNode.format, QueryNode.format, EntityNode.format, IssueNode.format,
        RecordFormat.checkMember, Field.of, Query.StatementType.decode_name,
        StoreKind.decode_name, Severity.decode_toJson, decoded]
    · intro values given
      simp only [fieldsWith, kind, NodeKind.format, RecordFormat.gives_cons] at given
      simp only [kind, NodeKind.build, FileNode.ofFields, ClassNode.ofFields,
        MethodNode.ofFields, QueryNode.ofFields, EntityNode.ofFields, IssueNode.ofFields,
        RecordFormat.required, RecordFormat.nullable, given, Decoder.text_string,
        Decoder.boolean_bool, Json.word32_toJson, Decoder.optional_word64, Decoder.optional_text,
        Query.StatementType.decode_name, StoreKind.decode_name, Severity.decode_toJson, decoded]
      rfl

theorem decode_toJsonWith :
    decode (node.toJsonWith confidence) = .ok (node.withConfidence content) := by
  have reads := node.reads_fieldsWith decoded
  rw [decode_eq]
  cases node <;>
  · apply reads.tagged_object (lookup_readTagged _) rfl
    constructor
    · simp [fieldsWith]
    · simp [fieldsWith, List.lookup]

theorem decode_items :
    decode (.array (.string node.kind.name :: (node.fieldsWith confidence).map Prod.snd)) =
      .ok (node.withConfidence content) := by
  rw [decode_eq]
  exact (node.reads_fieldsWith decoded).tagged_array (lookup_readTagged node.kind)

end Fields

theorem isRegular_toJson (node : Node) : node.toJson.IsRegular := by
  cases node <;>
  · apply IsRegular.object_of_names
    · simp only [List.map_cons, List.map_nil]
      decide +kernel
    · simp [IsRegular.string, IsRegular.bool, Json.isRegular_word32, Json.isRegular_word64,
        Json.isRegular_ofOption, Json.isRegular_number, Severity.toJson]

/-- What is written for the confidence of a node. -/
def confidenceOf : Node → Option Float
  | issue node => node.confidence
  | _ => none

theorem toJsonWith_confidenceOf (node : Node) :
    node.toJsonWith (.ofOption .number node.confidenceOf) = node.toJson := by
  cases node <;> rfl

theorem withConfidence_confidenceOf (node : Node) :
    node.withConfidence node.confidenceOf = node := by
  cases node <;> rfl

variable {node : Node} (finite : ∀ number ∈ node.floats, number.isFinite = true)
include finite

theorem finite_confidenceOf : ∀ number ∈ node.confidenceOf, number.isFinite = true := by
  cases node with
  | issue node => simpa [floats, confidenceOf] using finite
  | _ => simp [confidenceOf]

/-- A node is read back from its JSON form. -/
theorem decode_toJson : decode node.toJson = .ok node := by
  have confidence := Decoder.optional_number _ (finite_confidenceOf finite)
  rw [← toJsonWith_confidenceOf, node.decode_toJsonWith confidence, withConfidence_confidenceOf]

theorem decode_listing : decode (node.toJson.listing node.fieldNames) = .ok node := by
  have confidence := Decoder.optional_number _ (finite_confidenceOf finite)
  have items : node.toJson.listing node.fieldNames = .array (.string node.kind.name ::
      (node.fieldsWith (.ofOption .number node.confidenceOf)).map Prod.snd) := by
    cases node <;> rfl
  rw [items, node.decode_items confidence, withConfidence_confidenceOf]

theorem rereads_toJson : Rereads decode node.toJson node node.floats := by
  cases node with
  | issue node =>
      have confidence := Json.rereads_optional_number node.confidence
        (by simpa [floats] using finite)
      apply confidence.extend fun read => (issue node).toJsonWith read
      · have message := Json.reread?_ofOption .string node.message
          (by simp [Json.reread?])
        simp [toJson, IssueNode.toJson, toJsonWith, Severity.toJson, Json.reread?,
          Json.rereadMembers?, message]
      · intro read result _ decoded
        refine ⟨_, (issue node).decode_toJsonWith decoded, ?_⟩
        cases node
        simp [withConfidence]
  | file node =>
      have size := Json.reread?_ofOption (fun size : UInt64 => .integer size.toNat) node.size
        (by simp [Json.reread?])
      apply Json.rereads_of_eq _ (decode_toJson finite)
      simp [toJson, FileNode.toJson, Json.word32, Json.reread?, Json.rereadMembers?, size]
  | _ =>
      apply Json.rereads_of_eq _ (decode_toJson finite)
      simp [toJson, ClassNode.toJson, MethodNode.toJson, QueryNode.toJson, EntityNode.toJson,
        Json.word32, Json.reread?, Json.rereadMembers?]

theorem restored : Restored toJson decode node.fieldNames node.floats node where
  fromValue := decode_toJson finite
  fromItems := decode_listing finite
  fromText := Json.map_decode_parse?_iff node.isRegular_toJson (rereads_toJson finite)

end Node

namespace PropertyValue

/-- The floating-point numbers of a property. -/
def floats : PropertyValue → List Float
  | float value => [value]
  | _ => []

theorem isRegular_toJson (value : PropertyValue) : value.toJson.IsRegular := by
  cases value with
  | text value => exact .string value
  | integer value =>
      apply IsRegular.integer
      constructor
      · exact value.minValue_le_toInt
      · have greatest := value.toInt_le
        have wider : Int64.maxValue.toInt < UInt64.size := by decide
        omega
  | float value => exact Json.isRegular_number value
  | boolean value => exact .bool value

variable {value : PropertyValue} (finite : ∀ number ∈ value.floats, number.isFinite = true)
include finite

/-- A property is read back with its variant: a whole floating-point number does not become an
integer. -/
theorem decode_toJson : decode value.toJson = .ok value := by
  cases value with
  | text value => rfl
  | integer value =>
      rw [toJson, decode, if_pos ⟨value.minValue_le_toInt, value.toInt_le⟩]
      simp
  | float value =>
      rw [toJson, Json.number_of_isFinite (finite value (by simp [floats]))]
      rfl
  | boolean value => rfl

theorem rereads_toJson : Rereads decode value.toJson value value.floats := by
  cases value with
  | float value =>
      rw [toJson, Json.number_of_isFinite (finite value (by simp [floats]))]
      apply (Json.rereads_float value).extend id
      · simp
      · intro read result isRead isResult
        obtain ⟨content, rfl⟩ := Json.exists_float_of_reread? isRead
        cases isResult
        exact ⟨float result, rfl, by simp⟩
  | text value => exact Json.rereads_of_eq rfl (decode_toJson finite)
  | integer value => exact Json.rereads_of_eq rfl (decode_toJson finite)
  | boolean value => exact Json.rereads_of_eq rfl (decode_toJson finite)

end PropertyValue

namespace Properties

/-- The floating-point numbers of properties. -/
def floats (properties : Properties) : List Float :=
  properties.values.flatMap PropertyValue.floats

/-- Decode the members of an object as named properties, in the order in which they stand. -/
def decodeEntries : Decoder (List (String × PropertyValue))
  | .object members => members.mapM fun member => do
      let value ← PropertyValue.decode member.2
      pure (member.1, value)
  | other => .error (.invalidType other.found "a map")

theorem decode_eq (value : Json) : decode value = (decodeEntries value).map .ofList := by
  cases value with
  | object members => rfl
  | _ => rfl

theorem decodeEntries_cons {name : String} {value : Json} {members : List (String × Json)}
    {content : PropertyValue} {entries : List (String × PropertyValue)}
    (isValue : PropertyValue.decode value = .ok content)
    (areEntries : decodeEntries (.object members) = .ok entries) :
    decodeEntries (.object ((name, value) :: members)) = .ok ((name, content) :: entries) := by
  rw [decodeEntries] at areEntries ⊢
  rw [List.mapM_cons, isValue, areEntries]
  rfl

theorem names_of_decodeEntries {members : List (String × Json)}
    {entries : List (String × PropertyValue)}
    (areEntries : decodeEntries (.object members) = .ok entries) :
    entries.map Prod.fst = members.map Prod.fst := by
  rw [decodeEntries] at areEntries
  induction members generalizing entries with
  | nil =>
      cases areEntries
      rfl
  | cons first rest ih =>
      rw [List.mapM_cons] at areEntries
      cases isValue : PropertyValue.decode first.2 with
      | error cause =>
          rw [isValue] at areEntries
          cases areEntries
      | ok content =>
          cases areRest : rest.mapM (fun member => do
              let value ← PropertyValue.decode member.2
              pure (member.1, value)) with
          | error cause =>
              rw [isValue, areRest] at areEntries
              cases areEntries
          | ok others =>
              rw [isValue, areRest] at areEntries
              cases areEntries
              simp [ih areRest]

/-- A member put in front of an object. -/
def prepend (name : String) (value : Json) : Json → Json
  | .object members => .object ((name, value) :: members)
  | other => other

theorem decodeEntries_toJson {entries : List (String × PropertyValue)}
    (finite : ∀ entry ∈ entries, ∀ number ∈ entry.2.floats, number.isFinite = true) :
    decodeEntries (.object (entries.map fun entry => (entry.1, entry.2.toJson))) =
      .ok entries := by
  induction entries with
  | nil => rfl
  | cons first rest ih =>
      rw [List.forall_mem_cons] at finite
      exact decodeEntries_cons (PropertyValue.decode_toJson finite.1) (ih finite.2)

theorem rereads_entries {entries : List (String × PropertyValue)}
    (finite : ∀ entry ∈ entries, ∀ number ∈ entry.2.floats, number.isFinite = true) :
    Rereads decodeEntries (.object (entries.map fun entry => (entry.1, entry.2.toJson))) entries
      (entries.flatMap fun entry => entry.2.floats) := by
  induction entries with
  | nil => exact Json.rereads_of_eq rfl rfl
  | cons first rest ih =>
      rw [List.forall_mem_cons] at finite
      apply (PropertyValue.rereads_toJson finite.1).extend_two (ih finite.2)
        (prepend first.1) fun value rest => (first.1, value) :: rest
      · rw [List.map_cons, Json.reread?, Json.reread?, Json.rereadMembers?]
        cases first.2.toJson.reread? with
        | none => rfl
        | some read =>
            cases Json.rereadMembers? (rest.map fun entry => (entry.1, entry.2.toJson)) with
            | none => rfl
            | some reads => rfl
      · intro readFirst readRest value others isValue areOthers
        cases readRest with
        | object members => exact decodeEntries_cons isValue areOthers
        | _ => cases areOthers
      · intro value others
        cases first
        simp

variable {properties : Properties}

theorem isRegular_toJson (properties : Properties) : properties.toJson.IsRegular := by
  apply IsRegular.object
  · exact List.pairwise_map.mpr properties.increasing
  · intro member isMember
    obtain ⟨entry, _, rfl⟩ := List.mem_map.mp isMember
    exact entry.2.isRegular_toJson

section Finite

variable (finite : ∀ number ∈ properties.floats, number.isFinite = true)
include finite

theorem finite_entries :
    ∀ entry ∈ properties.entries, ∀ number ∈ entry.2.floats, number.isFinite = true := by
  intro entry isEntry number member
  apply finite
  exact List.mem_flatMap.mpr ⟨entry.2, List.mem_map_of_mem isEntry, member⟩

/-- Properties are read back from their JSON form. -/
theorem decode_toJson : decode properties.toJson = .ok properties := by
  rw [decode_eq, toJson, decodeEntries_toJson (finite_entries finite), Decoder.map_ok,
    OrderedMap.ofList_entries]

theorem rereads_toJson : Rereads decode properties.toJson properties properties.floats := by
  have entries := rereads_entries (finite_entries finite)
  have sameFloats : properties.floats =
      properties.entries.flatMap fun entry => entry.2.floats := by
    simp [floats, OrderedMap.values, List.flatMap_map]
  rw [sameFloats]
  apply entries.extend id
  · simp [toJson]
  · intro read result isRead isResult
    rw [Json.reread?] at isRead
    obtain ⟨reads, areReads, rfl⟩ := Option.map_eq_some_iff.mp isRead
    -- The names have not changed, so the entries are stored as they were read.
    have names : result.map Prod.fst = properties.entries.map Prod.fst := by
      rw [names_of_decodeEntries isResult, Json.Reader.rereadMembers?_names areReads]
      simp
    have increasing : result.Pairwise fun first second => compare first.1 second.1 = .lt := by
      have sorted := properties.pairwise_keys
      rw [OrderedMap.keys, ← names] at sorted
      exact List.pairwise_map.mp sorted
    refine ⟨.ofList result, ?_, ?_⟩
    · rw [id, decode_eq, isResult, Decoder.map_ok]
    · constructor
      · rintro rfl
        rw [OrderedMap.entries_ofList increasing]
      · rintro rfl
        rw [OrderedMap.ofList_entries]

end Finite

end Properties

namespace Relationship

/-- The floating-point numbers of a relationship. -/
def floats (relationship : Relationship) : List Float :=
  relationship.properties.floats

/-- The fields in declaration order, with a value for the properties. -/
def fieldsWith (relationship : Relationship) (properties : Json) : List (String × Json) :=
  [("source", .string relationship.source), ("target", .string relationship.target),
    ("rel_type", .string relationship.type.name), ("properties", properties)]

/-- The JSON form with a value for the properties. -/
def toJsonWith (relationship : Relationship) (properties : Json) : Json :=
  .object
    [("properties", properties), ("rel_type", .string relationship.type.name),
      ("source", .string relationship.source), ("target", .string relationship.target)]

theorem decode_typeName (type : RelationshipType) :
    RelationshipType.decode (.string type.name) = .ok type := by
  apply Decoder.variant_of_lookup
  cases type <;> rfl

variable {relationship : Relationship}

section Fields

variable {properties : Json} {content : Properties}
  (decoded : Properties.decode properties = .ok content)
include decoded

theorem reads_fieldsWith :
    format.Reads ofFields (relationship.fieldsWith properties)
      { relationship with properties := content } where
  names_eq := rfl
  nodup_names := by decide
  checked := by
    simp [fieldsWith, format, RecordFormat.checkMember, Field.of, decoded, decode_typeName]
  built := by
    intro values given
    simp only [fieldsWith, RecordFormat.gives_cons] at given
    simp only [ofFields, RecordFormat.required, given, decoded, Decoder.text_string,
      decode_typeName]
    rfl

theorem decode_toJsonWith :
    decode (relationship.toJsonWith properties) =
      .ok { relationship with properties := content } := by
  rw [decode, RecordFormat.readAlone, toJsonWith]
  apply (reads_fieldsWith decoded).read_object
  constructor
  · simp [fieldsWith]
  · simp [fieldsWith, List.lookup]

end Fields

theorem isRegular_toJson (relationship : Relationship) : relationship.toJson.IsRegular := by
  apply IsRegular.object_of_names
  · simp only [List.map_cons, List.map_nil]
    decide +kernel
  · simp [IsRegular.string, relationship.properties.isRegular_toJson]

variable (finite : ∀ number ∈ relationship.floats, number.isFinite = true)
include finite

/-- A relationship is read back from its JSON form. -/
theorem decode_toJson : decode relationship.toJson = .ok relationship :=
  decode_toJsonWith (Properties.decode_toJson finite)

theorem rereads_toJson : Rereads decode relationship.toJson relationship relationship.floats := by
  apply (Properties.rereads_toJson finite).extend relationship.toJsonWith
  · simp [toJson, toJsonWith, Json.reread?, Json.rereadMembers?]
  · intro read result _ decoded
    refine ⟨_, decode_toJsonWith decoded, ?_⟩
    cases relationship
    simp

theorem restored :
    Restored toJson decode format.names relationship.floats relationship where
  fromValue := decode_toJson finite
  fromItems := (reads_fieldsWith (Properties.decode_toJson finite)).read_array _
  fromText := Json.map_decode_parse?_iff relationship.isRegular_toJson (rereads_toJson finite)

end Relationship

end QueryImpact
