import Mathlib
import QueryImpact.Json.Record

/-!
# Reading records back

Scalars, optional values and lists are read back as they were written.  A record is read back from
an object that has its fields, in whatever order they stand, and from the array of the field values
in declaration order; for a tagged record the tag comes first.
-/

namespace QueryImpact.Json

/-! ## Values -/

/-- A finite number is written as a number. -/
theorem number_of_isFinite {value : Float} (finite : value.isFinite = true) :
    number value = .float value :=
  if_pos finite

namespace Decoder

variable {α : Type}

@[simp]
theorem map_ok {β : Type} (change : α → β) (content : α) :
    (Except.ok content : Except DecodeError α).map change = .ok (change content) :=
  rfl

@[simp]
theorem text_string (value : String) : text (.string value) = .ok value :=
  rfl

@[simp]
theorem boolean_bool (value : Bool) : boolean (.bool value) = .ok value :=
  rfl

@[simp]
theorem word32_integer (value : UInt32) : word32 (.integer value.toNat) = .ok value := by
  have bound : (value.toNat : Int) < UInt32.size := Int.ofNat_lt.mpr value.toNat_lt_size
  rw [word32, if_pos ⟨Int.natCast_nonneg _, bound⟩]
  simp

@[simp]
theorem word64_integer (value : UInt64) : word64 (.integer value.toNat) = .ok value := by
  have bound : (value.toNat : Int) < UInt64.size := Int.ofNat_lt.mpr value.toNat_lt_size
  rw [word64, if_pos ⟨Int.natCast_nonneg _, bound⟩]
  simp

theorem optional_of_ne_null {decode : Decoder α} {value : Json} (notNull : value ≠ .null) :
    optional decode value = (decode value).map some := by
  cases value with
  | null => exact absurd rfl notNull
  | _ => rfl

/-- A value that may be absent is read back, unless it is written as null itself. -/
theorem optional_ofOption {encode : α → Json} {decode : Decoder α} {value : Option α}
    (written : ∀ content ∈ value, encode content ≠ .null ∧ decode (encode content) = .ok content) :
    optional decode (ofOption encode value) = .ok value := by
  cases value with
  | none => rfl
  | some content =>
      obtain ⟨notNull, decoded⟩ := written content rfl
      rw [ofOption, optional_of_ne_null notNull, decoded]
      rfl

@[simp]
theorem optional_text (value : Option String) :
    optional text (ofOption .string value) = .ok value :=
  optional_ofOption fun content _ => ⟨by simp, text_string content⟩

@[simp]
theorem optional_word64 (value : Option UInt64) :
    optional word64 (ofOption (fun word => .integer word.toNat) value) = .ok value :=
  optional_ofOption fun content _ => ⟨by simp, word64_integer content⟩

theorem optional_number (value : Option Float)
    (finite : ∀ content ∈ value, content.isFinite = true) :
    optional number (ofOption .number value) = .ok value := by
  apply optional_ofOption
  intro content member
  rw [number_of_isFinite (finite content member)]
  exact ⟨by simp, rfl⟩

/-- A list is read back item by item. -/
theorem list_map {encode : α → Json} {decode : Decoder α} {values : List α}
    (written : ∀ value ∈ values, decode (encode value) = .ok value) :
    list decode (.array (values.map encode)) = .ok values := by
  change (values.map encode).mapM decode = .ok values
  induction values with
  | nil => rfl
  | cons first rest ih =>
      rw [List.forall_mem_cons] at written
      rw [List.map_cons, List.mapM_cons, written.1, ih written.2]
      rfl

/-- An alternative is read back from its name. -/
theorem variant_of_lookup {form : UnitForm} {known : List (String × α)} {name : String} {value : α}
    (found : known.lookup name = some value) :
    variant form known (.string name) = .ok value := by
  rw [variant, choose, found]

end Decoder

/-! ## Objects and arrays of fields -/

/-- The array of the values that an object has under some names. -/
def listing (names : List String) (value : Json) : Json :=
  .array (names.map fun name => (value.member? name).getD .null)

namespace RecordFormat

variable {α : Type} {format : RecordFormat} {build : FieldValues → Except DecodeError α}
  {fields members : List (String × Json)} {record : α}

/-- The values are those of the given fields. -/
def Gives (format : RecordFormat) (values : FieldValues) (fields : List (String × Json)) : Prop :=
  ∀ field ∈ fields, format.value? field.1 values = some field.2

/-- An object with the members has the given fields and no other member. -/
structure IsObject (members fields : List (String × Json)) : Prop where
  /-- Every member is a field. -/
  mem_fields : ∀ member ∈ members, member ∈ fields
  /-- Every field is found under its name. -/
  lookup_eq : ∀ field ∈ fields, members.lookup field.1 = some field.2

/-- A record is built from the given fields, which are listed in declaration order. -/
structure Reads (format : RecordFormat) (build : FieldValues → Except DecodeError α)
    (fields : List (String × Json)) (record : α) : Prop where
  /-- The fields are those of the format. -/
  names_eq : fields.map Prod.fst = format.names
  /-- No name occurs twice. -/
  nodup_names : format.names.Nodup
  /-- Each field passes its check. -/
  checked : ∀ field ∈ fields, format.checkMember field = .ok ()
  /-- The record is what the fields give. -/
  built : ∀ values, format.Gives values fields → build values = .ok record

@[simp]
theorem gives_cons {values : FieldValues} {field : String × Json} :
    format.Gives values (field :: fields) ↔
      format.value? field.1 values = some field.2 ∧ format.Gives values fields :=
  List.forall_mem_cons

theorem forM_checkMember (checked : ∀ member ∈ members, format.checkMember member = .ok ()) :
    members.forM format.checkMember = .ok () := by
  induction members with
  | nil => rfl
  | cons first rest ih =>
      rw [List.forall_mem_cons] at checked
      rw [List.forM_eq_forM, List.forM_cons, checked.1]
      exact ih checked.2

/-- The values of an array, listed in declaration order, are those of the fields. -/
theorem gives_listed (names : fields.map Prod.fst = format.names) (nodup : format.names.Nodup) :
    format.Gives (.listed (fields.map Prod.snd)) fields := by
  intro field member
  obtain ⟨index, bound, rfl⟩ := List.getElem_of_mem member
  have position : format.names.idxOf fields[index].1 = index := by
    rw [← names] at nodup ⊢
    have isName : index < (fields.map Prod.fst).length := by simpa using bound
    have entry : fields[index].1 = (fields.map Prod.fst)[index] := by simp
    rw [entry, nodup.idxOf_getElem]
  rw [value?, position]
  simp [bound]

namespace Reads

variable (reads : format.Reads build fields record) (surplus : String)
include reads

/-- A record is read back from an object with its fields. -/
theorem read_object (isObject : IsObject members fields) :
    format.read surplus build (.object members) = .ok record := by
  have checked := forM_checkMember fun member isMember =>
    reads.checked member (isObject.mem_fields member isMember)
  rw [read, checked]
  exact reads.built (.named members) isObject.lookup_eq

/-- A record is read back from the array of its field values. -/
theorem read_array : format.read surplus build (.array (fields.map Prod.snd)) = .ok record := by
  have built := reads.built _ (gives_listed reads.names_eq reads.nodup_names)
  have length : (fields.map Prod.snd).length = format.fields.length := by
    simpa [names] using congrArg List.length reads.names_eq
  rw [read, built]
  exact if_neg (Nat.not_lt.mpr (Nat.le_of_eq length))

end Reads

end RecordFormat

/-! ## Tagged records -/

section Tagged

variable {α : Type} {title tag name : String} {known : List (String × Decoder α)}
  {decode : Decoder α} (isKnown : known.lookup name = some decode)
include isKnown

/-- A tagged record is read from an object by the decoder that the tag names. -/
theorem tagged_object {members : List (String × Json)}
    (isTag : members.lookup tag = some (.string name)) :
    tagged title tag known (.object members) =
      decode (.object (members.filter fun member => member.1 != tag)) := by
  simp only [tagged, isTag, tagName, Decoder.choose, isKnown]
  rfl

/-- A tagged record is read from an array by the decoder that its first item names. -/
theorem tagged_array (items : List Json) :
    tagged title tag known (.array (.string name :: items)) = decode (.array items) := by
  simp only [tagged, tagName, Decoder.choose, isKnown]
  rfl

end Tagged

namespace RecordFormat

variable {α β : Type} {format : RecordFormat} {build : FieldValues → Except DecodeError α}

/-- What is read can be changed while it is built. -/
theorem map_readTagged (wrap : α → β) (value : Json) :
    (format.readTagged build value).map wrap =
      format.readTagged (fun values => (build values).map wrap) value := by
  cases value with
  | object members =>
      simp only [readTagged, read]
      cases members.forM format.checkMember <;> rfl
  | array items =>
      simp only [readTagged, read]
      cases build (.listed items) with
      | error cause => rfl
      | ok record =>
          by_cases long : format.fields.length < items.length
          · simp [long, bind, Except.bind, Except.map]
          · simp [long, bind, Except.bind, Except.map]
  | _ => rfl

namespace Reads

variable {fields : List (String × Json)} {record : α} (reads : format.Reads build fields record)
  {title tag name : String} {known : List (String × Decoder α)}
  (isKnown : known.lookup name = some (format.readTagged build))
include reads isKnown

/-- A tagged record is read back from an object with its tag and its fields. -/
theorem tagged_object {members : List (String × Json)}
    (isTag : members.lookup tag = some (.string name))
    (isObject : IsObject (members.filter fun member => member.1 != tag) fields) :
    tagged title tag known (.object members) = .ok record := by
  rw [Json.tagged_object isKnown isTag, readTagged, reads.read_object _ isObject]

/-- A tagged record is read back from the array of its tag and its field values. -/
theorem tagged_array :
    tagged title tag known (.array (.string name :: fields.map Prod.snd)) = .ok record := by
  rw [Json.tagged_array isKnown, readTagged, reads.read_array]

end Reads

end RecordFormat

end QueryImpact.Json
