import QueryImpact.Decimal.Notation
import QueryImpact.Json.Value
import QueryImpact.Text.Quoted

/-!
# Decoding JSON into records

A decoder turns a JSON value into a value of a domain type or names the first problem it meets.
The problems are causes; their wording is in one place.
-/

namespace QueryImpact.Json

/-- What stands where something else was expected. -/
inductive Found where
  /-- The null value. -/
  | null
  /-- A truth value. -/
  | bool (value : Bool)
  /-- A whole number. -/
  | integer (value : Int)
  /-- A floating-point number. -/
  | float (value : Float)
  /-- A text. -/
  | string (value : String)
  /-- An array. -/
  | sequence
  /-- An object. -/
  | map
deriving DecidableEq

/-- The kind of a value, with its content when it is a scalar. -/
def found : Json → Found
  | null => .null
  | bool value => .bool value
  | integer value => .integer value
  | float value => .float value
  | string value => .string value
  | array _ => .sequence
  | object _ => .map

/-- How a message names what it found. -/
def Found.message : Found → String
  | null => "null"
  | bool value => if value then "boolean `true`" else "boolean `false`"
  | integer value => "integer `" ++ toString value ++ "`"
  | float value => "floating point `" ++ Decimal.exact value ++ "`"
  | string value => "string " ++ Text.quoted value
  | sequence => "sequence"
  | map => "map"

/-- Why a value cannot be decoded. -/
inductive DecodeError where
  /-- A required member is absent. -/
  | missingField (field : String)
  /-- A member that the record does not have. -/
  | unknownField (field : String) (known : List String)
  /-- A name that is not one of the alternatives. -/
  | unknownVariant (variant : String) (known : List String)
  /-- A value of the wrong kind. -/
  | invalidType (found : Found) (expected : String)
  /-- A value of the right kind outside of its range. -/
  | invalidValue (found : Found) (expected : String)
  /-- A list with too few or too many items. -/
  | invalidLength (length : Nat) (expected : String)
  /-- A property that is no scalar. -/
  | notAProperty
  /-- A severity that is not one of the five; the name is trimmed and in lower case. -/
  | unknownSeverity (name : String)
deriving DecidableEq

/-- A name between back quotes. -/
def backquoted (name : String) : String :=
  "`" ++ name ++ "`"

/-- A choice of names in a message. -/
def alternatives : List String → String
  | [only] => backquoted only
  | [first, second] => backquoted first ++ " or " ++ backquoted second
  | names => "one of " ++ ", ".intercalate (names.map backquoted)

/-- The wording of an unknown severity. -/
def unknownSeverityMessage (name : String) : String :=
  "Malformed finding: unknown severity '" ++ name ++ "'"

/-- The wording of a decoding problem. -/
def DecodeError.message : DecodeError → String
  | missingField field => "missing field " ++ backquoted field
  | unknownField field known =>
      "unknown field " ++ backquoted field ++ ", expected " ++ alternatives known
  | unknownVariant variant known =>
      "unknown variant " ++ backquoted variant ++ ", expected " ++ alternatives known
  | invalidType found expected => "invalid type: " ++ found.message ++ ", expected " ++ expected
  | invalidValue found expected =>
      "invalid value: " ++ found.message ++ ", expected " ++ expected
  | invalidLength length expected =>
      "invalid length " ++ toString length ++ ", expected " ++ expected
  | notAProperty => "data did not match any variant of untagged enum PropertyValue"
  | unknownSeverity name => unknownSeverityMessage name

/-- A partial reading of JSON values. -/
abbrev Decoder (α : Type) : Type :=
  Json → Except DecodeError α

namespace Decoder

/-- A text. -/
def text : Decoder String
  | .string value => .ok value
  | other => .error (.invalidType other.found "a string")

/-- A truth value. -/
def boolean : Decoder Bool
  | .bool value => .ok value
  | other => .error (.invalidType other.found "a boolean")

/-- The double nearest to an integer. -/
def floatOfInteger (value : Int) : Float :=
  if value < 0 then -(Float.ofNat value.natAbs) else Float.ofNat value.natAbs

/-- A number as a double; integers are converted. -/
def number : Decoder Float
  | .integer value => .ok (floatOfInteger value)
  | .float value => .ok value
  | other => .error (.invalidType other.found "f64")

/-- An unsigned integer of 32 bits. -/
def word32 : Decoder UInt32
  | .integer value =>
      if 0 ≤ value ∧ value < UInt32.size then .ok (UInt32.ofNat value.toNat)
      else .error (.invalidValue (.integer value) "u32")
  | other => .error (.invalidType other.found "u32")

/-- An unsigned integer of 64 bits. -/
def word64 : Decoder UInt64
  | .integer value =>
      if 0 ≤ value ∧ value < UInt64.size then .ok (UInt64.ofNat value.toNat)
      else .error (.invalidValue (.integer value) "u64")
  | other => .error (.invalidType other.found "u64")

/-- A value that may be null. -/
def optional {α : Type} (decode : Decoder α) : Decoder (Option α)
  | .null => .ok none
  | other => (decode other).map some

/-- An array of values. -/
def list {α : Type} (decode : Decoder α) : Decoder (List α)
  | .array items => items.mapM decode
  | other => .error (.invalidType other.found "a sequence")

/-- Look up a name among named alternatives. -/
def choose {α : Type} (known : List (String × α)) (name : String) : Except DecodeError α :=
  match known.lookup name with
  | some value => .ok value
  | none => .error (.unknownVariant name (known.map (·.1)))

/-- What may stand beside the name when an alternative is written as an object. -/
inductive UnitForm where
  /-- Only null. -/
  | null
  /-- Null or an object without members. -/
  | nullOrEmpty

/-- Whether a value is an accepted form of "nothing". -/
def UnitForm.accepts : UnitForm → Json → Bool
  | _, .null => true
  | nullOrEmpty, .object [] => true
  | _, _ => false

/-- One of several named alternatives: its name, or an object with that single name. -/
def variant {α : Type} (form : UnitForm) (known : List (String × α)) : Decoder α
  | .string name => choose known name
  | .object [(name, value)] => do
      let chosen ← choose known name
      if form.accepts value then .ok chosen else .error (.invalidType value.found "unit")
  | .object _ => .error (.invalidValue .map "map with a single key")
  | other => .error (.invalidType other.found "string or map")

end Decoder

end QueryImpact.Json
