import QueryImpact.Json.Decode
import QueryImpact.OrderedMap

/-!
# Properties

Nodes and relationships carry scalar properties, listed by name.  An integer stays an integer and
a floating-point number stays one, also when it is whole.
-/

namespace QueryImpact

open QueryImpact.Json (Decoder DecodeError)

/-- A scalar property. -/
inductive PropertyValue where
  /-- A text. -/
  | text (value : String)
  /-- A signed integer of 64 bits. -/
  | integer (value : Int64)
  /-- A floating-point number. -/
  | float (value : Float)
  /-- A truth value. -/
  | boolean (value : Bool)
deriving DecidableEq

namespace PropertyValue

/-- The text of a text property. -/
def text? : PropertyValue → Option String
  | text value => some value
  | _ => none

/-- The number of an integer property. -/
def integer? : PropertyValue → Option Int64
  | integer value => some value
  | _ => none

/-- An unsigned integer of 32 bits as a property. -/
def ofWord32 (value : UInt32) : PropertyValue :=
  integer (Int64.ofNat value.toNat)

/-- An unsigned integer of 64 bits as a property; its upper half turns negative. -/
def ofWord64 (value : UInt64) : PropertyValue :=
  integer value.toInt64

/-- Decode a property.  An integer beyond the signed range becomes a floating-point number. -/
def decode : Decoder PropertyValue
  | .string value => .ok (text value)
  | .integer value =>
      if Int64.minValue.toInt ≤ value ∧ value ≤ Int64.maxValue.toInt then
        .ok (integer (Int64.ofInt value))
      else .ok (float (Decoder.floatOfInteger value))
  | .float value => .ok (float value)
  | .bool value => .ok (boolean value)
  | _ => .error .notAProperty

/-- The JSON form of a property. -/
def toJson : PropertyValue → Json
  | text value => .string value
  | integer value => .integer value.toInt
  | float value => .number value
  | boolean value => .bool value

end PropertyValue

/-- Properties by name. -/
abbrev Properties : Type :=
  OrderedMap String PropertyValue

namespace Properties

/-- Decode the properties of a relationship. -/
def decode : Decoder Properties
  | .object members => do
      let decoded ← members.mapM fun member => do
        let value ← PropertyValue.decode member.2
        pure (member.1, value)
      pure (OrderedMap.ofList decoded)
  | other => .error (.invalidType other.found "a map")

/-- The JSON form of properties. -/
def toJson (properties : Properties) : Json :=
  .object (properties.entries.map fun entry => (entry.1, entry.2.toJson))

end Properties

end QueryImpact
