/-!
# JSON values

Integers and floating-point numbers are kept apart: a number without fraction and exponent is
an integer as long as it fits in 64 bits.  The members of an object are listed by increasing
key, each key once.
-/

namespace QueryImpact

/-- A JSON value. -/
inductive Json where
  /-- The null value. -/
  | null
  /-- A truth value. -/
  | bool (value : Bool)
  /-- A whole number. -/
  | integer (value : Int)
  /-- A floating-point number. -/
  | float (value : Float)
  /-- A text. -/
  | string (value : String)
  /-- A list of values. -/
  | array (items : List Json)
  /-- Named values, by increasing name. -/
  | object (members : List (String × Json))
deriving Inhabited

namespace Json

/-- The member of an object with a given name. -/
def member? (name : String) : Json → Option Json
  | object members => members.lookup name
  | _ => none

/-- The text of a string value. -/
def text? : Json → Option String
  | string value => some value
  | _ => none

/-- The items of an array. -/
def items? : Json → Option (List Json)
  | array items => some items
  | _ => none

/-- A value that may be absent; absence is the null value. -/
def ofOption {α : Type} (encode : α → Json) : Option α → Json
  | none => null
  | some value => encode value

/-- A floating-point number; one that is not finite has no notation and is written as null. -/
def number (value : Float) : Json :=
  if value.isFinite then float value else null

/-- A count. -/
def count (n : Nat) : Json :=
  integer n

/-- A list of texts. -/
def texts (values : List String) : Json :=
  array (values.map string)

end Json

end QueryImpact
