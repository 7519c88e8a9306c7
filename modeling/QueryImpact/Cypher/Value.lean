import QueryImpact.Graph.Property

/-!
# Values that travel with a statement

What is sent to a graph database beside the text of a statement: scalars, lists and maps.  Every
floating-point number can be sent, also one that is not finite.
-/

namespace QueryImpact.Cypher

/-- A value that is sent with a statement. -/
inductive Value where
  /-- A text. -/
  | text (value : String)
  /-- A signed integer of 64 bits. -/
  | integer (value : Int64)
  /-- A floating-point number. -/
  | float (value : Float)
  /-- A truth value. -/
  | boolean (value : Bool)
  /-- A list of values. -/
  | list (items : List Value)
  /-- Values by name. -/
  | map (entries : List (String × Value))

namespace Value

/-- A list of texts. -/
def texts (values : List String) : Value :=
  list (values.map text)

/-- A property as it is sent. -/
def ofProperty : PropertyValue → Value
  | .text value => text value
  | .integer value => integer value
  | .float value => float value
  | .boolean value => boolean value

/-- Properties as they are sent. -/
def ofProperties (properties : Properties) : Value :=
  map (properties.entries.map fun entry => (entry.1, ofProperty entry.2))

end Value

end QueryImpact.Cypher
