/-!
# TOML values

What a settings text in the TOML format says.  The members of a table are listed in the order in
which they are first mentioned, each name once.
-/

namespace QueryImpact.Toml

/-- A TOML value. -/
inductive Value where
  /-- A text. -/
  | text (value : String)
  /-- A signed integer of 64 bits. -/
  | integer (value : Int)
  /-- A floating-point number. -/
  | float (value : Float)
  /-- A truth value. -/
  | boolean (value : Bool)
  /-- A date, a time, or both. -/
  | moment (text : String)
  /-- A list of values. -/
  | list (items : List Value)
  /-- Named values. -/
  | table (members : List (String × Value))

/-- The members of a table. -/
abbrev Table : Type :=
  List (String × Value)

end QueryImpact.Toml
