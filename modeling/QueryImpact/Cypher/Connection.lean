import QueryImpact.Cypher.Dialogue
import QueryImpact.Settings

/-!
# Connecting to a graph database

A connection is made when the settings are in order and the address can be used; a first statement
shows that the database answers.
-/

namespace QueryImpact.Cypher.Dialogue

/-- See whether the database answers. -/
def ping : Dialogue Unit :=
  tell (.run .ping)

/-- Make a connection: the settings and the address are checked first. -/
def connect (settings : Settings) : Dialogue Unit := do
  settings.validate.mapError StoreError.misconfigured
  let address ← (Address.ofText settings.connection.uri).mapError
    fun fault => StoreError.failed fault.message
  tell (.hello address settings.connection.user settings.connection.password)
  ping

/-- Create the elements of the schema one by one. -/
def applySchema : List SchemaElement → Dialogue Unit
  | [] => pure ()
  | element :: rest => do
      tell (.run (.schema element))
      applySchema rest

end QueryImpact.Cypher.Dialogue
