import QueryImpact.Cypher.Address
import QueryImpact.Cypher.Row
import QueryImpact.Cypher.Statement

/-!
# The dialogue with a graph database

Messages to a graph database and programs of such messages.  A script says which messages are sent
and nothing about who answers them, so what is shown about a script holds for every sequence of
replies.  A dialogue is a script that ends at its first error.
-/

namespace QueryImpact.Cypher

/-- Why the database did not do as asked. -/
inductive LinkFault where
  /-- The connection is lost or cannot be made. -/
  | lost (reason : String)
  /-- The database refused. -/
  | refused (reason : String)
deriving DecidableEq

/-- The error of the operation that met a fault. -/
def LinkFault.toStoreError : LinkFault → StoreError
  | lost reason => .unavailable reason
  | refused reason => .failed reason

/-- A message to the database. -/
inductive Exchange where
  /-- Make the connection. -/
  | hello (address : Address) (user password : String)
  /-- Begin a transaction. -/
  | begin
  /-- Run a statement. -/
  | run (statement : Statement)
  /-- Commit the transaction. -/
  | commit
  /-- Give the transaction up. -/
  | rollback
deriving DecidableEq

/-- What a message is answered with: rows, of which only a statement has any. -/
abbrev Reply : Type :=
  Except LinkFault (List Row)

/-- A program of messages to the database. -/
abbrev Script : Type → Type :=
  Program Exchange fun _ => Reply

/-- Run a script against given replies: its result, and the messages it sent.  Once the replies are
used up a message is answered without rows. -/
def Script.rehearse {α : Type} : Script α → List Reply → α × List Exchange
  | .done value, _ => (value, [])
  | .call message next, [] =>
      let rest := Script.rehearse (next (.ok [])) []
      (rest.1, message :: rest.2)
  | .call message next, reply :: replies =>
      let rest := Script.rehearse (next reply) replies
      (rest.1, message :: rest.2)

/-- A dialogue that ends with a result or at its first error. -/
abbrev Dialogue : Type → Type :=
  ExceptT StoreError Script

namespace Dialogue

/-- Send a message. -/
def send (message : Exchange) : Dialogue (List Row) :=
  ExceptT.mk (.call message fun reply => .done (reply.mapError LinkFault.toStoreError))

/-- Send a message whose answer has no rows. -/
def tell (message : Exchange) : Dialogue Unit := do
  let _ ← send message

/-- Run a statement. -/
def fetch (statement : Statement) : Dialogue (List Row) :=
  send (.run statement)

/-- Run a statement and read every row. -/
def fetchAll {α : Type} (statement : Statement) (read : Row → Except StoreError α) :
    Dialogue (List α) := do
  let rows ← fetch statement
  (rows.mapM read : Except StoreError (List α))

/-- Run a statement and read a count from its first row. -/
def fetchCount (statement : Statement) (column : String) : Dialogue Nat := do
  let rows ← fetch statement
  Row.firstCount rows column

end Dialogue

end QueryImpact.Cypher
