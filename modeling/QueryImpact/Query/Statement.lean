import QueryImpact.Text.Space
import QueryImpact.Text.WordCharacter

/-!
# Statement types and complexity

A query text is looked at as a sequence of words, maximal runs of ASCII letters and underscores
in any letter case.  The first word tells the type of the statement.  Its complexity is one, plus
the joins, the nested selects and the boolean connectives.
-/

namespace QueryImpact.Query

open QueryImpact.Text

/-- The type of a statement. -/
inductive StatementType where
  /-- Reads rows. -/
  | select
  /-- Adds rows. -/
  | insert
  /-- Changes rows. -/
  | update
  /-- Removes rows. -/
  | delete
  /-- Several statements at once. -/
  | batch
  /-- Anything else. -/
  | unknown
deriving DecidableEq

namespace StatementType

/-- The name of the type. -/
def name : StatementType → String
  | select => "SELECT"
  | insert => "INSERT"
  | update => "UPDATE"
  | delete => "DELETE"
  | batch => "BATCH"
  | unknown => "UNKNOWN"

/-- All types. -/
def all : List StatementType :=
  [select, insert, update, delete, batch, unknown]

/-- Whether statements of the type only read. -/
def isRead (type : StatementType) : Bool :=
  type = select

end StatementType

theorem length_dropWhile_le {α : Type} (p : α → Bool) (list : List α) :
    (list.dropWhile p).length ≤ list.length := by
  induction list with
  | nil => exact Nat.le_refl _
  | cons first rest ih =>
      rw [List.dropWhile_cons]
      split
      · exact Nat.le_succ_of_le ih
      · exact Nat.le_refl _

/-- The maximal runs of characters that satisfy a predicate. -/
def runs (p : Char → Bool) : List Char → List (List Char)
  | [] => []
  | c :: rest =>
      if p c then (c :: rest.takeWhile p) :: runs p (rest.dropWhile p) else runs p rest
termination_by chars => chars.length
decreasing_by
  · exact Nat.lt_succ_of_le (length_dropWhile_le p rest)
  · exact Nat.lt_succ_self _

/-- The words of a text, in upper case. -/
def words (text : List Char) : List String :=
  (runs isPlainLetter text).map fun word => String.ofList (word.map Char.toUpper)

/-- The type told by the words of a statement.  A batch may be opened by `BEGIN` with at most one
word before `BATCH`. -/
def StatementType.ofWords : List String → StatementType
  | [] => .unknown
  | first :: rest =>
      match first with
      | "SELECT" => .select
      | "INSERT" => .insert
      | "UPDATE" => .update
      | "DELETE" => .delete
      | "BATCH" => .batch
      | "BEGIN" => if "BATCH" ∈ rest.take 2 then .batch else .unknown
      | _ => .unknown

/-- The type of a statement. -/
def statementType (text : String) : StatementType :=
  .ofWords (words (trimChars text.toList))

/-- The complexity of a statement: one, plus its joins, its nested selects and its boolean
connectives.  The select that makes the statement a `SELECT` is not nested. -/
def complexity (text : String) : Nat :=
  let found := words text.toList
  let selects := found.count "SELECT"
  let nested := if statementType text = .select then selects - 1 else selects
  1 + found.count "JOIN" + nested + (found.count "AND" + found.count "OR")

end QueryImpact.Query
