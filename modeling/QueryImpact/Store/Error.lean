import QueryImpact.Duration
import QueryImpact.Graph.Node
import QueryImpact.InputError

/-!
# Problems with the store

Causes of a failed operation on a graph store, with their wording.  Only an unavailable store is
worth a second try.
-/

namespace QueryImpact

/-- What is wrong with the settings. -/
inductive SettingsFault where
  /-- A write is asked for in batches of no element. -/
  | emptyBatches
  /-- The configured batch size is zero. -/
  | zeroBatchSize
  /-- The address of the database is blank. -/
  | blankAddress
  /-- The settings text cannot be read. -/
  | unreadable
deriving DecidableEq

/-- The wording of a settings fault. -/
def SettingsFault.message : SettingsFault → String
  | emptyBatches => "batch size must be at least 1"
  | zeroBatchSize => "batch.batch_size must be at least 1"
  | blankAddress => "graph.uri must not be empty"
  | unreadable => "invalid TOML"

/-- Why an operation on the store failed. -/
inductive StoreError where
  /-- The store cannot be reached. -/
  | unavailable (reason : String)
  /-- A key belongs to a node of another kind. -/
  | conflict (key existing : String) (attempted : NodeKind)
  /-- The operation took longer than it may. -/
  | timedOut (limit : Milliseconds)
  /-- The caller has cancelled the operation. -/
  | cancelled
  /-- The store refused the request. -/
  | failed (reason : String)
  /-- The settings are wrong. -/
  | misconfigured (fault : SettingsFault)
  /-- The input is wrong. -/
  | input (cause : InputError)
deriving DecidableEq

namespace StoreError

/-- The wording of a store error. -/
def message : StoreError → String
  | unavailable reason => "Graph store unavailable: " ++ reason
  | conflict key existing attempted =>
      "Schema conflict: key '" ++ key ++ "' belongs to a " ++ existing ++
        " node, cannot write it as " ++ attempted.label
  | timedOut limit => "Query timed out after " ++ Duration.text limit
  | cancelled => "Query cancelled"
  | failed reason => "Graph query failed: " ++ reason
  | misconfigured fault => "Configuration error: " ++ fault.message
  | input cause => cause.message

/-- Whether the same operation may succeed later. -/
def isTransient : StoreError → Bool
  | unavailable _ => true
  | _ => false

end StoreError

end QueryImpact
