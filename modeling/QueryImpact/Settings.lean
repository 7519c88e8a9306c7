import QueryImpact.Import
import QueryImpact.Text.Space
import QueryImpact.Toml.Document

/-!
# Settings

How to reach the graph database, how to batch writes, and the defaults of analyses.  A settings
text in the TOML format may leave out any section and any field; variables override some of
the fields.
-/

namespace QueryImpact

/-- How to reach the graph database. -/
structure ConnectionSettings where
  /-- The address. -/
  uri : String := "bolt://localhost:7687"
  /-- The user. -/
  user : String := "neo4j"
  /-- The password. -/
  password : String := "neo4j"
  /-- The name of the database. -/
  database : String := "neo4j"
  /-- The largest number of connections. -/
  maxConnections : Nat := 8
  /-- How many rows are fetched at once. -/
  fetchSize : Nat := 500
deriving DecidableEq

namespace BatchSettings

/-- Batches of a thousand, and a quarter of a second before the second try. -/
def standard : BatchSettings :=
  ⟨1000, 250⟩

end BatchSettings

/-- The defaults of analyses. -/
structure AnalysisSettings where
  /-- The largest number of steps along dependencies. -/
  maxDepth : Nat := 5
  /-- The largest number of risky files. -/
  riskyFilesLimit : Nat := 10
  /-- How long an analysis may take. -/
  timeout : Option Milliseconds := none
deriving DecidableEq

/-- All settings. -/
structure Settings where
  /-- How to reach the graph database. -/
  connection : ConnectionSettings := {}
  /-- How writes are batched. -/
  batch : BatchSettings := .standard
  /-- The defaults of analyses. -/
  analysis : AnalysisSettings := {}
deriving DecidableEq

namespace Settings

/-- Check the rules that hold for settings. -/
def validate (settings : Settings) : Except SettingsFault Unit :=
  if settings.batch.size = 0 then .error .zeroBatchSize
  else if Text.isBlank settings.connection.uri then .error .blankAddress
  else .ok ()

/-! ## Reading a settings text -/

/-- The fields of a section: by name, or one after another. -/
inductive Section where
  /-- Fields by name. -/
  | named (members : Toml.Table)
  /-- Fields in order. -/
  | listed (items : List Toml.Value)

/-- The fields that a value gives.  A date has none of the fields, so that all keep their
defaults. -/
def Section.ofValue? : Toml.Value → Option Section
  | .table members => some (.named members)
  | .list items => some (.listed items)
  | .moment _ => some (.named [])
  | _ => none

/-- The value of a field, given its place and its name. -/
def Section.find? : Section → Nat → String → Option Toml.Value
  | .named members, _, name => members.lookup name
  | .listed items, index, _ => items[index]?

/-- Read a field that may be left out. -/
def Section.read {α : Type} (fields : Section) (index : Nat) (name : String)
    (decode : Toml.Value → Option α) (initial : α) : Option α :=
  match fields.find? index name with
  | some value => decode value
  | none => some initial

/-- A text field. -/
def text? : Toml.Value → Option String
  | .text value => some value
  | _ => none

/-- A field with a natural number. -/
def natural? : Toml.Value → Option Nat
  | .integer value => if value < 0 then none else some value.toNat
  | _ => none

/-- The connection that a section describes. -/
def readConnection (fields : Section) : Option ConnectionSettings := do
  let initial : ConnectionSettings := {}
  let uri ← fields.read 0 "uri" text? initial.uri
  let user ← fields.read 1 "user" text? initial.user
  let password ← fields.read 2 "password" text? initial.password
  let database ← fields.read 3 "database" text? initial.database
  let maxConnections ← fields.read 4 "max_connections" natural? initial.maxConnections
  let fetchSize ← fields.read 5 "fetch_size" natural? initial.fetchSize
  pure { uri, user, password, database, maxConnections, fetchSize }

/-- The batching that a section describes. -/
def readBatch (fields : Section) : Option BatchSettings := do
  let size ← fields.read 0 "batch_size" natural? BatchSettings.standard.size
  let backoff ← fields.read 1 "retry_backoff_ms" natural? BatchSettings.standard.backoff
  pure { size, backoff }

/-- The defaults of analyses that a section describes. -/
def readAnalysis (fields : Section) : Option AnalysisSettings := do
  let initial : AnalysisSettings := {}
  let maxDepth ← fields.read 0 "max_depth" natural? initial.maxDepth
  let riskyFilesLimit ← fields.read 1 "risky_files_limit" natural? initial.riskyFilesLimit
  let timeout ← fields.read 2 "query_timeout_ms" (fun value => (natural? value).map some)
    initial.timeout
  pure { maxDepth, riskyFilesLimit, timeout }

/-- Read a section that may be left out. -/
def readSection {α : Type} (table : Toml.Table) (name : String) (read : Section → Option α)
    (initial : α) : Option α :=
  match table.lookup name with
  | some value => (Section.ofValue? value).bind read
  | none => some initial

/-- The settings that a table describes; unknown names are ignored. -/
def ofTable? (table : Toml.Table) : Option Settings := do
  let initial : Settings := {}
  let connection ← readSection table "graph" readConnection initial.connection
  let batch ← readSection table "batch" readBatch initial.batch
  let analysis ← readSection table "analysis" readAnalysis initial.analysis
  pure { connection, batch, analysis }

/-- The settings that a text describes. -/
def parse (text : String) : Except SettingsFault Settings :=
  match (Toml.parse? text).bind ofTable? with
  | none => .error .unreadable
  | some settings => settings.validate.map fun _ => settings

/-! ## Overriding by variables -/

/-- A number written by ASCII digits, a plus sign before them allowed, that fits in 64 bits. -/
def wordOfText? (text : String) : Option Nat :=
  let digits := match text.toList with
    | '+' :: rest => rest
    | rest => rest
  if digits ≠ [] ∧ digits.all Char.isDigit then
    let value := digits.foldl (fun value c => value * 10 + (c.toNat - '0'.toNat)) 0
    if value < UInt64.size then some value else none
  else none

/-- Override settings by variables; a batch size that is no number is ignored. -/
def override (settings : Settings) (lookup : String → Option String) : Settings where
  connection :=
    { settings.connection with
      uri := (lookup "RIPPLE_NEO4J_URI").getD settings.connection.uri
      user := (lookup "RIPPLE_NEO4J_USER").getD settings.connection.user
      password := (lookup "RIPPLE_NEO4J_PASSWORD").getD settings.connection.password
      database := (lookup "RIPPLE_NEO4J_DATABASE").getD settings.connection.database }
  batch :=
    { settings.batch with
      size := ((lookup "RIPPLE_BATCH_SIZE").bind wordOfText?).getD settings.batch.size }
  analysis := settings.analysis

/-- Override settings by variables and check them. -/
def overrideChecked (settings : Settings) (lookup : String → Option String) :
    Except SettingsFault Settings :=
  let changed := settings.override lookup
  changed.validate.map fun _ => changed

/-- The settings that a text and variables describe together; without a text, the defaults. -/
def load (text : Option String) (lookup : String → Option String) :
    Except SettingsFault Settings := do
  let settings ← match text with
    | some text => parse text
    | none => pure {}
  settings.overrideChecked lookup

/-- Why a settings file cannot be used. -/
inductive FileFault where
  /-- There is no such file. -/
  | missing
  /-- Its text is not valid. -/
  | invalid
  /-- The settings are wrong once the variables are taken into account. -/
  | wrong (fault : SettingsFault)
deriving DecidableEq

/-- The wording of a fault of the file with a path. -/
def FileFault.message (path : String) : FileFault → String
  | missing => "Failed to read config file " ++ path
  | invalid => "Invalid config file " ++ path
  | wrong fault => (StoreError.misconfigured fault).message

/-- The settings that a file with the given content and variables describe. -/
def loadFile (content : Option String) (lookup : String → Option String) :
    Except FileFault Settings :=
  match content with
  | none => .error .missing
  | some text =>
      match parse text with
      | .error _ => .error .invalid
      | .ok settings => (settings.overrideChecked lookup).mapError .wrong

/-- The JSON form of settings. -/
def toJson (settings : Settings) : Json :=
  .object
    [("analysis", .object
        [("max_depth", .count settings.analysis.maxDepth),
          ("query_timeout",
            .ofOption (fun span => .string (Duration.text span)) settings.analysis.timeout),
          ("risky_files_limit", .count settings.analysis.riskyFilesLimit)]),
      ("batch", .object
        [("batch_size", .count settings.batch.size),
          ("retry_backoff", .string (Duration.text settings.batch.backoff)),
          ("retry_backoff_ms", .count settings.batch.backoff)]),
      ("graph", .object
        [("database", .string settings.connection.database),
          ("fetch_size", .count settings.connection.fetchSize),
          ("max_connections", .count settings.connection.maxConnections),
          ("password", .string settings.connection.password),
          ("uri", .string settings.connection.uri),
          ("user", .string settings.connection.user)])]

end Settings

end QueryImpact
