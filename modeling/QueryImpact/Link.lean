import QueryImpact.Json.Record

/-!
# Links

Analyzers report, next to their findings, that a file depends on another file or that a method
calls another method.
-/

namespace QueryImpact

open QueryImpact.Json (RecordFormat FieldValues Field Decoder DecodeError)

/-- The two kinds of links. -/
inductive LinkKind where
  /-- A file depends on a file; both ends are paths. -/
  | dependsOn
  /-- A method calls a method; both ends are locations. -/
  | calls
deriving DecidableEq

/-- A reported link. -/
structure Link where
  /-- What the link says. -/
  kind : LinkKind
  /-- Where it starts. -/
  source : String
  /-- Where it ends. -/
  target : String
deriving DecidableEq

namespace LinkKind

/-- The name of the kind in JSON. -/
def name : LinkKind → String
  | dependsOn => "depends_on"
  | calls => "calls"

/-- How messages name the fields of a link. -/
def title : LinkKind → String
  | dependsOn => "struct variant GraphLink::DependsOn"
  | calls => "struct variant GraphLink::Calls"

end LinkKind

namespace Link

/-- The record format of the fields after the tag. -/
def format (kind : LinkKind) : RecordFormat where
  title := kind.title
  fields := [Field.of "from" Decoder.text, Field.of "to" Decoder.text]
  closed := true

/-- Build a link from its fields. -/
def ofFields (kind : LinkKind) (values : FieldValues) : Except DecodeError Link := do
  let source ← (format kind).required values "from" Decoder.text
  let target ← (format kind).required values "to" Decoder.text
  pure ⟨kind, source, target⟩

/-- Decode the fields after the tag. -/
def decodeFields (kind : LinkKind) : Decoder Link :=
  (format kind).readTagged (ofFields kind)

/-- Decode a link. -/
def decode : Decoder Link :=
  Json.tagged "GraphLink" "kind"
    [("depends_on", decodeFields .dependsOn), ("calls", decodeFields .calls)]

/-- The JSON form of a link. -/
def toJson (link : Link) : Json :=
  .object [("from", .string link.source), ("kind", .string link.kind.name),
    ("to", .string link.target)]

end Link

end QueryImpact
