import QueryImpact.Build.Fragment
import QueryImpact.Chunk

/-!
# Drafts

A draft collects fragments.  Nodes of one kind and key are kept once, at the place of their first
mention, and absorb the later mentions; of relationships with one key the first is kept.  A report
that cannot be used is noted and changes nothing else.

A list of findings can be collected in one go, or in chunks that are collected apart and merged
in order; and reports can be given as JSON.
-/

namespace QueryImpact

/-- A finding that was left out. -/
structure SkippedFinding where
  /-- Its place among all findings. -/
  index : Nat
  /-- Its location text. -/
  location : String
  /-- Why it was left out. -/
  cause : InputError
deriving DecidableEq

/-- The parts of the graph collected so far. -/
structure Draft where
  /-- The nodes, by first mention. -/
  nodes : List Node
  /-- The relationships, by first mention. -/
  relationships : List Relationship
  /-- The findings that were left out, in order. -/
  skipped : List SkippedFinding
  /-- How many links were left out. -/
  skippedLinks : Nat
deriving DecidableEq

namespace Draft

/-- The draft without anything. -/
def empty : Draft :=
  ⟨[], [], [], 0⟩

/-- Mention a node: the node that it is the same as absorbs it, or it is new. -/
def insertNode (nodes : List Node) (node : Node) : List Node :=
  match nodes with
  | [] => [node]
  | first :: rest =>
      if first.isSame node then first.absorb node :: rest else first :: insertNode rest node

/-- Mention a relationship: it is new unless its key is already there. -/
def insertRelationship (relationships : List Relationship) (relationship : Relationship) :
    List Relationship :=
  if relationships.any fun known => known.key = relationship.key then relationships
  else relationships ++ [relationship]

/-- Collect a fragment. -/
def add (draft : Draft) (fragment : Fragment) : Draft :=
  { draft with
    nodes := fragment.nodes.foldl insertNode draft.nodes
    relationships := fragment.relationships.foldl insertRelationship draft.relationships }

/-- Note a finding that is left out. -/
def skip (draft : Draft) (index : Nat) (location : String) (cause : InputError) : Draft :=
  { draft with skipped := draft.skipped ++ [⟨index, location, cause⟩] }

/-- Collect a finding. -/
def addFinding (builder : Builder) (draft : Draft) (index : Nat) (finding : Finding) : Draft :=
  match Fragment.ofFinding builder finding with
  | .ok fragment => draft.add fragment
  | .error cause => draft.skip index finding.sourceLocation cause

/-- Collect findings whose first one has the given index. -/
def addFindings (builder : Builder) (draft : Draft) (start : Nat) : List Finding → Draft
  | [] => draft
  | finding :: rest =>
      addFindings builder (draft.addFinding builder start finding) (start + 1) rest

/-- Collect a link. -/
def addLink (builder : Builder) (draft : Draft) (link : Link) : Draft :=
  match Fragment.ofLink? builder link with
  | some fragment => draft.add fragment
  | none => { draft with skippedLinks := draft.skippedLinks + 1 }

/-- Collect findings, then links. -/
def ofReports (builder : Builder) (findings : List Finding) (links : List Link) : Draft :=
  links.foldl (addLink builder) (addFindings builder empty 0 findings)

/-- Collect findings. -/
def ofFindings (builder : Builder) (findings : List Finding) : Draft :=
  ofReports builder findings []

/-- Take over what another draft has collected. -/
def merge (draft other : Draft) : Draft where
  nodes := other.nodes.foldl insertNode draft.nodes
  relationships := other.relationships.foldl insertRelationship draft.relationships
  skipped := draft.skipped ++ other.skipped
  skippedLinks := draft.skippedLinks + other.skippedLinks

/-- Merge the drafts of consecutive chunks of the given size, the first of which has the given
number. -/
def mergeChunks (builder : Builder) (size : Nat) (draft : Draft) (number : Nat) :
    List (List Finding) → Draft
  | [] => draft
  | chunk :: rest =>
      mergeChunks builder size (draft.merge (addFindings builder empty (number * size) chunk))
        (number + 1) rest

/-- Collect findings in chunks of the given size; a size of zero counts as one. -/
def ofChunks (builder : Builder) (size : Nat) (findings : List Finding) : Draft :=
  mergeChunks builder (max size 1) empty 0 (chunks size findings)

/-- How many findings one chunk holds. -/
def chunkSize : Nat :=
  256

/-- Collect findings chunk by chunk. -/
def ofFindingsInChunks (builder : Builder) (findings : List Finding) : Draft :=
  ofChunks builder chunkSize findings

/-- The nodes of a kind. -/
def nodesOf (draft : Draft) (kind : NodeKind) : List Node :=
  draft.nodes.filter fun node => node.kind = kind

/-- The relationships of a type. -/
def relationshipsOf (draft : Draft) (type : RelationshipType) : List Relationship :=
  draft.relationships.filter fun relationship => relationship.type = type

/-! ## Reports given as JSON -/

/-- Collect the JSON form of a finding. -/
def addFindingJson (builder : Builder) (draft : Draft) (index : Nat) (value : Json) : Draft :=
  match Finding.ofJson value with
  | .ok finding => draft.addFinding builder index finding
  | .error cause =>
      draft.skip index (((value.member? "source_location").bind Json.text?).getD "") cause

/-- Collect the JSON forms of findings, the first of which has the given index. -/
def addFindingsJson (builder : Builder) (draft : Draft) (start : Nat) : List Json → Draft
  | [] => draft
  | value :: rest =>
      addFindingsJson builder (draft.addFindingJson builder start value) (start + 1) rest

/-- Collect the JSON form of a link. -/
def addLinkJson (builder : Builder) (draft : Draft) (value : Json) : Draft :=
  match Link.decode value with
  | .ok link => draft.addLink builder link
  | .error _ => { draft with skippedLinks := draft.skippedLinks + 1 }

/-- How a refused payload is named. -/
def payloadName : Json → String
  | .null => "null"
  | .bool _ => "a boolean"
  | .integer _ | .float _ => "a number"
  | .string _ => "a string"
  | .array _ => "an array"
  | .object _ => "an object"

/-- The findings and links of a payload: a list of findings, or an object with the list
`findings` and possibly the list `links`. -/
def reportsOfPayload : Json → Except InputError (List Json × List Json)
  | .array findings => .ok (findings, [])
  | payload@(.object _) =>
      match (payload.member? "findings").bind Json.items? with
      | none => .error (.payload .noFindings)
      | some findings =>
          match payload.member? "links" with
          | none | some .null => .ok (findings, [])
          | some (.array links) => .ok (findings, links)
          | some _ => .error (.payload .linksNotListed)
  | other => .error (.payload (.notACollection (payloadName other)))

/-- Collect a payload. -/
def ofPayload (builder : Builder) (payload : Json) : Except InputError Draft :=
  match reportsOfPayload payload with
  | .error cause => .error cause
  | .ok (findings, links) =>
      .ok (links.foldl (addLinkJson builder) (addFindingsJson builder empty 0 findings))

/-! ## Small laws -/

@[simp]
theorem insertNode_nil (node : Node) : insertNode [] node = [node] :=
  rfl

/-- A mention of a known node keeps kinds and keys. -/
theorem insertNode_cons_of_isSame {first : Node} {rest : List Node} {node : Node}
    (same : first.isSame node = true) :
    insertNode (first :: rest) node = first.absorb node :: rest := by
  simp only [insertNode, same, if_true]

/-- A mention passes over another node. -/
theorem insertNode_cons_of_not_isSame {first : Node} {rest : List Node} {node : Node}
    (different : first.isSame node = false) :
    insertNode (first :: rest) node = first :: insertNode rest node := by
  simp [insertNode, different]

/-- Collecting one list of findings after another is collecting them in a row. -/
theorem addFindings_append (builder : Builder) (draft : Draft) (start : Nat)
    (first second : List Finding) :
    addFindings builder draft start (first ++ second) =
      addFindings builder (addFindings builder draft start first) (start + first.length)
        second := by
  induction first generalizing draft start with
  | nil => rfl
  | cons finding rest ih =>
      simp only [List.cons_append, addFindings, ih, List.length_cons]
      rw [Nat.add_right_comm, Nat.add_assoc]

end Draft

end QueryImpact
