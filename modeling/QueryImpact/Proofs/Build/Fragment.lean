import QueryImpact.Build.Fragment
import QueryImpact.Proofs.Build.Absorb

/-!
# What a fragment mentions

The nodes and relationships of the fragment of a finding, as membership statements: the member at
its location, its query, its issues and its entities.  Fragments mention the ends of their
relationships, with the kinds that the types prescribe.  A finding that keeps the rules has
confidences that can be compared, and so have the nodes of its fragment.
-/

namespace QueryImpact

namespace Fragment

/-! ## Fragments in a row -/

@[simp]
theorem nodes_append (first second : Fragment) :
    (first ++ second).nodes = first.nodes ++ second.nodes :=
  rfl

@[simp]
theorem relationships_append (first second : Fragment) :
    (first ++ second).relationships = first.relationships ++ second.relationships :=
  rfl

@[simp]
theorem nodes_foldr_append (fragments : List Fragment) :
    (fragments.foldr append ⟨[], []⟩).nodes = fragments.flatMap Fragment.nodes := by
  induction fragments with
  | nil => rfl
  | cons first rest ih =>
      rw [List.foldr_cons, List.flatMap_cons, ← ih]
      rfl

@[simp]
theorem relationships_foldr_append (fragments : List Fragment) :
    (fragments.foldr append ⟨[], []⟩).relationships =
      fragments.flatMap Fragment.relationships := by
  induction fragments with
  | nil => rfl
  | cons first rest ih =>
      rw [List.foldr_cons, List.flatMap_cons, ← ih]
      rfl

/-! ## The fragment of a finding -/

/-- The query of a finding at a location. -/
def queryOf (location : SourceLocation) (finding : Finding) : QueryNode :=
  queryNode location (Text.trim finding.queryText)

/-- An issue of a finding as a node. -/
def issueNode (location : SourceLocation) (finding : Finding) (issue : FindingIssue) : IssueNode :=
  .ofKind issue.kind issue.severity issue.message issue.confidence (queryOf location finding).key

/-- The nodes that a finding mentions: the member at its location, its query, its issues and its
entities. -/
theorem mem_nodes_ofLocatedFinding {storeKind : StoreKind} {location : SourceLocation}
    {finding : Finding} {node : Node} :
    node ∈ (ofLocatedFinding storeKind location finding).nodes ↔
      node = .file (location.fileNode true) ∨ node = .classDef location.classNode ∨
        node = .method location.methodNode ∨ node = .query (queryOf location finding) ∨
        (∃ issue ∈ finding.issues, node = .issue (issueNode location finding issue)) ∨
        ∃ name ∈ Query.entities (Text.trim finding.queryText),
          node = .entity (.ofName name storeKind) := by
  simp [ofLocatedFinding, SourceLocation.fragment, ofIssue, ofEntity, queryOf, issueNode,
    List.flatMap_map]

/-- The relationships that a finding mentions. -/
theorem mem_relationships_ofLocatedFinding {storeKind : StoreKind} {location : SourceLocation}
    {finding : Finding} {relationship : Relationship} :
    relationship ∈ (ofLocatedFinding storeKind location finding).relationships ↔
      relationship = .plain location.filePath location.classNode.key .contains ∨
        relationship = .plain location.classNode.key location.methodNode.key .defines ∨
        relationship =
          .plain location.methodNode.key (queryOf location finding).key .executes ∨
        (∃ issue ∈ finding.issues,
          relationship =
            .plain (queryOf location finding).key (issueNode location finding issue).key
              .hasIssue) ∨
        ∃ name ∈ Query.entities (Text.trim finding.queryText),
          relationship =
            .accesses (queryOf location finding).key (EntityNode.ofName name storeKind).key
              (operationOf (Text.trim finding.queryText)) := by
  simp [ofLocatedFinding, SourceLocation.fragment, ofIssue, ofEntity, queryOf, issueNode,
    List.flatMap_map]

/-- A finding has a fragment exactly when it keeps the rules and its location can be read. -/
theorem ofFinding_eq_ok_iff {builder : Builder} {finding : Finding} {fragment : Fragment} :
    ofFinding builder finding = .ok fragment ↔
      finding.validate = .ok () ∧ ∃ location,
        builder.parse? finding.sourceLocation = some location ∧
          fragment = ofLocatedFinding builder.storeKind location finding := by
  unfold ofFinding
  cases valid : finding.validate with
  | error cause => simp
  | ok value =>
      cases parsed : builder.parse? finding.sourceLocation with
      | none => simp
      | some location => simp [eq_comm]

end Fragment

/-! ## Ends of relationships -/

/-- Both ends of a relationship are among some nodes. -/
def Relationship.HasEnds (relationship : Relationship) (nodes : List Node) : Prop :=
  (∃ node ∈ nodes, node.key = relationship.source) ∧
    ∃ node ∈ nodes, node.key = relationship.target

/-- Ends are kept where every key is. -/
theorem Relationship.HasEnds.of_keys {relationship : Relationship} {nodes others : List Node}
    (hasEnds : relationship.HasEnds nodes)
    (keys : ∀ node ∈ nodes, ∃ other ∈ others, other.key = node.key) :
    relationship.HasEnds others := by
  obtain ⟨⟨source, sourceMember, sourceKey⟩, target, targetMember, targetKey⟩ := hasEnds
  obtain ⟨otherSource, otherSourceMember, sameSource⟩ := keys source sourceMember
  obtain ⟨otherTarget, otherTargetMember, sameTarget⟩ := keys target targetMember
  constructor
  · exact ⟨otherSource, otherSourceMember, sameSource.trans sourceKey⟩
  · exact ⟨otherTarget, otherTargetMember, sameTarget.trans targetKey⟩

/-- The kind of the nodes at which relationships of a type start. -/
def RelationshipType.sourceKind : RelationshipType → NodeKind
  | contains | dependsOn => .file
  | defines => .classDef
  | executes | calls => .method
  | accesses | hasIssue => .query

/-- The kind of the nodes at which relationships of a type end. -/
def RelationshipType.targetKind : RelationshipType → NodeKind
  | contains => .classDef
  | defines | calls => .method
  | executes => .query
  | accesses => .entity
  | hasIssue => .issue
  | dependsOn => .file

/-- Some node has the given key and kind. -/
def BindsKind (nodes : List Node) (key : String) (kind : NodeKind) : Prop :=
  ∃ node ∈ nodes, node.key = key ∧ node.kind = kind

theorem bindsKind_of_mem {nodes : List Node} {node : Node} (member : node ∈ nodes) :
    BindsKind nodes node.key node.kind :=
  ⟨node, member, rfl, rfl⟩

theorem bindsKind_append {first second : List Node} {key : String} {kind : NodeKind} :
    BindsKind (first ++ second) key kind ↔
      BindsKind first key kind ∨ BindsKind second key kind := by
  simp [BindsKind, or_and_right, exists_or]

/-- Both ends of a relationship are among some nodes, with the kinds that its type prescribes. -/
def Relationship.JoinsKinds (relationship : Relationship) (nodes : List Node) : Prop :=
  BindsKind nodes relationship.source relationship.type.sourceKind ∧
    BindsKind nodes relationship.target relationship.type.targetKind

namespace Relationship.JoinsKinds

variable {relationship : Relationship} {nodes : List Node}

theorem hasEnds (joins : relationship.JoinsKinds nodes) : relationship.HasEnds nodes := by
  obtain ⟨⟨source, sourceMember, sourceKey, _⟩, target, targetMember, targetKey, _⟩ := joins
  exact ⟨⟨source, sourceMember, sourceKey⟩, target, targetMember, targetKey⟩

/-- Ends are kept where every key is bound to the same kind. -/
theorem of_binds {others : List Node} (joins : relationship.JoinsKinds nodes)
    (binds : ∀ node ∈ nodes, BindsKind others node.key node.kind) :
    relationship.JoinsKinds others := by
  obtain ⟨⟨source, sourceMember, sourceKey, sourceKind⟩, target, targetMember, targetKey,
    targetKind⟩ := joins
  have boundSource := binds source sourceMember
  have boundTarget := binds target targetMember
  rw [sourceKey, sourceKind] at boundSource
  rw [targetKey, targetKind] at boundTarget
  exact ⟨boundSource, boundTarget⟩

end Relationship.JoinsKinds

namespace Fragment

/-- A fragment mentions the ends of its relationships, with the kinds that the types prescribe. -/
def IsTyped (fragment : Fragment) : Prop :=
  ∀ relationship ∈ fragment.relationships, relationship.JoinsKinds fragment.nodes

theorem isTyped_ofLocatedFinding (storeKind : StoreKind) (location : SourceLocation)
    (finding : Finding) : (ofLocatedFinding storeKind location finding).IsTyped := by
  intro relationship member
  have file : Node.file (location.fileNode true) ∈
      (ofLocatedFinding storeKind location finding).nodes :=
    mem_nodes_ofLocatedFinding.mpr (Or.inl rfl)
  have classDef : Node.classDef location.classNode ∈
      (ofLocatedFinding storeKind location finding).nodes :=
    mem_nodes_ofLocatedFinding.mpr (Or.inr (Or.inl rfl))
  have method : Node.method location.methodNode ∈
      (ofLocatedFinding storeKind location finding).nodes :=
    mem_nodes_ofLocatedFinding.mpr (Or.inr (Or.inr (Or.inl rfl)))
  have query : Node.query (queryOf location finding) ∈
      (ofLocatedFinding storeKind location finding).nodes :=
    mem_nodes_ofLocatedFinding.mpr (Or.inr (Or.inr (Or.inr (Or.inl rfl))))
  rcases mem_relationships_ofLocatedFinding.mp member with
    rfl | rfl | rfl | ⟨issue, issued, rfl⟩ | ⟨name, named, rfl⟩
  · exact ⟨bindsKind_of_mem file, bindsKind_of_mem classDef⟩
  · exact ⟨bindsKind_of_mem classDef, bindsKind_of_mem method⟩
  · exact ⟨bindsKind_of_mem method, bindsKind_of_mem query⟩
  · have issueMember : Node.issue (issueNode location finding issue) ∈
        (ofLocatedFinding storeKind location finding).nodes :=
      mem_nodes_ofLocatedFinding.mpr
        (Or.inr (Or.inr (Or.inr (Or.inr (Or.inl ⟨issue, issued, rfl⟩)))))
    exact ⟨bindsKind_of_mem query, bindsKind_of_mem issueMember⟩
  · have entityMember : Node.entity (.ofName name storeKind) ∈
        (ofLocatedFinding storeKind location finding).nodes :=
      mem_nodes_ofLocatedFinding.mpr
        (Or.inr (Or.inr (Or.inr (Or.inr (Or.inr ⟨name, named, rfl⟩)))))
    exact ⟨bindsKind_of_mem query, bindsKind_of_mem entityMember⟩

/-- A link has a fragment of one of two forms: two files, or the members at two locations. -/
theorem ofLink?_eq_some {builder : Builder} {link : Link} {fragment : Fragment}
    (accepted : ofLink? builder link = some fragment) :
    (∃ source target, fragment =
        ⟨[.file (linkedFile source), .file (linkedFile target)],
          [.plain source target .dependsOn]⟩) ∨
      ∃ caller callee, builder.parse? link.source = some caller ∧
        builder.parse? link.target = some callee ∧
        fragment = caller.fragment false ++ callee.fragment false ++
          ⟨[], [.plain caller.methodNode.key callee.methodNode.key .calls]⟩ := by
  unfold ofLink? at accepted
  split at accepted
  · dsimp only at accepted
    split at accepted
    · contradiction
    · exact Or.inl ⟨_, _, (Option.some.inj accepted).symm⟩
  · split at accepted
    · rename_i caller callee callerParsed calleeParsed
      exact Or.inr ⟨caller, callee, callerParsed, calleeParsed, (Option.some.inj accepted).symm⟩
    · contradiction

theorem isTyped_ofLink {builder : Builder} {link : Link} {fragment : Fragment}
    (accepted : ofLink? builder link = some fragment) : fragment.IsTyped := by
  intro relationship member
  rcases ofLink?_eq_some accepted with ⟨source, target, rfl⟩ | ⟨caller, callee, _, _, rfl⟩
  · obtain rfl := List.mem_singleton.mp member
    simp [Relationship.JoinsKinds, BindsKind, Relationship.plain, linkedFile, FileNode.ofPath,
      Node.key, Node.kind, RelationshipType.sourceKind, RelationshipType.targetKind]
  · simp only [relationships_append, SourceLocation.fragment, List.mem_append, List.mem_cons,
      List.not_mem_nil, or_false] at member
    rcases member with ((rfl | rfl) | rfl | rfl) | rfl <;>
      simp [Relationship.JoinsKinds, BindsKind, Relationship.plain, SourceLocation.fragment,
        Node.key, Node.kind, SourceLocation.fileNode, FileNode.ofPath,
        RelationshipType.sourceKind, RelationshipType.targetKind]

end Fragment

/-! ## Confidences of findings that keep the rules -/

theorem isNumber_of_checkConfidence {confidence : Option Float}
    (checked : checkConfidence confidence = .ok ()) : IsNumber confidence := by
  intro value member
  obtain rfl := Option.mem_def.mp member
  simp only [checkConfidence] at checked
  split at checked
  · rename_i bounds
    exact FloatOrder.isNaN_eq_false_of_le bounds.1
  · contradiction

theorem FindingIssue.isNumber_of_validate {issue : FindingIssue}
    (valid : issue.validate = .ok ()) : IsNumber issue.confidence := by
  unfold validate at valid
  split at valid
  · contradiction
  · exact isNumber_of_checkConfidence valid

namespace Finding

theorem forM_validate_eq_ok_iff {issues : List FindingIssue} :
    issues.forM FindingIssue.validate = .ok () ↔
      ∀ issue ∈ issues, issue.validate = .ok () := by
  induction issues with
  | nil => simp [List.forM, pure, Except.pure]
  | cons first rest ih =>
      rw [List.forall_mem_cons, ← ih]
      change (first.validate >>= fun _ => rest.forM FindingIssue.validate) = .ok () ↔ _
      cases first.validate with
      | error cause => simp [bind, Except.bind]
      | ok value => simp [bind, Except.bind]

/-- The rules of a finding, one by one. -/
theorem validate_eq_ok_iff {finding : Finding} :
    finding.validate = .ok () ↔
      Text.isBlank finding.sourceLocation = false ∧ Text.isBlank finding.queryText = false ∧
        checkConfidence finding.confidence = .ok () ∧
        ∀ issue ∈ finding.relatedIssues, issue.validate = .ok () := by
  rw [← forM_validate_eq_ok_iff]
  unfold validate
  cases Text.isBlank finding.sourceLocation with
  | true => simp [bind, Except.bind, throw, throwThe, MonadExceptOf.throw]
  | false =>
      cases Text.isBlank finding.queryText with
      | true => simp [bind, Except.bind, throw, throwThe, MonadExceptOf.throw]
      | false =>
          cases checkConfidence finding.confidence with
          | error cause => simp [bind, Except.bind]
          | ok value => simp [bind, Except.bind]

/-- The issues of a finding that keeps the rules have confidences that can be compared. -/
theorem isNumber_of_mem_issues {finding : Finding} (valid : finding.validate = .ok ())
    {issue : FindingIssue} (member : issue ∈ finding.issues) : IsNumber issue.confidence := by
  obtain ⟨_, _, checked, related⟩ := validate_eq_ok_iff.mp valid
  rcases List.mem_append.mp member with primary | attached
  · have found := Option.mem_toList.mp primary
    unfold primaryIssue? at found
    split at found
    · split at found
      · contradiction
      · obtain rfl := Option.some.inj found
        exact isNumber_of_checkConfidence checked
    · contradiction
  · exact FindingIssue.isNumber_of_validate (related issue attached)

end Finding

/-- The nodes of the fragment of a finding have confidences that can be compared. -/
theorem Fragment.comparable_of_ofFinding {builder : Builder} {finding : Finding}
    {fragment : Fragment} (accepted : ofFinding builder finding = .ok fragment) :
    ∀ node ∈ fragment.nodes, node.IsComparable := by
  obtain ⟨valid, location, _, rfl⟩ := ofFinding_eq_ok_iff.mp accepted
  intro node member
  rcases mem_nodes_ofLocatedFinding.mp member with
    rfl | rfl | rfl | rfl | ⟨issue, issueMember, rfl⟩ | ⟨name, _, rfl⟩
  · trivial
  · trivial
  · trivial
  · trivial
  · exact Finding.isNumber_of_mem_issues valid issueMember
  · trivial

end QueryImpact
