import Mathlib
import QueryImpact.Proofs.Build.Collected

/-!
# Methods, queries and issues have one owner

The key of a method starts with the key of its class, the key of a query with that of its method and
the key of an issue with that of its query.  At locations that the strategies for Java and Python
read, these beginnings can be told from the keys, although paths may hold colons there or number
signs here, and kinds of issues may hold any mark.  So everything that is mentioned under one key is
mentioned with one owner, and a draft has one relationship that leads from the owner.
-/

namespace QueryImpact

open QueryImpact.Text

/-! ## Behind some colons -/

/-- What follows the first few colons of a text. -/
def afterColons : Nat → List Char → List Char
  | 0, chars => chars
  | count + 1, chars =>
      match cutFirst ':' chars with
      | some (_, rest) => afterColons count rest
      | none => []

theorem afterColons_append_cons {left : List Char} (free : ':' ∉ left) (count : Nat)
    (right : List Char) :
    afterColons (count + 1) (left ++ ':' :: right) = afterColons count right := by
  rw [afterColons, cutFirst_append_cons free]

theorem afterColons_subset (count : Nat) (chars : List Char) : afterColons count chars ⊆ chars := by
  induction count generalizing chars with
  | zero => exact List.Subset.refl chars
  | succ count ih =>
      rw [afterColons]
      split
      · rename_i rest cut
        exact List.Subset.trans (ih rest) (subset_of_cutFirst cut).2
      · exact List.nil_subset chars

/-- A text with enough colons can go on. -/
theorem afterColons_append {count : Nat} {chars : List Char} (enough : count ≤ chars.count ':')
    (rest : List Char) : afterColons count (chars ++ rest) = afterColons count chars ++ rest := by
  induction count generalizing chars with
  | zero => rfl
  | succ count ih =>
      -- The first colon is in the text itself, so the rest has one colon less to offer.
      cases cut : cutFirst ':' chars with
      | none =>
          have none := List.count_eq_zero_of_not_mem (cutFirst_eq_none_iff.mp cut)
          omega
      | some parts =>
          obtain ⟨rfl, free⟩ := cutFirst_eq_some_iff.mp cut
          rw [List.count_append, List.count_eq_zero_of_not_mem free, List.count_cons_self] at enough
          rw [List.append_assoc, List.cons_append, afterColons_append_cons free,
            afterColons_append_cons free, ih (by omega)]

/-! ## Locations whose keys can be told apart -/

/-- A location whose marks tell where the signature of its method and where the key of its method
end. -/
structure SourceLocation.IsMarked (location : SourceLocation) : Prop where
  /-- No colon in the signature. -/
  signature : ':' ∉ location.signature.toList
  /-- No number sign in the key of the method, behind its first four colons. -/
  unnumbered : '#' ∉ afterColons 4 location.methodNode.key.toList

/-- Where nothing holds a colon, the four colons are those that the key is made with. -/
theorem SourceLocation.IsPlain.isMarked {location : SourceLocation} (plain : location.IsPlain) :
    location.IsMarked where
  signature := plain.signature
  unnumbered := by
    rw [KeyParts.toList_methodKey, afterColons_append_cons plain.filePath]
    rw [← List.nil_append (':' :: _), afterColons_append_cons List.not_mem_nil,
      afterColons_append_cons plain.className, ← List.nil_append (':' :: _),
      afterColons_append_cons List.not_mem_nil]
    exact plain.unnumbered

theorem QualifiedStrategy.isMarked_of_parse {strategy : QualifiedStrategy} {text : String}
    {place : SourceLocation} (parsed : strategy.parse? text = some place)
    (free : ∀ extension ∈ strategy.extension, '#' ∉ extension.toList) : place.IsMarked := by
  have inPath := number_not_mem_filePath parsed free
  have inClass := mark_not_mem_className parsed (Or.inr rfl) inPath
  obtain ⟨colon, inSignature⟩ := marks_not_mem_signature parsed
  constructor
  · exact colon
  · intro member
    -- There is no number sign in the whole key.
    have inKey := afterColons_subset 4 _ member
    rw [KeyParts.toList_methodKey] at inKey
    simp [inPath, inClass, inSignature] at inKey

/-- What the strategies for Java and Python read is marked. -/
theorem Builder.isMarked_of_parse {builder : Builder}
    (known : ∀ strategy ∈ builder.strategies, strategy = .java ∨ strategy = .python)
    {text : String} {place : SourceLocation} (parsed : builder.parse? text = some place) :
    place.IsMarked := by
  obtain ⟨strategy, member, read⟩ := List.exists_of_findSome?_eq_some parsed
  rcases known strategy member with rfl | rfl
  · apply QualifiedStrategy.isMarked_of_parse read
    simp [QualifiedStrategy.java]
  · exact (PythonLocation.isPlain_of_parse read).isMarked

/-! ## Keys tell owners -/

/-- The key of a method tells its class. -/
theorem SourceLocation.classKey_eq_of_methodKey_eq {first second : SourceLocation}
    (firstMarked : first.IsMarked) (secondMarked : second.IsMarked)
    (same : first.methodNode.key = second.methodNode.key) :
    first.classNode.key = second.classNode.key := by
  have cut : ∀ location : SourceLocation, location.IsMarked →
      cutLast ':' location.methodNode.key.toList =
        some (location.classNode.key.toList ++ [':'], location.signature.toList) := by
    intro location marked
    have chars : location.methodNode.key.toList =
        (location.classNode.key.toList ++ [':']) ++ ':' :: location.signature.toList := by
      simp [methodNode, MethodNode.ofSignature]
    rw [chars, cutLast_append_cons marked.signature]
  have parts := cut first firstMarked
  rw [same, cut second secondMarked, Option.some.injEq, Prod.mk.injEq] at parts
  exact (String.toList_inj.mp (List.append_cancel_right parts.1)).symm

/-- The key of a query tells its method. -/
theorem Fragment.methodKey_eq_of_queryKey_eq {first second : SourceLocation}
    {finding other : Finding} (same : (queryOf first finding).key = (queryOf second other).key) :
    first.methodNode.key = second.methodNode.key := by
  have parts := KeyParts.cutLast_queryKey first finding
  rw [same, KeyParts.cutLast_queryKey, Option.some.injEq, Prod.mk.injEq] at parts
  have cut := congrArg (cutLast '@') parts.1
  rw [cutLast_append_cons (not_mem_lineDigits second.line (by decide)),
    cutLast_append_cons (not_mem_lineDigits first.line (by decide)), Option.some.injEq,
    Prod.mk.injEq] at cut
  exact (String.toList_inj.mp cut.1).symm

/-- The kind of the issue with a key: it starts at the first exclamation mark behind the first
number sign behind four colons. -/
def issueKind? (key : List Char) : Option (List Char) :=
  (cutFirst '#' (afterColons 4 key)).bind fun parts => (cutFirst '!' parts.2).map Prod.snd

theorem issueKind?_issueKey {location : SourceLocation} (marked : location.IsMarked)
    (finding : Finding) (issue : FindingIssue) :
    issueKind? (Fragment.issueNode location finding issue).key.toList =
      some issue.kind.toList := by
  let digest := (Digest.textIdentifier (trim finding.queryText)).toList
  have chars : (Fragment.issueNode location finding issue).key.toList =
      location.methodNode.key.toList ++ ('@' :: lineDigits location.line ++
        '#' :: (digest ++ '!' :: issue.kind.toList)) := by
    simp [KeyParts.toList_issueKey, KeyParts.toList_queryKey, digest]
  have enough : 4 ≤ location.methodNode.key.toList.count ':' := by
    rw [KeyParts.toList_methodKey]
    simp only [List.count_append, List.count_cons_self]
    omega
  rw [issueKind?, chars, afterColons_append enough, ← List.append_assoc,
    cutFirst_append_cons (KeyParts.number_not_mem_place marked.unnumbered location.line),
    Option.bind_some, cutFirst_append_cons (KeyParts.mark_not_mem_digest _), Option.map_some]

/-- The key of an issue tells its query. -/
theorem Fragment.queryKey_eq_of_issueKey_eq {first second : SourceLocation}
    (firstMarked : first.IsMarked) (secondMarked : second.IsMarked) {finding other : Finding}
    {issue otherIssue : FindingIssue}
    (same : (issueNode first finding issue).key = (issueNode second other otherIssue).key) :
    (queryOf first finding).key = (queryOf second other).key := by
  have kinds := issueKind?_issueKey firstMarked finding issue
  rw [same, issueKind?_issueKey secondMarked, Option.some.injEq] at kinds
  have chars := congrArg String.toList same
  rw [KeyParts.toList_issueKey, KeyParts.toList_issueKey, kinds] at chars
  exact String.toList_inj.mp (List.append_cancel_right chars)

/-! ## Ownership -/

/-- Relationships of the type lead to a node from what it belongs to. -/
def RelationshipType.IsOwning (type : RelationshipType) : Prop :=
  type = .defines ∨ type = .executes ∨ type = .hasIssue

namespace Node

/-- The relationship that leads to a node from what it belongs to. -/
def ownership? : Node → Option Relationship
  | method node => some (.plain node.classRef node.key .defines)
  | query node => some (.plain node.methodRef node.key .executes)
  | issue node => some (.plain node.queryRef node.key .hasIssue)
  | file _ | classDef _ | entity _ => none

@[simp]
theorem ownership?_absorb (first second : Node) :
    (first.absorb second).ownership? = first.ownership? := by
  cases first <;> cases second <;> rfl

/-- It ends at the node, and its type tells the kind of the node. -/
theorem of_ownership? {node : Node} {relationship : Relationship}
    (owned : node.ownership? = some relationship) :
    relationship.type.IsOwning ∧ relationship.target = node.key ∧
      relationship.type.targetKind = node.kind := by
  cases node with
  | file _ | classDef _ | entity _ => contradiction
  | method _ =>
      obtain rfl := Option.some.inj owned
      exact ⟨Or.inl rfl, rfl, rfl⟩
  | query _ =>
      obtain rfl := Option.some.inj owned
      exact ⟨Or.inr (Or.inl rfl), rfl, rfl⟩
  | issue _ =>
      obtain rfl := Option.some.inj owned
      exact ⟨Or.inr (Or.inr rfl), rfl, rfl⟩

/-- A node that belongs to another one, as a location, a finding or an issue gives it. -/
inductive IsOwned : Node → Prop
  /-- The method at a location. -/
  | method {location : SourceLocation} (marked : location.IsMarked) :
      IsOwned (.method location.methodNode)
  /-- The query of a finding. -/
  | query (location : SourceLocation) (finding : Finding) :
      IsOwned (.query (Fragment.queryOf location finding))
  /-- An issue of a finding. -/
  | issue {location : SourceLocation} (marked : location.IsMarked) (finding : Finding)
      (issue : FindingIssue) : IsOwned (.issue (Fragment.issueNode location finding issue))

/-- Nodes of one kind and one key belong to the same. -/
theorem IsOwned.ownership?_eq {first second : Node} (firstOwned : first.IsOwned)
    (secondOwned : second.IsOwned) (same : first.isSame second = true) :
    first.ownership? = second.ownership? := by
  obtain ⟨sameKind, sameKey⟩ := isSame_iff.mp same
  cases firstOwned with
  | @method location marked =>
      cases secondOwned with
      | @method other otherMarked =>
          have owners := SourceLocation.classKey_eq_of_methodKey_eq marked otherMarked sameKey
          exact congrArg some (congrArg₂ (Relationship.plain · · .defines) owners sameKey)
      | query other finding => cases sameKind
      | issue otherMarked finding issue => cases sameKind
  | query location finding =>
      cases secondOwned with
      | query other otherFinding =>
          have owners := Fragment.methodKey_eq_of_queryKey_eq sameKey
          exact congrArg some (congrArg₂ (Relationship.plain · · .executes) owners sameKey)
      | method otherMarked => cases sameKind
      | issue otherMarked finding issue => cases sameKind
  | @issue location marked finding issue =>
      cases secondOwned with
      | @issue other otherMarked otherFinding otherIssue =>
          have owners := Fragment.queryKey_eq_of_issueKey_eq marked otherMarked sameKey
          exact congrArg some (congrArg₂ (Relationship.plain · · .hasIssue) owners sameKey)
      | method otherMarked => cases sameKind
      | query other otherFinding => cases sameKind

end Node

namespace SourceLocation

variable {location : SourceLocation} {isTarget : Bool}

/-- Of the member at a location, the method belongs to something. -/
theorem isOwned_of_mem_fragment (marked : location.IsMarked) {node : Node}
    (member : node ∈ (location.fragment isTarget).nodes) {relationship : Relationship}
    (owned : node.ownership? = some relationship) :
    node.IsOwned ∧ relationship ∈ (location.fragment isTarget).relationships := by
  simp only [fragment, List.mem_cons, List.not_mem_nil, or_false] at member
  rcases member with rfl | rfl | rfl
  · contradiction
  · contradiction
  · obtain rfl := Option.some.inj owned
    exact ⟨.method marked, List.mem_cons_of_mem _ List.mem_cons_self⟩

theorem exists_owned_of_mem_fragment {relationship : Relationship}
    (member : relationship ∈ (location.fragment isTarget).relationships)
    (owning : relationship.type.IsOwning) :
    ∃ node ∈ (location.fragment isTarget).nodes, node.ownership? = some relationship := by
  simp only [fragment, List.mem_cons, List.not_mem_nil, or_false] at member
  rcases member with rfl | rfl
  · exact absurd owning (by simp [RelationshipType.IsOwning, Relationship.plain])
  · exact ⟨.method location.methodNode, by simp [fragment], rfl⟩

end SourceLocation

namespace Builder

variable {builder : Builder} {fragment : Fragment}

/-- What a fragment mentions as belonging to something, it mentions with the relationship. -/
theorem Yields.isOwned (yields : builder.Yields fragment)
    (known : ∀ strategy ∈ builder.strategies, strategy = .java ∨ strategy = .python) {node : Node}
    (member : node ∈ fragment.nodes) {relationship : Relationship}
    (owned : node.ownership? = some relationship) :
    node.IsOwned ∧ relationship ∈ fragment.relationships := by
  cases yields with
  | ofFinding finding accepted =>
      obtain ⟨_, location, parsed, rfl⟩ := Fragment.ofFinding_eq_ok_iff.mp accepted
      have marked := isMarked_of_parse known parsed
      rw [Fragment.mem_relationships_ofLocatedFinding]
      rcases Fragment.mem_nodes_ofLocatedFinding.mp member with
        rfl | rfl | rfl | rfl | ⟨issue, issued, rfl⟩ | ⟨name, -, rfl⟩
      · contradiction
      · contradiction
      · obtain rfl := Option.some.inj owned
        exact ⟨.method marked, Or.inr (Or.inl rfl)⟩
      · obtain rfl := Option.some.inj owned
        exact ⟨.query location finding, Or.inr (Or.inr (Or.inl rfl))⟩
      · obtain rfl := Option.some.inj owned
        exact ⟨.issue marked finding issue,
          Or.inr (Or.inr (Or.inr (Or.inl ⟨issue, issued, rfl⟩)))⟩
      · contradiction
  | ofLink link accepted =>
      rcases Fragment.ofLink?_eq_some accepted with
        ⟨source, target, rfl⟩ | ⟨caller, callee, callerParsed, calleeParsed, rfl⟩
      · simp only [List.mem_cons, List.not_mem_nil, or_false] at member
        rcases member with rfl | rfl
        · contradiction
        · contradiction
      · simp only [Fragment.nodes_append, Fragment.relationships_append, List.append_nil,
          List.mem_append] at member ⊢
        rcases member with ofCaller | ofCallee
        · obtain ⟨isOwned, mentioned⟩ := SourceLocation.isOwned_of_mem_fragment
            (isMarked_of_parse known callerParsed) ofCaller owned
          exact ⟨isOwned, Or.inl (Or.inl mentioned)⟩
        · obtain ⟨isOwned, mentioned⟩ := SourceLocation.isOwned_of_mem_fragment
            (isMarked_of_parse known calleeParsed) ofCallee owned
          exact ⟨isOwned, Or.inl (Or.inr mentioned)⟩

/-- A relationship from an owner comes with the node that it leads to. -/
theorem Yields.exists_owned (yields : builder.Yields fragment) {relationship : Relationship}
    (member : relationship ∈ fragment.relationships) (owning : relationship.type.IsOwning) :
    ∃ node ∈ fragment.nodes, node.ownership? = some relationship := by
  cases yields with
  | ofFinding finding accepted =>
      obtain ⟨_, location, _, rfl⟩ := Fragment.ofFinding_eq_ok_iff.mp accepted
      simp only [Fragment.mem_nodes_ofLocatedFinding]
      rcases Fragment.mem_relationships_ofLocatedFinding.mp member with
        rfl | rfl | rfl | ⟨issue, issued, rfl⟩ | ⟨name, -, rfl⟩
      · exact absurd owning (by simp [RelationshipType.IsOwning, Relationship.plain])
      · exact ⟨_, Or.inr (Or.inr (Or.inl rfl)), rfl⟩
      · exact ⟨_, Or.inr (Or.inr (Or.inr (Or.inl rfl))), rfl⟩
      · exact ⟨_, Or.inr (Or.inr (Or.inr (Or.inr (Or.inl ⟨issue, issued, rfl⟩)))), rfl⟩
      · exact absurd owning (by simp [RelationshipType.IsOwning, Relationship.accesses])
  | ofLink link accepted =>
      rcases Fragment.ofLink?_eq_some accepted with
        ⟨source, target, rfl⟩ | ⟨caller, callee, _, _, rfl⟩
      · obtain rfl := List.mem_singleton.mp member
        exact absurd owning (by simp [RelationshipType.IsOwning, Relationship.plain])
      · simp only [Fragment.nodes_append, Fragment.relationships_append, List.append_nil,
          List.mem_append, List.mem_singleton] at member ⊢
        rcases member with (ofCaller | ofCallee) | rfl
        · obtain ⟨node, mentioned, owned⟩ :=
            SourceLocation.exists_owned_of_mem_fragment ofCaller owning
          exact ⟨node, Or.inl mentioned, owned⟩
        · obtain ⟨node, mentioned, owned⟩ :=
            SourceLocation.exists_owned_of_mem_fragment ofCallee owning
          exact ⟨node, Or.inr mentioned, owned⟩
        · exact absurd owning (by simp [RelationshipType.IsOwning, Relationship.plain])

end Builder

/-! ## Owners in drafts -/

namespace Draft

variable {builder : Builder} {draft : Draft}

/-- A relationship of a draft comes from a fragment. -/
theorem Collected.exists_fragment (collected : draft.Collected builder)
    {relationship : Relationship} (member : relationship ∈ draft.relationships) :
    ∃ fragment, builder.Yields fragment ∧ relationship ∈ fragment.relationships := by
  induction collected with
  | empty => exact absurd member List.not_mem_nil
  | @add draft fragment collected yields ih =>
      rcases mem_of_mem_foldl_insertRelationship member with before | mentioned
      · exact ih before
      · exact ⟨fragment, yields, mentioned⟩
  | leaveOut collected skipped skippedLinks ih => exact ih member

/-- A node of a draft is mentioned in a fragment, with what absorbing leaves alone, and the draft
has the keys of all relationships of that fragment. -/
theorem Collected.exists_mention {β : Type} (collected : draft.Collected builder)
    (view : Node → β) (stable : ∀ first second, view (first.absorb second) = view first)
    {node : Node} (member : node ∈ draft.nodes) :
    ∃ fragment, builder.Yields fragment ∧
      (∃ mention ∈ fragment.nodes, view mention = view node) ∧
      ∀ relationship ∈ fragment.relationships,
        ∃ known ∈ draft.relationships, known.key = relationship.key := by
  induction collected generalizing node with
  | empty => exact absurd member List.not_mem_nil
  | @add draft fragment collected yields ih =>
      rcases exists_mention_of_mem view stable member with ⟨mention, before | here, same⟩
      · obtain ⟨earlier, earlierYields, ⟨first, mentioned, sameFirst⟩, kept⟩ := ih before
        refine ⟨earlier, earlierYields, ⟨first, mentioned, sameFirst.trans same⟩, ?_⟩
        intro relationship inEarlier
        exact (exists_key_foldl_insertRelationship _ _ _).mpr
          (Or.inl (kept relationship inEarlier))
      · refine ⟨fragment, yields, ⟨mention, here, same⟩, ?_⟩
        intro relationship inFragment
        exact (exists_key_foldl_insertRelationship _ _ _).mpr
          (Or.inr ⟨relationship, inFragment, rfl⟩)
  | leaveOut collected skipped skippedLinks ih => exact ih member

/-- The relationships of a type that lead to a key. -/
def incoming (draft : Draft) (type : RelationshipType) (key : String) : List Relationship :=
  (draft.relationshipsOf type).filter fun relationship => relationship.target = key

theorem mem_incoming_iff {type : RelationshipType} {key : String} {relationship : Relationship} :
    relationship ∈ draft.incoming type key ↔
      relationship ∈ draft.relationships ∧ relationship.type = type ∧
        relationship.target = key := by
  rw [incoming, List.mem_filter, relationshipsOf, List.mem_filter, decide_eq_true_eq,
    decide_eq_true_eq, and_assoc]

/-- Where one relationship at most leads to a key, it stands there once. -/
theorem Collected.incoming_eq_singleton (collected : draft.Collected builder)
    {type : RelationshipType} {key : String} {relationship : Relationship}
    (isIncoming : relationship ∈ draft.incoming type key)
    (unique : ∀ other ∈ draft.incoming type key, other = relationship) :
    draft.incoming type key = [relationship] := by
  have nodup : (draft.incoming type key).Nodup :=
    ((collected.nodup_keys.of_map _).filter _).filter _
  rw [← List.perm_singleton, List.perm_ext_iff_of_nodup nodup (List.nodup_singleton _)]
  intro other
  rw [List.mem_singleton]
  constructor
  · exact unique other
  · rintro rfl
    exact isIncoming

/-- The one relationship of its type that leads to a node is the one from what it belongs to. -/
theorem Collected.incoming_eq (collected : draft.Collected builder)
    (known : ∀ strategy ∈ builder.strategies, strategy = .java ∨ strategy = .python) {node : Node}
    (member : node ∈ draft.nodes) {relationship : Relationship}
    (owned : node.ownership? = some relationship) :
    draft.incoming relationship.type node.key = [relationship] := by
  obtain ⟨owning, target, kind⟩ := Node.of_ownership? owned
  obtain ⟨fragment, yields, ⟨mention, mentioned, sameView⟩, kept⟩ :=
    collected.exists_mention (fun node => (node.kind, node.key, node.ownership?)) (by simp) member
  simp only [Prod.mk.injEq] at sameView
  obtain ⟨mentionKind, mentionKey, mentionOwned⟩ := sameView
  rw [owned] at mentionOwned
  obtain ⟨mentionIsOwned, inFragment⟩ := yields.isOwned known mentioned mentionOwned
  have unique : ∀ other ∈ draft.incoming relationship.type node.key, other = relationship := by
    -- Another one comes with a node of the same kind and key, and that belongs to the same.
    intro other isIncoming
    obtain ⟨otherMember, sameType, otherTarget⟩ := mem_incoming_iff.mp isIncoming
    obtain ⟨second, secondYields, inSecond⟩ := collected.exists_fragment otherMember
    obtain ⟨otherNode, otherMentioned, otherOwned⟩ :=
      secondYields.exists_owned inSecond (sameType ▸ owning)
    obtain ⟨otherIsOwned, -⟩ := secondYields.isOwned known otherMentioned otherOwned
    obtain ⟨-, otherNodeTarget, otherKind⟩ := Node.of_ownership? otherOwned
    have same : otherNode.isSame mention = true := by
      rw [Node.isSame_iff, mentionKind, mentionKey, ← otherKind, ← otherNodeTarget, sameType, kind]
      exact ⟨rfl, otherTarget⟩
    have sameOwnership := otherIsOwned.ownership?_eq mentionIsOwned same
    rw [otherOwned, mentionOwned] at sameOwnership
    exact Option.some.inj sameOwnership
  have isIncoming : relationship ∈ draft.incoming relationship.type node.key := by
    obtain ⟨other, otherMember, sameKey⟩ := kept relationship inFragment
    obtain ⟨-, sameTarget, sameType⟩ := RelationshipKey.mk.inj sameKey
    have otherIncoming : other ∈ draft.incoming relationship.type node.key :=
      mem_incoming_iff.mpr ⟨otherMember, sameType, sameTarget.trans target⟩
    rw [unique other otherIncoming] at otherIncoming
    exact otherIncoming
  exact collected.incoming_eq_singleton isIncoming unique

/-- A draft in which queries, methods and issues have one owner each. -/
structure OwnsOnce (draft : Draft) : Prop where
  /-- Its method alone executes a query. -/
  queries : ∀ query, .query query ∈ draft.nodes →
    draft.incoming .executes query.key = [.plain query.methodRef query.key .executes]
  /-- Its class alone defines a method. -/
  methods : ∀ method, .method method ∈ draft.nodes →
    draft.incoming .defines method.key = [.plain method.classRef method.key .defines]
  /-- Its query alone has an issue. -/
  issues : ∀ issue, .issue issue ∈ draft.nodes →
    draft.incoming .hasIssue issue.key = [.plain issue.queryRef issue.key .hasIssue]

/-- However reports are collected, where locations are read by the strategies for Java and Python,
exactly one relationship leads to each query, method and issue from what it belongs to, and it
starts at the method, the class or the query that the node names. -/
theorem IsOutput.ownsOnce
    (known : ∀ strategy ∈ builder.strategies, strategy = .java ∨ strategy = .python)
    (output : draft.IsOutput builder) : draft.OwnsOnce where
  queries _ member := output.collected.incoming_eq known member rfl
  methods _ member := output.collected.incoming_eq known member rfl
  issues _ member := output.collected.incoming_eq known member rfl

/-- Two queries in files with marks in their paths, each with an issue, and a call of one of their
methods. -/
def markedReports : List Finding × List Link :=
  ([{ sourceLocation := "my#mod/load.py:run:3", queryText := "SELECT 1", severity := .low,
      issueKind := some "slow!#@::" },
    { sourceLocation := "C:/app/UserDao#find:10", queryText := "SELECT 1", severity := .low,
      issueKind := some "slow" }],
    [⟨.calls, "Main#start", "C:/app/UserDao#find:12"⟩])

theorem IsOutput.ownsOnce_marked :
    let builder : Builder := ⟨[.java, .python], .table⟩
    let draft := Draft.ofReports builder markedReports.1 markedReports.2
    (∀ strategy ∈ builder.strategies, strategy = .java ∨ strategy = .python) ∧
      draft.IsOutput builder ∧ draft.OwnsOnce ∧
      draft.nodes.map Node.kind =
        [.file, .classDef, .method, .query, .issue, .file, .classDef, .method, .query, .issue,
          .file, .classDef, .method] := by
  intro builder draft
  have known : ∀ strategy ∈ builder.strategies, strategy = .java ∨ strategy = .python := by
    simp [builder]
  have output : draft.IsOutput builder := .ofReports markedReports.1 markedReports.2
  exact ⟨known, output, output.ownsOnce known, by decide +kernel⟩

end Draft

end QueryImpact
