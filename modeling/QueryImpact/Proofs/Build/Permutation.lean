import QueryImpact.Proofs.Build.Sighting
import QueryImpact.Proofs.Graph.Key

/-!
# Drafts do not depend on the order of findings

Of the mentions of a thing the first is kept and absorbs the others, so its counter is the sum of
theirs, in whatever order they come.  Of relationships with one key the first is kept.  All of them
are alike: only an access has properties, its key tells the digest of the query, and the digest
tells the text, which tells how the query uses its entities.
-/

namespace QueryImpact

namespace Node

/-! ## Counters -/

/-- How often a node was seen; issues are not counted. -/
def occurrences? : Node → Option UInt32
  | file node => some node.occurrences
  | classDef node => some node.occurrences
  | method node => some node.occurrences
  | query node => some node.occurrences
  | entity node => some node.occurrences
  | issue _ => none

/-- What a node is, and how often it was seen. -/
def seen (node : Node) : NodeKind × String × Option UInt32 :=
  (node.kind, node.key, node.occurrences?)

/-- How much a node adds to a counter. -/
def weight (node : Node) : UInt32 :=
  node.occurrences?.getD 0

/-- Absorbing adds up. -/
theorem weight_absorb {first second : Node} (sameKind : first.kind = second.kind) :
    (first.absorb second).weight = first.weight + second.weight := by
  cases first <;> cases second <;> cases sameKind <;> rfl

/-- Nodes of one kind that add as much to a counter were seen as often. -/
theorem occurrences?_eq_of_weight_eq {first second : Node} (sameKind : first.kind = second.kind)
    (sameWeight : first.weight = second.weight) : first.occurrences? = second.occurrences? := by
  cases first <;> cases second <;> cases sameKind <;>
    first | exact congrArg some sameWeight | rfl

end Node

namespace Draft

/-- Count a node, if it is a sighting of the given one. -/
def countIf (thing node : Node) (total : UInt32) : UInt32 :=
  if node.isSame thing then node.weight + total else total

/-- How often a thing was seen, in all sightings of it among some nodes. -/
def tally (thing : Node) (nodes : List Node) : UInt32 :=
  nodes.foldr (countIf thing) 0

theorem countIf_add (thing node : Node) (first second : UInt32) :
    countIf thing node (first + second) = countIf thing node first + second := by
  unfold countIf
  split
  · rw [UInt32.add_assoc]
  · rfl

theorem tally_append (thing : Node) (first second : List Node) :
    tally thing (first ++ second) = tally thing first + tally thing second := by
  induction first with
  | nil => exact (UInt32.zero_add _).symm
  | cons node rest ih =>
      change countIf thing node (tally thing (rest ++ second)) = _
      rw [ih, countIf_add]
      rfl

/-- The order of the sightings is of no consequence. -/
theorem tally_eq_of_perm (thing : Node) {first second : List Node} (permuted : first.Perm second) :
    tally thing first = tally thing second := by
  apply permuted.foldr_eq'
  intro one _ two _ total
  unfold countIf
  split
  · split
    · rw [← UInt32.add_assoc, UInt32.add_comm two.weight, UInt32.add_assoc]
    · rfl
  · rfl

/-- A mention is counted, whether it is absorbed or new. -/
theorem tally_insertNode (thing : Node) (nodes : List Node) (node : Node) :
    tally thing (insertNode nodes node) = tally thing nodes + tally thing [node] := by
  induction nodes with
  | nil => exact (UInt32.zero_add _).symm
  | cons first rest ih =>
      by_cases same : first.isSame node = true
      · have sameThing := Node.isSame_congr same thing
        have sameKind := (Node.isSame_iff.mp same).1
        rw [insertNode_cons_of_isSame same]
        change countIf thing (first.absorb node) (tally thing rest) =
          countIf thing first (tally thing rest) + countIf thing node 0
        simp only [countIf, Node.isSame_absorb_left, Node.weight_absorb sameKind, sameThing]
        split
        · rw [UInt32.add_zero, UInt32.add_assoc, UInt32.add_assoc,
            UInt32.add_comm node.weight]
        · rw [UInt32.add_zero]
      · rw [insertNode_cons_of_not_isSame (Bool.eq_false_iff.mpr same)]
        change countIf thing first (tally thing (insertNode rest node)) = _
        rw [ih, countIf_add]
        rfl

theorem tally_foldl_insertNode (thing : Node) (base mentions : List Node) :
    tally thing (mentions.foldl insertNode base) = tally thing base + tally thing mentions := by
  induction mentions generalizing base with
  | nil => exact (UInt32.add_zero _).symm
  | cons node rest ih =>
      rw [List.foldl_cons, ih, tally_insertNode, UInt32.add_assoc, ← tally_append]
      rfl

/-- Where each thing stands once, its counter is all there is of it. -/
theorem tally_eq_weight {nodes : List Node} (distinct : Distinct nodes) {node : Node}
    (member : node ∈ nodes) : tally node nodes = node.weight := by
  have elsewhere : ∀ others : List Node, (∀ other ∈ others, other.isSame node = false) →
      tally node others = 0 := by
    intro others apart
    induction others with
    | nil => rfl
    | cons first rest ih =>
        obtain ⟨here, later⟩ := List.forall_mem_cons.mp apart
        change countIf node first (tally node rest) = 0
        rw [countIf, here, ih later]
        rfl
  obtain ⟨before, after, rfl⟩ := List.append_of_mem member
  obtain ⟨_, distinctAfter, apart⟩ := List.pairwise_append.mp distinct
  have inFront := elsewhere before fun other otherMember =>
    apart other otherMember node List.mem_cons_self
  have behind := elsewhere after fun other otherMember => by
    rw [Node.isSame_comm]
    exact (List.pairwise_cons.mp distinctAfter).1 other otherMember
  rw [tally_append, inFront, UInt32.zero_add]
  change countIf node node (tally node after) = node.weight
  rw [countIf, if_pos node.isSame_refl, behind, UInt32.add_zero]

/-! ## Nodes -/

theorem nodup_map_seen {nodes : List Node} (distinct : Distinct nodes) :
    (nodes.map Node.seen).Nodup := by
  rw [List.Nodup, List.pairwise_map]
  apply distinct.imp
  intro first second different sameSeen
  obtain ⟨sameKind, sameKeyed⟩ := Prod.mk.inj sameSeen
  have same := Node.isSame_iff.mpr ⟨sameKind, (Prod.mk.inj sameKeyed).1⟩
  rw [different] at same
  contradiction

/-- What is seen after some mentions is seen after the same mentions in another order. -/
theorem mem_map_seen_of_perm {mentions others : List Node} (permuted : mentions.Perm others)
    {seen : NodeKind × String × Option UInt32}
    (member : seen ∈ (mentions.foldl insertNode []).map Node.seen) :
    seen ∈ (others.foldl insertNode []).map Node.seen := by
  have distinct := distinct_foldl_insertNode List.Pairwise.nil mentions
  have distinctOthers := distinct_foldl_insertNode List.Pairwise.nil others
  obtain ⟨node, nodeMember, rfl⟩ := List.mem_map.mp member
  rcases exists_mention_of_mem (fun node => (node.kind, node.key)) (by simp) nodeMember with
    ⟨mention, inBase | mentioned, sameMention⟩
  · exact absurd inBase List.not_mem_nil
  · obtain ⟨other, otherMember, same⟩ :=
      @knows_foldl_insertNode [] _ _ (permuted.mem_iff.mp mentioned)
    obtain ⟨mentionKind, mentionKey⟩ := Prod.mk.inj sameMention
    obtain ⟨otherKind, otherKey⟩ := Node.isSame_iff.mp same
    have sameKind := otherKind.trans mentionKind
    have sameKey := otherKey.trans mentionKey
    have sameThing : other.isSame node = true := Node.isSame_iff.mpr ⟨sameKind, sameKey⟩
    have sameTally : tally other (others.foldl insertNode []) =
        tally node (mentions.foldl insertNode []) := by
      rw [tally_foldl_insertNode, tally_foldl_insertNode, tally_eq_of_perm node permuted]
      have alike : countIf other = countIf node := by
        funext third total
        rw [countIf, countIf, third.isSame_comm other, third.isSame_comm node,
          Node.isSame_congr sameThing]
      simp only [tally, alike]
    rw [tally_eq_weight distinctOthers otherMember, tally_eq_weight distinct nodeMember]
      at sameTally
    refine List.mem_map.mpr ⟨other, otherMember, ?_⟩
    simp only [Node.seen, sameKind, sameKey, Node.occurrences?_eq_of_weight_eq sameKind sameTally]

theorem foldl_insertNode_perm {mentions others : List Node} (permuted : mentions.Perm others) :
    ((mentions.foldl insertNode []).map Node.seen).Perm
      ((others.foldl insertNode []).map Node.seen) := by
  rw [List.perm_ext_iff_of_nodup
    (nodup_map_seen (distinct_foldl_insertNode List.Pairwise.nil mentions))
    (nodup_map_seen (distinct_foldl_insertNode List.Pairwise.nil others))]
  intro seen
  constructor
  · exact mem_map_seen_of_perm permuted
  · exact mem_map_seen_of_perm permuted.symm

/-! ## Relationships -/

theorem nodup_foldl_insertRelationship (mentions : List Relationship) :
    (mentions.foldl insertRelationship []).Nodup :=
  (@nodup_keys_foldl_insertRelationship [] List.nodup_nil mentions).of_map _

/-- Relationships with one key are equal. -/
def KeysTell (relationships : List Relationship) : Prop :=
  ∀ first ∈ relationships, ∀ second ∈ relationships, first.key = second.key → first = second

/-- Where keys tell relationships, all that are mentioned are kept. -/
theorem mem_foldl_insertRelationship_iff {mentions : List Relationship} (tell : KeysTell mentions)
    {relationship : Relationship} :
    relationship ∈ mentions.foldl insertRelationship [] ↔ relationship ∈ mentions := by
  constructor
  · intro member
    rcases mem_of_mem_foldl_insertRelationship member with inBase | mentioned
    · exact absurd inBase List.not_mem_nil
    · exact mentioned
  · intro mentioned
    obtain ⟨known, knownMember, sameKey⟩ :=
      (exists_key_foldl_insertRelationship [] mentions relationship.key).mpr
        (Or.inr ⟨relationship, mentioned, rfl⟩)
    rcases mem_of_mem_foldl_insertRelationship knownMember with inBase | knownMentioned
    · exact absurd inBase List.not_mem_nil
    · rw [← tell known knownMentioned relationship mentioned sameKey]
      exact knownMember

theorem foldl_insertRelationship_perm {mentions others : List Relationship}
    (permuted : mentions.Perm others) (tell : KeysTell mentions) :
    (mentions.foldl insertRelationship []).Perm (others.foldl insertRelationship []) := by
  have tellOthers : KeysTell others := by
    intro first firstMember second secondMember
    exact tell first (permuted.mem_iff.mpr firstMember) second (permuted.mem_iff.mpr secondMember)
  rw [List.perm_ext_iff_of_nodup (nodup_foldl_insertRelationship _)
    (nodup_foldl_insertRelationship _)]
  intro relationship
  rw [mem_foldl_insertRelationship_iff tell, mem_foldl_insertRelationship_iff tellOthers,
    permuted.mem_iff]

end Draft

/-! ## What keys of accesses tell -/

/-- The key of a query tells the digest of its text, whatever its method is called. -/
theorem Fragment.digest_eq_of_queryKey_eq {first second : SourceLocation}
    {finding other : Finding} (same : (queryOf first finding).key = (queryOf second other).key) :
    Digest.textIdentifier (Text.trim finding.queryText) =
      Digest.textIdentifier (Text.trim other.queryText) := by
  have parts := KeyParts.cutLast_queryKey first finding
  rw [same, KeyParts.cutLast_queryKey, Option.some.injEq, Prod.mk.injEq] at parts
  exact (String.toList_inj.mp parts.2).symm

namespace Sighting

/-- The properties that a sighting gives to relationships of a type: an access says how the query
uses the entity. -/
def propertiesOf (sighting : Sighting) (type : RelationshipType) : Properties :=
  if type = .accesses then
    (Relationship.accesses "" "" (Fragment.operationOf sighting.text)).properties
  else .empty

theorem of_mem_relationships {sighting : Sighting} {storeKind : StoreKind}
    {relationship : Relationship}
    (member : relationship ∈ (sighting.fragment storeKind).relationships) :
    relationship.properties = sighting.propertiesOf relationship.type ∧
      (relationship.type = .accesses →
        relationship.source = (Fragment.queryOf sighting.location sighting.finding).key) := by
  rcases Fragment.mem_relationships_ofLocatedFinding.mp member with
    rfl | rfl | rfl | ⟨issue, _, rfl⟩ | ⟨name, _, rfl⟩
  · exact ⟨rfl, fun isAccess => by cases isAccess⟩
  · exact ⟨rfl, fun isAccess => by cases isAccess⟩
  · exact ⟨rfl, fun isAccess => by cases isAccess⟩
  · exact ⟨rfl, fun isAccess => by cases isAccess⟩
  · exact ⟨rfl, fun _ => rfl⟩

end Sighting

namespace Builder

/-- The mentioned relationships with one key are equal. -/
theorem DigestsTell.keysTell {builder : Builder} {findings : List Finding}
    (digests : builder.DigestsTell findings) :
    Draft.KeysTell ((builder.sightings findings).flatMap fun sighting =>
      (sighting.fragment builder.storeKind).relationships) := by
  intro first firstMember second secondMember sameKey
  obtain ⟨one, oneSighted, firstMentioned⟩ := List.mem_flatMap.mp firstMember
  obtain ⟨two, twoSighted, secondMentioned⟩ := List.mem_flatMap.mp secondMember
  obtain ⟨firstProperties, firstSource⟩ := Sighting.of_mem_relationships firstMentioned
  obtain ⟨secondProperties, secondSource⟩ := Sighting.of_mem_relationships secondMentioned
  obtain ⟨sameSource, sameTarget, sameType⟩ := RelationshipKey.mk.inj sameKey
  have sameProperties : first.properties = second.properties := by
    rw [firstProperties, secondProperties, ← sameType, Sighting.propertiesOf,
      Sighting.propertiesOf]
    split
    · rename_i isAccess
      have sameQuery := (firstSource isAccess).symm.trans
        (sameSource.trans (secondSource (sameType.symm.trans isAccess)))
      have sameText := digests one oneSighted two twoSighted
        (Fragment.digest_eq_of_queryKey_eq sameQuery)
      rw [sameText]
    · rfl
  cases first
  cases second
  simp only [Relationship.mk.injEq]
  exact ⟨sameSource, sameTarget, sameType, sameProperties⟩

/-- Why a finding is left out, if it is. -/
def rejection? (builder : Builder) (finding : Finding) :
    Option (Option Finding × String × InputError) :=
  match Fragment.ofFinding builder finding with
  | .ok _ => none
  | .error cause => some (some finding, finding.sourceLocation, cause)

end Builder

/-- What a note on a finding that was left out says, when the findings are at hand: which finding
stands at the noted place, its location, and why it was left out. -/
def SkippedFinding.among (findings : List Finding) (skipped : SkippedFinding) :
    Option Finding × String × InputError :=
  (findings[skipped.index]?, skipped.location, skipped.cause)

namespace Draft

/-- The notes tell which findings are rejected, and why. -/
theorem skipped_addFindings (builder : Builder) (draft : Draft) (before findings : List Finding) :
    (addFindings builder draft before.length findings).skipped.map
        (SkippedFinding.among (before ++ findings)) =
      draft.skipped.map (SkippedFinding.among (before ++ findings)) ++
        findings.filterMap builder.rejection? := by
  induction findings generalizing draft before with
  | nil => simp [addFindings]
  | cons finding rest ih =>
      have longer := ih (draft.addFinding builder before.length finding) (before ++ [finding])
      rw [List.append_assoc, List.singleton_append, List.length_append, List.length_singleton]
        at longer
      rw [addFindings, longer, List.filterMap_cons]
      unfold addFinding Builder.rejection?
      cases Fragment.ofFinding builder finding with
      | ok fragment => rfl
      | error cause => simp [skip, SkippedFinding.among]

/-- A draft does not depend on the order of the findings: in every order the same nodes are seen
equally often, the same relationships come with the same properties, and the same findings are left
out for the same reasons.  Different query texts are taken to have different digests. -/
theorem ofFindings_perm (builder : Builder) {findings others : List Finding}
    (permuted : findings.Perm others) (digests : builder.DigestsTell findings) :
    ((ofFindings builder findings).nodes.map Node.seen).Perm
        ((ofFindings builder others).nodes.map Node.seen) ∧
      (ofFindings builder findings).relationships.Perm (ofFindings builder others).relationships ∧
      ((ofFindings builder findings).skipped.map (SkippedFinding.among findings)).Perm
        ((ofFindings builder others).skipped.map (SkippedFinding.among others)) := by
  have sighted : (builder.sightings findings).Perm (builder.sightings others) :=
    permuted.filterMap _
  refine ⟨?_, ?_, ?_⟩
  · have nodesOf : ∀ list, (ofFindings builder list).nodes =
        ((builder.sightings list).flatMap fun sighting =>
          (sighting.fragment builder.storeKind).nodes).foldl insertNode [] :=
      fun list => (addFindings_eq builder empty 0 list).1
    rw [nodesOf, nodesOf]
    exact foldl_insertNode_perm (sighted.flatMap_right _)
  · have relationshipsOf : ∀ list, (ofFindings builder list).relationships =
        ((builder.sightings list).flatMap fun sighting =>
          (sighting.fragment builder.storeKind).relationships).foldl insertRelationship [] :=
      fun list => (addFindings_eq builder empty 0 list).2
    rw [relationshipsOf, relationshipsOf]
    exact foldl_insertRelationship_perm (sighted.flatMap_right _) digests.keysTell
  · have rejected : ∀ list, (ofFindings builder list).skipped.map (SkippedFinding.among list) =
        list.filterMap builder.rejection? := fun list =>
      skipped_addFindings builder empty [] list
    rw [rejected, rejected]
    exact permuted.filterMap _

/-- A query that is found twice, one that cannot be placed, and one that changes what the first
reads. -/
def repeatedFindings : List Finding :=
  [{ sourceLocation := "UserDao#find:10", queryText := "SELECT * FROM users", severity := .low },
    { sourceLocation := "nowhere", queryText := "SELECT * FROM users", severity := .low },
    { sourceLocation := "UserDao#drop:20", queryText := "DELETE FROM users", severity := .high },
    { sourceLocation := "UserDao#find:10", queryText := " SELECT * FROM users ", severity := .low }]

theorem ofFindings_perm_reversed :
    let draft := ofFindings .java repeatedFindings
    let reversed := ofFindings .java repeatedFindings.reverse
    Builder.java.DigestsTell repeatedFindings ∧
      (draft.nodes.map Node.seen).Perm (reversed.nodes.map Node.seen) ∧
      draft.relationships.Perm reversed.relationships ∧
      draft.skipped.map (·.index) = [1] ∧ reversed.skipped.map (·.index) = [2] ∧
      (draft.skipped.map (SkippedFinding.among repeatedFindings)).Perm
        (reversed.skipped.map (SkippedFinding.among repeatedFindings.reverse)) := by
  intro draft reversed
  have texts : (Builder.java.sightings repeatedFindings).map Sighting.text =
      ["SELECT * FROM users", "DELETE FROM users", "SELECT * FROM users"] := by
    decide +kernel
  have different : Digest.textIdentifier "SELECT * FROM users" ≠
      Digest.textIdentifier "DELETE FROM users" := by
    decide +kernel
  have digests : Builder.java.DigestsTell repeatedFindings := by
    rw [Builder.digestsTell_iff, texts]
    simp [different, different.symm]
  obtain ⟨nodes, relationships, skipped⟩ :=
    ofFindings_perm .java repeatedFindings.reverse_perm.symm digests
  exact ⟨digests, nodes, relationships, by decide +kernel, by decide +kernel, skipped⟩

end Draft

end QueryImpact
