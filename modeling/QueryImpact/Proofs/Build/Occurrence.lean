import Mathlib
import QueryImpact.Proofs.Build.Collected
import QueryImpact.Proofs.Build.Permutation

/-!
# Counters count references

A report refers to the things whose keys it gives.  A finding refers to its file, its class, its
method, its query and its entities; a call refers to files, classes and methods at both of its ends,
and a dependency to two files.  In the draft of some reports each thing stands once, and its counter
is the number of the references to it.  A file is a target if a finding lies in it.
-/

namespace QueryImpact

/-! ## References -/

/-- The keys that a location gives to things of a kind. -/
def SourceLocation.keys (location : SourceLocation) : NodeKind → List String
  | .file => [location.filePath]
  | .classDef => [location.classNode.key]
  | .method => [location.methodNode.key]
  | .query | .entity | .issue => []

/-- The keys that an accepted finding gives to things of a kind. -/
def Sighting.keys (sighting : Sighting) (storeKind : StoreKind) : NodeKind → List String
  | .file => [sighting.location.filePath]
  | .classDef => [sighting.location.classNode.key]
  | .method => [sighting.location.methodNode.key]
  | .query => [(Fragment.queryOf sighting.location sighting.finding).key]
  | .entity => (Query.entities sighting.text).map fun name => (EntityNode.ofName name storeKind).key
  | .issue => sighting.finding.issues.map fun issue =>
      (Fragment.issueNode sighting.location sighting.finding issue).key

/-- The places at the two ends of a call, if both can be read. -/
def Builder.callEnds (builder : Builder) (link : Link) : List SourceLocation :=
  match link.kind, builder.parse? link.source, builder.parse? link.target with
  | .calls, some caller, some callee => [caller, callee]
  | _, _, _ => []

/-- The paths at the two ends of a dependency, if neither is blank. -/
def Link.dependencyEnds (link : Link) : List String :=
  if link.kind = .dependsOn ∧ Text.trim link.source ≠ "" ∧ Text.trim link.target ≠ "" then
    [Text.trim link.source, Text.trim link.target]
  else []

/-- How many references there are to the thing of a kind with a key: accepted findings that give
it the key, ends of accepted calls that do, and, for files, ends of accepted dependencies. -/
def Builder.references (builder : Builder) (findings : List Finding) (links : List Link)
    (kind : NodeKind) (key : String) : Nat :=
  (builder.sightings findings).countP (fun sighting => key ∈ sighting.keys builder.storeKind kind) +
    (links.flatMap builder.callEnds).countP (fun location => key ∈ location.keys kind) +
    if kind = .file then (links.flatMap Link.dependencyEnds).count key else 0

theorem Builder.length_ends_le (builder : Builder) (links : List Link) :
    (links.flatMap builder.callEnds).length + (links.flatMap Link.dependencyEnds).length ≤
      2 * links.length := by
  induction links with
  | nil => exact Nat.le_refl 0
  | cons link rest ih =>
      have ends : (builder.callEnds link).length + link.dependencyEnds.length ≤ 2 := by
        unfold callEnds Link.dependencyEnds
        split
        · rename_i isCall _ _
          simp [isCall]
        · split <;> simp
      simp only [List.flatMap_cons, List.length_append, List.length_cons]
      omega

/-- There are no more references to a thing than findings and ends of links. -/
theorem Builder.references_le (builder : Builder) (findings : List Finding) (links : List Link)
    (kind : NodeKind) (key : String) :
    builder.references findings links kind key ≤ findings.length + 2 * links.length := by
  have sighted : (builder.sightings findings).length ≤ findings.length :=
    List.length_filterMap_le _ _
  have ends := builder.length_ends_le links
  have found : (builder.sightings findings).countP
      (fun sighting => key ∈ sighting.keys builder.storeKind kind) ≤
        (builder.sightings findings).length := List.countP_le_length
  have called : (links.flatMap builder.callEnds).countP
      (fun location => key ∈ location.keys kind) ≤
        (links.flatMap builder.callEnds).length := List.countP_le_length
  have depended : (links.flatMap Link.dependencyEnds).count key ≤
      (links.flatMap Link.dependencyEnds).length := List.count_le_length
  unfold references
  split
  · omega
  · omega

/-! ## Keys of mentions -/

namespace Draft

/-- The keys of the nodes of a kind. -/
def keysOf (kind : NodeKind) (nodes : List Node) : List String :=
  (nodes.filter fun node => node.kind = kind).map Node.key

@[simp]
theorem keysOf_append (kind : NodeKind) (first second : List Node) :
    keysOf kind (first ++ second) = keysOf kind first ++ keysOf kind second := by
  simp [keysOf]

theorem keysOf_flatMap {α : Type} (kind : NodeKind) (mentions : α → List Node) (items : List α) :
    keysOf kind (items.flatMap mentions) =
      items.flatMap fun item => keysOf kind (mentions item) := by
  induction items with
  | nil => rfl
  | cons first rest ih => rw [List.flatMap_cons, keysOf_append, ih, List.flatMap_cons]

theorem mem_keysOf {kind : NodeKind} {nodes : List Node} {key : String} :
    key ∈ keysOf kind nodes ↔ BindsKind nodes key kind := by
  simp only [keysOf, BindsKind, List.mem_map, List.mem_filter, decide_eq_true_eq]
  constructor
  · rintro ⟨node, ⟨member, sameKind⟩, sameKey⟩
    exact ⟨node, member, sameKey, sameKind⟩
  · rintro ⟨node, member, sameKey, sameKind⟩
    exact ⟨node, ⟨member, sameKind⟩, sameKey⟩

/-- Mentions of a thing are counted by their keys. -/
theorem countP_isSame (thing : Node) (nodes : List Node) :
    nodes.countP (fun node => node.isSame thing) =
      (keysOf thing.kind nodes).count thing.key := by
  rw [keysOf, List.count, List.countP_map, List.countP_filter]
  apply List.countP_congr
  intro node _
  simp [Node.isSame, and_comm]

end Draft

theorem SourceLocation.keysOf_fragment (location : SourceLocation) (isTarget : Bool)
    (kind : NodeKind) :
    Draft.keysOf kind (location.fragment isTarget).nodes = location.keys kind := by
  cases kind <;> rfl

theorem Sighting.keysOf_fragment (sighting : Sighting) (storeKind : StoreKind) (kind : NodeKind) :
    Draft.keysOf kind (sighting.fragment storeKind).nodes = sighting.keys storeKind kind := by
  simp only [fragment, Fragment.ofLocatedFinding, Fragment.nodes_append,
    Fragment.nodes_foldr_append, Draft.keysOf_append, Draft.keysOf_flatMap, List.flatMap_map,
    SourceLocation.keysOf_fragment]
  cases kind <;>
    simp [SourceLocation.keys, keys, Draft.keysOf, Node.kind, Fragment.ofIssue, Fragment.ofEntity,
      Node.key, Fragment.queryOf, Fragment.issueNode, text, List.map_eq_flatMap]

namespace Draft

/-- The nodes that some reports mention, in order. -/
def mentions (builder : Builder) (findings : List Finding) (links : List Link) : List Node :=
  ((builder.sightings findings).flatMap fun sighting =>
      (sighting.fragment builder.storeKind).nodes) ++
    links.flatMap fun link => (Fragment.ofLink? builder link).toList.flatMap Fragment.nodes

theorem nodes_foldl_addLink (builder : Builder) (draft : Draft) (links : List Link) :
    (links.foldl (addLink builder) draft).nodes =
      (links.flatMap fun link =>
        (Fragment.ofLink? builder link).toList.flatMap Fragment.nodes).foldl insertNode
          draft.nodes := by
  induction links generalizing draft with
  | nil => rfl
  | cons link rest ih =>
      rw [List.foldl_cons, ih, List.flatMap_cons, List.foldl_append, addLink]
      cases Fragment.ofLink? builder link with
      | none => rfl
      | some fragment => simp [add]

theorem nodes_ofReports (builder : Builder) (findings : List Finding) (links : List Link) :
    (ofReports builder findings links).nodes =
      (mentions builder findings links).foldl insertNode [] := by
  rw [ofReports, nodes_foldl_addLink, (addFindings_eq builder empty 0 findings).1, mentions,
    List.foldl_append]
  rfl

/-- A link mentions the members at the ends of its call and the files of its dependency. -/
theorem nodes_ofLink (builder : Builder) (link : Link) :
    (Fragment.ofLink? builder link).toList.flatMap Fragment.nodes =
      ((builder.callEnds link).flatMap fun location => (location.fragment false).nodes) ++
        link.dependencyEnds.map fun path => .file (Fragment.linkedFile path) := by
  cases kind : link.kind with
  | dependsOn =>
      have noCall : builder.callEnds link = [] := by
        simp [Builder.callEnds, kind]
      by_cases blank : Text.trim link.source = "" ∨ Text.trim link.target = ""
      · have noEnds : link.dependencyEnds = [] := by
          rw [Link.dependencyEnds, if_neg]
          rintro ⟨-, sourceGiven, targetGiven⟩
          exact blank.elim sourceGiven targetGiven
        simp [Fragment.ofLink?, kind, blank, noCall, noEnds]
      · have ends : link.dependencyEnds = [Text.trim link.source, Text.trim link.target] := by
          rw [Link.dependencyEnds, if_pos ⟨kind, not_or.mp blank⟩]
        simp [Fragment.ofLink?, kind, blank, noCall, ends]
  | calls =>
      have noEnds : link.dependencyEnds = [] := by
        simp [Link.dependencyEnds, kind]
      rw [noEnds, Fragment.ofLink?, Builder.callEnds, kind]
      cases builder.parse? link.source with
      | none => rfl
      | some caller =>
          cases builder.parse? link.target with
          | none => rfl
          | some callee => simp

end Draft

/-! ## Counting references -/

theorem SourceLocation.nodup_keys (location : SourceLocation) (kind : NodeKind) :
    (location.keys kind).Nodup := by
  cases kind <;> simp [keys]

theorem Query.nodup_foldl_addNew {known : List String} (nodup : known.Nodup)
    (names : List String) : (names.foldl addNew known).Nodup := by
  induction names generalizing known with
  | nil => exact nodup
  | cons first rest ih =>
      apply ih
      unfold addNew
      split
      · exact nodup
      · rename_i fresh
        exact List.nodup_append_comm.mp (List.nodup_cons.mpr ⟨fresh, nodup⟩)

/-- Issues apart, a finding gives no key twice. -/
theorem Sighting.nodup_keys (sighting : Sighting) (storeKind : StoreKind) {kind : NodeKind}
    (counted : kind ≠ .issue) : (sighting.keys storeKind kind).Nodup := by
  cases kind with
  | entity =>
      apply (Query.nodup_foldl_addNew List.nodup_nil _).map
      intro first second same
      have chars := congrArg String.toList same
      simpa [EntityNode.ofName, String.toList_inj] using chars
  | issue => exact absurd rfl counted
  | file | classDef | method | query => exact List.nodup_singleton _

namespace Draft

/-- Where no part lists a value twice, its listings are counted by the parts. -/
theorem count_flatMap_of_nodup {α : Type} {parts : α → List String} {items : List α}
    (nodup : ∀ item ∈ items, (parts item).Nodup) (value : String) :
    (items.flatMap parts).count value = items.countP fun item => value ∈ parts item := by
  induction items with
  | nil => rfl
  | cons first rest ih =>
      obtain ⟨firstNodup, restNodup⟩ := List.forall_mem_cons.mp nodup
      rw [List.flatMap_cons, List.count_append, ih restNodup, List.countP_cons, Nat.add_comm]
      by_cases listed : value ∈ parts first
      · rw [List.count_eq_one_of_mem firstNodup listed, if_pos (decide_eq_true listed)]
      · rw [List.count_eq_zero_of_not_mem listed, if_neg (by simpa using listed)]

theorem keysOf_linkedFiles (kind : NodeKind) (paths : List String) :
    keysOf kind (paths.map fun path => .file (Fragment.linkedFile path)) =
      if kind = .file then paths else [] := by
  induction paths with
  | nil => simp [keysOf]
  | cons first rest ih =>
      change keysOf kind ([.file (Fragment.linkedFile first)] ++ _) = _
      rw [keysOf_append, ih]
      cases kind <;> rfl

/-- The keys that links mention, counted by the ends of the links. -/
theorem count_keysOf_links (builder : Builder) (links : List Link) (kind : NodeKind)
    (key : String) :
    (keysOf kind (links.flatMap fun link =>
        (Fragment.ofLink? builder link).toList.flatMap Fragment.nodes)).count key =
      (links.flatMap builder.callEnds).countP (fun location => key ∈ location.keys kind) +
        if kind = .file then (links.flatMap Link.dependencyEnds).count key else 0 := by
  induction links with
  | nil => simp [keysOf]
  | cons link rest ih =>
      rw [List.flatMap_cons, keysOf_append, List.count_append, ih, nodes_ofLink, keysOf_append,
        List.count_append, keysOf_flatMap, keysOf_linkedFiles, List.flatMap_cons,
        List.countP_append, List.flatMap_cons, List.count_append]
      simp only [SourceLocation.keysOf_fragment]
      rw [count_flatMap_of_nodup fun location _ => location.nodup_keys kind]
      -- Only files are named by dependencies.
      split
      · omega
      · rw [List.count_nil]
        omega

/-- A thing is mentioned as often as there are references to it. -/
theorem count_keysOf_mentions (builder : Builder) (findings : List Finding) (links : List Link)
    {kind : NodeKind} (counted : kind ≠ .issue) (key : String) :
    (keysOf kind (mentions builder findings links)).count key =
      builder.references findings links kind key := by
  rw [mentions, keysOf_append, List.count_append, count_keysOf_links, keysOf_flatMap]
  simp only [Sighting.keysOf_fragment]
  rw [count_flatMap_of_nodup fun sighting _ => sighting.nodup_keys builder.storeKind counted,
    Builder.references, Nat.add_assoc]

/-- A thing is mentioned if there is a reference to it. -/
theorem bindsKind_mentions_iff (builder : Builder) (findings : List Finding) (links : List Link)
    (kind : NodeKind) (key : String) :
    BindsKind (mentions builder findings links) key kind ↔
      0 < builder.references findings links kind key := by
  have sighted : key ∈ keysOf kind ((builder.sightings findings).flatMap fun sighting =>
        (sighting.fragment builder.storeKind).nodes) ↔
      0 < (builder.sightings findings).countP
        fun sighting => key ∈ sighting.keys builder.storeKind kind := by
    simp [keysOf_flatMap, Sighting.keysOf_fragment, List.countP_pos_iff]
  rw [← mem_keysOf, mentions, keysOf_append, List.mem_append, sighted, ← List.count_pos_iff,
    count_keysOf_links, Builder.references, Nat.add_assoc]
  exact Nat.add_pos_iff_pos_or_pos.symm

/-- Mentioning a thing binds its key to its kind. -/
theorem bindsKind_foldl_insertNode_iff {mentions : List Node} {kind : NodeKind} {key : String} :
    BindsKind (mentions.foldl insertNode []) key kind ↔ BindsKind mentions key kind := by
  constructor
  · rintro ⟨node, member, rfl, rfl⟩
    rcases exists_mention_of_mem (fun node => (node.kind, node.key)) (by simp) member with
      ⟨mention, inBase | mentioned, same⟩
    · exact absurd inBase List.not_mem_nil
    · obtain ⟨sameKind, sameKey⟩ := Prod.mk.inj same
      exact ⟨mention, mentioned, sameKey, sameKind⟩
  · rintro ⟨mention, mentioned, rfl, rfl⟩
    exact (knows_foldl_insertNode mentioned).bindsKind

/-! ## Counters -/

/-- A mentioned node is mentioned by a finding, at an end of a call or at an end of a
dependency. -/
theorem of_mem_mentions {builder : Builder} {findings : List Finding} {links : List Link}
    {node : Node} (member : node ∈ mentions builder findings links) :
    (∃ sighting ∈ builder.sightings findings,
        node ∈ (sighting.fragment builder.storeKind).nodes) ∨
      (∃ location : SourceLocation, node = .file (location.fileNode false) ∨
        node = .classDef location.classNode ∨ node = .method location.methodNode) ∨
      ∃ path, node = .file (Fragment.linkedFile path) := by
  rcases List.mem_append.mp member with sighted | linked
  · exact Or.inl (List.mem_flatMap.mp sighted)
  · obtain ⟨link, -, mentioned⟩ := List.mem_flatMap.mp linked
    rw [nodes_ofLink] at mentioned
    rcases List.mem_append.mp mentioned with inCall | inDependency
    · obtain ⟨location, -, inMember⟩ := List.mem_flatMap.mp inCall
      simp only [SourceLocation.fragment, List.mem_cons, List.not_mem_nil, or_false] at inMember
      exact Or.inr (Or.inl ⟨location, inMember⟩)
    · obtain ⟨path, -, rfl⟩ := List.mem_map.mp inDependency
      exact Or.inr (Or.inr ⟨path, rfl⟩)

/-- A mention that is counted adds one. -/
theorem weight_of_mem_mentions {builder : Builder} {findings : List Finding} {links : List Link}
    {node : Node} (member : node ∈ mentions builder findings links)
    (counted : node.kind ≠ .issue) : node.weight = 1 := by
  rcases of_mem_mentions member with
    ⟨sighting, -, mentioned⟩ | ⟨location, rfl | rfl | rfl⟩ | ⟨path, rfl⟩
  · rcases Fragment.mem_nodes_ofLocatedFinding.mp mentioned with
      rfl | rfl | rfl | rfl | ⟨issue, -, rfl⟩ | ⟨name, -, rfl⟩
    · rfl
    · rfl
    · rfl
    · rfl
    · exact absurd rfl counted
    · rfl
  · rfl
  · rfl
  · rfl
  · rfl

/-- Where each mention of a thing adds one, its counter is the number of the mentions. -/
theorem tally_eq_ofNat {thing : Node} {nodes : List Node}
    (once : ∀ node ∈ nodes, node.isSame thing = true → node.weight = 1) :
    tally thing nodes = UInt32.ofNat (nodes.countP fun node => node.isSame thing) := by
  induction nodes with
  | nil => rfl
  | cons first rest ih =>
      obtain ⟨firstOnce, restOnce⟩ := List.forall_mem_cons.mp once
      change countIf thing first (tally thing rest) = _
      rw [ih restOnce, countIf, List.countP_cons]
      split
      · rename_i same
        rw [firstOnce same, UInt32.add_comm, UInt32.ofNat_add]
        rfl
      · rfl

/-- The counter of a node, up to the size of counters, is the number of references to it. -/
theorem weight_of_mem_ofReports {builder : Builder} {findings : List Finding} {links : List Link}
    {node : Node} (member : node ∈ (ofReports builder findings links).nodes)
    (counted : node.kind ≠ .issue) :
    node.weight = UInt32.ofNat (builder.references findings links node.kind node.key) := by
  have distinct : Distinct (ofReports builder findings links).nodes :=
    (IsOutput.ofReports findings links).collected.distinct
  have once : ∀ mention ∈ mentions builder findings links, mention.isSame node = true →
      mention.weight = 1 := by
    intro mention mentioned same
    apply weight_of_mem_mentions mentioned
    rwa [(Node.isSame_iff.mp same).1]
  calc node.weight
    _ = tally node (ofReports builder findings links).nodes :=
        (tally_eq_weight distinct member).symm
    _ = tally node [] + tally node (mentions builder findings links) := by
        rw [nodes_ofReports, tally_foldl_insertNode]
    _ = tally node (mentions builder findings links) := UInt32.zero_add _
    _ = UInt32.ofNat (builder.references findings links node.kind node.key) := by
        rw [tally_eq_ofNat once, countP_isSame, count_keysOf_mentions _ _ _ counted]

end Draft

/-! ## Targets -/

namespace Node

/-- Whether a node is a file in which findings lie. -/
def isTarget : Node → Bool
  | file node => node.isTarget
  | classDef _ | method _ | query _ | entity _ | issue _ => false

theorem isTarget_absorb {first second : Node} (sameKind : first.kind = second.kind) :
    (first.absorb second).isTarget = (first.isTarget || second.isTarget) := by
  cases first <;> cases second <;> cases sameKind <;> rfl

end Node

namespace Draft

/-- Whether some mention of a thing says that findings lie in it. -/
def isTargetIn (thing : Node) (nodes : List Node) : Bool :=
  nodes.any fun node => node.isSame thing && node.isTarget

theorem isTargetIn_insertNode (thing : Node) (nodes : List Node) (node : Node) :
    isTargetIn thing (insertNode nodes node) =
      (isTargetIn thing nodes || isTargetIn thing [node]) := by
  simp only [isTargetIn, List.any_cons, List.any_nil, Bool.or_false]
  induction nodes with
  | nil => simp
  | cons first rest ih =>
      by_cases same : first.isSame node = true
      · rw [insertNode_cons_of_isSame same, List.any_cons, List.any_cons,
          Node.isSame_absorb_left, Node.isTarget_absorb (Node.isSame_iff.mp same).1,
          Node.isSame_congr same, Bool.and_or_distrib_left, Bool.or_assoc, Bool.or_assoc,
          Bool.or_comm (node.isSame thing && node.isTarget)]
      · rw [insertNode_cons_of_not_isSame (Bool.eq_false_iff.mpr same), List.any_cons, ih,
          List.any_cons, Bool.or_assoc]

theorem isTargetIn_foldl_insertNode (thing : Node) (base mentions : List Node) :
    isTargetIn thing (mentions.foldl insertNode base) =
      (isTargetIn thing base || isTargetIn thing mentions) := by
  induction mentions generalizing base with
  | nil => exact (Bool.or_false _).symm
  | cons first rest ih =>
      rw [List.foldl_cons, ih, isTargetIn_insertNode, Bool.or_assoc]
      simp only [isTargetIn, List.any_cons, List.any_nil, Bool.or_false]

theorem Distinct.nodup_map {nodes : List Node} (distinct : Distinct nodes) :
    (nodes.map fun node => (node.kind, node.key)).Nodup := by
  rw [List.Nodup, List.pairwise_map]
  apply distinct.imp
  intro first second different same
  rw [Node.isSame_iff.mpr (Prod.mk.inj same)] at different
  contradiction

/-- Where each thing stands once, it speaks for itself. -/
theorem isTargetIn_eq_isTarget {nodes : List Node} (distinct : Distinct nodes) {node : Node}
    (member : node ∈ nodes) : isTargetIn node nodes = node.isTarget := by
  rw [Bool.eq_iff_iff, isTargetIn, List.any_eq_true]
  constructor
  · rintro ⟨other, otherMember, sameAndTarget⟩
    obtain ⟨same, target⟩ := Bool.and_eq_true_iff.mp sameAndTarget
    obtain ⟨sameKind, sameKey⟩ := Node.isSame_iff.mp same
    have equal : other = node :=
      List.inj_on_of_nodup_map distinct.nodup_map otherMember member
        (Prod.ext sameKind sameKey)
    rwa [← equal]
  · intro target
    exact ⟨node, member, Bool.and_eq_true_iff.mpr ⟨node.isSame_refl, target⟩⟩

/-- Only findings say that they lie in a file. -/
theorem isTargetIn_mentions_iff {builder : Builder} {findings : List Finding} {links : List Link}
    {file : FileNode} :
    isTargetIn (.file file) (mentions builder findings links) = true ↔
      ∃ sighting ∈ builder.sightings findings, sighting.location.filePath = file.key := by
  rw [isTargetIn, List.any_eq_true]
  constructor
  · rintro ⟨mention, mentioned, sameAndTarget⟩
    obtain ⟨same, target⟩ := Bool.and_eq_true_iff.mp sameAndTarget
    rcases of_mem_mentions mentioned with
      ⟨sighting, isSighting, inFragment⟩ | ⟨location, rfl | rfl | rfl⟩ | ⟨path, rfl⟩
    · rcases Fragment.mem_nodes_ofLocatedFinding.mp inFragment with
        rfl | rfl | rfl | rfl | ⟨issue, -, rfl⟩ | ⟨name, -, rfl⟩
      · exact ⟨sighting, isSighting, (Node.isSame_iff.mp same).2⟩
      all_goals exact absurd target Bool.false_ne_true
    all_goals exact absurd target Bool.false_ne_true
  · rintro ⟨sighting, isSighting, samePath⟩
    have mentioned : Node.file (sighting.location.fileNode true) ∈
        mentions builder findings links :=
      List.mem_append_left _ (List.mem_flatMap.mpr ⟨sighting, isSighting,
        Fragment.mem_nodes_ofLocatedFinding.mpr (Or.inl rfl)⟩)
    have same : (Node.file (sighting.location.fileNode true)).isSame (.file file) = true :=
      Node.isSame_iff.mpr ⟨rfl, samePath⟩
    exact ⟨_, mentioned, Bool.and_eq_true_iff.mpr ⟨same, rfl⟩⟩

/-! ## What a draft tells of the references -/

/-- A draft of some reports that tells how often they refer to its nodes. -/
structure CountsReferences (draft : Draft) (builder : Builder) (findings : List Finding)
    (links : List Link) : Prop where
  /-- Each thing stands once. -/
  nodes_once : (draft.nodes.map fun node => (node.kind, node.key)).Nodup
  /-- Each relationship stands once. -/
  relationships_once : (draft.relationships.map Relationship.key).Nodup
  /-- The relationships join nodes of the kinds that their types prescribe. -/
  joinsKinds : ∀ relationship ∈ draft.relationships, relationship.JoinsKinds draft.nodes
  /-- The things that stand there are those that are referred to. -/
  binds_iff : ∀ kind key,
    BindsKind draft.nodes key kind ↔ 0 < builder.references findings links kind key
  /-- The counters count the references. -/
  occurrences : ∀ node ∈ draft.nodes, ∀ count, node.occurrences? = some count →
    count.toNat = builder.references findings links node.kind node.key
  /-- The targets are the files in which findings lie. -/
  isTarget_iff : ∀ file, .file file ∈ draft.nodes →
    (file.isTarget = true ↔
      ∃ sighting ∈ builder.sightings findings, sighting.location.filePath = file.key)

/-- In the draft of any findings and links, each node and each relationship stands once, the
relationships have ends of the right kinds, and the counter of a node is the number of the
references to it, as long as these numbers fit into counters. -/
theorem countsReferences_ofReports (builder : Builder) (findings : List Finding)
    (links : List Link)
    (small : ∀ node ∈ (ofReports builder findings links).nodes,
      builder.references findings links node.kind node.key < UInt32.size) :
    (ofReports builder findings links).CountsReferences builder findings links := by
  have collected : (ofReports builder findings links).Collected builder :=
    (IsOutput.ofReports findings links).collected
  constructor
  case nodes_once => exact collected.distinct.nodup_map
  case relationships_once => exact collected.nodup_keys
  case joinsKinds => exact collected.joinsKinds
  case binds_iff =>
    intro kind key
    rw [nodes_ofReports, bindsKind_foldl_insertNode_iff, bindsKind_mentions_iff]
  case occurrences =>
    intro node member count counts
    have counted : node.kind ≠ .issue := by
      cases node <;> simp_all [Node.kind, Node.occurrences?]
    have weight : node.weight = count := by
      rw [Node.weight, counts, Option.getD_some]
    rw [← weight, weight_of_mem_ofReports member counted]
    exact UInt32.toNat_ofNat_of_lt' (small node member)
  case isTarget_iff =>
    intro file member
    have speaks := isTargetIn_eq_isTarget collected.distinct member
    rw [nodes_ofReports, isTargetIn_foldl_insertNode] at speaks
    rw [← @isTargetIn_mentions_iff builder findings links file]
    exact Bool.eq_iff_iff.mp speaks.symm

/-- A query that is found twice, in a method that another one calls, and a file that is linked to
itself. -/
def linkedReports : List Finding × List Link :=
  ([{ sourceLocation := "UserDao#find:10", queryText := "SELECT * FROM users", severity := .low },
      { sourceLocation := "jobs/load.py:run:3", queryText := "SELECT 1 FROM users u, users v",
        severity := .low },
      { sourceLocation := "UserDao#find:10", queryText := " SELECT * FROM users ",
        severity := .low }],
    [⟨.calls, "Main#start", "UserDao#find:10"⟩, ⟨.calls, "Main#start", "nowhere"⟩,
      ⟨.dependsOn, "UserDao.java", " UserDao.java "⟩, ⟨.dependsOn, "UserDao.java", " "⟩])

theorem countsReferences_ofReports_linked :
    let builder : Builder := ⟨[.java, .python], .table⟩
    let draft := ofReports builder linkedReports.1 linkedReports.2
    (∀ node ∈ draft.nodes,
        builder.references linkedReports.1 linkedReports.2 node.kind node.key < UInt32.size) ∧
      draft.CountsReferences builder linkedReports.1 linkedReports.2 ∧
      builder.references linkedReports.1 linkedReports.2 .file "UserDao.java" = 5 ∧
      builder.references linkedReports.1 linkedReports.2 .entity "table:users" = 3 ∧
      builder.references linkedReports.1 linkedReports.2 .file "Main.java" = 1 := by
  intro builder draft
  have small : ∀ node ∈ draft.nodes,
      builder.references linkedReports.1 linkedReports.2 node.kind node.key < UInt32.size :=
    fun _ _ => Nat.lt_of_le_of_lt (builder.references_le _ _ _ _) (by decide)
  exact ⟨small, countsReferences_ofReports builder linkedReports.1 linkedReports.2 small,
    by decide +kernel, by decide +kernel, by decide +kernel⟩

end Draft

end QueryImpact
