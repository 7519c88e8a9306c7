import QueryImpact.Build.Draft
import QueryImpact.Proofs.Build.Fragment

/-!
# Merging drafts

Collecting findings chunk by chunk and merging the drafts is collecting them in a row.  The merge
mentions nodes that have already absorbed others, so it is here that absorbing has to be
associative; mentions of different things commute, and the first mention keeps its place.

Main result: `collected_in_chunks`, for every chunk size.
-/

namespace QueryImpact

namespace Node

theorem isSame_iff {first second : Node} :
    first.isSame second = true ↔ first.kind = second.kind ∧ first.key = second.key := by
  simp [isSame]

theorem isSame_refl (node : Node) : node.isSame node = true :=
  isSame_iff.mpr ⟨rfl, rfl⟩

theorem isSame_comm (first second : Node) : first.isSame second = second.isSame first := by
  simp only [isSame, eq_comm]

/-- Sightings of one thing are alike for every further node. -/
theorem isSame_congr {first second : Node} (same : first.isSame second = true) (other : Node) :
    first.isSame other = second.isSame other := by
  obtain ⟨kinds, keys⟩ := isSame_iff.mp same
  simp only [isSame, kinds, keys]

@[simp]
theorem isSame_absorb_left (first second other : Node) :
    (first.absorb second).isSame other = first.isSame other := by
  simp only [isSame, kind_absorb, key_absorb]

@[simp]
theorem isSame_absorb_right (first second other : Node) :
    other.isSame (first.absorb second) = other.isSame first := by
  simp only [isSame, kind_absorb, key_absorb]

end Node

namespace Draft

/-! ## Mentioning nodes -/

/-- No two of the nodes are sightings of the same thing. -/
def Distinct (nodes : List Node) : Prop :=
  nodes.Pairwise fun first second => first.isSame second = false

/-- Whether one of the nodes is a sighting of the same thing. -/
def Knows (nodes : List Node) (node : Node) : Prop :=
  ∃ known ∈ nodes, known.isSame node = true

/-- After a mention, the nodes are those that were there, those that have absorbed the mention,
and the mention itself. -/
theorem mem_insertNode {nodes : List Node} {node member : Node}
    (inserted : member ∈ insertNode nodes node) :
    member ∈ nodes ∨ member = node ∨ ∃ known ∈ nodes, member = known.absorb node := by
  induction nodes with
  | nil =>
      rw [insertNode_nil, List.mem_singleton] at inserted
      exact Or.inr (Or.inl inserted)
  | cons first rest ih =>
      by_cases same : first.isSame node = true
      · rw [insertNode_cons_of_isSame same] at inserted
        rcases List.mem_cons.mp inserted with rfl | later
        · exact Or.inr (Or.inr ⟨first, List.mem_cons_self, rfl⟩)
        · exact Or.inl (List.mem_cons_of_mem _ later)
      · rw [insertNode_cons_of_not_isSame (Bool.eq_false_iff.mpr same)] at inserted
        rcases List.mem_cons.mp inserted with rfl | later
        · exact Or.inl List.mem_cons_self
        · rcases ih later with known | new | ⟨known, knownMember, absorbed⟩
          · exact Or.inl (List.mem_cons_of_mem _ known)
          · exact Or.inr (Or.inl new)
          · exact Or.inr (Or.inr ⟨known, List.mem_cons_of_mem _ knownMember, absorbed⟩)

theorem knows_insertNode (nodes : List Node) (node : Node) :
    Knows (insertNode nodes node) node := by
  induction nodes with
  | nil => exact ⟨node, List.mem_cons_self, node.isSame_refl⟩
  | cons first rest ih =>
      by_cases same : first.isSame node = true
      · rw [insertNode_cons_of_isSame same]
        exact ⟨first.absorb node, List.mem_cons_self, by simpa using same⟩
      · rw [insertNode_cons_of_not_isSame (Bool.eq_false_iff.mpr same)]
        obtain ⟨known, member, sameKnown⟩ := ih
        exact ⟨known, List.mem_cons_of_mem _ member, sameKnown⟩

theorem distinct_insertNode {nodes : List Node} (distinct : Distinct nodes) (node : Node) :
    Distinct (insertNode nodes node) := by
  induction nodes with
  | nil => exact List.pairwise_singleton _ _
  | cons first rest ih =>
      obtain ⟨apart, restDistinct⟩ := List.pairwise_cons.mp distinct
      by_cases same : first.isSame node = true
      · rw [insertNode_cons_of_isSame same]
        refine List.pairwise_cons.mpr ⟨?_, restDistinct⟩
        intro other member
        rw [Node.isSame_absorb_left]
        exact apart other member
      · have different : first.isSame node = false := Bool.eq_false_iff.mpr same
        rw [insertNode_cons_of_not_isSame different]
        refine List.pairwise_cons.mpr ⟨?_, ih restDistinct⟩
        intro other member
        rcases mem_insertNode member with known | rfl | ⟨known, knownMember, rfl⟩
        · exact apart other known
        · exact different
        · rw [Node.isSame_absorb_right]
          exact apart known knownMember

/-- A mention of a known node and a mention of another thing commute. -/
theorem insertNode_comm {nodes : List Node} {node other : Node} (known : Knows nodes node)
    (different : node.isSame other = false) :
    insertNode (insertNode nodes node) other = insertNode (insertNode nodes other) node := by
  induction nodes with
  | nil =>
      obtain ⟨_, member, _⟩ := known
      exact absurd member List.not_mem_nil
  | cons first rest ih =>
      by_cases same : first.isSame node = true
      · have apart : first.isSame other = false := by
          rw [Node.isSame_congr same, different]
        rw [insertNode_cons_of_isSame same, insertNode_cons_of_not_isSame apart,
          insertNode_cons_of_isSame same, insertNode_cons_of_not_isSame (by simpa using apart)]
      · have sameFalse : first.isSame node = false := Bool.eq_false_iff.mpr same
        rw [insertNode_cons_of_not_isSame sameFalse]
        by_cases sameOther : first.isSame other = true
        · rw [insertNode_cons_of_isSame sameOther, insertNode_cons_of_isSame sameOther,
            insertNode_cons_of_not_isSame (by simpa using sameFalse)]
        · have otherFalse : first.isSame other = false := Bool.eq_false_iff.mpr sameOther
          have knownLater : Knows rest node := by
            obtain ⟨witness, member, sameWitness⟩ := known
            rcases List.mem_cons.mp member with rfl | later
            · exact absurd sameWitness same
            · exact ⟨witness, later, sameWitness⟩
          rw [insertNode_cons_of_not_isSame otherFalse, insertNode_cons_of_not_isSame otherFalse,
            insertNode_cons_of_not_isSame sameFalse, ih knownLater]

/-- What is known stays known. -/
theorem knows_insertNode_of_knows {nodes : List Node} {node : Node} (known : Knows nodes node)
    (other : Node) : Knows (insertNode nodes other) node := by
  induction nodes with
  | nil =>
      obtain ⟨_, member, _⟩ := known
      exact absurd member List.not_mem_nil
  | cons first rest ih =>
      obtain ⟨witness, member, sameWitness⟩ := known
      by_cases same : first.isSame other = true
      · rw [insertNode_cons_of_isSame same]
        rcases List.mem_cons.mp member with rfl | later
        · exact ⟨witness.absorb other, List.mem_cons_self, by simpa using sameWitness⟩
        · exact ⟨witness, List.mem_cons_of_mem _ later, sameWitness⟩
      · rw [insertNode_cons_of_not_isSame (Bool.eq_false_iff.mpr same)]
        rcases List.mem_cons.mp member with rfl | later
        · exact ⟨witness, List.mem_cons_self, sameWitness⟩
        · obtain ⟨found, foundMember, sameFound⟩ := ih ⟨witness, later, sameWitness⟩
          exact ⟨found, List.mem_cons_of_mem _ foundMember, sameFound⟩

/-- Mentioning a node that has absorbed another is mentioning the two in a row. -/
theorem insertNode_absorb {nodes : List Node} {first second : Node}
    (same : first.isSame second = true) (comparable : ∀ node ∈ nodes, node.IsComparable)
    (firstComparable : first.IsComparable) (secondComparable : second.IsComparable) :
    insertNode nodes (first.absorb second) = insertNode (insertNode nodes first) second := by
  induction nodes with
  | nil =>
      rw [insertNode_nil, insertNode_nil, insertNode_cons_of_isSame same]
  | cons head rest ih =>
      by_cases sameHead : head.isSame first = true
      · have sameSecond : (head.absorb first).isSame second = true := by
          rw [Node.isSame_absorb_left, Node.isSame_congr sameHead, same]
        rw [insertNode_cons_of_isSame (by simpa using sameHead),
          insertNode_cons_of_isSame sameHead, insertNode_cons_of_isSame sameSecond,
          Node.absorb_assoc (Node.isSame_iff.mp same).1 (comparable head List.mem_cons_self)
            firstComparable secondComparable]
      · have different : head.isSame first = false := Bool.eq_false_iff.mpr sameHead
        have apart : head.isSame second = false := by
          rw [Node.isSame_comm, ← Node.isSame_congr same, Node.isSame_comm, different]
        rw [insertNode_cons_of_not_isSame (by simpa using different),
          insertNode_cons_of_not_isSame different, insertNode_cons_of_not_isSame apart,
          ih fun node member => comparable node (List.mem_cons_of_mem _ member)]

/-- A mention of a known node can wait until other things are mentioned. -/
theorem foldl_insertNode_comm {base nodes : List Node} {node : Node} (known : Knows base node)
    (different : ∀ other ∈ nodes, node.isSame other = false) :
    nodes.foldl insertNode (insertNode base node) =
      insertNode (nodes.foldl insertNode base) node := by
  induction nodes generalizing base with
  | nil => rfl
  | cons first rest ih =>
      rw [List.foldl_cons, List.foldl_cons,
        insertNode_comm known (different first List.mem_cons_self)]
      exact ih (knows_insertNode_of_knows known first) fun other member =>
        different other (List.mem_cons_of_mem _ member)

/-- A list of nodes that may be mentioned again elsewhere: each thing once, with confidences that
can be compared. -/
structure Mentionable (nodes : List Node) : Prop where
  distinct : Distinct nodes
  comparable : ∀ node ∈ nodes, node.IsComparable

theorem Mentionable.nil : Mentionable [] :=
  ⟨List.Pairwise.nil, fun _ member => absurd member List.not_mem_nil⟩

theorem comparable_insertNode {nodes : List Node} (comparable : ∀ node ∈ nodes, node.IsComparable)
    {node : Node} (nodeComparable : node.IsComparable) :
    ∀ member ∈ insertNode nodes node, member.IsComparable := by
  intro member inserted
  rcases mem_insertNode inserted with known | rfl | ⟨known, knownMember, rfl⟩
  · exact comparable member known
  · exact nodeComparable
  · exact Node.isComparable_absorb (comparable known knownMember) nodeComparable

theorem Mentionable.insertNode {nodes : List Node} (mentionable : Mentionable nodes) {node : Node}
    (comparable : node.IsComparable) : Mentionable (insertNode nodes node) :=
  ⟨distinct_insertNode mentionable.distinct node,
    comparable_insertNode mentionable.comparable comparable⟩

theorem Mentionable.foldl_insertNode {base nodes : List Node} (mentionable : Mentionable base)
    (comparable : ∀ node ∈ nodes, node.IsComparable) :
    Mentionable (nodes.foldl Draft.insertNode base) := by
  induction nodes generalizing base with
  | nil => exact mentionable
  | cons first rest ih =>
      exact ih (mentionable.insertNode (comparable first List.mem_cons_self)) fun node member =>
        comparable node (List.mem_cons_of_mem _ member)

/-- Mentioning a list to which a node was added is mentioning the list, then the node. -/
theorem foldl_insertNode_insertNode {base nodes : List Node} {node : Node}
    (baseComparable : ∀ node ∈ base, node.IsComparable) (mentionable : Mentionable nodes)
    (comparable : node.IsComparable) :
    (insertNode nodes node).foldl insertNode base =
      insertNode (nodes.foldl insertNode base) node := by
  induction nodes generalizing base with
  | nil => rfl
  | cons first rest ih =>
      obtain ⟨apart, restDistinct⟩ := List.pairwise_cons.mp mentionable.distinct
      have firstComparable := mentionable.comparable first List.mem_cons_self
      by_cases same : first.isSame node = true
      · rw [insertNode_cons_of_isSame same, List.foldl_cons, List.foldl_cons,
          insertNode_absorb same baseComparable firstComparable comparable]
        apply foldl_insertNode_comm
        · obtain ⟨known, member, sameKnown⟩ := knows_insertNode base first
          exact ⟨known, member, (Node.isSame_congr sameKnown node).trans same⟩
        · intro other member
          rw [← Node.isSame_congr same]
          exact apart other member
      · rw [insertNode_cons_of_not_isSame (Bool.eq_false_iff.mpr same), List.foldl_cons,
          List.foldl_cons]
        exact ih (comparable_insertNode baseComparable firstComparable)
          ⟨restDistinct, fun other member =>
            mentionable.comparable other (List.mem_cons_of_mem _ member)⟩

/-- Mentioning what a list of mentions has left is mentioning them all. -/
theorem foldl_insertNode_foldl {base nodes mentions : List Node}
    (baseComparable : ∀ node ∈ base, node.IsComparable) (mentionable : Mentionable nodes)
    (comparable : ∀ node ∈ mentions, node.IsComparable) :
    (mentions.foldl insertNode nodes).foldl insertNode base =
      mentions.foldl insertNode (nodes.foldl insertNode base) := by
  induction mentions generalizing nodes with
  | nil => rfl
  | cons first rest ih =>
      have firstComparable := comparable first List.mem_cons_self
      rw [List.foldl_cons, List.foldl_cons,
        ← foldl_insertNode_insertNode baseComparable mentionable firstComparable]
      exact ih (mentionable.insertNode firstComparable) fun node member =>
        comparable node (List.mem_cons_of_mem _ member)

/-! ## Mentioning relationships -/

/-- The keys after a mention are those from before and that of the mention. -/
theorem exists_key_insertRelationship (relationships : List Relationship)
    (relationship : Relationship) (key : RelationshipKey) :
    (∃ known ∈ insertRelationship relationships relationship, known.key = key) ↔
      (∃ known ∈ relationships, known.key = key) ∨ relationship.key = key := by
  unfold insertRelationship
  split
  · rename_i repeated
    obtain ⟨known, member, same⟩ := List.any_eq_true.mp repeated
    constructor
    · exact Or.inl
    · rintro (found | rfl)
      · exact found
      · exact ⟨known, member, of_decide_eq_true same⟩
  · simp only [List.mem_append, List.mem_singleton, or_and_right, exists_or, exists_eq_left]

/-- A relationship whose key is known is not mentioned again. -/
theorem insertRelationship_of_exists_key {relationships : List Relationship}
    {relationship : Relationship}
    (known : ∃ known ∈ relationships, known.key = relationship.key) :
    insertRelationship relationships relationship = relationships := by
  obtain ⟨first, member, same⟩ := known
  exact if_pos (List.any_eq_true.mpr ⟨first, member, decide_eq_true same⟩)

theorem exists_key_foldl_insertRelationship (base relationships : List Relationship)
    (key : RelationshipKey) :
    (∃ known ∈ relationships.foldl insertRelationship base, known.key = key) ↔
      (∃ known ∈ base, known.key = key) ∨ ∃ known ∈ relationships, known.key = key := by
  induction relationships generalizing base with
  | nil => simp
  | cons first rest ih =>
      rw [List.foldl_cons, ih, exists_key_insertRelationship, or_assoc]
      simp only [List.mem_cons, or_and_right, exists_or, exists_eq_left]

/-- Mentioning a list to which a relationship was added is mentioning the list, then the
relationship. -/
theorem foldl_insertRelationship_insertRelationship (base relationships : List Relationship)
    (relationship : Relationship) :
    (insertRelationship relationships relationship).foldl insertRelationship base =
      insertRelationship (relationships.foldl insertRelationship base) relationship := by
  by_cases known : ∃ known ∈ relationships, known.key = relationship.key
  · rw [insertRelationship_of_exists_key known, insertRelationship_of_exists_key
      ((exists_key_foldl_insertRelationship _ _ _).mpr (Or.inr known))]
  · have new : insertRelationship relationships relationship = relationships ++ [relationship] := by
      refine if_neg ?_
      simpa using known
    rw [new, List.foldl_append]
    rfl

theorem foldl_insertRelationship_foldl (base relationships mentions : List Relationship) :
    (mentions.foldl insertRelationship relationships).foldl insertRelationship base =
      mentions.foldl insertRelationship (relationships.foldl insertRelationship base) := by
  induction mentions generalizing relationships with
  | nil => rfl
  | cons first rest ih =>
      rw [List.foldl_cons, List.foldl_cons, ih, foldl_insertRelationship_insertRelationship]

/-! ## Merging -/

/-- Merging a draft to which a finding was added is merging the draft, then adding the finding. -/
theorem merge_addFinding {draft other : Draft}
    (comparable : ∀ node ∈ draft.nodes, node.IsComparable)
    (mentionable : Mentionable other.nodes) (builder : Builder) (index : Nat) (finding : Finding) :
    draft.merge (other.addFinding builder index finding) =
      (draft.merge other).addFinding builder index finding := by
  unfold addFinding
  cases accepted : Fragment.ofFinding builder finding with
  | ok fragment =>
      simp only [merge, add, Draft.mk.injEq, and_true]
      exact ⟨foldl_insertNode_foldl comparable mentionable
        (Fragment.comparable_of_ofFinding accepted), foldl_insertRelationship_foldl _ _ _⟩
  | error cause => simp only [merge, skip, List.append_assoc]

theorem mentionable_addFinding {draft : Draft} (mentionable : Mentionable draft.nodes)
    (builder : Builder) (index : Nat) (finding : Finding) :
    Mentionable (draft.addFinding builder index finding).nodes := by
  unfold addFinding
  cases accepted : Fragment.ofFinding builder finding with
  | ok fragment =>
      exact mentionable.foldl_insertNode (Fragment.comparable_of_ofFinding accepted)
  | error cause => exact mentionable

/-- Every draft of findings has its nodes once and with confidences that can be compared. -/
theorem mentionable_addFindings {draft : Draft} (mentionable : Mentionable draft.nodes)
    (builder : Builder) (start : Nat) (findings : List Finding) :
    Mentionable (addFindings builder draft start findings).nodes := by
  induction findings generalizing draft start with
  | nil => exact mentionable
  | cons finding rest ih =>
      exact ih (mentionable_addFinding mentionable builder start finding) (start + 1)

/-- Merging a draft to which findings were added is merging the draft, then adding the findings. -/
theorem merge_addFindings {draft other : Draft}
    (comparable : ∀ node ∈ draft.nodes, node.IsComparable)
    (mentionable : Mentionable other.nodes) (builder : Builder) (start : Nat)
    (findings : List Finding) :
    draft.merge (addFindings builder other start findings) =
      addFindings builder (draft.merge other) start findings := by
  induction findings generalizing other start with
  | nil => rfl
  | cons finding rest ih =>
      simp only [addFindings]
      rw [ih (mentionable_addFinding mentionable builder start finding) (start + 1),
        merge_addFinding comparable mentionable]

@[simp]
theorem merge_empty (draft : Draft) : draft.merge empty = draft := by
  simp only [merge, empty, List.foldl_nil, List.append_nil, Nat.add_zero]

/-- Merging the drafts of chunks is collecting the findings of the chunks in a row.  As all chunks
but the last are full, the first finding of a chunk has the place that its number and the size
tell. -/
theorem mergeChunks_eq_addFindings (builder : Builder) {draft : Draft}
    (mentionable : Mentionable draft.nodes) {size : Nat} (number : Nat)
    {parts : List (List Finding)} (full : ∀ part ∈ parts.dropLast, part.length = size) :
    mergeChunks builder size draft number parts =
      addFindings builder draft (number * size) parts.flatten := by
  induction parts generalizing draft number with
  | nil => rfl
  | cons part rest ih =>
      have merged : draft.merge (addFindings builder empty (number * size) part) =
          addFindings builder draft (number * size) part := by
        rw [merge_addFindings mentionable.comparable Mentionable.nil, merge_empty]
      rw [mergeChunks, merged, List.flatten_cons, addFindings_append]
      cases rest with
      | nil => rfl
      | cons next others =>
          have isFull : part.length = size := full part List.mem_cons_self
          rw [isFull, ← Nat.succ_mul]
          apply ih (mentionable_addFindings mentionable builder (number * size) part)
          intro later member
          exact full later (List.mem_cons_of_mem part member)

theorem ofChunks_eq_ofFindings (builder : Builder) (size : Nat) (findings : List Finding) :
    ofChunks builder size findings = ofFindings builder findings := by
  rw [ofChunks, mergeChunks_eq_addFindings builder Mentionable.nil 0, flatten_chunks,
    Nat.zero_mul]
  · rfl
  · intro chunk member
    exact length_of_mem_dropLast_chunks member

/-- Collecting findings in chunks, of the usual size or of any other, gives the draft that
collecting them in one go gives: the same nodes and relationships in the same order with all their
fields, and the same findings left out, with their places among all findings. -/
theorem collected_in_chunks (builder : Builder) (findings : List Finding) :
    ofFindingsInChunks builder findings = ofFindings builder findings ∧
      ∀ size, ofChunks builder size findings = ofFindings builder findings := by
  have anySize (size : Nat) := ofChunks_eq_ofFindings builder size findings
  exact ⟨anySize chunkSize, anySize⟩

end Draft

end QueryImpact
