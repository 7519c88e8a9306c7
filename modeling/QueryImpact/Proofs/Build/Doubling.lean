import Mathlib
import QueryImpact.Proofs.Build.Occurrence

/-!
# Findings that are given twice

Collecting a list of findings a second time brings nothing new.  Each node meets itself again: it
absorbs a node with the same fields, which adds its counter to itself and changes nothing else.
Each relationship is known by its key.  What is left out is left out again, at its later place.
-/

namespace QueryImpact

namespace Node

/-! ## Nodes that absorb themselves -/

/-- The node with another counter; an issue has none. -/
def withOccurrences (count : UInt32) : Node → Node
  | file node => file { node with occurrences := count }
  | classDef node => classDef { node with occurrences := count }
  | method node => method { node with occurrences := count }
  | query node => query { node with occurrences := count }
  | entity node => entity { node with occurrences := count }
  | issue node => issue node

/-- Two nodes have the same fields, apart from a counter, which is twice as large in the second. -/
structure IsDoubled (once twice : Node) : Prop where
  /-- All other fields agree. -/
  fields : twice.withOccurrences 0 = once.withOccurrences 0
  /-- The counter, if there is one, is doubled. -/
  occurrences : twice.occurrences?.map UInt32.toNat =
    once.occurrences?.map fun count => 2 * count.toNat

theorem withOccurrences_absorb_self (node : Node) (count : UInt32) :
    (node.absorb node).withOccurrences count = node.withOccurrences count := by
  cases node with
  | file node => simp [absorb, FileNode.absorb, withOccurrences]
  | classDef node => simp [absorb, ClassNode.absorb, withOccurrences]
  | method node => rfl
  | query node => rfl
  | entity node => rfl
  | issue node =>
      obtain ⟨key, kind, severity, message, confidence, query⟩ := node
      cases confidence with
      | none => simp [absorb, IssueNode.absorb, withOccurrences, IssueNode.maxConfidence]
      | some value => simp [absorb, IssueNode.absorb, withOccurrences, IssueNode.maxConfidence]

theorem occurrences?_absorb_self (node : Node) :
    (node.absorb node).occurrences? = node.occurrences?.map fun count => count + count := by
  cases node <;> rfl

/-- A node that absorbs itself doubles its counter, if there is room for that. -/
theorem isDoubled_absorb_self {node : Node}
    (room : ∀ count, node.occurrences? = some count → 2 * count.toNat < UInt32.size) :
    node.IsDoubled (node.absorb node) where
  fields := withOccurrences_absorb_self node 0
  occurrences := by
    rw [occurrences?_absorb_self, Option.map_map]
    apply Option.map_congr
    intro count counted
    have fits := room count counted
    rw [UInt32.size] at fits
    rw [Function.comp_apply, UInt32.toNat_add, Nat.mod_eq_of_lt (by omega)]
    omega

end Node

namespace Draft

/-! ## Mentioning everything again -/

/-- A mention finds the node that it is the same as, behind nodes that it is not the same as. -/
theorem insertNode_append_cons {base rest : List Node} {first node : Node}
    (apart : ∀ known ∈ base, known.isSame node = false) (same : first.isSame node = true) :
    insertNode (base ++ first :: rest) node = base ++ first.absorb node :: rest := by
  induction base with
  | nil => exact insertNode_cons_of_isSame same
  | cons known base ih =>
      obtain ⟨here, later⟩ := List.forall_mem_cons.mp apart
      rw [List.cons_append, insertNode_cons_of_not_isSame here, ih later, List.cons_append]

/-- Where each thing stands once, mentioning all nodes again lets each absorb itself. -/
theorem foldl_insertNode_self {base nodes : List Node}
    (apart : ∀ known ∈ base, ∀ node ∈ nodes, known.isSame node = false)
    (distinct : Distinct nodes) :
    nodes.foldl insertNode (base ++ nodes) = base ++ nodes.map fun node => node.absorb node := by
  -- The base holds the nodes that are already passed, which have absorbed themselves.
  induction nodes generalizing base with
  | nil => rfl
  | cons first rest ih =>
      obtain ⟨firstApart, restDistinct⟩ := List.pairwise_cons.mp distinct
      have moved : base ++ first.absorb first :: rest = base ++ [first.absorb first] ++ rest := by
        simp
      rw [List.foldl_cons, insertNode_append_cons
        (fun known member => apart known member first List.mem_cons_self) first.isSame_refl, moved,
        ih _ restDistinct]
      · simp
      · intro known member node later
        rcases List.mem_append.mp member with before | here
        · exact apart known before node (List.mem_cons_of_mem _ later)
        · rw [List.mem_singleton.mp here, Node.isSame_absorb_left]
          exact firstApart node later

theorem foldl_insertRelationship_of_subset {base mentions : List Relationship}
    (known : mentions ⊆ base) : mentions.foldl insertRelationship base = base := by
  induction mentions with
  | nil => rfl
  | cons first rest ih =>
      obtain ⟨here, later⟩ := List.cons_subset.mp known
      rw [List.foldl_cons, insertRelationship_of_exists_key ⟨first, here, rfl⟩, ih later]

end Draft

/-- The note on a finding that stands later in a list. -/
def SkippedFinding.later (offset : Nat) (skipped : SkippedFinding) : SkippedFinding :=
  { skipped with index := skipped.index + offset }

namespace Draft

variable (builder : Builder)

/-- Findings that stand later are left out for the same reasons, at their later places. -/
theorem skipped_addFindings_later (offset : Nat) {draft other : Draft}
    (notes : other.skipped = draft.skipped.map (SkippedFinding.later offset)) (start : Nat)
    (findings : List Finding) :
    (addFindings builder other (start + offset) findings).skipped =
      (addFindings builder draft start findings).skipped.map (SkippedFinding.later offset) := by
  induction findings generalizing draft other start with
  | nil => exact notes
  | cons finding rest ih =>
      rw [addFindings, addFindings, Nat.add_right_comm]
      apply ih
      unfold addFinding
      cases Fragment.ofFinding builder finding with
      | ok fragment => exact notes
      | error cause =>
          simp only [skip, List.map_append, notes]
          rfl

/-- Collecting findings a second time is merging their draft into itself, with later notes. -/
theorem ofFindings_append_self (findings : List Finding) :
    ofFindings builder (findings ++ findings) =
      (ofFindings builder findings).merge
        (addFindings builder empty findings.length findings) := by
  have mentionable : Mentionable (ofFindings builder findings).nodes :=
    mentionable_addFindings Mentionable.nil builder 0 findings
  rw [merge_addFindings mentionable.comparable Mentionable.nil, merge_empty]
  have inRow := addFindings_append builder empty 0 findings findings
  rw [Nat.zero_add] at inRow
  exact inRow

theorem nodes_ofFindings_append_self (findings : List Finding) :
    (ofFindings builder (findings ++ findings)).nodes =
      (ofFindings builder findings).nodes.map fun node => node.absorb node := by
  have again : (addFindings builder empty findings.length findings).nodes =
      (ofFindings builder findings).nodes :=
    (addFindings_eq builder empty findings.length findings).1.trans
      (addFindings_eq builder empty 0 findings).1.symm
  have distinct : Distinct (ofFindings builder findings).nodes :=
    (mentionable_addFindings Mentionable.nil builder 0 findings).distinct
  rw [ofFindings_append_self, merge, again]
  exact @foldl_insertNode_self [] _ (fun _ member => absurd member List.not_mem_nil) distinct

theorem relationships_ofFindings_append_self (findings : List Finding) :
    (ofFindings builder (findings ++ findings)).relationships =
      (ofFindings builder findings).relationships := by
  have again : (addFindings builder empty findings.length findings).relationships =
      (ofFindings builder findings).relationships :=
    (addFindings_eq builder empty findings.length findings).2.trans
      (addFindings_eq builder empty 0 findings).2.symm
  rw [ofFindings_append_self, merge, again]
  exact foldl_insertRelationship_of_subset (List.Subset.refl _)

theorem skipped_ofFindings_append_self (findings : List Finding) :
    (ofFindings builder (findings ++ findings)).skipped =
      (ofFindings builder findings).skipped ++
        (ofFindings builder findings).skipped.map (SkippedFinding.later findings.length) := by
  have later := @skipped_addFindings_later builder findings.length empty empty rfl 0 findings
  rw [Nat.zero_add] at later
  rw [ofFindings_append_self, merge, later]
  rfl

end Draft

/-! ## Doubled drafts -/

/-- Twice as many findings give twice as many references. -/
theorem Builder.references_append_self (builder : Builder) (findings : List Finding)
    (kind : NodeKind) (key : String) :
    builder.references (findings ++ findings) [] kind key =
      2 * builder.references findings [] kind key := by
  simp only [references, sightings, List.filterMap_append, List.countP_append, List.flatMap_nil,
    List.countP_nil, List.count_nil, ite_self]
  omega

namespace Draft

/-- The second draft is the first one with doubled counters, and with the notes repeated at places
that are later by the given number. -/
structure IsDoubled (offset : Nat) (once twice : Draft) : Prop where
  /-- The nodes stand in the same order, with doubled counters. -/
  nodes : List.Forall₂ Node.IsDoubled once.nodes twice.nodes
  /-- The relationships are the same. -/
  relationships : twice.relationships = once.relationships
  /-- The notes are repeated. -/
  skipped : twice.skipped = once.skipped ++ once.skipped.map (SkippedFinding.later offset)

/-- Findings that are given twice over make the draft that they make when they are given once, with
every counter doubled, as long as there is room in the counters, and with all notes repeated. -/
theorem isDoubled_ofFindings (builder : Builder) (findings : List Finding)
    (small : ∀ node ∈ (ofFindings builder (findings ++ findings)).nodes,
      builder.references (findings ++ findings) [] node.kind node.key < UInt32.size) :
    IsDoubled findings.length (ofFindings builder findings)
      (ofFindings builder (findings ++ findings)) where
  nodes := by
    rw [nodes_ofFindings_append_self] at small ⊢
    rw [List.forall₂_map_right_iff, List.forall₂_same]
    intro node member
    apply Node.isDoubled_absorb_self
    intro count counts
    -- The counter is the number of references up to its size, so there is room for twice as many.
    have counted : node.kind ≠ .issue := by
      intro isIssue
      cases node <;> cases isIssue
      cases counts
    have total := small _ (List.mem_map_of_mem member)
    rw [Node.kind_absorb, Node.key_absorb, Builder.references_append_self] at total
    have weight := weight_of_mem_ofReports member counted
    rw [Node.weight, counts, Option.getD_some] at weight
    rw [weight, UInt32.toNat_ofNat_of_lt' (by omega)]
    exact total
  relationships := relationships_ofFindings_append_self builder findings
  skipped := skipped_ofFindings_append_self builder findings

/-- One query found at two places, with different certainty, and a finding that cannot be used. -/
def unevenFindings : List Finding :=
  [{ sourceLocation := "UserDao#find:10", queryText := "SELECT * FROM users", severity := .high,
     confidence := some 0.5 },
    { sourceLocation := "nowhere", queryText := "SELECT 1", severity := .low },
    { sourceLocation := "UserDao#find:20", queryText := "SELECT * FROM users", severity := .high,
      message := some "again", confidence := some 0.25 }]

theorem isDoubled_ofFindings_uneven :
    let twice := ofFindings .java (unevenFindings ++ unevenFindings)
    (∀ node ∈ twice.nodes, Builder.java.references (unevenFindings ++ unevenFindings) []
        node.kind node.key < UInt32.size) ∧
      IsDoubled 3 (ofFindings .java unevenFindings) twice ∧
      twice.skipped.map SkippedFinding.index = [1, 4] ∧
      Builder.java.references (unevenFindings ++ unevenFindings) [] .file "UserDao.java" = 4 := by
  intro twice
  have small : ∀ node ∈ twice.nodes, Builder.java.references
      (unevenFindings ++ unevenFindings) [] node.kind node.key < UInt32.size :=
    fun _ _ => Nat.lt_of_le_of_lt (Builder.references_le _ _ _ _ _) (by decide)
  exact ⟨small, isDoubled_ofFindings .java unevenFindings small, by decide +kernel,
    by decide +kernel⟩

end Draft

end QueryImpact
