import QueryImpact.Proofs.Build.Sighting
import QueryImpact.Proofs.Graph.Key

/-!
# What every draft is like

However reports are given and collected, a draft is made from the fragments of findings and links.
So its relationships have their ends in it, with the kinds that their types prescribe.  Where no
path holds a colon, the keys of its nodes tell their kinds.
-/

namespace QueryImpact

/-- A fragment that a builder makes of a finding or of a link. -/
inductive Builder.Yields (builder : Builder) (fragment : Fragment) : Prop
  /-- The fragment of a finding. -/
  | ofFinding (finding : Finding) (accepted : Fragment.ofFinding builder finding = .ok fragment)
  /-- The fragment of a link. -/
  | ofLink (link : Link) (accepted : Fragment.ofLink? builder link = some fragment)

namespace Builder

variable {builder : Builder} {fragment : Fragment}

theorem Yields.isTyped (yields : builder.Yields fragment) : fragment.IsTyped := by
  cases yields with
  | ofFinding finding accepted =>
      obtain ⟨_, location, _, rfl⟩ := Fragment.ofFinding_eq_ok_iff.mp accepted
      exact Fragment.isTyped_ofLocatedFinding builder.storeKind location finding
  | ofLink link accepted => exact Fragment.isTyped_ofLink accepted

/-- Where the files of a fragment have no colon in their paths, keys tell kinds. -/
theorem Yields.kind_of_mem (yields : builder.Yields fragment)
    (builtIn : ∀ strategy ∈ builder.strategies, strategy.IsBuiltIn)
    (colonFree : ∀ node ∈ fragment.nodes, node.kind = .file → ':' ∉ node.key.toList) {node : Node}
    (member : node ∈ fragment.nodes) : (KeyParts.read node.key.toList).kind = node.kind := by
  have plain : ∀ text location isTarget, builder.parse? text = some location →
      .file (location.fileNode isTarget) ∈ fragment.nodes → location.IsPlain := by
    intro text location isTarget parsed mentioned
    exact LocationStrategy.isPlain_of_parseFirst builtIn parsed (colonFree _ mentioned rfl)
  cases yields with
  | ofFinding finding accepted =>
      obtain ⟨_, location, parsed, rfl⟩ := Fragment.ofFinding_eq_ok_iff.mp accepted
      have locationPlain := plain _ location true parsed
        (Fragment.mem_nodes_ofLocatedFinding.mpr (Or.inl rfl))
      exact Fragment.kind_of_mem_nodes locationPlain member
  | ofLink link accepted =>
      rcases Fragment.ofLink?_eq_some accepted with
        ⟨source, target, rfl⟩ | ⟨caller, callee, callerParsed, calleeParsed, rfl⟩
      · have isFile : node.kind = .file := by
          simp only [List.mem_cons, List.not_mem_nil, or_false] at member
          rcases member with rfl | rfl
          · rfl
          · rfl
        rw [KeyParts.read_of_not_mem (colonFree node member isFile), isFile]
        rfl
      · have callerPlain := plain _ caller false callerParsed (by simp [SourceLocation.fragment])
        have calleePlain := plain _ callee false calleeParsed (by simp [SourceLocation.fragment])
        simp only [Fragment.nodes_append, List.append_nil, List.mem_append] at member
        rcases member with ofCaller | ofCallee
        · exact SourceLocation.kind_of_mem_fragment callerPlain ofCaller
        · exact SourceLocation.kind_of_mem_fragment calleePlain ofCallee

end Builder

namespace Draft

/-- A draft that has come about by collecting fragments that a builder makes. -/
inductive Collected (builder : Builder) : Draft → Prop
  /-- At first there is nothing. -/
  | empty : Collected builder empty
  /-- A fragment is collected. -/
  | add {draft : Draft} {fragment : Fragment} (collected : Collected builder draft)
      (yields : builder.Yields fragment) : Collected builder (draft.add fragment)
  /-- A report is left out. -/
  | leaveOut {draft : Draft} (collected : Collected builder draft) (skipped : List SkippedFinding)
      (skippedLinks : Nat) :
      Collected builder { draft with skipped := skipped, skippedLinks := skippedLinks }

variable {builder : Builder} {draft : Draft}

theorem Knows.bindsKind {nodes : List Node} {node : Node} (knows : Knows nodes node) :
    BindsKind nodes node.key node.kind := by
  obtain ⟨known, knownMember, same⟩ := knows
  obtain ⟨sameKind, sameKey⟩ := Node.isSame_iff.mp same
  exact ⟨known, knownMember, sameKey, sameKind⟩

/-- No two nodes of a draft have one kind and one key. -/
theorem Collected.distinct (collected : draft.Collected builder) : Distinct draft.nodes := by
  induction collected with
  | empty => exact List.Pairwise.nil
  | @add draft fragment collected yields ih => exact distinct_foldl_insertNode ih fragment.nodes
  | leaveOut collected skipped skippedLinks ih => exact ih

/-- No two relationships of a draft have one key. -/
theorem Collected.nodup_keys (collected : draft.Collected builder) :
    (draft.relationships.map Relationship.key).Nodup := by
  induction collected with
  | empty => exact List.nodup_nil
  | @add draft fragment collected yields ih =>
      exact nodup_keys_foldl_insertRelationship ih fragment.relationships
  | leaveOut collected skipped skippedLinks ih => exact ih

/-- The relationships of a draft have their ends in it, with the kinds that the types prescribe. -/
theorem Collected.joinsKinds (collected : draft.Collected builder) :
    ∀ relationship ∈ draft.relationships, relationship.JoinsKinds draft.nodes := by
  induction collected with
  | empty =>
      intro relationship member
      exact absurd member List.not_mem_nil
  | @add draft fragment collected yields ih =>
      intro relationship member
      rcases mem_of_mem_foldl_insertRelationship member with before | mentioned
      · apply (ih relationship before).of_binds
        intro node nodeMember
        exact (knows_foldl_insertNode_of_knows
          ⟨node, nodeMember, Node.isSame_refl node⟩ fragment.nodes).bindsKind
      · apply (yields.isTyped relationship mentioned).of_binds
        intro node nodeMember
        exact (knows_foldl_insertNode nodeMember).bindsKind
  | leaveOut collected skipped skippedLinks ih => exact ih

/-- The relationships of a draft have their ends in it. -/
theorem Collected.hasEnds (collected : draft.Collected builder) :
    ∀ relationship ∈ draft.relationships, relationship.HasEnds draft.nodes :=
  fun relationship member => (collected.joinsKinds relationship member).hasEnds

/-- No file of a draft has a colon in its path. -/
def ColonFree (draft : Draft) : Prop :=
  ∀ node ∈ draft.nodes, node.kind = .file → ':' ∉ node.key.toList

instance (draft : Draft) : Decidable draft.ColonFree :=
  inferInstanceAs (Decidable (∀ node ∈ draft.nodes, node.kind = .file → ':' ∉ node.key.toList))

/-- Where no path holds a colon, the keys of a draft tell the kinds of its nodes. -/
theorem Collected.kind_of_mem (collected : draft.Collected builder)
    (builtIn : ∀ strategy ∈ builder.strategies, strategy.IsBuiltIn)
    (colonFree : draft.ColonFree) :
    ∀ node ∈ draft.nodes, (KeyParts.read node.key.toList).kind = node.kind := by
  induction collected with
  | empty =>
      intro node member
      exact absurd member List.not_mem_nil
  | @add draft fragment collected yields ih =>
      -- What was mentioned is still known, with its kind and its key.
      have known : ∀ node, node ∈ draft.nodes ∨ node ∈ fragment.nodes → node.kind = .file →
          ':' ∉ node.key.toList := by
        intro node mentioned isFile
        have knows : Knows (draft.add fragment).nodes node := by
          rcases mentioned with before | here
          · exact knows_foldl_insertNode_of_knows ⟨node, before, Node.isSame_refl node⟩ _
          · exact knows_foldl_insertNode here
        obtain ⟨same, sameMember, isSame⟩ := knows
        obtain ⟨sameKind, sameKey⟩ := Node.isSame_iff.mp isSame
        rw [← sameKey]
        exact colonFree same sameMember (sameKind.trans isFile)
      intro node member
      obtain ⟨mention, mentioned, same⟩ :=
        exists_mention_of_mem (fun node => (node.kind, node.key)) (by simp) member
      obtain ⟨kinds, keys⟩ := Prod.mk.inj same
      rw [← kinds, ← keys]
      rcases mentioned with before | here
      · exact ih (fun other otherMember => known other (Or.inl otherMember)) mention before
      · exact yields.kind_of_mem builtIn (fun other otherMember => known other (Or.inr otherMember))
          here
  | leaveOut collected skipped skippedLinks ih => exact ih colonFree

/-! ## Ways to collect -/

theorem Collected.addFinding (collected : draft.Collected builder) (index : Nat)
    (finding : Finding) : (draft.addFinding builder index finding).Collected builder := by
  unfold Draft.addFinding
  split
  · rename_i fragment accepted
    exact collected.add (.ofFinding finding accepted)
  · exact collected.leaveOut _ _

theorem Collected.addFindings (collected : draft.Collected builder) (start : Nat)
    (findings : List Finding) : (Draft.addFindings builder draft start findings).Collected builder := by
  induction findings generalizing draft start with
  | nil => exact collected
  | cons finding rest ih => exact ih (collected.addFinding start finding) (start + 1)

theorem Collected.addLink (collected : draft.Collected builder) (link : Link) :
    (draft.addLink builder link).Collected builder := by
  unfold Draft.addLink
  split
  · rename_i fragment accepted
    exact collected.add (.ofLink link accepted)
  · exact collected.leaveOut _ _

theorem Collected.addFindingJson (collected : draft.Collected builder) (index : Nat)
    (value : Json) : (draft.addFindingJson builder index value).Collected builder := by
  unfold Draft.addFindingJson
  split
  · exact collected.addFinding index _
  · exact collected.leaveOut _ _

theorem Collected.addFindingsJson (collected : draft.Collected builder) (start : Nat)
    (values : List Json) :
    (Draft.addFindingsJson builder draft start values).Collected builder := by
  induction values generalizing draft start with
  | nil => exact collected
  | cons value rest ih => exact ih (collected.addFindingJson start value) (start + 1)

theorem Collected.addLinkJson (collected : draft.Collected builder) (value : Json) :
    (draft.addLinkJson builder value).Collected builder := by
  unfold Draft.addLinkJson
  split
  · exact collected.addLink _
  · exact collected.leaveOut _ _

/-- A draft that a builder gives out: of reports, of findings in chunks, or of a payload. -/
inductive IsOutput (builder : Builder) : Draft → Prop
  /-- Findings and links. -/
  | ofReports (findings : List Finding) (links : List Link) :
      IsOutput builder (Draft.ofReports builder findings links)
  /-- Findings in chunks. -/
  | ofChunks (size : Nat) (findings : List Finding) :
      IsOutput builder (Draft.ofChunks builder size findings)
  /-- A payload that is not refused. -/
  | ofPayload (payload : Json) (draft : Draft) (accepted : ofPayload builder payload = .ok draft) :
      IsOutput builder draft

theorem IsOutput.collected (output : draft.IsOutput builder) : draft.Collected builder := by
  cases output with
  | ofReports findings links =>
      exact List.foldlRecOn links _ (Collected.empty.addFindings 0 findings)
        fun _ collected link _ => collected.addLink link
  | ofChunks size findings =>
      rw [Draft.ofChunks_eq_ofFindings]
      exact Collected.empty.addFindings 0 findings
  | ofPayload payload _ accepted =>
      unfold Draft.ofPayload at accepted
      split at accepted
      · contradiction
      · rename_i findings links _
        obtain rfl := Except.ok.inj accepted
        exact List.foldlRecOn links _ (Collected.empty.addFindingsJson 0 findings)
          fun _ collected value _ => collected.addLinkJson value

end Draft

end QueryImpact
