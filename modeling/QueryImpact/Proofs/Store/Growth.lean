import Mathlib
import QueryImpact.Proofs.Store.Import
import QueryImpact.Proofs.Store.Integrity

/-!
# Counts of a chunk and growth of the graph

Writing a chunk counts how many of its elements are new, how many replace another one and how many
are left out.  The same numbers can be read off the graph before and after: the new elements are
the keys that were added, and the relationships left out are those that are not stored afterwards.
Both are told by the graph before, without writing anything.
-/

namespace QueryImpact

namespace OrderedMap

variable {κ ν : Type} [Ord κ] [Std.LawfulEqOrd κ] [DecidableEq κ]

theorem card_keys (map : OrderedMap κ ν) : map.keys.toFinset.card = map.size := by
  rw [List.toFinset_card_of_nodup map.nodup_keys, keys, List.length_map, size]

/-- Storing under a key makes a map larger by one, unless the key is there. -/
theorem size_insert [Std.TransOrd κ] (map : OrderedMap κ ν) (key : κ) (value : ν) :
    (map.insert key value).size = map.size + if map.contains key then 0 else 1 := by
  have keys : (map.insert key value).keys.toFinset = Insert.insert key map.keys.toFinset := by
    ext other
    simp [← contains_iff_mem_keys, contains_insert]
  rw [← card_keys, keys, ← card_keys map]
  cases stored : map.contains key with
  | true =>
      rw [contains_iff_mem_keys] at stored
      exact Finset.card_insert_of_mem (List.mem_toFinset.mpr stored)
  | false =>
      rw [← Bool.not_eq_true, contains_iff_mem_keys] at stored
      exact Finset.card_insert_of_notMem (mt List.mem_toFinset.mp stored)

/-- The keys that a map has and an earlier one has not. -/
def addedKeys (before after : OrderedMap κ ν) : List κ :=
  after.keys.filter fun key => !before.contains key

omit [DecidableEq κ] in
theorem mem_addedKeys_iff {before after : OrderedMap κ ν} {key : κ} :
    key ∈ before.addedKeys after ↔ after.contains key = true ∧ before.contains key = false := by
  rw [addedKeys, List.mem_filter, contains_iff_mem_keys, Bool.not_eq_true']

theorem card_addedKeys (before after : OrderedMap κ ν) :
    (before.addedKeys after).toFinset.card = (before.addedKeys after).length :=
  List.toFinset_card_of_nodup (after.nodup_keys.filter _)

/-- Storing values makes a map larger by the added keys. -/
theorem length_addedKeys_add_size [Std.TransOrd κ] (keyOf : ν → κ) (map : OrderedMap κ ν)
    (values : List ν) :
    (map.addedKeys (map.overwrite keyOf values)).length + map.size =
      (map.overwrite keyOf values).size := by
  have split : (map.addedKeys (map.overwrite keyOf values)).toFinset =
      (map.overwrite keyOf values).keys.toFinset \ map.keys.toFinset := by
    ext key
    simp [mem_addedKeys_iff, ← contains_iff_mem_keys]
  have subset : map.keys.toFinset ⊆ (map.overwrite keyOf values).keys.toFinset := by
    intro key stored
    rw [List.mem_toFinset, ← contains_iff_mem_keys] at stored ⊢
    exact (contains_overwrite keyOf).mpr (Or.inr stored)
  rw [← card_addedKeys, split, ← card_keys map, ← card_keys (map.overwrite keyOf values)]
  exact Finset.card_sdiff_add_card_eq_card subset

/-- Storing values adds those of their keys that were not there, each once. -/
theorem length_addedKeys_overwrite [Std.TransOrd κ] (keyOf : ν → κ) (map : OrderedMap κ ν)
    (values : List ν) :
    (map.addedKeys (map.overwrite keyOf values)).length =
      ((values.map keyOf).toFinset.filter fun key => map.contains key = false).card := by
  rw [← card_addedKeys]
  congr 1
  ext key
  rw [List.mem_toFinset, mem_addedKeys_iff, contains_overwrite, Finset.mem_filter,
    List.mem_toFinset, List.mem_map]
  constructor
  · rintro ⟨written | stored, absent⟩
    · exact ⟨written, absent⟩
    · rw [absent] at stored
      contradiction
  · rintro ⟨written, absent⟩
    exact ⟨Or.inl written, absent⟩

end OrderedMap

/-! ## Elements that are new -/

namespace UpsertStats

theorem created_none : none.created = 0 :=
  rfl

theorem created_countWrite (stats : UpsertStats) (replaced : Bool) :
    (stats.countWrite replaced).created = stats.created + if replaced then 0 else 1 := by
  cases replaced <;> rfl

/-- Counts from nothing on are known by what is new, what is written and what is left out. -/
theorem Counts.eq_mk {stats : UpsertStats} {created written missing : Nat}
    (counts : none.Counts stats written missing) (createdEq : stats.created = created) :
    stats = ⟨created, written - created, missing⟩ := by
  obtain ⟨_, updated, _⟩ := stats
  obtain ⟨writtenEq, missingEq⟩ := counts
  simp only [none, Nat.zero_add] at writtenEq missingEq createdEq
  rw [mk.injEq]
  exact ⟨createdEq, by omega, missingEq⟩

end UpsertStats

namespace Graph

/-- A batch of nodes counts as new what the graph grows by. -/
theorem foldl_putNode_growth (graph : Graph) (stats : UpsertStats) (nodes : List Node) :
    (nodes.foldl putNode (graph, stats)).2.created + graph.nodes.size =
      stats.created + (graph.withNodes nodes).nodes.size := by
  induction nodes generalizing graph stats with
  | nil => rfl
  | cons node rest ih =>
      have first : putNode (graph, stats) node =
          (graph.withNodes [node], stats.countWrite (graph.nodes.contains node.key)) := rfl
      have size : (graph.withNodes [node]).nodes.size = _ :=
        graph.nodes.size_insert node.key node
      have later := ih (graph.withNodes [node])
        (stats.countWrite (graph.nodes.contains node.key))
      rw [← withNodes_append, size, UpsertStats.created_countWrite] at later
      rw [List.foldl_cons, first]
      change _ = stats.created + (graph.withNodes ([node] ++ rest)).nodes.size
      omega

/-- A batch of relationships counts as new what the graph grows by. -/
theorem foldl_putRelationship_growth (graph : Graph) (stats : UpsertStats)
    (relationships : List Relationship) :
    (relationships.foldl putRelationship (graph, stats)).2.created + graph.relationships.size =
      stats.created +
        (graph.withRelationships (relationships.filter graph.hasEnds)).relationships.size := by
  induction relationships generalizing graph stats with
  | nil => rfl
  | cons relationship rest ih =>
      rw [List.foldl_cons]
      cases ends : graph.hasEnds relationship with
      | true =>
          have first : putRelationship (graph, stats) relationship =
              (graph.withRelationships [relationship],
                stats.countWrite (graph.relationships.contains relationship.key)) :=
            if_pos ends
          have size : (graph.withRelationships [relationship]).relationships.size = _ :=
            graph.relationships.size_insert relationship.key relationship
          have later := ih (graph.withRelationships [relationship])
            (stats.countWrite (graph.relationships.contains relationship.key))
          rw [hasEnds_withRelationships, ← withRelationships_append, size,
            UpsertStats.created_countWrite] at later
          rw [first, List.filter_cons_of_pos ends]
          change _ = stats.created + (graph.withRelationships
            ([relationship] ++ rest.filter graph.hasEnds)).relationships.size
          omega
      | false =>
          have first : putRelationship (graph, stats) relationship =
              (graph, stats.countMissing) :=
            if_neg (by rw [← hasEnds, ends]; exact Bool.false_ne_true)
          rw [first, List.filter_cons_of_neg (by simp [ends])]
          exact ih graph stats.countMissing

theorem hasEnds_congr (graph : Graph) {first second : Relationship}
    (sameKey : first.key = second.key) : graph.hasEnds first = graph.hasEnds second := by
  have sources : first.source = second.source := congrArg RelationshipKey.source sameKey
  have targets : first.target = second.target := congrArg RelationshipKey.target sameKey
  rw [hasEnds, hasEnds, sources, targets]

/-- Once the relationships of a batch that have their ends are written, a relationship of the
batch is stored exactly when it has its ends. -/
theorem WellFormed.contains_withRelationships {graph : Graph} (wellFormed : graph.WellFormed)
    {batch : List Relationship} {relationship : Relationship} (given : relationship ∈ batch) :
    (graph.withRelationships (batch.filter graph.hasEnds)).relationships.contains
      relationship.key = graph.hasEnds relationship := by
  rw [Bool.eq_iff_iff, Graph.withRelationships, OrderedMap.contains_overwrite]
  constructor
  · rintro (⟨written, member, sameKey⟩ | stored)
    · rw [← graph.hasEnds_congr sameKey]
      exact (List.mem_filter.mp member).2
    · obtain ⟨other, found⟩ := OrderedMap.contains_iff.mp stored
      rw [← graph.hasEnds_congr (wellFormed.relationship_key _ other found), hasEnds,
        Bool.and_eq_true]
      exact wellFormed.ends_stored _ other found
  · intro ends
    exact Or.inl ⟨relationship, List.mem_filter.mpr ⟨given, ends⟩, rfl⟩

end Graph

/-! ## Counts of a chunk -/

namespace WriteChunk

/-- How many elements a chunk has. -/
def elements : WriteChunk → Nat
  | nodes batch => batch.length
  | relationships batch => batch.length

/-- How many keys of a chunk are new to a graph; those of relationships that lack an end do not
count. -/
def newKeys (graph : Graph) : WriteChunk → Nat
  | nodes batch =>
      ((batch.map Node.key).toFinset.filter fun key => graph.nodes.contains key = false).card
  | relationships batch =>
      (((batch.filter graph.hasEnds).map Relationship.key).toFinset.filter fun key =>
        graph.relationships.contains key = false).card

/-- How many relationships of a chunk lack an end in a graph. -/
def lackingEnds (graph : Graph) : WriteChunk → Nat
  | nodes _ => 0
  | relationships batch => batch.countP fun relationship => !graph.hasEnds relationship

/-- The counts of a chunk on a graph. -/
def tally (graph : Graph) (chunk : WriteChunk) : UpsertStats where
  created := chunk.newKeys graph
  updated := chunk.elements - chunk.lackingEnds graph - chunk.newKeys graph
  missingEndpoints := chunk.lackingEnds graph

theorem tally_eq_iff {first second : Graph} {chunk : WriteChunk} :
    chunk.tally first = chunk.tally second ↔
      chunk.newKeys first = chunk.newKeys second ∧
        chunk.lackingEnds first = chunk.lackingEnds second := by
  rw [tally, tally, UpsertStats.mk.injEq]
  constructor
  · rintro ⟨created, _, missing⟩
    exact ⟨created, missing⟩
  · rintro ⟨created, missing⟩
    exact ⟨created, by rw [created, missing], missing⟩

/-- What became of a chunk, read off the graph before and after: the keys that were added, the
elements that are stored without having added a key, and the relationships that are not stored. -/
def effect (before after : Graph) : WriteChunk → UpsertStats
  | nodes batch =>
      let added := (before.nodes.addedKeys after.nodes).length
      ⟨added, batch.length - added, 0⟩
  | relationships batch =>
      let added := (before.relationships.addedKeys after.relationships).length
      let missing := batch.countP fun relationship =>
        !after.relationships.contains relationship.key
      ⟨added, batch.length - missing - added, missing⟩

theorem addedKeys_nodes (graph : Graph) (batch : List Node) :
    (graph.nodes.addedKeys (graph.withNodes batch).nodes).length = (nodes batch).newKeys graph :=
  OrderedMap.length_addedKeys_overwrite Node.key graph.nodes batch

theorem addedKeys_relationships (graph : Graph) (batch : List Relationship) :
    (graph.relationships.addedKeys
        (graph.withRelationships (batch.filter graph.hasEnds)).relationships).length =
      (relationships batch).newKeys graph :=
  OrderedMap.length_addedKeys_overwrite Relationship.key graph.relationships _

/-- A batch of nodes is answered with its counts on the graph. -/
theorem stats_nodes (graph : Graph) (batch : List Node) :
    (batch.foldl Graph.putNode (graph, .none)).2 = (nodes batch).tally graph := by
  have growth := graph.foldl_putNode_growth .none batch
  have added : (graph.nodes.addedKeys (graph.withNodes batch).nodes).length + graph.nodes.size =
      (graph.withNodes batch).nodes.size :=
    graph.nodes.length_addedKeys_add_size Node.key batch
  rw [addedKeys_nodes] at added
  apply (graph.foldl_putNode_counts .none batch).eq_mk
  rw [UpsertStats.created_none] at growth
  omega

/-- A batch of relationships is answered with its counts on the graph. -/
theorem stats_relationships (graph : Graph) (batch : List Relationship) :
    (graph.upsertRelationships batch).2 = (relationships batch).tally graph := by
  have growth := graph.foldl_putRelationship_growth .none batch
  have added : (graph.relationships.addedKeys
      (graph.withRelationships (batch.filter graph.hasEnds)).relationships).length +
        graph.relationships.size =
      (graph.withRelationships (batch.filter graph.hasEnds)).relationships.size :=
    graph.relationships.length_addedKeys_add_size Relationship.key _
  rw [addedKeys_relationships] at added
  have written : batch.countP graph.hasEnds =
      (relationships batch).elements - (relationships batch).lackingEnds graph := by
    have all := batch.length_eq_countP_add_countP graph.hasEnds
    simp only [elements, lackingEnds, Bool.not_eq_true, Bool.decide_eq_false] at all ⊢
    omega
  have counts := graph.foldl_putRelationship_counts .none batch
  rw [written] at counts
  apply counts.eq_mk
  rw [UpsertStats.created_none] at growth
  omega

/-- What becomes of a batch of nodes are its counts on the graph. -/
theorem effect_nodes (graph : Graph) (batch : List Node) :
    (nodes batch).effect graph (graph.withNodes batch) = (nodes batch).tally graph := by
  rw [effect, addedKeys_nodes]
  rfl

/-- What becomes of a batch of relationships are its counts on the graph. -/
theorem effect_relationships {graph : Graph} (wellFormed : graph.WellFormed)
    (batch : List Relationship) :
    (relationships batch).effect graph
        (graph.withRelationships (batch.filter graph.hasEnds)) =
      (relationships batch).tally graph := by
  have missing : batch.countP (fun relationship =>
      !(graph.withRelationships (batch.filter graph.hasEnds)).relationships.contains
        relationship.key) = (relationships batch).lackingEnds graph := by
    apply List.countP_congr
    intro relationship given
    rw [wellFormed.contains_withRelationships given]
  rw [effect, addedKeys_relationships, missing]
  rfl

/-- A chunk that is written is answered with its counts on the graph, and they are what becomes of
it there. -/
theorem tally_of_writeChunk {graph next : Graph} (wellFormed : graph.WellFormed)
    {chunk : WriteChunk} {stats : UpsertStats}
    (written : graph.writeChunk chunk = .ok (next, stats)) :
    stats = chunk.tally graph ∧ chunk.effect graph next = chunk.tally graph := by
  cases chunk with
  | nodes batch =>
      obtain ⟨_, result⟩ := Graph.upsertNodes_eq_ok_iff.mp written
      obtain ⟨rfl, rfl⟩ := Prod.mk.inj result
      rw [stats_nodes, Graph.foldl_putNode_fst]
      exact ⟨rfl, effect_nodes graph batch⟩
  | relationships batch =>
      have result : graph.upsertRelationships batch = (next, stats) := Except.ok.inj written
      have nextEq : next = _ := result ▸ graph.upsertRelationships_fst batch
      have statsEq : stats = _ := result ▸ stats_relationships graph batch
      rw [statsEq, nextEq]
      exact ⟨rfl, effect_relationships wellFormed batch⟩

end WriteChunk

end QueryImpact
