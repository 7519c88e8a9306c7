import QueryImpact.Proofs.Circuit.Enumeration
import QueryImpact.Proofs.Circuit.Release

/-!
# Blocking loses no circuit

A blocked node that is not on the path is a dead end: all its successors are blocked and have it
wait for them, so no way leads from it back to the start before one of them is released.  Hence
the search that skips blocked nodes finds what the plain enumeration finds, in the same order.
-/

namespace QueryImpact

namespace CircuitSearch

/-! ## The small steps of a search -/

@[simp]
theorem mem_blocked_block {search : CircuitSearch} {node other : String} :
    other ∈ (search.block node).blocked ↔ other = node ∨ other ∈ search.blocked := by
  by_cases same : other = node
  · simp [block, same]
  · simp [block, same]

theorem mem_waitersOf_await {search : CircuitSearch} {node next other waiter : String} :
    waiter ∈ (await node search next).waitersOf other ↔
      waiter ∈ search.waitersOf other ∨ other = next ∧ waiter = node := by
  simp only [waitersOf, await, OrderedMap.alter, OrderedMap.find?_insert]
  by_cases same : other = next
  · subst same
    by_cases known : node ∈ (search.waiting.find? other).getD []
    · simp only [known, if_true, Option.getD_some, true_and]
      constructor
      · exact Or.inl
      · rintro (before | rfl)
        · exact before
        · exact known
    · simp [known]
  · simp [same]

theorem foldl_await_eq (node : String) (nexts : List String) (search : CircuitSearch) :
    (nexts.foldl (await node) search).blocked = search.blocked ∧
      (nexts.foldl (await node) search).found = search.found ∧
        ∀ other waiter, waiter ∈ (nexts.foldl (await node) search).waitersOf other ↔
          waiter ∈ search.waitersOf other ∨ other ∈ nexts ∧ waiter = node := by
  induction nexts generalizing search with
  | nil => simp
  | cons next rest ih =>
      obtain ⟨sameBlocked, sameFound, waiters⟩ := ih (await node search next)
      refine ⟨sameBlocked, sameFound, fun other waiter => ?_⟩
      rw [List.foldl_cons, waiters, mem_waitersOf_await, List.mem_cons, or_and_right, or_assoc]

/-! ## What a search keeps -/

/-- What holds between the steps of a search that has come along a path. -/
structure Keeps (adjacency : Adjacency) (start : String) (path : List String)
    (search : CircuitSearch) : Prop where
  /-- The path is blocked. -/
  path_blocked : ∀ node ∈ path, node ∈ search.blocked
  /-- Nodes wait for blocked nodes only. -/
  waits_for_blocked : ∀ node waiter, waiter ∈ search.waitersOf node → node ∈ search.blocked
  /-- A blocked node off the path has no way on, and waits for one. -/
  dead_end : ∀ node ∈ search.blocked, node ∉ path →
    ∀ next ∈ adjacency.successors start node,
      next ≠ start ∧ next ∈ search.blocked ∧ node ∈ search.waitersOf next

/-- What a search never takes back: nodes stay blocked, and those that come to wait were free. -/
structure Extends (search after : CircuitSearch) : Prop where
  /-- Blocked nodes stay blocked. -/
  blocked : ∀ node ∈ search.blocked, node ∈ after.blocked
  /-- A new waiter was not blocked before. -/
  waits : ∀ node waiter, waiter ∈ after.waitersOf node →
    waiter ∈ search.waitersOf node ∨ waiter ∉ search.blocked

theorem Extends.refl (search : CircuitSearch) : search.Extends search :=
  ⟨fun _ member => member, fun _ _ member => Or.inl member⟩

theorem Extends.trans {first second third : CircuitSearch} (now : first.Extends second)
    (next : second.Extends third) : first.Extends third where
  blocked node member := next.blocked node (now.blocked node member)
  waits node waiter member := by
    rcases next.waits node waiter member with before | free
    · exact now.waits node waiter before
    · exact Or.inr fun blocked => free (now.blocked waiter blocked)

theorem extends_block (search : CircuitSearch) (node : String) :
    search.Extends (search.block node) :=
  ⟨fun _ member => mem_blocked_block.mpr (Or.inr member), fun _ _ member => Or.inl member⟩

theorem keeps_fresh (adjacency : Adjacency) (start : String) :
    Keeps adjacency start [] fresh where
  path_blocked _ member := absurd member List.not_mem_nil
  waits_for_blocked _ _ member := absurd member List.not_mem_nil
  dead_end _ member := absurd member List.not_mem_nil

/-- Blocking a free node puts it on the path. -/
theorem Keeps.block {adjacency : Adjacency} {start : String} {path : List String}
    {search : CircuitSearch} (keeps : Keeps adjacency start path search) (node : String) :
    Keeps adjacency start (path ++ [node]) (search.block node) where
  path_blocked other member := by
    rcases List.mem_append.mp member with before | here
    · exact mem_blocked_block.mpr (Or.inr (keeps.path_blocked other before))
    · exact mem_blocked_block.mpr (Or.inl (List.mem_singleton.mp here))
  waits_for_blocked other waiter member :=
    mem_blocked_block.mpr (Or.inr (keeps.waits_for_blocked other waiter member))
  dead_end other member offPath next successor := by
    have apart : other ≠ node := by
      rintro rfl
      exact offPath (by simp)
    have blockedBefore := (mem_blocked_block.mp member).resolve_left apart
    have offBefore : other ∉ path := fun onPath => offPath (List.mem_append_left _ onPath)
    obtain ⟨notStart, blocked, waits⟩ := keeps.dead_end other blockedBefore offBefore next successor
    exact ⟨notStart, mem_blocked_block.mpr (Or.inr blocked), waits⟩

theorem Keeps.record {adjacency : Adjacency} {start : String} {path : List String}
    {search : CircuitSearch} (keeps : Keeps adjacency start path search) (files : List String) :
    Keeps adjacency start path (search.record files) :=
  ⟨keeps.path_blocked, keeps.waits_for_blocked, keeps.dead_end⟩

theorem extends_record (search : CircuitSearch) (files : List String) :
    search.Extends (search.record files) :=
  ⟨fun _ member => member, fun _ _ member => Or.inl member⟩

/-- From a blocked node off the path no circuit is closed, however the path went on. -/
theorem Keeps.circuitsThrough_eq_nil {adjacency : Adjacency} {start : String}
    {path : List String} {search : CircuitSearch} (keeps : Keeps adjacency start path search)
    {node : String} (blocked : node ∈ search.blocked) (offPath : node ∉ path) (remaining : Nat)
    {longer : List String} (continued : ∀ other ∈ path, other ∈ longer) :
    adjacency.circuitsThrough start remaining longer node = [] := by
  induction remaining generalizing longer node with
  | zero => rfl
  | succ remaining ih =>
      rw [Adjacency.circuitsThrough, List.flatMap_eq_nil_iff]
      intro next successor
      obtain ⟨notStart, nextBlocked, _⟩ := keeps.dead_end node blocked offPath next successor
      rw [if_neg notStart]
      split
      · rfl
      · rename_i new
        have further : ∀ other ∈ path, other ∈ longer ++ [node] := fun other member =>
          List.mem_append_left _ (continued other member)
        exact ih nextBlocked (fun onPath => new (further next onPath)) further

/-! ## Leaving a node -/

/-- Unblocking a node that was entered free releases no node that was blocked before. -/
theorem not_mem_blocked_of_releases {adjacency : Adjacency} {start node : String}
    {path : List String} {search after : CircuitSearch}
    (keeps : Keeps adjacency start path search) (extended : search.Extends after)
    (free : node ∉ search.blocked) {other : String} (releases : after.Releases [node] other) :
    other ∉ search.blocked := by
  induction releases with
  | seed member => rwa [List.mem_singleton.mp member]
  | @waiter previous waiter _ waits _ ih =>
      rcases extended.waits previous waiter waits with before | newWaiter
      · exact absurd (keeps.waits_for_blocked previous waiter before) ih
      · exact newWaiter

/-- Leaving a node through which a circuit was closed. -/
theorem Keeps.unblock {adjacency : Adjacency} {start node : String} {path : List String}
    {search after : CircuitSearch} (keeps : Keeps adjacency start path search)
    (extended : search.Extends after) (free : node ∉ search.blocked)
    (keepsAfter : Keeps adjacency start (path ++ [node]) after) :
    Keeps adjacency start path (after.unblock node) ∧ search.Extends (after.unblock node) := by
  have without := after.without_unblock node
  have stays : ∀ other ∈ search.blocked, other ∈ (after.unblock node).blocked := by
    intro other member
    refine (without.mem_blocked other).mpr ⟨extended.blocked other member, fun releases => ?_⟩
    exact not_mem_blocked_of_releases keeps extended free releases member
  refine ⟨⟨fun other member => stays other (keeps.path_blocked other member), ?_, ?_⟩,
    ⟨stays, ?_⟩⟩
  · intro other waiter member
    obtain ⟨waits, kept⟩ := (without.mem_waitersOf other waiter).mp member
    exact (without.mem_blocked other).mpr
      ⟨keepsAfter.waits_for_blocked other waiter waits, kept⟩
  · intro other member offPath next successor
    obtain ⟨blocked, kept⟩ := (without.mem_blocked other).mp member
    have offExtended : other ∉ path ++ [node] := by
      intro onExtended
      rcases List.mem_append.mp onExtended with before | here
      · exact offPath before
      · exact kept (.seed here)
    obtain ⟨notStart, nextBlocked, waits⟩ :=
      keepsAfter.dead_end other blocked offExtended next successor
    -- Were the successor released, this node would be released with it.
    have nextKept : ¬after.Releases [node] next := fun releases =>
      kept (.waiter releases waits blocked)
    exact ⟨notStart, (without.mem_blocked next).mpr ⟨nextBlocked, nextKept⟩,
      (without.mem_waitersOf next other).mpr ⟨waits, nextKept⟩⟩
  · intro other waiter member
    exact extended.waits other waiter ((without.mem_waitersOf other waiter).mp member).1

/-- Leaving a node from which the start was not reached. -/
theorem Keeps.await {adjacency : Adjacency} {start node : String} {path : List String}
    {search after : CircuitSearch} (extended : search.Extends after)
    (free : node ∉ search.blocked) (keepsAfter : Keeps adjacency start (path ++ [node]) after)
    (stuck : ∀ next ∈ adjacency.successors start node, next ≠ start ∧ next ∈ after.blocked) :
    let left := (adjacency.successors start node).foldl (await node) after
    Keeps adjacency start path left ∧ search.Extends left := by
  intro left
  obtain ⟨sameBlocked, _, waiters⟩ :=
    foldl_await_eq node (adjacency.successors start node) after
  refine ⟨⟨?_, ?_, ?_⟩, ⟨?_, ?_⟩⟩
  · intro other member
    rw [sameBlocked]
    exact keepsAfter.path_blocked other (List.mem_append_left _ member)
  · intro other waiter member
    rw [sameBlocked]
    rcases (waiters other waiter).mp member with before | ⟨successor, _⟩
    · exact keepsAfter.waits_for_blocked other waiter before
    · exact (stuck other successor).2
  · intro other member offPath next successor
    rw [sameBlocked] at member ⊢
    by_cases same : other = node
    · subst same
      obtain ⟨notStart, blocked⟩ := stuck next successor
      exact ⟨notStart, blocked, (waiters next other).mpr (Or.inr ⟨successor, rfl⟩)⟩
    · have offExtended : other ∉ path ++ [node] := by simp [offPath, same]
      obtain ⟨notStart, blocked, waits⟩ :=
        keepsAfter.dead_end other member offExtended next successor
      exact ⟨notStart, blocked, (waiters next other).mpr (Or.inl waits)⟩
  · intro other member
    rw [sameBlocked]
    exact extended.blocked other member
  · intro other waiter member
    rcases (waiters other waiter).mp member with before | ⟨_, rfl⟩
    · exact extended.waits other waiter before
    · exact Or.inr free

end CircuitSearch

end QueryImpact
