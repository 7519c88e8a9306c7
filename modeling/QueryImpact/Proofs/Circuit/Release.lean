import Mathlib
import QueryImpact.Analysis.Circuit
import QueryImpact.Proofs.OrderedMap

/-!
# What unblocking a node releases

Unblocking a node releases the least set of nodes that contains it and, with any of its members,
the blocked nodes that wait for that member.  The released nodes are no longer blocked and nobody
waits for them; for all other nodes nothing changes.  The order in which waiting nodes are looked
at does not matter: in every order the unblocking comes to an end, and with the same result.
-/

namespace QueryImpact

/-- Every run of a system from a state comes to an end, and only in final states. -/
structure EndsIn {σ : Type} (step : σ → σ → Prop) (start : σ) (final : σ → Prop) : Prop where
  /-- No run goes on forever. -/
  finite : Acc (fun next state => step state next) start
  /-- Where a run cannot go on, the state is final. -/
  final : ∀ state, Relation.ReflTransGen step start state → (∀ next, ¬step state next) →
    final state

namespace CircuitSearch

/-- The nodes released with some nodes: those, and the blocked nodes that wait for a released
one. -/
inductive Releases (search : CircuitSearch) (seeds : List String) : String → Prop
  /-- The nodes given. -/
  | seed {node : String} : node ∈ seeds → Releases search seeds node
  /-- A blocked node that waits for a released one. -/
  | waiter {node waiter : String} :
      Releases search seeds node → waiter ∈ search.waitersOf node → waiter ∈ search.blocked →
        Releases search seeds waiter

@[simp]
theorem mem_blocked_forget {search : CircuitSearch} {node other : String} :
    other ∈ (search.forget node).blocked ↔ other ∈ search.blocked ∧ other ≠ node := by
  simp [forget]

theorem waitersOf_forget (search : CircuitSearch) (node other : String) :
    (search.forget node).waitersOf other =
      if other = node then [] else search.waitersOf other := by
  simp only [waitersOf, forget, OrderedMap.find?_filter]
  cases search.waiting.find? other with
  | none => simp
  | some waiters =>
      by_cases same : other = node
      · simp [same]
      · simp [same, Option.filter]

theorem mem_waitersOf_forget {search : CircuitSearch} {node other waiter : String} :
    waiter ∈ (search.forget node).waitersOf other ↔
      waiter ∈ search.waitersOf other ∧ other ≠ node := by
  rw [waitersOf_forget]
  by_cases same : other = node
  · simp [same]
  · simp [same]

/-- The pending nodes that are to be released. -/
def released (search : CircuitSearch) (pending : List String) : List String :=
  pending.filter (· ∈ search.blocked)

theorem Releases.mem_blocked {search : CircuitSearch} {pending : List String} {node : String}
    (releases : search.Releases (search.released pending) node) : node ∈ search.blocked := by
  cases releases with
  | seed member => exact of_decide_eq_true (List.mem_filter.mp member).2
  | waiter _ _ blocked => exact blocked

/-- Releasing a node first and then its waiters reaches the same nodes. -/
theorem releases_cons_iff {search : CircuitSearch} {node other : String} {rest : List String} :
    search.Releases (node :: search.released rest) other ↔
      other = node ∨
        (search.forget node).Releases
          ((search.forget node).released (search.waitersOf node ++ rest)) other := by
  constructor
  · intro releases
    induction releases with
    | @seed other member =>
        by_cases same : other = node
        · exact Or.inl same
        · right
          apply Releases.seed
          rcases List.mem_cons.mp member with here | later
          · exact absurd here same
          · simp only [released, List.mem_filter, decide_eq_true_eq] at later
            simp [released, later.1, later.2, same]
    | @waiter previous other _ waits blocked ih =>
        by_cases same : other = node
        · exact Or.inl same
        · right
          rcases ih with rfl | previousReleases
          · apply Releases.seed
            simp [released, waits, blocked, same]
          · have apart := (mem_blocked_forget.mp previousReleases.mem_blocked).2
            exact .waiter previousReleases (mem_waitersOf_forget.mpr ⟨waits, apart⟩)
              (mem_blocked_forget.mpr ⟨blocked, same⟩)
  · rintro (rfl | releases)
    · exact .seed List.mem_cons_self
    · induction releases with
      | seed member =>
          simp only [released, List.mem_filter, List.mem_append, decide_eq_true_eq,
            mem_blocked_forget] at member
          rcases member with ⟨waits | later, blocked, _⟩
          · exact .waiter (.seed List.mem_cons_self) waits blocked
          · apply Releases.seed
            simp [released, later, blocked]
      | waiter _ waits blocked ih =>
          exact .waiter ih (mem_waitersOf_forget.mp waits).1 (mem_blocked_forget.mp blocked).1

theorem Releases.mono {search : CircuitSearch} {seeds others : List String} {node : String}
    (included : ∀ seed ∈ seeds, seed ∈ others) (releases : search.Releases seeds node) :
    search.Releases others node := by
  induction releases with
  | seed member => exact .seed (included _ member)
  | waiter _ waits blocked ih => exact .waiter ih waits blocked

/-- The nodes released depend on which nodes are given, not on their order. -/
theorem releases_congr {search : CircuitSearch} {seeds others : List String} {node : String}
    (same : ∀ seed, seed ∈ seeds ↔ seed ∈ others) :
    search.Releases seeds node ↔ search.Releases others node :=
  ⟨.mono fun seed => (same seed).mp, .mono fun seed => (same seed).mpr⟩

/-- Releasing a node first and then its waiters, in any order, reaches the same nodes. -/
theorem releases_cons_iff_of_perm {search : CircuitSearch} {node other : String}
    {rest waiters : List String} (arranged : waiters.Perm (search.waitersOf node)) :
    search.Releases (node :: search.released rest) other ↔
      other = node ∨
        (search.forget node).Releases ((search.forget node).released (waiters ++ rest)) other := by
  rw [releases_cons_iff]
  apply or_congr_right
  apply releases_congr
  simp [released, arranged.mem_iff]

/-- The sets that contain a node and, with each member, the blocked nodes that wait for it. -/
def releasable (search : CircuitSearch) (node : String) : Set (Set String) :=
  {nodes | node ∈ nodes ∧
    ∀ other ∈ nodes, ∀ waiter ∈ search.waitersOf other, waiter ∈ search.blocked → waiter ∈ nodes}

theorem isLeast_releases (search : CircuitSearch) (node : String) :
    IsLeast (search.releasable node) {other | search.Releases [node] other} := by
  constructor
  · exact ⟨.seed (List.mem_singleton_self node), fun _ releases _ waits blocked =>
      .waiter releases waits blocked⟩
  · rintro nodes ⟨here, closed⟩ other releases
    induction releases with
    | seed member => rwa [List.mem_singleton.mp member]
    | waiter _ waits blocked ih => exact closed _ ih _ waits blocked

/-! ## The search after a release -/

/-- What a search looks like after some nodes are released. -/
structure Without (search : CircuitSearch) (gone : String → Prop) (after : CircuitSearch) :
    Prop where
  /-- Released nodes are not blocked, and no other node is affected. -/
  mem_blocked : ∀ node, node ∈ after.blocked ↔ node ∈ search.blocked ∧ ¬gone node
  /-- Nobody waits for a released node, and no other node is affected. -/
  mem_waitersOf : ∀ node waiter,
    waiter ∈ after.waitersOf node ↔ waiter ∈ search.waitersOf node ∧ ¬gone node
  /-- The circuits found stay. -/
  found : after.found = search.found

theorem without_forget (search : CircuitSearch) (node : String) :
    search.Without (· = node) (search.forget node) :=
  ⟨fun _ => mem_blocked_forget, fun _ _ => mem_waitersOf_forget, rfl⟩

theorem Without.trans {first second third : CircuitSearch} {gone goneThen : String → Prop}
    (now : first.Without gone second) (next : second.Without goneThen third) :
    first.Without (fun node => gone node ∨ goneThen node) third where
  mem_blocked node := by
    rw [next.mem_blocked, now.mem_blocked, not_or, and_assoc]
  mem_waitersOf node waiter := by
    rw [next.mem_waitersOf, now.mem_waitersOf, not_or, and_assoc]
  found := next.found.trans now.found

/-- What a search looks like after some nodes are released, entry by entry. -/
structure Frees (search : CircuitSearch) (gone : String → Prop) (after : CircuitSearch) : Prop
    extends Without search gone after where
  /-- The entry of a released node is removed. -/
  entry_gone : ∀ node, gone node → after.waiting.find? node = none
  /-- Every other entry stays as it is. -/
  entry_kept : ∀ node, ¬gone node → after.waiting.find? node = search.waiting.find? node

theorem frees_forget (search : CircuitSearch) (node : String) :
    search.Frees (· = node) (search.forget node) where
  toWithout := search.without_forget node
  entry_gone other same := by
    rw [same, forget, OrderedMap.find?_filter]
    simp
  entry_kept other apart := by
    rw [forget, OrderedMap.find?_filter]
    cases search.waiting.find? other with
    | none => rfl
    | some waiters => exact Option.filter_eq_some_iff.mpr ⟨rfl, by simpa using apart⟩

theorem Frees.trans {first second third : CircuitSearch} {gone goneThen : String → Prop}
    (now : first.Frees gone second) (next : second.Frees goneThen third) :
    first.Frees (fun node => gone node ∨ goneThen node) third where
  toWithout := now.toWithout.trans next.toWithout
  entry_gone node released := by
    by_cases later : goneThen node
    · exact next.entry_gone node later
    · rw [next.entry_kept node later]
      exact now.entry_gone node (released.resolve_right later)
  entry_kept node kept := by
    obtain ⟨keptBefore, keptLater⟩ := not_or.mp kept
    rw [next.entry_kept node keptLater, now.entry_kept node keptBefore]

theorem Frees.congr {search after : CircuitSearch} {gone goneAlso : String → Prop}
    (frees : search.Frees gone after) (same : ∀ node, gone node ↔ goneAlso node) :
    search.Frees goneAlso after := by
  have equal : gone = goneAlso := funext fun node => propext (same node)
  rwa [← equal]

/-! ## Unblocking step by step -/

/-- The unblocking of a node while it goes on. -/
structure Cascade where
  /-- What the search remembers. -/
  search : CircuitSearch
  /-- The waiting nodes that are still to be looked at, the next one first. -/
  pending : List String

namespace Cascade

/-- One step of a cascade.  The nodes that wait for an unblocked node are looked at before all
others, among themselves in any order. -/
inductive Step : Cascade → Cascade → Prop
  /-- A node that is not blocked is passed over. -/
  | pass {search : CircuitSearch} {node : String} {rest : List String} :
      node ∉ search.blocked → Step ⟨search, node :: rest⟩ ⟨search, rest⟩
  /-- A blocked node is unblocked. -/
  | free {search : CircuitSearch} {node : String} {rest waiters : List String} :
      node ∈ search.blocked → waiters.Perm (search.waitersOf node) →
        Step ⟨search, node :: rest⟩ ⟨search.forget node, waiters ++ rest⟩

/-- A cascade stops only when no node is left to be looked at. -/
theorem pending_eq_nil {cascade : Cascade} (stopped : ∀ next, ¬Step cascade next) :
    cascade.pending = [] := by
  obtain ⟨search, pending⟩ := cascade
  cases pending with
  | nil => rfl
  | cons node rest =>
      by_cases blocked : node ∈ search.blocked
      · exact absurd (.free blocked (.refl _)) (stopped _)
      · exact absurd (.pass blocked) (stopped _)

/-- Each step unblocks a node or leaves fewer nodes to be looked at. -/
theorem wellFounded_step : WellFounded fun next cascade => Step cascade next := by
  let size (cascade : Cascade) : Nat × Nat :=
    (cascade.search.blocked.length, cascade.pending.length)
  apply Subrelation.wf _ (InvImage.wf size (WellFounded.prod_lex Nat.lt_wfRel.wf Nat.lt_wfRel.wf))
  intro next cascade step
  cases step with
  | pass free => exact Prod.Lex.right _ (Nat.lt_succ_self _)
  | free blocked arranged => exact Prod.Lex.left _ _ (length_blocked_forget_lt blocked)

/-- A cascade that has come to its end has released exactly what its pending nodes reach. -/
theorem frees_of_run {cascade : Cascade} {after : CircuitSearch}
    (run : Relation.ReflTransGen Step cascade ⟨after, []⟩) :
    cascade.search.Frees (cascade.search.Releases (cascade.search.released cascade.pending))
      after := by
  -- From the last step back, since what is released is told from where the run begins.
  induction run using Relation.ReflTransGen.head_induction_on with
  | refl =>
      have nothing : ∀ node, ¬after.Releases (after.released []) node := by
        intro node releases
        induction releases with
        | seed member => exact List.not_mem_nil member
        | waiter _ _ _ ih => exact ih
      exact ⟨⟨by simp [nothing], by simp [nothing], rfl⟩, by simp [nothing], by simp [nothing]⟩
  | head step _ ih =>
      cases step with
      | @pass search node rest free =>
          have seeds : search.released (node :: rest) = search.released rest := by
            simp [released, free]
          rwa [seeds]
      | @free search node rest waiters blocked arranged =>
          apply ((search.frees_forget node).trans ih).congr
          intro other
          have seeds : search.released (node :: rest) = node :: search.released rest := by
            simp [released, blocked]
          rw [seeds, releases_cons_iff_of_perm arranged]

/-- The nodes are released as in the cascade that keeps to the order of the waiting lists. -/
theorem run_release (search : CircuitSearch) (pending : List String) :
    Relation.ReflTransGen Step ⟨search, pending⟩ ⟨search.release pending, []⟩ := by
  fun_induction release search pending with
  | case1 search => exact .refl
  | case2 search node rest blocked ih => exact ih.head (.free blocked (.refl _))
  | case3 search node rest free ih => exact ih.head (.pass free)

end Cascade

/-- However a cascade from a node went, it has released that node and what waits for it, directly
or through others. -/
theorem frees_of_run_forget {search after : CircuitSearch} {node : String} {waiters : List String}
    (arranged : waiters.Perm (search.waitersOf node))
    (run : Relation.ReflTransGen Cascade.Step ⟨search.forget node, waiters⟩ ⟨after, []⟩) :
    search.Frees (search.Releases [node]) after := by
  apply ((search.frees_forget node).trans (Cascade.frees_of_run run)).congr
  intro other
  have step := @releases_cons_iff_of_perm search node other [] waiters arranged
  rw [List.append_nil] at step
  exact step.symm

/-- Unblocking a node releases it and what waits for it, directly or through others. -/
theorem frees_unblock (search : CircuitSearch) (node : String) :
    search.Frees (search.Releases [node]) (search.unblock node) :=
  frees_of_run_forget (.refl _) (Cascade.run_release _ _)

theorem without_unblock (search : CircuitSearch) (node : String) :
    search.Without (search.Releases [node]) (search.unblock node) :=
  (search.frees_unblock node).toWithout

/-- In whatever order the waiting nodes are looked at, unblocking a node comes to an end, and then
it has released exactly the least set that contains the node and, with each member, the blocked
nodes that wait for it. -/
theorem unblock_releases_least_set (search : CircuitSearch) (node : String) :
    ∃ gone : Set String, IsLeast (search.releasable node) gone ∧
      search.Frees (· ∈ gone) (search.unblock node) ∧
        ∀ waiters : List String, waiters.Perm (search.waitersOf node) →
          EndsIn Cascade.Step ⟨search.forget node, waiters⟩ fun cascade =>
            cascade.pending = [] ∧ search.Frees (· ∈ gone) cascade.search := by
  refine ⟨{other | search.Releases [node] other}, search.isLeast_releases node, ?_, ?_⟩
  · exact search.frees_unblock node
  · intro waiters arranged
    refine ⟨Cascade.wellFounded_step.apply _, fun cascade run stopped => ?_⟩
    obtain ⟨after, pending⟩ := cascade
    have finished : pending = [] := Cascade.pending_eq_nil stopped
    subst finished
    exact ⟨rfl, frees_of_run_forget arranged run⟩

/-- Two nodes that wait for each other, and others that wait for them.  Of these `E` is not
blocked, so `F`, which waits for `E`, stays out of reach. -/
def knot : CircuitSearch where
  blocked := ["A", "B", "C", "D", "F"]
  waiting := .ofList [("A", ["B", "C", "E"]), ("B", ["A", "D"]), ("E", ["F"])]
  found := []

theorem isLeast_releasable_knot : IsLeast (knot.releasable "A") {"A", "B", "C", "D"} := by
  have ofA : knot.waitersOf "A" = ["B", "C", "E"] := by decide
  have ofB : knot.waitersOf "B" = ["A", "D"] := by decide
  have blocked : knot.blocked = ["A", "B", "C", "D", "F"] := rfl
  constructor
  · refine ⟨by simp, ?_⟩
    have ofC : knot.waitersOf "C" = [] := by decide
    have ofD : knot.waitersOf "D" = [] := by decide
    rintro other (rfl | rfl | rfl | rfl) <;> simp [ofA, ofB, ofC, ofD, blocked]
  · rintro nodes ⟨a, closed⟩
    have b : "B" ∈ nodes := closed "A" a "B" (by simp [ofA]) (by simp [blocked])
    have c : "C" ∈ nodes := closed "A" a "C" (by simp [ofA]) (by simp [blocked])
    have d : "D" ∈ nodes := closed "B" b "D" (by simp [ofB]) (by simp [blocked])
    rintro other (rfl | rfl | rfl | rfl) <;> assumption

theorem unblock_releases_least_set_knot :
    ["E", "C", "B"].Perm (knot.waitersOf "A") ∧
      EndsIn Cascade.Step ⟨knot.forget "A", ["E", "C", "B"]⟩ fun cascade =>
        cascade.pending = [] ∧
          knot.Frees (· ∈ ({"A", "B", "C", "D"} : Set String)) cascade.search := by
  obtain ⟨gone, least, _, ends⟩ := unblock_releases_least_set knot "A"
  rw [least.unique isLeast_releasable_knot] at ends
  have arranged : ["E", "C", "B"].Perm (knot.waitersOf "A") := by decide
  exact ⟨arranged, ends _ arranged⟩

end CircuitSearch

end QueryImpact
