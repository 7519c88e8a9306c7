import Mathlib
import QueryImpact.Proofs.Circuit.Search

/-!
# The recursion of a search

A search moment by moment, with the calls that have not returned on a stack and no bound on their
number.  At every moment the nodes of the path are blocked: a cascade that unblocks nodes in
between reaches only nodes that were free when the calls on the path were made.  Hence no node is
entered while it is on the path, there are never more open calls than nodes, and the recursion
comes to an end on every graph.  It ends with what the bounded search computes.
-/

namespace QueryImpact

/-- Where at most one step is possible, a run that stops is the only one. -/
theorem EndsIn.of_run {σ : Type} {step : σ → σ → Prop} {start last : σ}
    (unique : Relator.RightUnique step) (run : Relation.ReflTransGen step start last)
    (stopped : ∀ next, ¬step last next) : EndsIn step start (· = last) where
  finite := by
    induction run using Relation.ReflTransGen.head_induction_on with
    | refl => exact ⟨_, fun next further => absurd further (stopped next)⟩
    | head first _ ih =>
        refine ⟨_, fun next other => ?_⟩
        rwa [unique other first]
  final state reached stuck := by
    rcases reached.total_of_right_unique unique run with before | after
    · rcases before.cases_head with same | ⟨next, further, _⟩
      · exact same
      · exact absurd further (stuck next)
    · rcases after.cases_head with same | ⟨next, further, _⟩
      · exact same.symm
      · exact absurd further (stopped next)

theorem OrderedSet.size_add_of_mem {set : OrderedSet String} {member : String}
    (present : member ∈ set.toList) : (set.add member).size = set.size := by
  have sameMembers : {other | (set.add member).contains other = true} =
      {other | set.contains other = true} := by
    ext other
    rw [Set.mem_ofPred_eq, Set.mem_ofPred_eq, OrderedSet.contains_add]
    constructor
    · rintro (rfl | contained)
      · exact OrderedSet.mem_toList_iff.mp present
      · exact contained
    · exact Or.inr
  rw [OrderedSet.size_eq_ncard, OrderedSet.size_eq_ncard, sameMembers]

namespace CircuitSearch

/-! ## Moments and steps -/

/-- A call that walks along the successors of the node it has entered. -/
structure Visit where
  /-- The node. -/
  node : String
  /-- The successors that are not done with, the current one first. -/
  pending : List String
  /-- Whether a circuit was closed through the node. -/
  closed : Bool

/-- The nodes of some open calls, which are listed from the innermost on. -/
def pathOf (outer : List Visit) : List String :=
  (outer.map Visit.node).reverse

@[simp]
theorem pathOf_cons (visit : Visit) (outer : List Visit) :
    pathOf (visit :: outer) = pathOf outer ++ [visit.node] := by
  simp [pathOf]

/-- A moment of a recursion, with the calls that wait for the current one to return. -/
inductive Moment
  /-- A call for a node that is not entered yet. -/
  | call (outer : List Visit) (node : String) (search : CircuitSearch)
  /-- A step of the walk along the successors of a node. -/
  | walk (outer : List Visit) (visit : Visit) (search : CircuitSearch)
  /-- A step of the loop that lets a node wait for its successors. -/
  | wait (outer : List Visit) (node : String) (pending : List String) (search : CircuitSearch)
  /-- The first call has returned, and told whether a circuit was closed. -/
  | done (answer : Bool × CircuitSearch)

namespace Moment

/-- What the search remembers. -/
def search : Moment → CircuitSearch
  | call _ _ search | walk _ _ search | wait _ _ _ search => search
  | done answer => answer.2

/-- The nodes on the path. -/
def path : Moment → List String
  | call outer _ _ => pathOf outer
  | walk outer visit _ => pathOf outer ++ [visit.node]
  | wait outer node _ _ => pathOf outer ++ [node]
  | done _ => []

/-- The nodes of the calls that have not returned, whether they are entered or not. -/
def calls : Moment → List String
  | call outer node _ => pathOf outer ++ [node]
  | moment => moment.path

/-- A call returns to the one that made it. -/
def resume (answer : Bool × CircuitSearch) : List Visit → Moment
  | [] => done answer
  | visit :: outer =>
      walk outer ⟨visit.node, visit.pending.tail, visit.closed || answer.1⟩ answer.2

/-- One step of the recursion. -/
inductive Step (adjacency : Adjacency) (start : String) : Moment → Moment → Prop
  /-- The node of a call is entered. -/
  | enter {outer : List Visit} {node : String} {search : CircuitSearch} :
      Step adjacency start (call outer node search)
        (walk outer ⟨node, adjacency.successors start node, false⟩ (search.block node))
  /-- The start is a successor. -/
  | close {outer : List Visit} {node : String} {rest : List String} {closed : Bool}
      {search : CircuitSearch} :
      Step adjacency start (walk outer ⟨node, start :: rest, closed⟩ search)
        (walk outer ⟨node, rest, true⟩ (search.record (pathOf outer ++ [node])))
  /-- A blocked successor is skipped. -/
  | skip {outer : List Visit} {node next : String} {rest : List String} {closed : Bool}
      {search : CircuitSearch} : next ≠ start → next ∈ search.blocked →
      Step adjacency start (walk outer ⟨node, next :: rest, closed⟩ search)
        (walk outer ⟨node, rest, closed⟩ search)
  /-- There is a recursive call for a free successor. -/
  | descend {outer : List Visit} {node next : String} {rest : List String} {closed : Bool}
      {search : CircuitSearch} : next ≠ start → next ∉ search.blocked →
      Step adjacency start (walk outer ⟨node, next :: rest, closed⟩ search)
        (call (⟨node, next :: rest, closed⟩ :: outer) next search)
  /-- A node with a circuit is unblocked, and the call returns. -/
  | release {outer : List Visit} {node : String} {search : CircuitSearch} :
      Step adjacency start (walk outer ⟨node, [], true⟩ search)
        (resume (true, search.unblock node) outer)
  /-- A node without a circuit is to wait for its successors. -/
  | turn {outer : List Visit} {node : String} {search : CircuitSearch} :
      Step adjacency start (walk outer ⟨node, [], false⟩ search)
        (wait outer node (adjacency.successors start node) search)
  /-- The node waits for one of them. -/
  | await {outer : List Visit} {node next : String} {rest : List String}
      {search : CircuitSearch} :
      Step adjacency start (wait outer node (next :: rest) search)
        (wait outer node rest (await node search next))
  /-- The node waits for all of them, and the call returns. -/
  | giveUp {outer : List Visit} {node : String} {search : CircuitSearch} :
      Step adjacency start (wait outer node [] search) (resume (false, search) outer)

/-- Some steps. -/
abbrev Run (adjacency : Adjacency) (start : String) : Moment → Moment → Prop :=
  Relation.ReflTransGen (Step adjacency start)

theorem rightUnique_step (adjacency : Adjacency) (start : String) :
    Relator.RightUnique (Step adjacency start) := by
  intro moment next other first second
  cases first <;> cases second <;> first | rfl | contradiction

end Moment

/-! ## What the open calls keep -/

/-- A call is made for the start, or for the current successor of the call that makes it. -/
def Calls (start : String) : List Visit → String → Prop
  | [], node => node = start
  | visit :: _, node => node ≠ start ∧ visit.pending.head? = some node

/-- What holds of a call that began in one state of the search, the entry, and is now in another. -/
structure Walking (adjacency : Adjacency) (start : String) (outer : List Visit)
    (entry : CircuitSearch) (visit : Visit) (search : CircuitSearch) : Prop where
  /-- The call was made. -/
  called : Calls start outer visit.node
  /-- Its node was free. -/
  free : visit.node ∉ entry.blocked
  /-- Nothing has been taken back since then. -/
  extended : entry.Extends search
  /-- The bookkeeping is sound for the path with the node. -/
  keeps : Keeps adjacency start (pathOf outer ++ [visit.node]) search
  /-- Without a circuit, the successors that are done with are blocked. -/
  progress : ∃ visited, adjacency.successors start visit.node = visited ++ visit.pending ∧
    (visit.closed = false → ∀ next ∈ visited, next ≠ start ∧ next ∈ search.blocked)

/-- What holds of all open calls.  Each began in a state of the search of its own, and found the
calls around it sound in that state. -/
def OpenCalls (adjacency : Adjacency) (start : String) : List Visit → CircuitSearch → Prop
  | [], search => Keeps adjacency start [] search
  | visit :: outer, search => ∃ entry, OpenCalls adjacency start outer entry ∧
      Walking adjacency start outer entry visit search

section Calls

variable {adjacency : Adjacency} {start node : String} {outer : List Visit}
  {search : CircuitSearch}

theorem OpenCalls.keeps (opened : OpenCalls adjacency start outer search) :
    Keeps adjacency start (pathOf outer) search := by
  cases outer with
  | nil => exact opened
  | cons visit outer =>
      obtain ⟨_, _, walking⟩ := opened
      rw [pathOf_cons]
      exact walking.keeps

/-- A call for a free node is not for one on the path. -/
theorem OpenCalls.nodup_append (opened : OpenCalls adjacency start outer search)
    (free : node ∉ search.blocked) : (pathOf outer ++ [node]).Nodup := by
  induction outer generalizing node search with
  | nil => exact List.nodup_singleton node
  | cons visit outer ih =>
      have offPath : node ∉ pathOf (visit :: outer) := fun onPath =>
        free (opened.keeps.path_blocked node onPath)
      obtain ⟨_, openedBefore, walking⟩ := opened
      have nodup : (pathOf (visit :: outer)).Nodup := by
        rw [pathOf_cons]
        exact ih openedBefore walking.free
      rw [← List.concat_eq_append]
      exact nodup.concat offPath

/-- Calls are made for the start and for nodes that edges lead to. -/
theorem OpenCalls.mem_append (opened : OpenCalls adjacency start outer search)
    (called : Calls start outer node) :
    ∀ other ∈ pathOf outer ++ [node], other ∈ (adjacency.nodes.add start).toList := by
  induction outer generalizing node search with
  | nil =>
      intro other member
      rw [List.mem_singleton.mp member, called, OrderedSet.mem_toList_iff, OrderedSet.contains_add]
      exact Or.inl rfl
  | cons visit outer ih =>
      obtain ⟨_, openedBefore, walking⟩ := opened
      intro other member
      rw [pathOf_cons] at member
      rcases List.mem_append.mp member with before | here
      · exact ih openedBefore walking.called other before
      · obtain ⟨visited, successors, _⟩ := walking.progress
        have successor : node ∈ adjacency.successors start visit.node := by
          rw [successors]
          exact List.mem_append_right _ (List.mem_of_mem_head? called.2)
        have known := Adjacency.mem_nodes_of_hasEdge (Adjacency.mem_successors.mp successor).1
        rw [List.mem_singleton.mp here, OrderedSet.mem_toList_iff, OrderedSet.contains_add]
        exact Or.inr (OrderedSet.mem_toList_iff.mp known)

end Calls

/-! ## What every step keeps -/

/-- What holds at every moment of a recursion. -/
def Moment.Sound (adjacency : Adjacency) (start : String) : Moment → Prop
  | .call outer node search =>
      OpenCalls adjacency start outer search ∧ Calls start outer node ∧ node ∉ search.blocked
  | .walk outer visit search => OpenCalls adjacency start (visit :: outer) search
  | .wait outer node pending search => ∃ before waited,
      OpenCalls adjacency start (⟨node, [], false⟩ :: outer) before ∧
        adjacency.successors start node = waited ++ pending ∧
          search = waited.foldl (await node) before
  | .done answer => Keeps adjacency start [] answer.2

section Steps

variable {adjacency : Adjacency} {start node : String} {outer : List Visit}
  {search : CircuitSearch}

/-- A node is entered. -/
theorem sound_enter (opened : OpenCalls adjacency start outer search)
    (called : Calls start outer node) (free : node ∉ search.blocked) :
    OpenCalls adjacency start (⟨node, adjacency.successors start node, false⟩ :: outer)
      (search.block node) := by
  refine ⟨search, opened, called, free, search.extends_block node, opened.keeps.block node, [],
    rfl, ?_⟩
  intro _ next member
  exact absurd member List.not_mem_nil

/-- The innermost call is done with its current successor. -/
theorem OpenCalls.advance {visit : Visit} {next : String} {rest : List String} {closed : Bool}
    {after : CircuitSearch} (opened : OpenCalls adjacency start (visit :: outer) search)
    (current : visit.pending = next :: rest) (extended : search.Extends after)
    (keeps : Keeps adjacency start (pathOf outer ++ [visit.node]) after)
    (stuck : closed = false → visit.closed = false ∧ next ≠ start ∧ next ∈ after.blocked) :
    OpenCalls adjacency start (⟨visit.node, rest, closed⟩ :: outer) after := by
  obtain ⟨entry, openedBefore, walking⟩ := opened
  obtain ⟨visited, successors, blocked⟩ := walking.progress
  refine ⟨entry, openedBefore, walking.called, walking.free, walking.extended.trans extended,
    keeps, visited ++ [next], ?_, ?_⟩
  · rw [successors, current, List.append_assoc]
    rfl
  · intro unclosed other member
    obtain ⟨unclosedBefore, nextStuck⟩ := stuck unclosed
    rcases List.mem_append.mp member with before | here
    · obtain ⟨otherNotStart, otherBlocked⟩ := blocked unclosedBefore other before
      exact ⟨otherNotStart, extended.blocked other otherBlocked⟩
    · rw [List.mem_singleton.mp here]
      exact nextStuck

/-- A successor closes a circuit. -/
theorem sound_close {rest : List String} {closed : Bool}
    (opened : OpenCalls adjacency start (⟨node, start :: rest, closed⟩ :: outer) search)
    (files : List String) :
    OpenCalls adjacency start (⟨node, rest, true⟩ :: outer) (search.record files) := by
  have keeps := opened.keeps.record files
  rw [pathOf_cons] at keeps
  exact opened.advance rfl (search.extends_record files) keeps Bool.noConfusion

/-- A blocked successor is skipped. -/
theorem sound_skip {next : String} {rest : List String} {closed : Bool}
    (opened : OpenCalls adjacency start (⟨node, next :: rest, closed⟩ :: outer) search)
    (notStart : next ≠ start) (blocked : next ∈ search.blocked) :
    OpenCalls adjacency start (⟨node, rest, closed⟩ :: outer) search := by
  have keeps := opened.keeps
  rw [pathOf_cons] at keeps
  exact opened.advance rfl (.refl search) keeps fun unclosed => ⟨unclosed, notStart, blocked⟩

/-- The call around one that returns goes on with the next successor. -/
theorem sound_resume {entry : CircuitSearch} {closed : Bool}
    (opened : OpenCalls adjacency start outer entry) (called : Calls start outer node)
    (keeps : Keeps adjacency start (pathOf outer) search) (extended : entry.Extends search)
    (stuck : closed = false → node ∈ search.blocked) :
    (Moment.resume (closed, search) outer).Sound adjacency start := by
  cases outer with
  | nil => exact keeps
  | cons visit outer =>
      obtain ⟨notStart, current⟩ := called
      obtain ⟨rest, pending⟩ := List.head?_eq_some_iff.mp current
      rw [pathOf_cons] at keeps
      simp only [Moment.resume, pending, List.tail_cons]
      apply opened.advance pending extended keeps
      intro unclosed
      obtain ⟨unclosedBefore, unclosedNow⟩ := Bool.or_eq_false_iff.mp unclosed
      exact ⟨unclosedBefore, notStart, stuck unclosedNow⟩

/-- A call returns after its node was unblocked. -/
theorem sound_release
    (opened : OpenCalls adjacency start (⟨node, [], true⟩ :: outer) search) :
    (Moment.resume (true, search.unblock node) outer).Sound adjacency start := by
  obtain ⟨entry, openedBefore, walking⟩ := opened
  -- The node was free when the call began, so no cascade from it reaches the path before it.
  obtain ⟨keeps, extended⟩ :=
    openedBefore.keeps.unblock walking.extended walking.free walking.keeps
  apply sound_resume openedBefore walking.called keeps extended
  intro unclosed
  exact absurd unclosed Bool.noConfusion

/-- A call returns after its node was made to wait for all its successors. -/
theorem sound_giveUp
    (opened : OpenCalls adjacency start (⟨node, [], false⟩ :: outer) search) :
    (Moment.resume (false, (adjacency.successors start node).foldl (await node) search)
      outer).Sound adjacency start := by
  obtain ⟨entry, openedBefore, walking⟩ := opened
  obtain ⟨visited, successors, blocked⟩ := walking.progress
  rw [List.append_nil] at successors
  have stuck : ∀ next ∈ adjacency.successors start node,
      next ≠ start ∧ next ∈ search.blocked := by
    rw [successors]
    exact blocked rfl
  obtain ⟨keeps, extended⟩ := Keeps.await walking.extended walking.free walking.keeps stuck
  apply sound_resume openedBefore walking.called keeps extended
  intro _
  rw [(foldl_await_eq node (adjacency.successors start node) search).1]
  exact walking.keeps.path_blocked node (by simp)

namespace Moment

theorem Sound.step {moment next : Moment} (sound : moment.Sound adjacency start)
    (step : Step adjacency start moment next) : next.Sound adjacency start := by
  cases step with
  | enter => exact sound_enter sound.1 sound.2.1 sound.2.2
  | close => exact sound_close sound _
  | skip notStart blocked => exact sound_skip sound notStart blocked
  | descend notStart free => exact ⟨sound, ⟨notStart, rfl⟩, free⟩
  | release => exact sound_release sound
  | turn => exact ⟨_, [], sound, rfl, rfl⟩
  | @await outer node next rest _ =>
      obtain ⟨before, waited, opened, successors, rfl⟩ := sound
      refine ⟨before, waited ++ [next], opened, ?_, ?_⟩
      · rw [successors, List.append_assoc]
        rfl
      · rw [List.foldl_append]
        rfl
  | giveUp =>
      obtain ⟨before, waited, opened, successors, rfl⟩ := sound
      rw [List.append_nil] at successors
      rw [← successors]
      exact sound_giveUp opened

theorem Sound.run {moment later : Moment} (sound : moment.Sound adjacency start)
    (run : Run adjacency start moment later) : later.Sound adjacency start := by
  induction run with
  | refl => exact sound
  | tail _ step ih => exact ih.step step

theorem sound_first (adjacency : Adjacency) (start : String) :
    (call [] start fresh).Sound adjacency start :=
  ⟨keeps_fresh adjacency start, rfl, List.not_mem_nil⟩

/-- The nodes of the path are blocked. -/
theorem Sound.path_blocked {moment : Moment} (sound : moment.Sound adjacency start) :
    ∀ node ∈ moment.path, node ∈ moment.search.blocked := by
  cases moment with
  | call outer node search => exact sound.1.keeps.path_blocked
  | walk outer visit search =>
      obtain ⟨_, _, walking⟩ := sound
      exact walking.keeps.path_blocked
  | wait outer node pending search =>
      obtain ⟨before, waited, ⟨_, _, walking⟩, _, rfl⟩ := sound
      simp only [Moment.search]
      rw [(foldl_await_eq node waited before).1]
      exact walking.keeps.path_blocked
  | done answer => exact fun _ member => absurd member List.not_mem_nil

/-- No two open calls are for the same node. -/
theorem Sound.nodup_calls {moment : Moment} (sound : moment.Sound adjacency start) :
    moment.calls.Nodup := by
  cases moment with
  | call outer node search => exact sound.1.nodup_append sound.2.2
  | walk outer visit search =>
      obtain ⟨_, opened, walking⟩ := sound
      exact opened.nodup_append walking.free
  | wait outer node pending search =>
      obtain ⟨_, _, ⟨_, opened, walking⟩, _, _⟩ := sound
      exact opened.nodup_append walking.free
  | done answer => exact List.nodup_nil

/-- There are at most as many open calls as nodes. -/
theorem Sound.length_calls_le {moment : Moment} (sound : moment.Sound adjacency start) :
    moment.calls.length ≤ (adjacency.nodes.add start).size := by
  apply OrderedSet.length_le_size sound.nodup_calls
  cases moment with
  | call outer node search => exact sound.1.mem_append sound.2.1
  | walk outer visit search =>
      obtain ⟨_, opened, walking⟩ := sound
      exact opened.mem_append walking.called
  | wait outer node pending search =>
      obtain ⟨_, _, ⟨_, opened, walking⟩, _, _⟩ := sound
      exact opened.mem_append walking.called
  | done answer => exact fun _ member => absurd member List.not_mem_nil

theorem path_sublist_calls (moment : Moment) : moment.path.Sublist moment.calls := by
  cases moment with
  | call outer node search => exact List.sublist_append_left _ _
  | walk outer visit search => exact .refl _
  | wait outer node pending search => exact .refl _
  | done answer => exact .refl _

end Moment

end Steps

/-! ## The end of the recursion -/

namespace Moment

variable {adjacency : Adjacency} {start node : String} {outer : List Visit}

theorem run_wait (pending : List String) (search : CircuitSearch) :
    Run adjacency start (wait outer node pending search)
      (wait outer node [] (pending.foldl (CircuitSearch.await node) search)) := by
  induction pending generalizing search with
  | nil => exact .refl
  | cons next rest ih => exact (ih _).head .await

/-- After the walk, the node is left and the call returns. -/
theorem run_leave (closed : Bool) (search : CircuitSearch) :
    Run adjacency start (walk outer ⟨node, [], closed⟩ search)
      (resume (closed, search.leave node (adjacency.successors start node) closed) outer) := by
  cases closed with
  | true => exact .single .release
  | false => exact ((run_wait _ search).tail .giveUp).head .turn

/-- Calls return what the bounded search answers, if the bound leaves room for all other nodes. -/
def Returns (adjacency : Adjacency) (start : String) (remaining : Nat) : Prop :=
  ∀ outer node search, (call outer node search).Sound adjacency start →
    (adjacency.nodes.add start).size ≤ (pathOf outer).length + remaining →
      Run adjacency start (call outer node search)
        (resume (circuit adjacency start remaining (pathOf outer) node search) outer)

section Walk

variable {remaining : Nat}

/-- One successor of a walk, when the calls that the walk makes return. -/
theorem run_visitNext (returns : Returns adjacency start remaining)
    (room : (adjacency.nodes.add start).size ≤ (pathOf outer).length + (remaining + 1))
    {next : String} {rest : List String} (state : Bool × CircuitSearch)
    (sound : (walk outer ⟨node, next :: rest, state.1⟩ state.2).Sound adjacency start) :
    let after := visitNext adjacency start remaining (pathOf outer ++ [node]) state next
    Run adjacency start (walk outer ⟨node, next :: rest, state.1⟩ state.2)
      (walk outer ⟨node, rest, after.1⟩ after.2) := by
  simp only [visitNext]
  split
  · rename_i same
    subst same
    exact .single .close
  · rename_i notStart
    split
    · rename_i blocked
      exact .single (.skip notStart blocked)
    · rename_i free
      have descend : Step adjacency start (walk outer ⟨node, next :: rest, state.1⟩ state.2)
          (call (⟨node, next :: rest, state.1⟩ :: outer) next state.2) :=
        .descend notStart free
      have roomInside : (adjacency.nodes.add start).size ≤
          (pathOf (⟨node, next :: rest, state.1⟩ :: outer)).length + remaining := by
        rw [pathOf_cons, List.length_append, List.length_singleton]
        omega
      have returned := returns _ _ _ (sound.step descend) roomInside
      rw [pathOf_cons] at returned
      exact returned.head descend

/-- A walk along all successors. -/
theorem run_walk (returns : Returns adjacency start remaining)
    (room : (adjacency.nodes.add start).size ≤ (pathOf outer).length + (remaining + 1))
    (pending : List String) (state : Bool × CircuitSearch)
    (sound : (walk outer ⟨node, pending, state.1⟩ state.2).Sound adjacency start) :
    let visited := pending.foldl
      (visitNext adjacency start remaining (pathOf outer ++ [node])) state
    Run adjacency start (walk outer ⟨node, pending, state.1⟩ state.2)
      (walk outer ⟨node, [], visited.1⟩ visited.2) := by
  induction pending generalizing state with
  | nil => exact .refl
  | cons next rest ih =>
      have first := run_visitNext returns room state sound
      exact first.trans (ih _ (sound.run first))

end Walk

/-- Every call returns.  The induction is on the bound, which cannot be used up before the open
calls are as many as the nodes. -/
theorem returns (adjacency : Adjacency) (start : String) (remaining : Nat) :
    Returns adjacency start remaining := by
  induction remaining with
  | zero =>
      intro outer node search sound room
      have short := sound.length_calls_le
      rw [calls, List.length_append, List.length_singleton] at short
      omega
  | succ remaining ih =>
      intro outer node search sound room
      have enter : Step adjacency start (call outer node search)
          (walk outer ⟨node, adjacency.successors start node, false⟩ (search.block node)) :=
        .enter
      have walked := run_walk ih room _ (false, search.block node) (sound.step enter)
      rw [circuit_succ]
      exact (walked.trans (run_leave _ _)).head enter

theorem not_step_done {answer : Bool × CircuitSearch} (next : Moment) :
    ¬Step adjacency start (done answer) next := by
  intro step
  cases step

end Moment

/-- At every recursive call and at every step of its loops, the nodes on the path are blocked and
distinct, and no more calls are open than there are nodes, the start counted with them.  Every call
returns what the bounded search answers, whatever the bound, if it is not below the number of
nodes; so the recursion comes to an end on every graph. -/
theorem path_blocked_until_done (adjacency : Adjacency) (start : String) :
    (∀ moment, Moment.Run adjacency start (.call [] start fresh) moment →
      (∀ node ∈ moment.path, node ∈ moment.search.blocked) ∧ moment.path.Nodup ∧
        moment.calls.length ≤ (adjacency.nodes.add start).size) ∧
      (∀ outer node search,
        Moment.Run adjacency start (.call [] start fresh) (.call outer node search) →
          ∀ remaining, (adjacency.nodes.add start).size ≤ remaining →
            Moment.Run adjacency start (.call outer node search)
              (.resume (circuit adjacency start remaining (pathOf outer) node search) outer)) ∧
      EndsIn (Moment.Step adjacency start) (.call [] start fresh) (fun moment =>
        ∀ remaining, (adjacency.nodes.add start).size ≤ remaining →
          moment = .done (circuit adjacency start remaining [] start fresh)) ∧
      (start ∈ adjacency.nodes.toList →
        (adjacency.nodes.add start).size = adjacency.nodes.size) := by
  have first := Moment.sound_first adjacency start
  have ends (remaining : Nat) (enough : (adjacency.nodes.add start).size ≤ remaining) :
      EndsIn (Moment.Step adjacency start) (.call [] start fresh)
        (· = .done (circuit adjacency start remaining [] start fresh)) := by
    have run := Moment.returns adjacency start remaining [] start fresh first
      (Nat.le_add_left_of_le enough)
    exact .of_run (Moment.rightUnique_step adjacency start) run Moment.not_step_done
  refine ⟨?_, ?_, ⟨(ends _ le_rfl).finite, ?_⟩, OrderedSet.size_add_of_mem⟩
  · intro moment run
    have sound := first.run run
    exact ⟨sound.path_blocked, sound.nodup_calls.sublist moment.path_sublist_calls,
      sound.length_calls_le⟩
  · intro outer node search run remaining enough
    exact Moment.returns adjacency start remaining outer node search (first.run run)
      (Nat.le_add_left_of_le enough)
  · intro moment run stuck remaining enough
    exact (ends remaining enough).final moment run stuck

/-- A loop, a cycle, and an edge to a node that no edge leaves. -/
def snare : Adjacency :=
  .ofEdges [("A", "A"), ("A", "B"), ("B", "C"), ("C", "A"), ("C", "D")]

/-- The call for the node that no edge leaves. -/
def snareDepth : Moment :=
  .call [⟨"C", ["D"], true⟩, ⟨"B", ["C"], false⟩, ⟨"A", ["B"], true⟩] "D"
    (((((fresh.block "A").record ["A"]).block "B").block "C").record ["A", "B", "C"])

theorem run_snare : Moment.Run snare "A" (.call [] "A" fresh) snareDepth := by
  have ofA : snare.successors "A" "A" = ["A", "B"] := by decide
  have ofB : snare.successors "A" "B" = ["C"] := by decide
  have ofC : snare.successors "A" "C" = ["A", "D"] := by decide
  have enterA := @Moment.Step.enter snare "A" [] "A" fresh
  rw [ofA] at enterA
  have enterB := @Moment.Step.enter snare "A" [⟨"A", ["B"], true⟩] "B"
    ((fresh.block "A").record ["A"])
  rw [ofB] at enterB
  have enterC := @Moment.Step.enter snare "A" [⟨"B", ["C"], false⟩, ⟨"A", ["B"], true⟩] "C"
    (((fresh.block "A").record ["A"]).block "B")
  rw [ofC] at enterC
  have toB : Moment.Run snare "A" (.call [] "A" fresh) _ :=
    ((Relation.ReflTransGen.single enterA).tail .close).tail (.descend (by decide) (by decide))
  have toC := (toB.tail enterB).tail (.descend (by decide) (by decide))
  exact ((toC.tail enterC).tail .close).tail (.descend (by decide) (by decide))

theorem path_blocked_until_done_snare :
    snareDepth.path = ["A", "B", "C"] ∧
      (∀ node ∈ snareDepth.path, node ∈ snareDepth.search.blocked) ∧
        snareDepth.calls.length = (snare.nodes.add "A").size ∧
          (snare.nodes.add "A").size = snare.nodes.size ∧
            EndsIn (Moment.Step snare "A") (.call [] "A" fresh)
              (· = .done (circuit snare "A" 4 [] "A" fresh)) := by
  obtain ⟨held, _, ends, counted⟩ := path_blocked_until_done snare "A"
  refine ⟨rfl, (held _ run_snare).1, by decide, counted (by decide), ends.finite, ?_⟩
  intro moment run stuck
  exact ends.final moment run stuck 4 (by decide)

end CircuitSearch

end QueryImpact
