import Mathlib
import QueryImpact.Analysis.DependencyChain
import QueryImpact.Proofs.Analysis.RowOrder
import QueryImpact.Proofs.Graph.Distance

/-!
# The traced chain is the best one

A search by layers enters each file from the smallest file possible, because it goes through the
dependencies in order of their sources.  So the way back from a file to the start is a shortest
one, and of the shortest ways the one that comes first when read from its end.
-/

namespace QueryImpact

/-! ## Ways -/

/-- A list of files along edges from a start to a goal, both included. -/
structure IsWay (edge : String → String → Prop) (start goal : String) (files : List String) :
    Prop where
  /-- It begins at the start. -/
  first : files.head? = some start
  /-- It ends at the goal. -/
  last : files.getLast? = some goal
  /-- There is an edge between neighbours. -/
  linked : files.IsChain edge

variable {edge : String → String → Prop} {start source goal : String} {files : List String}

theorem isWay_singleton (edge : String → String → Prop) (start : String) :
    IsWay edge start start [start] :=
  ⟨rfl, rfl, List.isChain_singleton start⟩

theorem IsWay.snoc (way : IsWay edge start source files) (leads : edge source goal) :
    IsWay edge start goal (files ++ [goal]) where
  first := by
    rw [List.head?_append, way.first]
    rfl
  last := List.getLast?_concat
  linked := by
    rw [List.isChain_append]
    refine ⟨way.linked, List.isChain_singleton goal, ?_⟩
    intro last isLast first isFirst
    obtain rfl := Option.some.inj (way.last.symm.trans isLast)
    obtain rfl := Option.some.inj isFirst
    exact leads

/-- A way is only the start, or its last edge comes after another way. -/
theorem IsWay.cases_last (way : IsWay edge start goal files) :
    (files = [start] ∧ goal = start) ∨
      ∃ before source, files = before ++ [goal] ∧ IsWay edge start source before ∧
        edge source goal := by
  obtain ⟨first, last, linked⟩ := way
  obtain ⟨before, rfl⟩ := List.getLast?_eq_some_iff.mp last
  cases isLast : before.getLast? with
  | none =>
      obtain rfl := List.getLast?_eq_none_iff.mp isLast
      obtain rfl := Option.some.inj first
      exact Or.inl ⟨rfl, rfl⟩
  | some source =>
      rw [List.isChain_append] at linked
      obtain ⟨linkedBefore, -, leads⟩ := linked
      refine Or.inr ⟨before, source, rfl, ⟨?_, isLast, linkedBefore⟩, leads source isLast goal rfl⟩
      cases before with
      | nil => contradiction
      | cons => exact first

/-- A way makes as many steps as it has files after the first. -/
theorem IsWay.hops (way : IsWay edge start goal files) :
    ∃ count, files.length = count + 1 ∧ Hops edge start count goal := by
  induction files using List.reverseRecOn generalizing goal with
  | nil => exact absurd way.first.symm (Option.some_ne_none start)
  | append_singleton before last ih =>
      rcases way.cases_last with ⟨single, rfl⟩ | ⟨other, source, same, wayBefore, leads⟩
      · exact ⟨0, congrArg List.length single, .none⟩
      · obtain ⟨rfl, -⟩ := List.append_inj' same rfl
        obtain ⟨count, length, hops⟩ := ih wayBefore
        refine ⟨count + 1, ?_, hops.step leads⟩
        rw [List.length_append, length, List.length_singleton]

/-- Every file on a way is reached in fewer steps than the way has files. -/
theorem IsWay.exists_hops_of_mem (way : IsWay edge start goal files) {file : String}
    (member : file ∈ files) : ∃ count < files.length, Hops edge start count file := by
  induction files using List.reverseRecOn generalizing goal with
  | nil => contradiction
  | append_singleton before last ih =>
      rcases way.cases_last with ⟨single, rfl⟩ | ⟨other, source, same, wayBefore, leads⟩
      · rw [single] at member ⊢
        obtain rfl := List.mem_singleton.mp member
        exact ⟨0, Nat.one_pos, .none⟩
      · obtain ⟨rfl, sameLast⟩ := List.append_inj' same rfl
        rcases List.mem_append.mp member with isBefore | isLast
        · obtain ⟨count, less, hops⟩ := ih wayBefore isBefore
          refine ⟨count, less.trans_le ?_, hops⟩
          rw [List.length_append]
          exact Nat.le_add_right _ _
        · rw [sameLast, List.mem_singleton] at isLast
          subst isLast
          obtain ⟨count, length, hops⟩ := way.hops
          exact ⟨count, length ▸ Nat.lt_succ_self count, hops⟩

theorem Hops.exists_isWay {count : Nat} (hops : Hops edge start count goal) :
    ∃ files, IsWay edge start goal files ∧ files.length = count + 1 := by
  induction hops with
  | none => exact ⟨[start], isWay_singleton edge start, rfl⟩
  | step _ leads ih =>
      obtain ⟨files, way, length⟩ := ih
      refine ⟨_, way.snoc leads, ?_⟩
      rw [List.length_append, length, List.length_singleton]

/-- A shortest way without repetitions, and of the shortest ways the first one in the order of the
lists read backwards. -/
structure IsBestWay (edge : String → String → Prop) (start goal : String) (files : List String) :
    Prop extends IsWay edge start goal files where
  /-- It repeats no file. -/
  nodup : files.Nodup
  /-- No way is shorter. -/
  shortest : ∀ other, IsWay edge start goal other → files.length ≤ other.length
  /-- None as short comes before it. -/
  least : ∀ other, IsWay edge start goal other → other.length = files.length →
    files.reverse ≤ other.reverse

theorem reverse_le_of_last_lt {files others : List String} {last otherLast : String}
    (isLast : files.getLast? = some last) (isOtherLast : others.getLast? = some otherLast)
    (smaller : last < otherLast) : files.reverse ≤ others.reverse := by
  obtain ⟨before, rfl⟩ := List.getLast?_eq_some_iff.mp isLast
  obtain ⟨otherBefore, rfl⟩ := List.getLast?_eq_some_iff.mp isOtherLast
  rw [List.reverse_append, List.reverse_append]
  exact le_of_lt (List.Lex.rel smaller)

namespace IsBestWay

theorem singleton (edge : String → String → Prop) (start : String) :
    IsBestWay edge start start [start] where
  toIsWay := isWay_singleton edge start
  nodup := List.nodup_singleton start
  shortest other way := by
    obtain ⟨count, length, -⟩ := way.hops
    rw [length]
    exact Nat.le_add_left 1 count
  least other way length := by
    obtain ⟨file, rfl⟩ := List.length_eq_one_iff.mp length
    obtain rfl := Option.some.inj way.first
    exact le_rfl

/-- A best way is as long as the distance says. -/
theorem length_eq (best : IsBestWay edge start goal files) {count : Nat}
    (distance : IsDistance edge start goal count) : files.length = count + 1 := by
  obtain ⟨other, length, hops⟩ := best.toIsWay.hops
  obtain ⟨shortest, way, shortestLength⟩ := distance.1.exists_isWay
  have upper := best.shortest shortest way
  have lower := distance.2 other hops
  omega

/-- A best way goes on to a file from the smallest file that is one step nearer. -/
theorem snoc {near : Nat} (best : IsBestWay edge start source files)
    (distance : IsDistance edge start goal (near + 1))
    (isLeast : IsLeast {source | IsDistance edge start source near ∧ edge source goal} source) :
    IsBestWay edge start goal (files ++ [goal]) where
  toIsWay := best.toIsWay.snoc isLeast.1.2
  nodup := by
    rw [List.nodup_append']
    refine ⟨best.nodup, List.nodup_singleton goal, ?_⟩
    rw [List.disjoint_singleton]
    intro member
    obtain ⟨count, less, hops⟩ := best.toIsWay.exists_hops_of_mem member
    rw [best.length_eq isLeast.1.1] at less
    exact absurd (distance.2 count hops) (by omega)
  shortest other way := by
    obtain ⟨count, length, hops⟩ := way.hops
    rw [List.length_append, best.length_eq isLeast.1.1, List.length_singleton, length]
    exact Nat.succ_le_succ (distance.2 count hops)
  least other way length := by
    rw [List.length_append, best.length_eq isLeast.1.1, List.length_singleton] at length
    rcases way.cases_last with ⟨rfl, -⟩ | ⟨before, previous, rfl, wayBefore, leads⟩
    · rw [List.length_singleton] at length
      omega
    · obtain ⟨count, lengthBefore, hops⟩ := wayBefore.hops
      rw [List.length_append, lengthBefore, List.length_singleton] at length
      obtain rfl : count = near := by omega
      have atNear : IsDistance edge start previous count := by
        refine ⟨hops, ?_⟩
        intro other otherHops
        exact Nat.le_of_succ_le_succ (distance.2 (other + 1) (otherHops.step leads))
      rw [List.reverse_append, List.reverse_append]
      apply List.cons_le_cons
      rcases (isLeast.2 ⟨atNear, leads⟩).eq_or_lt with rfl | smaller
      · apply best.least before wayBefore
        rw [lengthBefore, best.length_eq isLeast.1.1]
      · exact reverse_le_of_last_lt best.last wayBefore.last smaller

end IsBestWay

/-- A question and what is made of its answer on a stored graph. -/
theorem Analysis.on_ask_bind {α : Type} (question : Lookup)
    (next : question.Answer → Analysis α) (graph : Graph) :
    Analysis.on (Analysis.ask question >>= next) graph =
      (next (graph.answer question)).on graph :=
  rfl

namespace DependencyChain

/-! ## Trails -/

namespace Trail

variable {trail after : Trail} {file target : String}

theorem isReached_iff :
    trail.isReached file = true ↔
      file = trail.start ∨ ∃ parent, trail.parents.find? file = some parent := by
  rw [isReached, Bool.or_eq_true, decide_eq_true_eq, OrderedMap.contains_iff]

theorem find?_enter :
    (trail.enter source target).parents.find? file =
      if file = target then some source else trail.parents.find? file := by
  rw [enter, OrderedMap.find?_insert]

theorem isReached_enter :
    (trail.enter source target).isReached file = true ↔
      file = target ∨ trail.isReached file = true := by
  rw [isReached_iff, isReached_iff, find?_enter]
  by_cases isTarget : file = target <;> simp [isTarget, enter]

theorem isReached_enter_of_ne (ne : file ≠ target) :
    (trail.enter source target).isReached file = trail.isReached file := by
  rw [Bool.eq_iff_iff, isReached_enter, or_iff_right ne]

/-- Every file was entered from the smallest file that is one step nearer to the start and leads to
it. -/
def Sound (edge : String → String → Prop) (trail : Trail) : Prop :=
  ∀ file parent, trail.parents.find? file = some parent →
    trail.isReached parent = true ∧
      ∃ near, IsDistance edge trail.start file (near + 1) ∧
        IsLeast {source | IsDistance edge trail.start source near ∧ edge source file} parent

/-- The way back from a reached file is the best way to it, through reached files. -/
theorem Sound.isBestWay_wayTo (sound : trail.Sound edge) (isReached : trail.isReached file = true)
    {count : Nat} (distance : IsDistance edge trail.start file count) {steps : Nat}
    (enough : count ≤ steps) :
    IsBestWay edge trail.start file (trail.wayTo steps file) ∧
      ∀ other ∈ trail.wayTo steps file, trail.isReached other = true := by
  induction count generalizing file steps with
  | zero =>
      obtain rfl := IsDistance.zero_iff.mp distance
      have onlyStart : trail.wayTo steps trail.start = [trail.start] := by
        cases steps with
        | zero => rfl
        | succ steps => exact if_pos rfl
      rw [onlyStart]
      refine ⟨.singleton edge trail.start, ?_⟩
      intro other member
      rw [List.mem_singleton.mp member]
      exact isReached
  | succ count ih =>
      obtain ⟨steps, rfl⟩ := Nat.exists_eq_add_one_of_ne_zero (Nat.ne_zero_of_lt enough)
      have notStart : file ≠ trail.start := by
        rintro rfl
        exact absurd ((IsDistance.zero_iff.mpr rfl).unique distance) (Nat.succ_ne_zero count).symm
      obtain ⟨parent, isParent⟩ := (isReached_iff.mp isReached).resolve_left notStart
      obtain ⟨parentReached, near, atNear, isLeast⟩ := sound file parent isParent
      obtain rfl := Nat.succ.inj (atNear.unique distance)
      obtain ⟨best, allReached⟩ := ih parentReached isLeast.1.1 (Nat.le_of_succ_le_succ enough)
      rw [wayTo, if_neg notStart, isParent]
      refine ⟨best.snoc distance isLeast, ?_⟩
      intro other member
      rcases List.mem_append.mp member with isBefore | isLast
      · exact allReached other isBefore
      · rw [List.mem_singleton.mp isLast]
        exact isReached

/-- The chain to a reached file is the best way to it. -/
theorem Sound.isBestWay_chainTo (sound : trail.Sound edge) (isReached : trail.isReached file = true)
    {count : Nat} (distance : IsDistance edge trail.start file count) :
    IsBestWay edge trail.start file (trail.chainTo file).files := by
  -- The files on the way are keys of the map, apart from the start, so its size is enough.
  obtain ⟨best, allReached⟩ := sound.isBestWay_wayTo isReached distance le_rfl
  have subset : trail.wayTo count file ⊆ trail.start :: trail.parents.keys := by
    intro other member
    rw [List.mem_cons, OrderedMap.mem_keys_iff]
    exact isReached_iff.mp (allReached other member)
  have bounded := (best.nodup.subperm subset).length_le
  rw [best.length_eq distance, List.length_cons, OrderedMap.keys, List.length_map] at bounded
  exact (sound.isBestWay_wayTo isReached distance (Nat.le_of_succ_le_succ bounded)).1

/-! ## Entering files -/

/-- What comes of a trail when files are entered along pairs: reached files stay as they are, and
other files are entered from the smallest file that is paired with them. -/
structure Extends (pairs : List (String × String)) (trail after : Trail) : Prop where
  /-- The same start. -/
  start_eq : after.start = trail.start
  /-- Reached files stay as they are. -/
  kept : ∀ file, trail.isReached file = true →
    after.parents.find? file = trail.parents.find? file
  /-- New files. -/
  entered : ∀ file parent, trail.isReached file = false →
    after.parents.find? file = some parent →
      (parent, file) ∈ pairs ∧ ∀ source, (source, file) ∈ pairs → parent ≤ source

variable {pairs rest : List (String × String)}

theorem Extends.isReached (extension : Extends pairs trail after)
    (isReached : trail.isReached file = true) : after.isReached file = true := by
  rw [isReached_iff, extension.start_eq, extension.kept file isReached]
  exact isReached_iff.mp isReached

/-- A file that is reached and was not before is paired. -/
theorem Extends.exists_pair (extension : Extends pairs trail after)
    (isNew : trail.isReached file = false) (isReached : after.isReached file = true) :
    ∃ source, (source, file) ∈ pairs := by
  rw [isReached_iff, extension.start_eq] at isReached
  rcases isReached with isStart | ⟨parent, isParent⟩
  · rw [isReached_iff.mpr (Or.inl isStart)] at isNew
    contradiction
  · exact ⟨parent, (extension.entered file parent isNew isParent).1⟩

theorem extends_refl (pairs : List (String × String)) (trail : Trail) :
    Extends pairs trail trail where
  start_eq := rfl
  kept _ _ := rfl
  entered file parent isNew isParent := by
    have isReached := isReached_iff.mpr (Or.inr ⟨parent, isParent⟩)
    rw [isNew] at isReached
    contradiction

/-- Pairs with a reached file change nothing. -/
theorem Extends.skip (extension : Extends rest trail after)
    (isReached : trail.isReached target = true) :
    Extends ((source, target) :: rest) trail after where
  start_eq := extension.start_eq
  kept := extension.kept
  entered file parent isNew isParent := by
    obtain ⟨paired, least⟩ := extension.entered file parent isNew isParent
    refine ⟨List.mem_cons_of_mem _ paired, ?_⟩
    intro other otherPaired
    rcases List.mem_cons.mp otherPaired with here | later
    · obtain ⟨rfl, rfl⟩ := Prod.mk.inj here
      rw [isNew] at isReached
      contradiction
    · exact least other later

/-- A new file is entered from the first file that is paired with it, the smallest one. -/
theorem Extends.enter (extension : Extends rest (trail.enter source target) after)
    (isNew : trail.isReached target = false)
    (smallest : ∀ pair ∈ rest, source ≤ pair.1) :
    Extends ((source, target) :: rest) trail after where
  start_eq := extension.start_eq
  kept file isReached := by
    rw [extension.kept file (isReached_enter.mpr (Or.inr isReached)), find?_enter, if_neg]
    rintro rfl
    rw [isNew] at isReached
    contradiction
  entered file parent fileNew isParent := by
    by_cases isTarget : file = target
    · subst isTarget
      have isReached : (trail.enter source file).isReached file = true :=
        isReached_enter.mpr (Or.inl rfl)
      rw [extension.kept file isReached, find?_enter, if_pos rfl] at isParent
      obtain rfl := Option.some.inj isParent
      refine ⟨List.mem_cons_self, ?_⟩
      intro other otherPaired
      rcases List.mem_cons.mp otherPaired with here | later
      · exact (Prod.mk.inj here).1.ge
      · exact smallest _ later
    · rw [← isReached_enter_of_ne isTarget] at fileNew
      obtain ⟨paired, least⟩ := extension.entered file parent fileNew isParent
      refine ⟨List.mem_cons_of_mem _ paired, ?_⟩
      intro other otherPaired
      rcases List.mem_cons.mp otherPaired with here | later
      · exact absurd (Prod.mk.inj here).2 isTarget
      · exact least other later

end Trail

/-- What an expansion along pairs leads to. -/
inductive Expanded (goal : String) (trail : Trail) (next : List String)
    (pairs : List (String × String)) : Expansion → Prop
  /-- The goal is new and is entered. -/
  | arrived {after : Trail} (extension : Trail.Extends pairs trail after)
      (isNew : trail.isReached goal = false) (isReached : after.isReached goal = true) :
      Expanded goal trail next pairs (.arrived after)
  /-- All new files are entered, and the goal is not among them. -/
  | frontier {after : Trail} {files : List String} (extension : Trail.Extends pairs trail after)
      (complete : ∀ pair ∈ pairs, after.isReached pair.2 = true)
      (isNext : ∀ file, file ∈ files ↔
        file ∈ next ∨ trail.isReached file = false ∧ after.isReached file = true)
      (missed : trail.isReached goal = false → after.isReached goal = false) :
      Expanded goal trail next pairs (.frontier after files)

/-- Going through sorted pairs enters new files from the smallest possible ones, up to the goal. -/
theorem expanded_expand (goal : String) (trail : Trail) (next : List String)
    {pairs : List (String × String)}
    (sorted : pairs.Pairwise fun first second => first.1 ≤ second.1) :
    Expanded goal trail next pairs (expand goal trail next pairs) := by
  induction pairs generalizing trail next with
  | nil =>
      refine .frontier (Trail.extends_refl [] trail) (by simp) ?_ id
      intro file
      cases trail.isReached file <;> simp
  | cons pair rest ih =>
      obtain ⟨source, target⟩ := pair
      obtain ⟨smallest, sortedRest⟩ := List.pairwise_cons.mp sorted
      rw [expand]
      cases isReached : trail.isReached target with
      | true =>
          have expanded := ih trail next sortedRest
          rw [if_pos rfl]
          generalize expand goal trail next rest = result at expanded
          cases expanded with
          | arrived extension isNew arrives =>
              exact .arrived (extension.skip isReached) isNew arrives
          | frontier extension complete isNext missed =>
              refine .frontier (extension.skip isReached) ?_ isNext missed
              exact List.forall_mem_cons.mpr ⟨extension.isReached isReached, complete⟩
      | false =>
          rw [if_neg Bool.false_ne_true]
          by_cases isGoal : target = goal
          · subst isGoal
            rw [if_pos rfl]
            refine .arrived (Trail.Extends.enter (Trail.extends_refl rest _) isReached smallest)
              isReached ?_
            exact Trail.isReached_enter.mpr (Or.inl rfl)
          · rw [if_neg isGoal]
            have expanded := ih (trail.enter source target) (next ++ [target]) sortedRest
            generalize expand goal _ _ rest = result at expanded
            cases expanded with
            | arrived extension isNew arrives =>
                rw [Trail.isReached_enter_of_ne (Ne.symm isGoal)] at isNew
                exact .arrived (extension.enter isReached smallest) isNew arrives
            | @frontier after files extension complete isNext missed =>
                rw [Trail.isReached_enter_of_ne (Ne.symm isGoal)] at missed
                have targetReached : after.isReached target = true :=
                  extension.isReached (Trail.isReached_enter.mpr (Or.inl rfl))
                refine .frontier (extension.enter isReached smallest)
                  (List.forall_mem_cons.mpr ⟨targetReached, complete⟩) ?_ missed
                intro file
                rw [isNext]
                by_cases isTarget : file = target
                · simp [isTarget, isReached, targetReached]
                · simp [isTarget, Trail.isReached_enter_of_ne isTarget]

/-! ## The search -/

theorem mem_sortPairs_iff {pairs : List (String × String)} {pair : String × String} :
    pair ∈ sortPairs pairs ↔ pair ∈ pairs :=
  List.mem_mergeSort

theorem sorted_sortPairs (pairs : List (String × String)) :
    (sortPairs pairs).Pairwise fun first second => first.1 ≤ second.1 := by
  apply (pairwise_mergeSort_isLE (compareLex (compareOn Prod.fst) (compareOn Prod.snd)) pairs).imp
  intro first second notAbove
  rw [compareLex, Ordering.isLE_then_iff_and] at notAbove
  exact compare_le_iff_le.mp (Ordering.isLE_iff_ne_gt.mp notAbove.1)

section Search

variable {trail after : Trail} {depth : Nat} {frontier : List String}
  {pairs : List (String × String)}

/-- A trail that is extended along the edges from its frontier stays sound. -/
theorem sound_of_extends (sound : trail.Sound edge)
    (layered : Layered edge trail.start depth {file | trail.isReached file = true}
      {file | file ∈ frontier})
    (isPair : ∀ source target, (source, target) ∈ pairs ↔ source ∈ frontier ∧ edge source target)
    (extension : Trail.Extends pairs trail after) : after.Sound edge := by
  intro file parent isParent
  rw [extension.start_eq]
  cases isReached : trail.isReached file with
  | true =>
      rw [extension.kept file isReached] at isParent
      obtain ⟨parentReached, entry⟩ := sound file parent isParent
      exact ⟨extension.isReached parentReached, entry⟩
  | false =>
      obtain ⟨paired, least⟩ := extension.entered file parent isReached isParent
      obtain ⟨isSource, leads⟩ := (isPair parent file).mp paired
      have atDepth := (layered.frontier_iff parent).mp isSource
      refine ⟨extension.isReached ((layered.visited_iff parent).mpr ⟨depth, le_rfl, atDepth⟩),
        depth, ?_, ⟨atDepth, leads⟩, ?_⟩
      · rw [← layered.next_iff]
        exact ⟨⟨parent, isSource, leads⟩, by simp [isReached]⟩
      · rintro other ⟨otherAtDepth, otherLeads⟩
        apply least
        rw [isPair]
        exact ⟨(layered.frontier_iff other).mpr otherAtDepth, otherLeads⟩

/-- When all new files are entered, the search has come one step further. -/
theorem layered_of_extends {next : List String}
    (layered : Layered edge trail.start depth {file | trail.isReached file = true}
      {file | file ∈ frontier})
    (isPair : ∀ source target, (source, target) ∈ pairs ↔ source ∈ frontier ∧ edge source target)
    (extension : Trail.Extends pairs trail after)
    (complete : ∀ pair ∈ pairs, after.isReached pair.2 = true)
    (isNext : ∀ file, file ∈ next ↔
      trail.isReached file = false ∧ after.isReached file = true) :
    Layered edge after.start (depth + 1) {file | after.isReached file = true}
      {file | file ∈ next} := by
  rw [extension.start_eq]
  apply layered.step
  · intro file
    change file ∈ next ↔ (∃ source ∈ frontier, edge source file) ∧ ¬ trail.isReached file = true
    rw [isNext, and_comm, Bool.not_eq_true]
    apply and_congr_left
    intro isNew
    simp only [← isPair]
    constructor
    · exact extension.exists_pair isNew
    · rintro ⟨source, paired⟩
      exact complete _ paired
  · intro file
    change after.isReached file = true ↔ file ∈ next ∨ trail.isReached file = true
    rw [isNext]
    cases isReached : trail.isReached file with
    | false => simp
    | true => simp [extension.isReached isReached]

/-- A search that arrives at the goal ends with the chain to it. -/
theorem on_searchFrom_arrived {graph : Graph} (steps : Nat) (nonempty : frontier ≠ [])
    (arrives : expand goal trail [] (sortPairs (graph.neighbors frontier .outgoing)) =
      .arrived after) :
    (searchFrom goal (steps + 1) trail frontier).on graph = some (after.chainTo goal) := by
  rw [searchFrom, if_neg nonempty]
  refine (Analysis.on_ask_bind (.neighbors frontier .outgoing) _ graph).trans ?_
  simp only [Graph.answer, arrives]
  rfl

/-- A search that does not arrive at the goal goes on with the next files. -/
theorem on_searchFrom_frontier {graph : Graph} (steps : Nat) (nonempty : frontier ≠ [])
    {next : List String}
    (continues : expand goal trail [] (sortPairs (graph.neighbors frontier .outgoing)) =
      .frontier after next) :
    (searchFrom goal (steps + 1) trail frontier).on graph =
      (searchFrom goal steps after next).on graph := by
  rw [searchFrom, if_neg nonempty]
  refine (Analysis.on_ask_bind (.neighbors frontier .outgoing) _ graph).trans ?_
  simp only [Graph.answer, continues]

/-- A goal that is not reached is further away than the search has come. -/
theorem lt_of_not_reached
    (layered : Layered edge trail.start depth {file | trail.isReached file = true}
      {file | file ∈ frontier})
    (isNew : trail.isReached goal = false) {count : Nat}
    (distance : IsDistance edge trail.start goal count) : depth < count := by
  by_contra within
  have isReached : trail.isReached goal = true :=
    (layered.visited_iff goal).mpr ⟨count, Nat.not_lt.mp within, distance⟩
  rw [isNew] at isReached
  contradiction

/-- The search finds the best way to the goal within its steps. -/
theorem on_searchFrom {graph : Graph} (steps : Nat) (sound : trail.Sound graph.DependsOn)
    (layered : Layered graph.DependsOn trail.start depth {file | trail.isReached file = true}
      {file | file ∈ frontier})
    (isNew : trail.isReached goal = false) :
    let result := (searchFrom goal steps trail frontier).on graph
    (result.isSome = true ↔
        ∃ count ≤ depth + steps, IsDistance graph.DependsOn trail.start goal count) ∧
      ∀ chain, result = some chain →
        IsBestWay graph.DependsOn trail.start goal chain.files := by
  induction steps generalizing depth trail frontier with
  | zero =>
      refine ⟨iff_of_false Bool.false_ne_true ?_, ?_⟩
      · rintro ⟨count, within, distance⟩
        exact absurd (lt_of_not_reached layered isNew distance) (Nat.not_lt.mpr within)
      · intro chain isChain
        contradiction
  | succ steps ih =>
      by_cases empty : frontier = []
      · subst empty
        refine ⟨iff_of_false Bool.false_ne_true ?_, ?_⟩
        · rintro ⟨count, -, distance⟩
          have near := layered.lt_of_empty (fun _ => List.not_mem_nil) distance
          exact lt_asymm near (lt_of_not_reached layered isNew distance)
        · intro chain isChain
          contradiction
      · have isPair (source target : String) :
            (source, target) ∈ sortPairs (graph.neighbors frontier .outgoing) ↔
              source ∈ frontier ∧ graph.DependsOn source target :=
          mem_sortPairs_iff.trans Graph.mem_neighbors_outgoing_iff
        have expanded := expanded_expand goal trail []
          (sorted_sortPairs (graph.neighbors frontier .outgoing))
        generalize isExpansion : expand goal trail [] _ = expansion at expanded
        cases expanded with
        | @arrived after extension isNew isReached =>
            rw [on_searchFrom_arrived steps empty isExpansion]
            have soundAfter := sound_of_extends sound layered isPair extension
            obtain ⟨source, paired⟩ := extension.exists_pair isNew isReached
            obtain ⟨isSource, leads⟩ := (isPair source goal).mp paired
            have distance : IsDistance graph.DependsOn trail.start goal (depth + 1) := by
              rw [← layered.next_iff]
              exact ⟨⟨source, isSource, leads⟩, by simp [isNew]⟩
            refine ⟨iff_of_true rfl ⟨depth + 1, by omega, distance⟩, ?_⟩
            rintro chain ⟨⟩
            rw [← extension.start_eq] at distance ⊢
            exact soundAfter.isBestWay_chainTo isReached distance
        | @frontier after next extension complete isNext missed =>
            rw [on_searchFrom_frontier steps empty isExpansion]
            simp only [List.not_mem_nil, false_or] at isNext
            have found := ih (sound_of_extends sound layered isPair extension)
              (layered_of_extends layered isPair extension complete isNext) (missed isNew)
            rw [extension.start_eq, Nat.add_right_comm] at found
            exact found

end Search

/-- The search from the start alone. -/
theorem on_searchFrom_start (graph : Graph) (differ : start ≠ goal) (maxDepth : Nat) :
    let result := (searchFrom goal maxDepth ⟨start, .empty⟩ [start]).on graph
    (result.isSome = true ↔
        ∃ files, IsWay graph.DependsOn start goal files ∧ files.length ≤ maxDepth + 1) ∧
      ∀ chain, result = some chain → IsBestWay graph.DependsOn start goal chain.files := by
  let trail : Trail := ⟨start, .empty⟩
  have isReached_iff (file : String) : trail.isReached file = true ↔ file = start := by
    simp [Trail.isReached, trail]
  have sound : trail.Sound graph.DependsOn := by
    intro file parent isParent
    rw [OrderedMap.find?_empty] at isParent
    contradiction
  have layered : Layered graph.DependsOn start 0 {file | trail.isReached file = true}
      {file | file ∈ [start]} :=
    .initial isReached_iff fun _ => List.mem_singleton
  have isNew : trail.isReached goal = false := by
    rw [← Bool.not_eq_true, isReached_iff]
    exact differ.symm
  obtain ⟨isFound, isBest⟩ := on_searchFrom maxDepth sound layered isNew
  refine ⟨isFound.trans ?_, isBest⟩
  rw [Nat.zero_add]
  constructor
  · rintro ⟨count, within, distance⟩
    obtain ⟨files, way, length⟩ := distance.1.exists_isWay
    exact ⟨files, way, length ▸ Nat.succ_le_succ within⟩
  · rintro ⟨files, way, within⟩
    obtain ⟨count, length, hops⟩ := way.hops
    obtain ⟨least, le, distance⟩ := hops.exists_isDistance
    exact ⟨least, by omega, distance⟩

theorem on_trace (start goal : String) (maxDepth : Nat) (graph : Graph) :
    (trace start goal maxDepth).on graph =
      if graph.isFile start then
        if start = goal then some ⟨[start]⟩
        else if graph.isFile goal then
          (searchFrom goal maxDepth ⟨start, .empty⟩ [start]).on graph
        else none
      else none := by
  change Analysis.on (if !graph.isFile start then _ else _) graph = _
  cases graph.isFile start with
  | false => rfl
  | true =>
      change Analysis.on (if start = goal then _ else _) graph = _
      by_cases same : start = goal
      · rw [if_pos same, if_pos rfl, if_pos same]
        rfl
      · rw [if_neg same, if_pos rfl, if_neg same]
        change Analysis.on (if !graph.isFile goal then _ else _) graph = _
        cases graph.isFile goal <;> rfl

/-- A chain is traced exactly when both files are stored and one depends on the other within the
depth, or they are the same file.  It is the best way. -/
theorem trace_isBestWay (graph : Graph) (start goal : String) (maxDepth : Nat) :
    (((trace start goal maxDepth).on graph).isSome = true ↔
        (∃ node, graph.nodes.find? start = some (.file node)) ∧
          (∃ node, graph.nodes.find? goal = some (.file node)) ∧
          (start = goal ∨
            ∃ files, IsWay graph.DependsOn start goal files ∧ files.length ≤ maxDepth + 1)) ∧
      ∀ chain, (trace start goal maxDepth).on graph = some chain →
        IsBestWay graph.DependsOn start goal chain.files := by
  rw [on_trace, ← Graph.isFile_iff, ← Graph.isFile_iff]
  by_cases startStored : graph.isFile start = true
  · rw [if_pos startStored]
    by_cases same : start = goal
    · subst same
      rw [if_pos rfl]
      refine ⟨iff_of_true rfl ⟨startStored, startStored, Or.inl rfl⟩, ?_⟩
      rintro chain ⟨⟩
      exact .singleton graph.DependsOn start
    · rw [if_neg same]
      by_cases goalStored : graph.isFile goal = true
      · rw [if_pos goalStored]
        obtain ⟨isFound, isBest⟩ := on_searchFrom_start graph same maxDepth
        refine ⟨?_, isBest⟩
        simp only [isFound, startStored, goalStored, same, true_and, false_or]
      · rw [if_neg goalStored]
        simp [goalStored]
  · rw [if_neg startStored]
    simp [startStored]

/-- Two shortest ways lead around from the first to the last file. -/
def diamondGraph : Graph :=
  .ofDependencies ["A.java", "B.java", "C.java", "D.java"]
    [("A.java", "C.java"), ("A.java", "B.java"), ("B.java", "D.java"), ("C.java", "D.java")]

/-- A chain through the smaller of two files is found. -/
theorem trace_isBestWay_diamond :
    ∃ chain, (trace "A.java" "D.java" 2).on diamondGraph = some chain ∧
      chain.files.length ≤ 3 ∧
      (chain.files.length = 3 → chain.files.reverse ≤ ["D.java", "B.java", "A.java"]) := by
  obtain ⟨isFound, isBest⟩ := trace_isBestWay diamondGraph "A.java" "D.java" 2
  have depends (source target : String)
      (stored : Relationship.plain source target .dependsOn ∈ diamondGraph.relationships.values) :
      diamondGraph.DependsOn source target :=
    ⟨_, stored, rfl, rfl, rfl⟩
  have way : IsWay diamondGraph.DependsOn "A.java" "D.java" ["A.java", "B.java", "D.java"] :=
    ((isWay_singleton _ "A.java").snoc (depends "A.java" "B.java" (by decide +kernel))).snoc
      (depends "B.java" "D.java" (by decide +kernel))
  have stored (path : String) (isStored : diamondGraph.isFile path = true) :=
    Graph.isFile_iff.mp isStored
  obtain ⟨chain, isChain⟩ := Option.isSome_iff_exists.mp (isFound.mpr
    ⟨stored "A.java" (by decide +kernel), stored "D.java" (by decide +kernel),
      Or.inr ⟨_, way, le_rfl⟩⟩)
  have best := isBest chain isChain
  exact ⟨chain, isChain, best.shortest _ way, fun length => best.least _ way length.symm⟩

end DependencyChain

end QueryImpact
