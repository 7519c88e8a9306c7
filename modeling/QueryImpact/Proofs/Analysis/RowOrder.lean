import Mathlib
import QueryImpact.Analysis.ClassDependencies
import QueryImpact.Analysis.DependencyChain
import QueryImpact.Analysis.EntityImpact
import QueryImpact.Analysis.FileImpact
import QueryImpact.Analysis.RiskyFiles
import QueryImpact.Proofs.Analysis.Agreement
import QueryImpact.Proofs.Circuit.Elementary

/-!
# The order of rows does not matter

A store may list the rows of an answer in any order.  Every analysis brings them into an order of
its own before anything depends on it: rows go into sets and maps, or are sorted by an order that
tells them apart.  So stores that answer with the same rows get the same results.  The one
condition is on issues: of several rows for one issue an analysis takes the first, so these rows
have to be equal.
-/

namespace QueryImpact

/-- The rows for one issue are equal. -/
def IssueRow.Consistent (rows : List IssueRow) : Prop :=
  ∀ first ∈ rows, ∀ second ∈ rows, first.issueKey = second.issueKey → first = second

/-- Two answers to a question are the same up to the order of rows, and the rows for one issue are
equal. -/
def Lookup.SameRows : (question : Lookup) → question.Answer → question.Answer → Prop
  | .ping => Eq
  | .counts => Eq
  | .fileExists _ => Eq
  | .entityKeys _ => Eq
  | .entityAccesses _ => @List.Perm AccessRow
  | .queryIssues _ => fun (rows others : List IssueRow) =>
      rows.Perm others ∧ IssueRow.Consistent rows
  | .neighbors _ _ => @List.Perm (String × String)
  | .dependencyEdges => @List.Perm (String × String)
  | .members _ => Eq
  | .classKeys _ => Eq
  | .classAccesses _ => @List.Perm ClassAccessRow
  | .fileIssueCounts _ => @List.Perm FileIssueRow
  | .filePaths => @List.Perm String

/-- An analysis makes the same of the same rows in any order. -/
def Analysis.IgnoresRowOrder {α : Type} (analysis : Analysis α) : Prop :=
  Program.Alike Lookup.SameRows Eq analysis analysis

/-! ## Sorting and dropping repetitions -/

section Lists

variable {α : Type}

theorem isLE_or_isLE (order : α → α → Ordering) [Std.OrientedCmp order] (one other : α) :
    ((order one other).isLE || (order other one).isLE) = true := by
  have swapped : order other one = (order one other).swap := Std.OrientedCmp.eq_swap
  rw [swapped]
  cases order one other <;> rfl

/-- Sorting by an order brings elements into that order. -/
theorem pairwise_mergeSort_isLE (order : α → α → Ordering) [Std.TransCmp order]
    (elements : List α) :
    (elements.mergeSort fun one other => (order one other).isLE).Pairwise
      fun one other => (order one other).isLE := by
  apply List.pairwise_mergeSort
  · intro one other third
    exact Std.TransCmp.isLE_trans
  · exact isLE_or_isLE order

/-- Sorting is stable: it leaves the elements at one place of the order as they come. -/
theorem filter_mergeSort (order : α → α → Ordering) [Std.TransCmp order] (elements : List α)
    (one : α) :
    ((elements.mergeSort fun first second => (order first second).isLE).filter fun other =>
      order one other = .eq) = elements.filter fun other => order one other = .eq := by
  have sameplace : (elements.filter fun other => order one other = .eq).Pairwise
      fun first second => (order first second).isLE := by
    apply List.pairwise_of_forall_mem_list
    intro first firstMember second secondMember
    have isFirst := of_decide_eq_true (List.mem_filter.mp firstMember).2
    have isSecond := of_decide_eq_true (List.mem_filter.mp secondMember).2
    rw [Std.TransCmp.eq_trans (Std.OrientedCmp.eq_symm isFirst) isSecond]
    rfl
  have kept := (List.sublist_mergeSort (fun _ _ _ => Std.TransCmp.isLE_trans) (isLE_or_isLE order)
    sameplace List.filter_sublist).filter fun other => order one other = .eq
  rw [List.filter_filter] at kept
  simp only [Bool.and_self] at kept
  exact (kept.eq_of_length ((List.mergeSort_perm elements _).filter _).length_eq.symm).symm

/-- Sorting elements that come in some order keeps that order where the other leaves it open. -/
theorem pairwise_mergeSort_of_pairwise (order : α → α → Ordering) [Std.TransCmp order]
    {elements : List α} {before : α → α → Prop} (sorted : elements.Pairwise before) :
    (elements.mergeSort fun one other => (order one other).isLE).Pairwise fun one other =>
      order one other = .lt ∨ order one other = .eq ∧ before one other := by
  rw [List.pairwise_iff_forall_sublist]
  intro one other pair
  have below := List.pairwise_iff_forall_sublist.mp (pairwise_mergeSort_isLE order elements) pair
  cases place : order one other with
  | lt => exact Or.inl rfl
  | gt =>
      rw [place] at below
      contradiction
  | eq =>
      have kept := pair.filter fun third => order one third = .eq
      rw [filter_mergeSort] at kept
      have self : order one one = .eq := Std.ReflCmp.compare_self
      have pairKept : [one, other].Sublist elements := by
        simpa [self, place] using kept.trans List.filter_sublist
      exact Or.inr ⟨rfl, List.pairwise_iff_forall_sublist.mp sorted pairKept⟩

/-- Sorting elements that an order tells apart puts each strictly before the next. -/
theorem pairwise_mergeSort_lt (order : α → α → Ordering) [Std.TransCmp order] {elements : List α}
    (apart : elements.Pairwise fun one other => order one other ≠ .eq) :
    (elements.mergeSort fun one other => (order one other).isLE).Pairwise
      fun one other => order one other = .lt := by
  have symmetric {one other : α} (differ : order one other ≠ .eq) : order other one ≠ .eq :=
    fun same => differ (Std.OrientedCmp.eq_symm same)
  have sortedApart : (elements.mergeSort fun one other => (order one other).isLE).Pairwise
      fun one other => order one other ≠ .eq :=
    ((List.mergeSort_perm elements _).pairwise_iff symmetric).mpr apart
  apply ((pairwise_mergeSort_isLE order elements).and sortedApart).imp
  rintro one other ⟨below, differ⟩
  cases place : order one other with
  | lt => rfl
  | eq => contradiction
  | gt => rw [place] at below; contradiction

/-- Sorting forgets the order in which elements come if equal places mean equal elements. -/
theorem mergeSort_eq_of_perm (order : α → α → Ordering) [Std.TransCmp order]
    {first second : List α} (perm : first.Perm second)
    (apart : ∀ one ∈ first, ∀ other ∈ first, order one other = .eq → one = other) :
    first.mergeSort (fun one other => (order one other).isLE) =
      second.mergeSort fun one other => (order one other).isLE := by
  apply List.Perm.eq_of_pairwise _ (pairwise_mergeSort_isLE order first)
    (pairwise_mergeSort_isLE order second)
    (((List.mergeSort_perm _ _).trans perm).trans (List.mergeSort_perm _ _).symm)
  intro one other oneMember otherMember below above
  apply apart one (List.mem_mergeSort.mp oneMember) other
    (perm.mem_iff.mpr (List.mem_mergeSort.mp otherMember))
  exact Std.OrientedCmp.isLE_antisymm below above

/-- A test for repetitions holds exactly of equal elements of a list. -/
def TellsApart (repeats : α → α → Bool) (elements : List α) : Prop :=
  ∀ one ∈ elements, ∀ other ∈ elements, repeats one other = true ↔ one = other

/-- If repetitions are equal, dropping them keeps every element, and once only. -/
theorem TellsApart.nodup_eraseDupsBy {repeats : α → α → Bool} {elements : List α}
    (apart : TellsApart repeats elements) :
    (elements.eraseDupsBy repeats).Nodup ∧
      ∀ one, one ∈ elements.eraseDupsBy repeats ↔ one ∈ elements := by
  induction size : elements.length using Nat.strongRecOn generalizing elements with
  | ind _ ih =>
      cases elements with
      | nil => simp
      | cons head tail =>
          have shorter : (tail.filter fun one => decide (repeats one head = false)).length <
              (head :: tail).length :=
            Nat.lt_succ_of_le (List.length_filter_le _ tail)
          obtain ⟨nodup, members⟩ := ih _ (size ▸ shorter) (fun one oneMember other otherMember =>
            apart one (List.mem_cons_of_mem _ (List.mem_of_mem_filter oneMember)) other
              (List.mem_cons_of_mem _ (List.mem_of_mem_filter otherMember))) rfl
          rw [List.eraseDupsBy_cons]
          constructor
          · rw [List.nodup_cons, members]
            refine ⟨?_, nodup⟩
            simp [(apart head (by simp) head (by simp)).mpr rfl]
          · intro one
            simp only [List.mem_cons, members, List.mem_filter, decide_eq_true_eq]
            constructor
            · rintro (here | ⟨later, _⟩)
              · exact Or.inl here
              · exact Or.inr later
            · rintro (here | later)
              · exact Or.inl here
              · by_cases here : one = head
                · exact Or.inl here
                · refine Or.inr ⟨later, ?_⟩
                  rw [← Bool.not_eq_true, apart one (by simp [later]) head (by simp)]
                  exact here

theorem nodup_eraseDups [BEq α] [LawfulBEq α] (elements : List α) : elements.eraseDups.Nodup :=
  (TellsApart.nodup_eraseDupsBy fun _ _ _ _ => beq_iff_eq).1

/-- Dropping repetitions that are equal leaves the same elements, whatever their order. -/
theorem TellsApart.perm_eraseDupsBy {repeats : α → α → Bool} {first second : List α}
    (apart : TellsApart repeats first) (perm : first.Perm second) :
    (first.eraseDupsBy repeats).Perm (second.eraseDupsBy repeats) := by
  have apartSecond : TellsApart repeats second := fun one oneMember other otherMember =>
    apart one (perm.mem_iff.mpr oneMember) other (perm.mem_iff.mpr otherMember)
  obtain ⟨firstNodup, firstMembers⟩ := apart.nodup_eraseDupsBy
  obtain ⟨secondNodup, secondMembers⟩ := apartSecond.nodup_eraseDupsBy
  rw [List.perm_ext_iff_of_nodup firstNodup secondNodup]
  intro one
  rw [firstMembers, secondMembers, perm.mem_iff]

end Lists

/-! ## The impact of an entity -/

namespace EntityImpact

variable {rows others : List AccessRow} {issues otherIssues : List IssueRow}

theorem patterns_eq_of_perm (perm : rows.Perm others) : patterns rows = patterns others := by
  have queries (operation : AccessOperation) :
      queriesWith rows operation = queriesWith others operation := by
    rw [queriesWith, queriesWith,
      OrderedSet.ofList_eq_of_perm ((perm.filter _).map AccessRow.queryKey)]
  simp only [patterns, queries]

theorem sortIssues_eq_of_perm (perm : issues.Perm otherIssues)
    (consistent : IssueRow.Consistent issues) : sortIssues issues = sortIssues otherIssues := by
  apply mergeSort_eq_of_perm (compareOn IssueRow.issueKey) perm
  intro one oneMember other otherMember same
  exact consistent one oneMember other otherMember (Std.LawfulEqOrd.eq_of_compare same)

theorem groupIssues_eq_of_perm (perm : issues.Perm otherIssues)
    (consistent : IssueRow.Consistent issues) : groupIssues issues = groupIssues otherIssues := by
  have apart : TellsApart (fun a b : IssueRow => decide (a.issueKey = b.issueKey)) issues := by
    intro one oneMember other otherMember
    rw [decide_eq_true_eq]
    constructor
    · exact consistent one oneMember other otherMember
    · exact congrArg IssueRow.issueKey
  have distinct := apart.perm_eraseDupsBy perm
  have members := apart.nodup_eraseDupsBy.2
  simp only [groupIssues]
  congr 1
  funext severity
  have group := distinct.filter fun issue => decide (issue.severity = severity)
  have sorted := sortIssues_eq_of_perm group fun one oneMember other otherMember =>
    consistent one ((members one).mp (List.mem_of_mem_filter oneMember)) other
      ((members other).mp (List.mem_of_mem_filter otherMember))
  simp only [sorted, ← List.length_eq_zero_iff, group.length_eq]

-- Of two rows that disagree about one issue, the first counts.
example : groupIssues [⟨"q", "i", "slow", .high, none⟩, ⟨"q", "i", "slow", .low, none⟩] ≠
    groupIssues [⟨"q", "i", "slow", .low, none⟩, ⟨"q", "i", "slow", .high, none⟩] := by
  decide

theorem ignoresRowOrder_analyze (name : String) : (analyze name).IgnoresRowOrder := by
  apply Program.Alike.ask
  rintro keys _ rfl
  dsimp only
  split
  · exact .done rfl
  · apply Program.Alike.ask
    intro (rows : List AccessRow) (others : List AccessRow) (perm : rows.Perm others)
    rw [OrderedSet.ofList_eq_of_perm (perm.map AccessRow.filePath),
      OrderedSet.ofList_eq_of_perm (perm.map AccessRow.classKey),
      OrderedSet.ofList_eq_of_perm (perm.map AccessRow.methodKey),
      OrderedSet.ofList_eq_of_perm (perm.map AccessRow.queryKey), patterns_eq_of_perm perm]
    apply Program.Alike.ask
    rintro (issues : List IssueRow) (otherIssues : List IssueRow) ⟨permIssues, consistent⟩
    rw [groupIssues_eq_of_perm permIssues consistent]
    exact .done rfl

end EntityImpact

/-! ## The impact of a file -/

namespace FileImpact

theorem mem_newFiles_iff {visited files : List String} {file : String} :
    file ∈ newFiles visited files ↔ file ∈ files ∧ file ∉ visited := by
  induction files generalizing visited with
  | nil => simp [newFiles]
  | cons first rest ih =>
      rw [newFiles]
      split
      · rename_i old
        rw [ih, List.mem_cons]
        constructor
        · rintro ⟨later, new⟩
          exact ⟨Or.inr later, new⟩
        · rintro ⟨rfl | later, new⟩
          · exact absurd old new
          · exact ⟨later, new⟩
      · rename_i new
        rw [List.mem_cons, ih, List.mem_cons, List.mem_cons]
        by_cases here : file = first
        · simp [here, new]
        · simp [here]

theorem nodup_newFiles (visited files : List String) : (newFiles visited files).Nodup := by
  induction files generalizing visited with
  | nil => simp [newFiles]
  | cons first rest ih =>
      rw [newFiles]
      split
      · exact ih visited
      · rw [List.nodup_cons, mem_newFiles_iff]
        simp [ih]

/-- Which files are new depends on which files are visited and offered, not on their order. -/
theorem perm_newFiles {visited otherVisited files others : List String}
    (sameVisited : ∀ file, file ∈ visited ↔ file ∈ otherVisited) (perm : files.Perm others) :
    (newFiles visited files).Perm (newFiles otherVisited others) := by
  rw [List.perm_ext_iff_of_nodup (nodup_newFiles _ _) (nodup_newFiles _ _)]
  intro file
  rw [mem_newFiles_iff, mem_newFiles_iff, perm.mem_iff, sameVisited]

theorem sortTexts_eq_of_perm {texts others : List String} (perm : texts.Perm others) :
    sortTexts texts = sortTexts others := by
  apply mergeSort_eq_of_perm compare perm
  intro one _ other _ same
  exact Std.LawfulEqOrd.eq_of_compare same

theorem sortFiles_eq_of_perm {files others : List AffectedFile} (perm : files.Perm others) :
    sortFiles files = sortFiles others := by
  apply mergeSort_eq_of_perm
    (compareLex (compareOn AffectedFile.depth) (compareOn AffectedFile.path)) perm
  intro one _ other _ same
  rw [compareLex_eq_eq] at same
  have depths : one.depth = other.depth := Std.LawfulEqOrd.eq_of_compare same.1
  have paths : one.path = other.path := Std.LawfulEqOrd.eq_of_compare same.2
  cases one
  cases other
  simp_all

/-- From the same frontier the same files are reached. -/
theorem alike_spread (direction : EdgeDirection) (steps depth : Nat)
    {visited otherVisited : List String}
    (sameVisited : ∀ file, file ∈ visited ↔ file ∈ otherVisited) (frontier : List String) :
    Program.Alike Lookup.SameRows List.Perm (spread direction steps depth visited frontier)
      (spread direction steps depth otherVisited frontier) := by
  induction steps generalizing depth visited otherVisited frontier with
  | zero => exact .done .rfl
  | succ steps ih =>
      rw [spread, spread]
      split
      · exact .done .rfl
      · apply Program.Alike.ask
        intro (pairs : List (String × String)) (others : List (String × String))
          (perm : pairs.Perm others)
        have next := perm_newFiles sameVisited (perm.map Prod.snd)
        dsimp only
        rw [sortTexts_eq_of_perm next]
        apply Program.Alike.bind
        · apply ih
          intro file
          rw [List.mem_append, List.mem_append, next.mem_iff, sameVisited]
        · intro further otherFurther same
          exact .done ((next.map _).append same)

theorem ignoresRowOrder_analyze (path : String) (options : FileImpactOptions) :
    (analyze path options).IgnoresRowOrder := by
  apply Program.Alike.ask
  rintro known _ rfl
  dsimp only
  split
  · exact .done rfl
  · apply Program.Alike.bind (alike_spread _ _ _ (fun _ => Iff.rfl) _)
    intro reached others perm
    rw [sortFiles_eq_of_perm perm]
    apply Program.Alike.ask
    rintro members _ rfl
    exact .done rfl

end FileImpact

/-! ## The entities of a class -/

namespace ClassDependencies

variable {rows others : List ClassAccessRow}

instance : Std.TransCmp order := by
  have : Std.TransCmp fun a b : EntityUsage => compare b.queryCount a.queryCount :=
    @Std.TransCmp.opposite _ (compareOn EntityUsage.queryCount) _
  unfold order
  infer_instance

theorem addRow_comm (uses : OrderedMap UsedEntity EntityUses) (row other : ClassAccessRow) :
    addRow (addRow uses row) other = addRow (addRow uses other) row := by
  apply OrderedMap.alter_comm
  · intro _
    rfl
  · intro _ own
    simp only [OrderedSet.add_comm _ row.queryKey, OrderedSet.add_comm _ row.operation]

theorem usages_eq_of_perm (perm : rows.Perm others) : usages rows = usages others := by
  have sameUses : rows.foldl addRow .empty = others.foldl addRow .empty := by
    apply perm.foldl_eq'
    intro row _ other _ uses
    exact addRow_comm uses row other
  rw [usages, usages, sameUses]

theorem ignoresRowOrder_analyze (name : String) : (analyze name).IgnoresRowOrder := by
  apply Program.Alike.ask
  rintro classes _ rfl
  split
  · exact .done rfl
  · apply Program.Alike.ask
    intro (rows : List ClassAccessRow) (others : List ClassAccessRow) (perm : rows.Perm others)
    rw [usages_eq_of_perm perm]
    exact .done rfl

end ClassDependencies

/-! ## Chains of dependencies -/

namespace DependencyChain

theorem sortPairs_eq_of_perm {pairs others : List (String × String)} (perm : pairs.Perm others) :
    sortPairs pairs = sortPairs others := by
  apply mergeSort_eq_of_perm (compareLex (compareOn Prod.fst) (compareOn Prod.snd)) perm
  intro one _ other _ same
  rw [compareLex_eq_eq] at same
  exact Prod.ext (Std.LawfulEqOrd.eq_of_compare same.1) (Std.LawfulEqOrd.eq_of_compare same.2)

theorem ignoresRowOrder_searchFrom (goal : String) (steps : Nat) (trail : Trail)
    (frontier : List String) : (searchFrom goal steps trail frontier).IgnoresRowOrder := by
  induction steps generalizing trail frontier with
  | zero => exact .done rfl
  | succ steps ih =>
      rw [searchFrom]
      split
      · exact .done rfl
      · apply Program.Alike.ask
        intro (pairs : List (String × String)) (others : List (String × String))
          (perm : pairs.Perm others)
        rw [sortPairs_eq_of_perm perm]
        split
        · exact .done rfl
        · exact ih _ _

theorem ignoresRowOrder_trace (start goal : String) (maxDepth : Nat) :
    (trace start goal maxDepth).IgnoresRowOrder := by
  apply Program.Alike.ask
  rintro startExists _ rfl
  split
  · exact .done rfl
  split
  · exact .done rfl
  · apply Program.Alike.ask
    rintro goalExists _ rfl
    split
    · exact .done rfl
    · exact ignoresRowOrder_searchFrom _ _ _ _

end DependencyChain

/-! ## Cycles of dependencies -/

namespace DependencyCycle

theorem ignoresRowOrder_find : find.IgnoresRowOrder := by
  apply Program.Alike.ask
  intro (edges : List (String × String)) (others : List (String × String))
    (perm : edges.Perm others)
  have same : (Adjacency.ofEdges edges).HasEdge = (Adjacency.ofEdges others).HasEdge := by
    funext source target
    rw [Adjacency.hasEdge_ofEdges, Adjacency.hasEdge_ofEdges, perm.mem_iff]
  rw [elementary_eq_of_hasEdge same]
  exact .done rfl

end DependencyCycle

/-! ## Risky files -/

namespace RiskyFile

/-- Issues can be counted in any order. -/
theorem add_comm (file : RiskyFile) (severity other : Severity) (issues otherIssues : Nat) :
    (file.add severity issues).add other otherIssues =
      (file.add other otherIssues).add severity issues := by
  simp only [add, mk.injEq, true_and]
  constructor
  · omega
  · apply OrderedMap.alter_comm
    · intro _
      rfl
    · intro _ value
      omega

theorem addRow_comm (files : OrderedMap String RiskyFile) (row other : FileIssueRow) :
    addRow (addRow files row) other = addRow (addRow files other) row := by
  apply OrderedMap.alter_comm
  · exact congrArg ofPath
  · intro _ file
    exact file.add_comm _ _ _ _

theorem foldl_addRow_eq_of_perm {rows others : List FileIssueRow} (perm : rows.Perm others)
    (files : OrderedMap String RiskyFile) :
    rows.foldl addRow files = others.foldl addRow files := by
  apply perm.foldl_eq'
  intro row _ other _ files
  exact addRow_comm files row other

theorem ignoresRowOrder_find (query : RiskyFilesQuery) : (find query).IgnoresRowOrder := by
  apply Program.Alike.ask
  intro (rows : List FileIssueRow) (others : List FileIssueRow) (perm : rows.Perm others)
  dsimp only
  simp only [foldl_addRow_eq_of_perm perm]
  split
  · apply Program.Alike.ask
    intro (paths : List String) (otherPaths : List String) (permPaths : paths.Perm otherPaths)
    rw [OrderedMap.ofList_eq_of_perm (permPaths.map fun path => (path, ofPath path))]
    · exact .done rfl
    · simp +contextual
  · exact .done rfl

end RiskyFile

/-! ## Stores that answer with the same rows -/

/-- A store that never changes and answers at once. -/
def TimedStore.constant (answers : (question : Lookup) → question.Answer) : TimedStore Unit where
  course _ _ := .work 0
  answer question _ := (.ok (answers question), ())

/-- An answer with its rows in reverse order. -/
def Lookup.reverseRows : (question : Lookup) → question.Answer → question.Answer
  | .ping => id
  | .counts => id
  | .fileExists _ => id
  | .entityKeys _ => id
  | .entityAccesses _ => @List.reverse AccessRow
  | .queryIssues _ => @List.reverse IssueRow
  | .neighbors _ _ => @List.reverse (String × String)
  | .dependencyEdges => @List.reverse (String × String)
  | .members _ => id
  | .classKeys _ => id
  | .classAccesses _ => @List.reverse ClassAccessRow
  | .fileIssueCounts _ => @List.reverse FileIssueRow
  | .filePaths => @List.reverse String

/-- A store whose rows for one issue are equal agrees with the store that reverses its rows. -/
theorem TimedStore.agree_reverseRows {answers : (question : Lookup) → question.Answer}
    (consistent : ∀ keys, IssueRow.Consistent (answers (.queryIssues keys))) :
    TimedStore.Agree Lookup.SameRows Eq (.constant answers)
      (.constant fun question => question.reverseRows (answers question)) where
  course_eq _ _ := rfl
  outcome _ question := by
    apply OutcomesAlike.answered
    cases question with
    | queryIssues keys => exact ⟨(List.reverse_perm _).symm, consistent keys⟩
    | entityAccesses | neighbors | dependencyEdges | classAccesses | fileIssueCounts | filePaths =>
        exact (List.reverse_perm _).symm
    | ping | counts | fileExists | entityKeys | members | classKeys => rfl
  after _ _ := rfl

namespace Analysis

/-- On stores that answer with the same rows, every analysis has the same result, at the same time
and after the same number of questions. -/
theorem endings_eq_of_same_rows {σ τ : Type} {states : σ → τ → Prop} {first : TimedStore σ}
    {second : TimedStore τ} (agree : TimedStore.Agree Lookup.SameRows states first second)
    (control : TimedControl) (now : Milliseconds) {state : σ} {other : τ}
    (together : states state other) :
    (∀ name,
      ending ((EntityImpact.analyze name).runControlled first control now state) =
        ending ((EntityImpact.analyze name).runControlled second control now other)) ∧
    (∀ path options,
      ending ((FileImpact.analyze path options).runControlled first control now state) =
        ending ((FileImpact.analyze path options).runControlled second control now other)) ∧
    (∀ name,
      ending ((ClassDependencies.analyze name).runControlled first control now state) =
        ending ((ClassDependencies.analyze name).runControlled second control now other)) ∧
    (∀ start goal maxDepth,
      ending ((DependencyChain.trace start goal maxDepth).runControlled first control now state) =
        ending ((DependencyChain.trace start goal maxDepth).runControlled second control now
          other)) ∧
    ending (DependencyCycle.find.runControlled first control now state) =
      ending (DependencyCycle.find.runControlled second control now other) ∧
    (∀ query,
      ending ((RiskyFile.find query).runControlled first control now state) =
        ending ((RiskyFile.find query).runControlled second control now other)) := by
  have same {α : Type} {analysis : Analysis α} (ignores : analysis.IgnoresRowOrder) :=
    ending_runControlled_eq agree ignores control now together
  exact ⟨fun name => same (EntityImpact.ignoresRowOrder_analyze name),
    fun path options => same (FileImpact.ignoresRowOrder_analyze path options),
    fun name => same (ClassDependencies.ignoresRowOrder_analyze name),
    fun start goal maxDepth => same (DependencyChain.ignoresRowOrder_trace start goal maxDepth),
    same DependencyCycle.ignoresRowOrder_find,
    fun query => same (RiskyFile.ignoresRowOrder_find query)⟩

/-- The answers of a store with two files that depend on each other; both access one entity. -/
def sampleAnswer : (question : Lookup) → question.Answer
  | .ping => ()
  | .counts => (⟨9, 10⟩ : GraphCounts)
  | .fileExists _ => true
  | .entityKeys _ => ["users"]
  | .entityAccesses _ =>
      [⟨"a.java", "A", "A.run", "A.run:1", .read⟩, ⟨"b.java", "B", "B.run", "B.run:1", .write⟩]
  | .queryIssues _ =>
      [⟨"A.run:1", "A.run:1:0", "slow", .high, none⟩, ⟨"B.run:1", "B.run:1:0", "lock", .high, none⟩]
  | .neighbors _ _ => [("a.java", "b.java"), ("b.java", "a.java")]
  | .dependencyEdges => [("a.java", "b.java"), ("b.java", "a.java")]
  | .members _ => (⟨2, 2⟩ : MemberCounts)
  | .classKeys _ => ["A"]
  | .classAccesses _ =>
      [⟨"A", "users", .table, "A.run:1", .read⟩, ⟨"A", "logs", .table, "A.run:1", .read⟩]
  | .fileIssueCounts _ => [⟨"a.java", .high, 1⟩, ⟨"b.java", .high, 1⟩]
  | .filePaths => ["a.java", "b.java"]

theorem endings_eq_of_same_rows_reversed :
    (sampleAnswer (.entityAccesses "users") : List AccessRow) ≠
        Lookup.reverseRows (.entityAccesses "users") (sampleAnswer (.entityAccesses "users")) ∧
      TimedStore.Agree Lookup.SameRows Eq (.constant sampleAnswer)
        (.constant fun question => question.reverseRows (sampleAnswer question)) ∧
      ending ((EntityImpact.analyze "users").runControlled (.constant sampleAnswer) .none 0 ()) =
        ending ((EntityImpact.analyze "users").runControlled
          (.constant fun question => question.reverseRows (sampleAnswer question)) .none 0 ()) := by
  have agree : TimedStore.Agree Lookup.SameRows Eq (.constant sampleAnswer)
      (.constant fun question => question.reverseRows (sampleAnswer question)) := by
    apply TimedStore.agree_reverseRows
    intro keys
    simp [IssueRow.Consistent, sampleAnswer]
  refine ⟨?_, agree, ?_⟩
  · change _ ≠ List.reverse _
    simp [sampleAnswer]
  · exact (endings_eq_of_same_rows agree .none 0 rfl).1 "users"

end Analysis

end QueryImpact
