import Mathlib
import QueryImpact.OrderedMap

/-!
# Laws of ordered maps and sets

Entries, keys, values and look-ups of an ordered map say the same; filtering is filtering of
look-ups, and entries that increase are stored as they are.  Storing and changing entries commute
where the entries do not conflict.  A set made from a list has the members of the list, lists them
in increasing order, and its size is their number without repetitions.
-/

namespace QueryImpact

namespace OrderedMap

variable {κ ν : Type} [Ord κ]

@[simp]
theorem find?_empty (key : κ) : (empty : OrderedMap κ ν).find? key = none :=
  rfl

@[simp]
theorem contains_empty (key : κ) : (empty : OrderedMap κ ν).contains key = false :=
  rfl

/-- An entry above all others is put last. -/
theorem insertIn_of_above [Std.OrientedOrd κ] {key : κ} {value : ν} {entries : List (κ × ν)}
    (above : ∀ entry ∈ entries, compare entry.1 key = .lt) :
    insertIn key value entries = entries ++ [(key, value)] := by
  induction entries with
  | nil => rfl
  | cons entry rest ih =>
      rw [List.forall_mem_cons] at above
      simp [insertIn, Std.OrientedCmp.gt_of_lt above.1, ih above.2]

/-- Entries that increase already are stored as they are listed. -/
theorem entries_ofList [Std.TransOrd κ] {entries : List (κ × ν)}
    (increasing : entries.Pairwise fun first second => compare first.1 second.1 = .lt) :
    (ofList entries).entries = entries := by
  -- The entries already stored stay below the ones that follow.
  have stored : ∀ (later : List (κ × ν)) (map : OrderedMap κ ν),
      (map.entries ++ later).Pairwise (fun first second => compare first.1 second.1 = .lt) →
      (later.foldl (fun map entry => map.insert entry.1 entry.2) map).entries =
        map.entries ++ later := by
    intro later
    induction later with
    | nil => simp
    | cons entry rest ih =>
        intro map sorted
        have inserted : (map.insert entry.1 entry.2).entries = map.entries ++ [entry] :=
          insertIn_of_above fun stored isStored =>
            (List.pairwise_append.1 sorted).2.2 stored isStored entry (by simp)
        rw [List.foldl_cons, ih, inserted]
        · simp
        · rw [inserted]
          simpa using sorted
  exact stored entries empty (by simpa [empty] using increasing)

theorem ofList_entries [Std.TransOrd κ] (map : OrderedMap κ ν) : ofList map.entries = map := by
  have same := entries_ofList map.increasing
  cases stored : ofList map.entries
  cases map
  simp_all

/-- An entry under a new key comes to the others. -/
theorem perm_insertIn {key : κ} {value : ν} {entries : List (κ × ν)}
    (fresh : findIn key entries = none) :
    (insertIn key value entries).Perm ((key, value) :: entries) := by
  induction entries with
  | nil => exact .refl _
  | cons first rest ih =>
      rw [findIn] at fresh
      split at fresh
      · contradiction
      · rw [insertIn]
        split
        · exact .refl _
        · contradiction
        · exact ((ih fresh).cons first).trans (.swap _ _ _)

theorem perm_values_insert [Std.TransOrd κ] {map : OrderedMap κ ν} {key : κ}
    (fresh : map.find? key = none) (value : ν) :
    (map.insert key value).values.Perm (value :: map.values) :=
  (perm_insertIn fresh).map Prod.snd

variable [Std.LawfulEqOrd κ]

/-- In increasing entries, looking up a key finds the one entry with that key. -/
theorem findIn_eq_some_iff {key : κ} {value : ν} {entries : List (κ × ν)}
    (increasing : entries.Pairwise fun first second => compare first.1 second.1 = .lt) :
    findIn key entries = some value ↔ (key, value) ∈ entries := by
  induction entries with
  | nil => simp [findIn]
  | cons first rest ih =>
      obtain ⟨smallest, restIncreasing⟩ := List.pairwise_cons.mp increasing
      rw [findIn]
      split
      · rename_i same
        have equal : key = first.1 := Std.LawfulEqOrd.eq_of_compare same
        subst equal
        constructor
        · intro found
          rw [← Option.some.inj found]
          exact List.mem_cons_self
        · intro member
          rcases List.mem_cons.mp member with here | later
          · rw [← here]
          · exact absurd (smallest _ later) (by simp)
      · rename_i different
        rw [ih restIncreasing, List.mem_cons]
        constructor
        · exact Or.inr
        · rintro (here | later)
          · exact absurd (by rw [← here]; exact Std.ReflCmp.compare_self) different
          · exact later

theorem find?_eq_some_iff {map : OrderedMap κ ν} {key : κ} {value : ν} :
    map.find? key = some value ↔ (key, value) ∈ map.entries :=
  findIn_eq_some_iff map.increasing

theorem mem_keys_iff {map : OrderedMap κ ν} {key : κ} :
    key ∈ map.keys ↔ ∃ value, map.find? key = some value := by
  simp [keys, find?_eq_some_iff]

theorem mem_values_iff {map : OrderedMap κ ν} {value : ν} :
    value ∈ map.values ↔ ∃ key, map.find? key = some value := by
  simp [values, find?_eq_some_iff]

omit [Std.LawfulEqOrd κ] in
theorem contains_iff {map : OrderedMap κ ν} {key : κ} :
    map.contains key = true ↔ ∃ value, map.find? key = some value :=
  Option.isSome_iff_exists

theorem contains_iff_mem_keys {map : OrderedMap κ ν} {key : κ} :
    map.contains key = true ↔ key ∈ map.keys := by
  rw [contains_iff, mem_keys_iff]

/-- Storing under a key changes that look-up and no other. -/
theorem find?_insert [Std.TransOrd κ] [DecidableEq κ] (map : OrderedMap κ ν) (key other : κ)
    (value : ν) :
    (map.insert key value).find? other = if other = key then some value else map.find? other := by
  split
  · rename_i same
    rw [same, find?_insert_self]
  · rename_i different
    exact find?_insert_of_ne map different value

section Commuting

variable [Std.TransOrd κ]

/-- Of two values stored under a key the later stays. -/
theorem insert_insert (map : OrderedMap κ ν) (key : κ) (value later : ν) :
    (map.insert key value).insert key later = map.insert key later := by
  apply eq_of_find?_eq
  intro asked
  by_cases same : asked = key
  · simp [same]
  · simp [find?_insert_of_ne _ same]

/-- Two entries can be stored in either order if they do not conflict. -/
theorem insert_comm (map : OrderedMap κ ν) {key other : κ} {value otherValue : ν}
    (agree : key = other → value = otherValue) :
    (map.insert key value).insert other otherValue =
      (map.insert other otherValue).insert key value := by
  apply eq_of_find?_eq
  intro asked
  classical
  simp only [find?_insert]
  by_cases atKey : asked = key
  · subst atKey
    by_cases atOther : asked = other
    · simp [atOther, agree atOther]
    · simp [atOther]
  · simp [atKey]

/-- Two changes can be made in either order if those under one key commute. -/
theorem alter_comm (map : OrderedMap κ ν) {key other : κ} {initial otherInitial : ν}
    {change otherChange : ν → ν} (sameInitial : key = other → initial = otherInitial)
    (commute : key = other → ∀ value, change (otherChange value) = otherChange (change value)) :
    (map.alter key initial change).alter other otherInitial otherChange =
      (map.alter other otherInitial otherChange).alter key initial change := by
  by_cases same : key = other
  · subst same
    rw [sameInitial rfl]
    simp only [alter, find?_insert_self, Option.getD_some, insert_insert, commute rfl]
  · simp only [alter, find?_insert_of_ne _ same, find?_insert_of_ne _ (Ne.symm same)]
    exact insert_comm map (absurd · same)

/-- Entries without conflicts can be stored in any order. -/
theorem ofList_eq_of_perm {entries others : List (κ × ν)} (perm : entries.Perm others)
    (agree : ∀ first ∈ entries, ∀ second ∈ entries, first.1 = second.1 → first.2 = second.2) :
    ofList entries = ofList others := by
  apply perm.foldl_eq'
  intro first firstMember second secondMember map
  exact insert_comm map (agree first firstMember second secondMember)

end Commuting

/-- After storing under a key, that key has a value, and the others have one as before. -/
theorem contains_insert [Std.TransOrd κ] {map : OrderedMap κ ν} {key other : κ} {value : ν} :
    (map.insert key value).contains other = true ↔ other = key ∨ map.contains other = true := by
  rw [contains_iff, contains_iff]
  by_cases same : other = key
  · subst same
    simp
  · simp [find?_insert_of_ne _ same, same]

section Overwriting

variable [Std.TransOrd κ] [DecidableEq κ] (keyOf : ν → κ)

/-- Store values under their own keys, later ones replacing earlier ones. -/
def overwrite (map : OrderedMap κ ν) (values : List ν) : OrderedMap κ ν :=
  values.foldl (fun map value => map.insert (keyOf value) value) map

/-- Under a key stands the last of the stored values with that key, else what was there. -/
theorem find?_overwrite (map : OrderedMap κ ν) (values : List ν) (key : κ) :
    (map.overwrite keyOf values).find? key =
      (values.reverse.find? fun value => keyOf value = key).or (map.find? key) := by
  induction values generalizing map with
  | nil => rfl
  | cons first rest ih =>
      have step : (map.insert (keyOf first) first).find? key =
          ([first].find? fun value => keyOf value = key).or (map.find? key) := by
        by_cases same : key = keyOf first
        · simp [same]
        · simp [find?_insert_of_ne _ same, Ne.symm same]
      rw [overwrite, List.foldl_cons, ← overwrite, ih, step, List.reverse_cons, List.find?_append,
        Option.or_assoc]

/-- What is found afterwards was written, or was there before. -/
theorem of_find?_overwrite {map : OrderedMap κ ν} {values : List ν} {key : κ} {value : ν}
    (found : (map.overwrite keyOf values).find? key = some value) :
    (value ∈ values ∧ keyOf value = key) ∨ map.find? key = some value := by
  rw [find?_overwrite] at found
  rcases Option.or_eq_some_iff.mp found with written | ⟨_, before⟩
  · left
    constructor
    · exact List.mem_reverse.mp (List.mem_of_find?_eq_some written)
    · simpa using List.find?_some written
  · exact Or.inr before

/-- Storing the same values again changes nothing. -/
theorem overwrite_overwrite (map : OrderedMap κ ν) (values : List ν) :
    (map.overwrite keyOf values).overwrite keyOf values = map.overwrite keyOf values := by
  apply eq_of_find?_eq
  intro key
  rw [find?_overwrite, find?_overwrite, ← Option.or_assoc, Option.or_self]

/-- What is left of stored values gives way to them when they are stored again. -/
theorem overwrite_of_left {left : OrderedMap κ ν} {values : List ν}
    (isLeft : ∀ key value, left.find? key = some value →
      ((empty : OrderedMap κ ν).overwrite keyOf values).find? key = some value) :
    left.overwrite keyOf values = (empty : OrderedMap κ ν).overwrite keyOf values := by
  apply eq_of_find?_eq
  intro key
  have stored := isLeft key
  rw [find?_overwrite, find?_empty] at stored
  rw [find?_overwrite, find?_overwrite, find?_empty]
  cases written : values.reverse.find? fun value => keyOf value = key with
  | some value => rfl
  | none =>
      rw [written] at stored
      cases found : left.find? key with
      | none => rfl
      | some value => exact (stored value found).symm

omit [DecidableEq κ] in
theorem contains_overwrite {map : OrderedMap κ ν} {values : List ν} {key : κ} :
    (map.overwrite keyOf values).contains key = true ↔
      (∃ value ∈ values, keyOf value = key) ∨ map.contains key = true := by
  induction values generalizing map with
  | nil => simp [overwrite]
  | cons first rest ih =>
      rw [overwrite, List.foldl_cons, ← overwrite, ih, contains_insert, @eq_comm _ key]
      simp only [List.mem_cons, exists_eq_or_imp]
      rw [or_left_comm, or_assoc]

end Overwriting

/-- Filtering a map filters its look-ups. -/
theorem find?_filter (keep : κ → ν → Bool) (map : OrderedMap κ ν) (key : κ) :
    (map.filter keep).find? key = (map.find? key).filter (keep key) := by
  apply Option.ext
  intro value
  rw [find?_eq_some_iff, Option.filter_eq_some_iff, find?_eq_some_iff]
  simp [filter]

omit [Std.LawfulEqOrd κ] in
theorem pairwise_keys (map : OrderedMap κ ν) :
    map.keys.Pairwise fun first second => compare first second = .lt :=
  List.pairwise_map.mpr map.increasing

/-- Where values stand under their own keys, the keys can be read off the values. -/
theorem map_values_eq_keys {map : OrderedMap κ ν} {keyOf : ν → κ}
    (own : ∀ key value, map.find? key = some value → keyOf value = key) :
    map.values.map keyOf = map.keys := by
  rw [values, keys, List.map_map]
  apply List.map_congr_left
  intro entry member
  exact own entry.1 entry.2 (find?_eq_some_iff.mpr member)

theorem nodup_keys (map : OrderedMap κ ν) : map.keys.Nodup := by
  refine map.pairwise_keys.imp ?_
  rintro first _ below rfl
  exact absurd below (by simp)

end OrderedMap

namespace OrderedSet

variable {κ : Type} [Ord κ] [Std.LawfulEqOrd κ]

theorem mem_toList_iff {set : OrderedSet κ} {member : κ} :
    member ∈ set.toList ↔ set.contains member = true :=
  OrderedMap.contains_iff_mem_keys.symm

theorem nodup_toList (set : OrderedSet κ) : set.toList.Nodup :=
  OrderedMap.nodup_keys set

/-- Texts in a set are listed in increasing order. -/
theorem sorted_toList (set : OrderedSet String) : set.toList.Pairwise (· < ·) :=
  (OrderedMap.pairwise_keys set).imp compare_lt_iff_lt.mp

/-- The size of a set is the number of its members. -/
theorem size_eq_ncard (set : OrderedSet String) :
    set.size = {member | set.contains member = true}.ncard := by
  have sameMembers : {member | set.contains member = true} = ↑set.toList.toFinset := by
    ext member
    simp [mem_toList_iff]
  rw [sameMembers, Set.ncard_coe_finset, List.toFinset_card_of_nodup (nodup_toList set)]
  simp [OrderedMap.size, toList, OrderedMap.keys]

variable [Std.TransOrd κ]

theorem contains_add {set : OrderedSet κ} {member other : κ} :
    (set.add member).contains other = true ↔ other = member ∨ set.contains other = true :=
  OrderedMap.contains_insert

theorem contains_foldl_add {set : OrderedSet κ} {members : List κ} {other : κ} :
    (members.foldl add set).contains other = true ↔
      other ∈ members ∨ set.contains other = true := by
  induction members generalizing set with
  | nil => simp
  | cons first rest ih =>
      rw [List.foldl_cons, ih, contains_add, List.mem_cons]
      constructor
      · rintro (later | here | before)
        · exact Or.inl (Or.inr later)
        · exact Or.inl (Or.inl here)
        · exact Or.inr before
      · rintro ((here | later) | before)
        · exact Or.inr (Or.inl here)
        · exact Or.inl later
        · exact Or.inr (Or.inr before)

/-- A set made from a list has the members of the list. -/
@[simp]
theorem contains_ofList {members : List κ} {other : κ} :
    (ofList members).contains other = true ↔ other ∈ members := by
  rw [ofList, contains_foldl_add]
  simp

@[simp]
theorem mem_toList_ofList {members : List κ} {other : κ} :
    other ∈ (ofList members).toList ↔ other ∈ members := by
  rw [mem_toList_iff, contains_ofList]

/-- Members can be added in either order. -/
theorem add_comm (set : OrderedSet κ) (first second : κ) :
    (set.add first).add second = (set.add second).add first :=
  OrderedMap.insert_comm set fun _ => rfl

/-- A set made from a list depends on its members only. -/
theorem ofList_eq_of_perm {members others : List κ} (perm : members.Perm others) :
    ofList members = ofList others := by
  apply perm.foldl_eq'
  intro first _ second _ set
  exact set.add_comm first second

omit [Std.LawfulEqOrd κ] in
theorem ofList_append_singleton (members : List κ) (last : κ) :
    ofList (members ++ [last]) = (ofList members).add last := by
  rw [ofList, List.foldl_append]
  rfl

/-- The size of a set made from a list is the number of its members without repetitions. -/
theorem size_ofList [DecidableEq κ] (members : List κ) :
    (ofList members).size = members.toFinset.card := by
  have length : (ofList members).size = (ofList members).toList.length := by
    simp [OrderedMap.size, toList, OrderedMap.keys]
  have sameMembers : (ofList members).toList.toFinset = members.toFinset := by
    ext other
    rw [List.mem_toFinset, List.mem_toFinset, mem_toList_ofList]
  rw [length, ← List.toFinset_card_of_nodup (nodup_toList _), sameMembers]

/-- A set of texts made from a list is listed as the list sorted and without repetitions. -/
theorem toList_ofList_eq_sort (members : List String) :
    (ofList members).toList = members.toFinset.sort (· ≤ ·) := by
  have sameMembers : (ofList members).toList.Perm (members.toFinset.sort (· ≤ ·)) := by
    rw [List.perm_ext_iff_of_nodup (nodup_toList _) (Finset.sort_nodup _ _)]
    intro other
    rw [mem_toList_ofList, Finset.mem_sort, List.mem_toFinset]
  apply sameMembers.eq_of_pairwise
  · intro first second _ _ below above
    exact le_antisymm below above
  · exact (sorted_toList _).imp le_of_lt
  · exact Finset.pairwise_sort _ _

end OrderedSet

end QueryImpact
