/-!
# Maps kept in key order

A finite map is a list of entries whose keys strictly increase.  The order is part of the type,
so two maps with the same look-ups are the same value, and a walk over the entries is a walk in
key order.
-/

namespace QueryImpact

/-- A finite map whose entries are listed by strictly increasing key. -/
structure OrderedMap (κ ν : Type) [Ord κ] where
  /-- The entries, in key order. -/
  entries : List (κ × ν)
  /-- Each key is smaller than all keys after it. -/
  increasing : entries.Pairwise fun first second => compare first.1 second.1 = .lt

namespace OrderedMap

variable {κ ν : Type} [Ord κ]

/-- The map without entries. -/
def empty : OrderedMap κ ν :=
  ⟨[], List.Pairwise.nil⟩

instance : EmptyCollection (OrderedMap κ ν) :=
  ⟨empty⟩

instance : Inhabited (OrderedMap κ ν) :=
  ⟨empty⟩

instance [DecidableEq κ] [DecidableEq ν] : DecidableEq (OrderedMap κ ν) :=
  fun first second =>
    if same : first.entries = second.entries then
      isTrue (by cases first; cases second; simp_all)
    else
      isFalse (by rintro rfl; exact same rfl)

/-- The value found under a key in a list of entries. -/
def findIn (key : κ) : List (κ × ν) → Option ν
  | [] => none
  | entry :: rest => if compare key entry.1 = .eq then some entry.2 else findIn key rest

/-- The value stored under a key. -/
def find? (map : OrderedMap κ ν) (key : κ) : Option ν :=
  findIn key map.entries

/-- Whether a key has a value. -/
def contains (map : OrderedMap κ ν) (key : κ) : Bool :=
  (map.find? key).isSome

/-- The keys, in order. -/
def keys (map : OrderedMap κ ν) : List κ :=
  map.entries.map (·.1)

/-- The values, in key order. -/
def values (map : OrderedMap κ ν) : List ν :=
  map.entries.map (·.2)

/-- The number of entries. -/
def size (map : OrderedMap κ ν) : Nat :=
  map.entries.length

/-- Put an entry at its place in an ordered list, replacing the entry with the same key. -/
def insertIn (key : κ) (value : ν) : List (κ × ν) → List (κ × ν)
  | [] => [(key, value)]
  | entry :: rest =>
      match compare key entry.1 with
      | .lt => (key, value) :: entry :: rest
      | .eq => (key, value) :: rest
      | .gt => entry :: insertIn key value rest

theorem mem_insertIn {key : κ} {value : ν} {entry : κ × ν} {entries : List (κ × ν)}
    (member : entry ∈ insertIn key value entries) :
    entry = (key, value) ∨ entry ∈ entries := by
  induction entries with
  | nil => simpa [insertIn] using member
  | cons first rest ih =>
      simp only [insertIn] at member
      split at member
      · simpa using member
      · simp only [List.mem_cons] at member ⊢
        rcases member with equal | later
        · exact Or.inl equal
        · exact Or.inr (Or.inr later)
      · simp only [List.mem_cons] at member ⊢
        rcases member with equal | later
        · exact Or.inr (Or.inl equal)
        · rcases ih later with equal | later
          · exact Or.inl equal
          · exact Or.inr (Or.inr later)

theorem increasing_insertIn [Std.TransOrd κ] (key : κ) (value : ν) {entries : List (κ × ν)}
    (increasing : entries.Pairwise fun first second => compare first.1 second.1 = .lt) :
    (insertIn key value entries).Pairwise fun first second =>
      compare first.1 second.1 = .lt := by
  induction entries with
  | nil => simp [insertIn]
  | cons first rest ih =>
      obtain ⟨smallest, restIncreasing⟩ := List.pairwise_cons.mp increasing
      simp only [insertIn]
      split
      · rename_i below
        refine List.pairwise_cons.mpr ⟨?_, increasing⟩
        intro entry member
        rcases List.mem_cons.mp member with rfl | later
        · exact below
        · exact Std.TransCmp.lt_trans below (smallest entry later)
      · rename_i same
        refine List.pairwise_cons.mpr ⟨?_, restIncreasing⟩
        intro entry member
        exact Std.TransCmp.lt_of_eq_of_lt same (smallest entry member)
      · rename_i above
        refine List.pairwise_cons.mpr ⟨?_, ih restIncreasing⟩
        intro entry member
        rcases mem_insertIn member with rfl | later
        · exact Std.OrientedCmp.lt_of_gt above
        · exact smallest entry later

/-- Store a value under a key, replacing the value that is there. -/
def insert [Std.TransOrd κ] (map : OrderedMap κ ν) (key : κ) (value : ν) : OrderedMap κ ν :=
  ⟨insertIn key value map.entries, increasing_insertIn key value map.increasing⟩

/-- Keep the entries that satisfy a test. -/
def filter (keep : κ → ν → Bool) (map : OrderedMap κ ν) : OrderedMap κ ν :=
  ⟨map.entries.filter fun entry => keep entry.1 entry.2, map.increasing.filter _⟩

/-- Change the value under a key, starting from `initial` when there is none. -/
def alter [Std.TransOrd κ] (map : OrderedMap κ ν) (key : κ) (initial : ν) (change : ν → ν) :
    OrderedMap κ ν :=
  map.insert key (change ((map.find? key).getD initial))

/-- Store a list of entries, later ones replacing earlier ones. -/
def ofList [Std.TransOrd κ] (entries : List (κ × ν)) : OrderedMap κ ν :=
  entries.foldl (fun map entry => map.insert entry.1 entry.2) empty

/-! ## Look-up laws -/

section Laws

variable [Std.TransOrd κ] [Std.LawfulEqOrd κ]

omit [Std.TransOrd κ] in
theorem findIn_insertIn_self (key : κ) (value : ν) (entries : List (κ × ν)) :
    findIn key (insertIn key value entries) = some value := by
  induction entries with
  | nil => simp [insertIn, findIn]
  | cons first rest ih =>
      simp only [insertIn]
      split
      · simp [findIn]
      · simp [findIn]
      · rename_i above
        simp [findIn, above, ih]

omit [Std.TransOrd κ] in
theorem findIn_insertIn_of_ne {key other : κ} (different : other ≠ key) (value : ν)
    (entries : List (κ × ν)) :
    findIn other (insertIn key value entries) = findIn other entries := by
  have apart : compare other key ≠ .eq := fun same =>
    different (Std.LawfulEqOrd.eq_of_compare same)
  induction entries with
  | nil => simp [insertIn, findIn, apart]
  | cons first rest ih =>
      simp only [insertIn]
      split
      · simp [findIn, apart]
      · rename_i same
        have equal : key = first.1 := Std.LawfulEqOrd.eq_of_compare same
        simp [findIn, apart, ← equal]
      · simp [findIn, ih]

/-- Looking up the key just stored gives the value just stored. -/
@[simp]
theorem find?_insert_self (map : OrderedMap κ ν) (key : κ) (value : ν) :
    (map.insert key value).find? key = some value :=
  findIn_insertIn_self key value map.entries

/-- Storing under one key leaves the look-up of every other key alone. -/
theorem find?_insert_of_ne (map : OrderedMap κ ν) {key other : κ} (different : other ≠ key)
    (value : ν) : (map.insert key value).find? other = map.find? other :=
  findIn_insertIn_of_ne different value map.entries

omit [Std.TransOrd κ] [Std.LawfulEqOrd κ] in
/-- A key below all keys of the entries has no value among them. -/
theorem findIn_eq_none_of_below {key : κ} {entries : List (κ × ν)}
    (below : ∀ entry ∈ entries, compare key entry.1 = .lt) : findIn key entries = none := by
  induction entries with
  | nil => rfl
  | cons first rest ih =>
      have smaller := below first List.mem_cons_self
      rw [findIn, if_neg (by simp [smaller])]
      exact ih fun entry member => below entry (List.mem_cons_of_mem _ member)

/-- Increasing entries are determined by their look-ups. -/
theorem eq_of_findIn_eq {first second : List (κ × ν)}
    (firstIncreasing : first.Pairwise fun entry later => compare entry.1 later.1 = .lt)
    (secondIncreasing : second.Pairwise fun entry later => compare entry.1 later.1 = .lt)
    (same : ∀ key, findIn key first = findIn key second) : first = second := by
  induction first generalizing second with
  | nil =>
      cases second with
      | nil => rfl
      | cons entry rest => simpa [findIn] using same entry.1
  | cons one ones ih =>
      cases second with
      | nil => simpa [findIn] using same one.1
      | cons two twos =>
          obtain ⟨oneBelow, onesIncreasing⟩ := List.pairwise_cons.mp firstIncreasing
          obtain ⟨twoBelow, twosIncreasing⟩ := List.pairwise_cons.mp secondIncreasing
          cases order : compare one.1 two.1 with
          | lt =>
              have absent : findIn one.1 (two :: twos) = none :=
                findIn_eq_none_of_below fun entry member => by
                  rcases List.mem_cons.mp member with rfl | later
                  · exact order
                  · exact Std.TransCmp.lt_trans order (twoBelow entry later)
              have found := same one.1
              rw [absent] at found
              simp [findIn] at found
          | gt =>
              have reversed : compare two.1 one.1 = .lt := Std.OrientedCmp.lt_of_gt order
              have absent : findIn two.1 (one :: ones) = none :=
                findIn_eq_none_of_below fun entry member => by
                  rcases List.mem_cons.mp member with rfl | later
                  · exact reversed
                  · exact Std.TransCmp.lt_trans reversed (oneBelow entry later)
              have found := same two.1
              rw [absent] at found
              simp [findIn] at found
          | eq =>
              have sameKey : one.1 = two.1 := Std.LawfulEqOrd.eq_of_compare order
              have sameValue : one.2 = two.2 := by simpa [findIn, sameKey] using same one.1
              have sameRest : ones = twos := by
                refine ih onesIncreasing twosIncreasing fun key => ?_
                by_cases here : key = one.1
                · rw [here, findIn_eq_none_of_below oneBelow, sameKey,
                    findIn_eq_none_of_below twoBelow]
                · have apart : compare key one.1 ≠ .eq := fun equal =>
                    here (Std.LawfulEqOrd.eq_of_compare equal)
                  have both := same key
                  rwa [findIn, findIn, if_neg apart, if_neg (sameKey ▸ apart)] at both
              rw [sameRest, Prod.ext sameKey sameValue]

/-- Two maps with the same look-ups are the same map. -/
theorem eq_of_find?_eq {first second : OrderedMap κ ν}
    (same : ∀ key, first.find? key = second.find? key) : first = second := by
  have sameEntries := eq_of_findIn_eq first.increasing second.increasing same
  cases first
  cases second
  simp_all

end Laws

end OrderedMap

/-- A finite set, listed in increasing order. -/
abbrev OrderedSet (κ : Type) [Ord κ] : Type :=
  OrderedMap κ Unit

namespace OrderedSet

variable {κ : Type} [Ord κ]

/-- The members, in increasing order. -/
def toList (set : OrderedSet κ) : List κ :=
  set.keys

/-- Add a member. -/
def add [Std.TransOrd κ] (set : OrderedSet κ) (member : κ) : OrderedSet κ :=
  set.insert member ()

/-- The set of the members of a list. -/
def ofList [Std.TransOrd κ] (members : List κ) : OrderedSet κ :=
  members.foldl add OrderedMap.empty

end OrderedSet

end QueryImpact
