/-!
# Chunks

A long list is handled in chunks of at most a given size.  All chunks but the last are full, and
their items in a row are the list again.
-/

namespace QueryImpact

variable {α : Type}

/-- Cut a list into consecutive chunks of the given size; the last one may be shorter.  A size of
zero counts as one. -/
def chunks (size : Nat) : List α → List (List α)
  | [] => []
  | first :: rest => (first :: rest.take (size - 1)) :: chunks size (rest.drop (size - 1))
termination_by items => items.length
decreasing_by
  simp only [List.length_drop, List.length_cons]
  omega

@[simp]
theorem chunks_nil (size : Nat) : chunks size ([] : List α) = [] := by
  rw [chunks]

theorem chunks_cons (size : Nat) (first : α) (rest : List α) :
    chunks size (first :: rest) =
      (first :: rest.take (size - 1)) :: chunks size (rest.drop (size - 1)) := by
  rw [chunks]

/-- The chunks in a row are the list. -/
@[simp]
theorem flatten_chunks (size : Nat) (items : List α) : (chunks size items).flatten = items := by
  fun_induction chunks size items with
  | case1 => rfl
  | case2 first rest ih =>
      simp only [List.flatten_cons, ih, List.cons_append, List.take_append_drop]

/-- All chunks but the last have the given size. -/
theorem length_of_mem_dropLast_chunks {size : Nat} {items chunk : List α}
    (member : chunk ∈ (chunks size items).dropLast) : chunk.length = max size 1 := by
  fun_induction chunks size items with
  | case1 => exact absurd member List.not_mem_nil
  | case2 first rest ih =>
      cases later : chunks size (rest.drop (size - 1)) with
      | nil =>
          rw [later] at member
          exact absurd member List.not_mem_nil
      | cons next others =>
          rw [later] at member ih
          rcases List.mem_cons.mp member with rfl | behind
          · have goesOn : rest.drop (size - 1) ≠ [] := by
              intro atEnd
              rw [atEnd, chunks_nil] at later
              contradiction
            have longer : size - 1 < rest.length := by
              rw [← Nat.not_le]
              exact fun short => goesOn (List.drop_eq_nil_of_le short)
            rw [List.length_cons, List.length_take]
            omega
          · exact ih behind

end QueryImpact
