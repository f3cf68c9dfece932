/-!
# Entries that have not been visited

A walk over the entries of a list ends because every step visits an entry it has not visited before.
-/

namespace ModelBench

variable {α : Type}

/-- The number of entries whose id has not been visited. -/
def unvisited (entries : List (String × α)) (visited : List String) : Nat :=
  entries.countP fun entry => decide (entry.1 ∉ visited)

theorem unvisited_entry (entry : String × α) (rest : List (String × α)) (visited : List String) :
    unvisited (entry :: rest) visited =
      unvisited rest visited + if entry.1 ∈ visited then 0 else 1 := by
  unfold unvisited
  rw [List.countP_cons]
  by_cases h : entry.1 ∈ visited
  · rw [if_pos h, if_neg (by simpa using h)]
  · rw [if_neg h, if_pos (by simpa using h)]

theorem unvisited_cons_le (entries : List (String × α)) (visited : List String) (id : String) :
    unvisited entries (id :: visited) ≤ unvisited entries visited := by
  induction entries with
  | nil => exact Nat.le_refl _
  | cons entry rest ih =>
    rw [unvisited_entry, unvisited_entry]
    by_cases h : entry.1 ∈ visited
    · rw [if_pos h, if_pos (List.mem_cons_of_mem _ h)]
      exact ih
    · rw [if_neg h]
      split <;> omega

/-- Visiting an entry for the first time leaves fewer to visit. -/
theorem unvisited_cons_lt {entries : List (String × α)} {visited : List String} {id : String}
    {value : α} (found : entries.lookup id = some value) (fresh : id ∉ visited) :
    unvisited entries (id :: visited) < unvisited entries visited := by
  induction entries with
  | nil => cases found
  | cons entry rest ih =>
    have le := unvisited_cons_le rest visited id
    rw [unvisited_entry, unvisited_entry]
    by_cases h : entry.1 = id
    · rw [if_pos (h ▸ List.mem_cons_self), if_neg (h ▸ fresh)]
      omega
    · obtain ⟨name, other⟩ := entry
      have ne : (id == name) = false := beq_false_of_ne fun e => h e.symm
      rw [List.lookup_cons, ne] at found
      have lt := ih found
      by_cases hv : name ∈ visited
      · rw [if_pos hv, if_pos (List.mem_cons_of_mem _ hv)]
        exact lt
      · rw [if_neg hv]
        split <;> omega

end ModelBench
