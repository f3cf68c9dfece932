import Mathlib.Tactic.Common

/-!
# Entries under keys

What is found in a list of entries under a key, and what entries under other keys have no part in.
-/

namespace ModelBench

variable {κ α : Type} [BEq κ] [LawfulBEq κ] {entries : List (κ × α)} {key other : κ} {value : α}

/-- Entries under another key can be left out. -/
theorem lookup_filter_ne (ne : other ≠ key) :
    (entries.filter fun entry => entry.1 != key).lookup other = entries.lookup other := by
  induction entries with
  | nil => rfl
  | cons entry entries ih =>
    obtain ⟨found, value⟩ := entry
    rw [List.filter_cons, List.lookup_cons]
    by_cases same : found = key
    · subst same
      rw [beq_false_of_ne ne, if_neg (by simp), ih]
    · rw [if_pos (by simpa using same), List.lookup_cons, ih]

theorem lookup_eq_some_iff_mem (unique : (entries.map Prod.fst).Nodup) :
    entries.lookup key = some value ↔ (key, value) ∈ entries := by
  induction entries with
  | nil => simp
  | cons entry entries ih =>
    obtain ⟨found, other⟩ := entry
    rw [List.map_cons, List.nodup_cons] at unique
    obtain ⟨new, unique⟩ := unique
    rw [List.mem_cons, Prod.mk.injEq]
    by_cases same : key = found
    · subst same
      have absent : (key, value) ∉ entries := fun member =>
        new (List.mem_map.2 ⟨(key, value), member, rfl⟩)
      rw [List.lookup_cons_self, Option.some.injEq, or_iff_left absent, eq_self, true_and, eq_comm]
    · rw [List.lookup_cons, beq_false_of_ne same, ← ih unique]
      simp [same]

end ModelBench
