import Mathlib.Tactic.Common

/-!
# Values or errors

When a computation that may fail gives a value: behind a function, behind a first step, and for all
members of a list one after the other, where the first error is the error of all
(`mapM_eq_error_iff`).
-/

namespace ModelBench

variable {ε α β : Type}

/-! ## One computation -/

theorem toOption_eq_some_iff {x : Except ε α} {a : α} : x.toOption = some a ↔ x = .ok a := by
  cases x <;> simp [Except.toOption]

theorem map_eq_ok_iff {x : Except ε α} {f : α → β} {y : β} :
    x.map f = .ok y ↔ ∃ a, x = .ok a ∧ f a = y := by
  cases x <;> simp [Except.map]

theorem exists_of_bind_eq_ok {first : Except ε α} {rest : α → Except ε β} {b : β}
    (h : first >>= rest = .ok b) : ∃ a, first = .ok a ∧ rest a = .ok b := by
  cases first with
  | error e => cases h
  | ok a => exact ⟨a, rfl, h⟩

/-! ## One after the other -/

variable {f : α → Except ε β} {front back xs : List α} {ys : List β} {x : α} {e : ε}

theorem mapM_cons_of_error (bad : f x = .error e) (xs : List α) : (x :: xs).mapM f = .error e := by
  rw [List.mapM_cons, bad]
  rfl

theorem mapM_cons_of_ok {y : β} (good : f x = .ok y) (xs : List α) :
    (x :: xs).mapM f = (xs.mapM f).map (y :: ·) := by
  rw [List.mapM_cons, good]
  cases xs.mapM f <;> rfl

theorem mapM_eq_ok_iff : xs.mapM f = .ok ys ↔ xs.map f = ys.map .ok := by
  induction xs generalizing ys with
  | nil => cases ys <;> simp [pure, Except.pure]
  | cons x xs ih =>
    rw [List.map_cons]
    cases first : f x with
    | error e =>
      rw [mapM_cons_of_error first]
      cases ys <;> simp
    | ok y =>
      rw [mapM_cons_of_ok first, map_eq_ok_iff]
      simp only [ih]
      cases ys with
      | nil => simp
      | cons y' ys => simp [and_comm]

theorem mapM_of_first_error (good : ∀ y ∈ front, ∃ value, f y = .ok value) (bad : f x = .error e)
    (back : List α) : (front ++ x :: back).mapM f = .error e := by
  induction front with
  | nil => exact mapM_cons_of_error bad back
  | cons y front ih =>
    obtain ⟨⟨value, ok⟩, good⟩ := List.forall_mem_cons.1 good
    rw [List.cons_append, mapM_cons_of_ok ok, ih good]
    rfl

theorem exists_first_error (h : xs.mapM f = .error e) : ∃ front x back, xs = front ++ x :: back ∧
    (∀ y ∈ front, ∃ value, f y = .ok value) ∧ f x = .error e := by
  induction xs with
  | nil => cases h
  | cons x xs ih =>
    cases first : f x with
    | error e' =>
      rw [mapM_cons_of_error first] at h
      cases h
      exact ⟨[], x, xs, rfl, List.forall_mem_nil _, first⟩
    | ok value =>
      rw [mapM_cons_of_ok first] at h
      cases rest : xs.mapM f with
      | ok ys =>
        rw [rest] at h
        cases h
      | error e' =>
        rw [rest] at h
        cases h
        obtain ⟨front, y, back, rfl, good, bad⟩ := ih rest
        exact ⟨x :: front, y, back, rfl, List.forall_mem_cons.2 ⟨⟨value, first⟩, good⟩, bad⟩

theorem exists_mapM_eq_ok_iff :
    (∃ ys, xs.mapM f = .ok ys) ↔ ∀ x ∈ xs, ∃ y, f x = .ok y := by
  constructor
  · rintro ⟨ys, all⟩ x member
    have image : f x ∈ ys.map .ok := mapM_eq_ok_iff.1 all ▸ List.mem_map_of_mem member
    obtain ⟨y, -, eq⟩ := List.mem_map.1 image
    exact ⟨y, eq.symm⟩
  · intro all
    cases ended : xs.mapM f with
    | ok ys => exact ⟨ys, rfl⟩
    | error e =>
      obtain ⟨front, x, back, rfl, -, bad⟩ := exists_first_error ended
      obtain ⟨y, good⟩ := all x (by simp)
      rw [bad] at good
      cases good

/-- The first error is the error of all. -/
theorem mapM_eq_error_iff : xs.mapM f = .error e ↔ ∃ front x back, xs = front ++ x :: back ∧
    (∀ y ∈ front, ∃ value, f y = .ok value) ∧ f x = .error e := by
  refine ⟨exists_first_error, ?_⟩
  rintro ⟨front, x, back, rfl, good, bad⟩
  exact mapM_of_first_error good bad back

end ModelBench
