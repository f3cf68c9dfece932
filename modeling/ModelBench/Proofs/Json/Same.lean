import ModelBench.Json.Value
import Mathlib.Tactic.Common

/-!
# Equality of cells

Comparing values agrees with equality when one of the two is null or a text, and comparing rows when
all cells of one of them are. So it does for the rows of a mock, whatever they are compared with. On
all values it is an equivalence: values that are the same are the same as the same values
(`same_congr`).
-/

namespace ModelBench.Json

variable {x y : Json} {xs ys : List Json} {rows : List (List Json)}

/-- Whether a value is null or a text, as the cells of mocks are. -/
def IsCell (x : Json) : Prop := x = .null ∨ ∃ s, x = .string s

theorem beq_null : (x == .null) = true ↔ x = .null := by
  show same x .null = true ↔ x = .null
  cases x <;> simp [same]

theorem null_beq : (.null == x) = true ↔ .null = x := by
  show same .null x = true ↔ .null = x
  cases x <;> simp [same]

theorem beq_string {s : String} : (x == .string s) = true ↔ x = .string s := by
  show same x (.string s) = true ↔ x = .string s
  cases x <;> simp [same]

theorem string_beq {s : String} : (.string s == x) = true ↔ .string s = x := by
  show same (.string s) x = true ↔ .string s = x
  cases x <;> simp [same]

theorem beq_iff_of_isCell (h : x.IsCell ∨ y.IsCell) : (x == y) = true ↔ x = y := by
  rcases h with (rfl | ⟨s, rfl⟩) | (rfl | ⟨s, rfl⟩)
  · exact null_beq
  · exact string_beq
  · exact beq_null
  · exact beq_string

theorem beq_row_iff (h : (∀ x ∈ xs, x.IsCell) ∨ ∀ y ∈ ys, y.IsCell) :
    (xs == ys) = true ↔ xs = ys := by
  induction xs generalizing ys with
  | nil => cases ys <;> simp
  | cons x xs ih =>
    cases ys with
    | nil => simp
    | cons y ys =>
      rw [List.forall_mem_cons, List.forall_mem_cons] at h
      have head := beq_iff_of_isCell (h.imp And.left And.left)
      have tail := ih (h.imp And.right And.right)
      rw [List.cons_beq_cons, Bool.and_eq_true, head, tail, List.cons.injEq]

/-- A row is found exactly among the rows that it is one of. -/
theorem contains_iff_mem (h : (∀ x ∈ xs, x.IsCell) ∨ ∀ row ∈ rows, ∀ x ∈ row, x.IsCell) :
    rows.contains xs = true ↔ xs ∈ rows := by
  rw [List.contains_iff_exists_mem_beq]
  constructor
  · rintro ⟨row, member, same⟩
    rwa [(beq_row_iff (h.imp_right fun h => h row member)).1 same]
  · intro member
    exact ⟨xs, member, (beq_row_iff (h.imp_right fun h => h xs member)).2 rfl⟩

/-! ## An equivalence -/

theorem Number.same_self (a : Number) : a.same a = true := by
  cases a with
  | integer n => exact beq_self_eq_true n
  | real x => simp [Number.same, Binary64.sameValue]

theorem Number.same_congr {a b : Number} (h : a.same b = true) (c : Number) :
    a.same c = b.same c := by
  cases a with
  | integer m =>
    cases b with
    | integer n => rw [show m = n from eq_of_beq h]
    | real y => cases h
  | real x =>
    cases b with
    | integer n => cases h
    | real y =>
      cases c with
      | integer n => rfl
      | real z =>
        simp only [Number.same, Binary64.sameValue, Bool.or_eq_true, beq_iff_eq,
          Bool.and_eq_true] at h ⊢
        rcases h with rfl | ⟨zero, zero'⟩
        · rfl
        · -- a number is one of the two zeros when it is equal to one
          have other : x = z → z.isZero = true := fun same => same ▸ zero
          have other' : y = z → z.isZero = true := fun same => same ▸ zero'
          rw [zero, zero', Bool.true_and, Bool.eq_iff_iff, Bool.or_eq_true, Bool.or_eq_true,
            beq_iff_eq, beq_iff_eq, or_iff_right_of_imp other, or_iff_right_of_imp other']

mutual

theorem same_self : (x : Json) → same x x = true
  | .null => rfl
  | .bool a => beq_self_eq_true a
  | .number a => a.same_self
  | .string a => beq_self_eq_true a
  | .array items => sameItems_self items
  | .object members => sameMembers_self members

theorem sameItems_self : (items : List Json) → sameItems items items = true
  | [] => rfl
  | x :: items => Bool.and_eq_true_iff.2 ⟨same_self x, sameItems_self items⟩

theorem sameMembers_self : (members : List (String × Json)) → sameMembers members members = true
  | [] => rfl
  | (name, x) :: members => Bool.and_eq_true_iff.2
      ⟨Bool.and_eq_true_iff.2 ⟨beq_self_eq_true name, same_self x⟩, sameMembers_self members⟩

end

mutual

/-- Values that are the same are the same as the same values. -/
theorem same_congr : (x y z : Json) → same x y = true → same x z = same y z
  | .null, y, z, h => by
    cases y with
    | null => rfl
    | _ => cases h
  | .bool a, y, z, h => by
    cases y with
    | bool b => rw [show a = b from eq_of_beq h]
    | _ => cases h
  | .number a, y, z, h => by
    cases y with
    | number b =>
      cases z with
      | number c => exact Number.same_congr h c
      | _ => rfl
    | _ => cases h
  | .string a, y, z, h => by
    cases y with
    | string b => rw [show a = b from eq_of_beq h]
    | _ => cases h
  | .array items, y, z, h => by
    cases y with
    | array others =>
      cases z with
      | array more => exact sameItems_congr items others more h
      | _ => rfl
    | _ => cases h
  | .object members, y, z, h => by
    cases y with
    | object others =>
      cases z with
      | object more => exact sameMembers_congr members others more h
      | _ => rfl
    | _ => cases h

theorem sameItems_congr : (xs ys zs : List Json) → sameItems xs ys = true →
    sameItems xs zs = sameItems ys zs
  | [], ys, zs, h => by
    cases ys with
    | nil => rfl
    | cons y ys => cases h
  | x :: xs, ys, zs, h => by
    cases ys with
    | nil => cases h
    | cons y ys =>
      obtain ⟨head, tail⟩ := Bool.and_eq_true_iff.1 h
      cases zs with
      | nil => rfl
      | cons z zs => exact congrArg₂ and (same_congr x y z head) (sameItems_congr xs ys zs tail)

theorem sameMembers_congr : (xs ys zs : List (String × Json)) → sameMembers xs ys = true →
    sameMembers xs zs = sameMembers ys zs
  | [], ys, zs, h => by
    cases ys with
    | nil => rfl
    | cons y ys => cases h
  | (name, x) :: xs, ys, zs, h => by
    cases ys with
    | nil => cases h
    | cons member ys =>
      obtain ⟨other, y⟩ := member
      obtain ⟨head, tail⟩ := Bool.and_eq_true_iff.1 h
      obtain ⟨named, value⟩ := Bool.and_eq_true_iff.1 head
      rw [show name = other from eq_of_beq named]
      cases zs with
      | nil => rfl
      | cons z zs =>
        exact congrArg₂ and (congrArg₂ and rfl (same_congr x y z.2 value))
          (sameMembers_congr xs ys zs tail)

end

theorem beq_eq_sameItems (xs ys : List Json) : (xs == ys) = sameItems xs ys := by
  induction xs generalizing ys with
  | nil => cases ys <;> rfl
  | cons x xs ih =>
    cases ys with
    | nil => rfl
    | cons y ys => exact congrArg₂ and rfl (ih ys)

/-- A comparison by which everything is the same as itself, and what is the same is the same as the
same values, is an equivalence. -/
theorem equivBEq_of_congr {α : Type} [BEq α] (self : ∀ x : α, (x == x) = true)
    (congr : ∀ x y z : α, (x == y) = true → (x == z) = (y == z)) : EquivBEq α where
  rfl := self _
  symm {x y} h := by rw [← congr x y x h, self]
  trans {x y z} h h' := by rw [congr x y z h, h']

instance : EquivBEq Json := equivBEq_of_congr same_self same_congr

instance : EquivBEq (List Json) :=
  equivBEq_of_congr (fun xs => by rw [beq_eq_sameItems, sameItems_self])
    fun xs ys zs h => by
      rw [beq_eq_sameItems] at h
      rw [beq_eq_sameItems, beq_eq_sameItems, sameItems_congr xs ys zs h]

end ModelBench.Json
