import ModelBench.Text.Replace
import Mathlib.Data.List.Infix
import Mathlib.Tactic.Common

/-!
# Replacing at known places

A text in which nothing is found stays as it is (`replaceAll_of_none`), and a front in which nothing
is found is kept (`replaceAll_append`). Two passes are one that looks for the places of both, if the
second pass finds in the outcome of the first one what it would have found in the text (`Separable`,
`replaceAll_replaceAll`).
-/

namespace ModelBench.Text

variable {found found' first second : List Char → Option (List Char × Nat)}
  {text front new : List Char} {skip size : Nat}

theorem replaceFrom_eq (skip : Nat) (text : List Char) :
    replaceFrom found skip text = replaceAll found (text.drop skip) := by
  induction text generalizing skip with
  | nil => rw [List.drop_nil, replaceAll, replaceFrom, replaceFrom]
  | cons c rest ih =>
    cases skip with
    | zero => rfl
    | succ skip => rw [replaceFrom, List.drop_succ_cons, ih]

theorem replaceAll_cons_of_none {c : Char} {rest : List Char} (h : found (c :: rest) = none) :
    replaceAll found (c :: rest) = c :: replaceAll found rest := by
  rw [replaceAll, replaceFrom, h]
  rfl

theorem replaceAll_of_some (nonempty : text ≠ []) (positive : 0 < size)
    (h : found text = some (new, size)) :
    replaceAll found text = new ++ replaceAll found (text.drop size) := by
  obtain ⟨c, rest, rfl⟩ := List.exists_cons_of_ne_nil nonempty
  obtain ⟨size, rfl⟩ := Nat.exists_eq_succ_of_ne_zero positive.ne'
  rw [replaceAll, replaceFrom, h]
  simp only [Nat.succ_eq_add_one, Nat.add_sub_cancel, replaceFrom_eq, List.drop_succ_cons]

/-- A front is kept if nothing is found from any place in it on. -/
theorem replaceAll_append {back : List Char}
    (h : ∀ part, part ≠ [] → part <:+ front → found (part ++ back) = none) :
    replaceAll found (front ++ back) = front ++ replaceAll found back := by
  induction front with
  | nil => rfl
  | cons c front ih =>
    have here : found (c :: (front ++ back)) = none := h _ (List.cons_ne_nil c front) List.suffix_rfl
    rw [List.cons_append, replaceAll_cons_of_none here, List.cons_append,
      ih fun part ne suffix => h part ne (suffix.trans (List.suffix_cons c front))]

theorem replaceAll_of_none (h : ∀ rest, rest <:+ text → found rest = none) :
    replaceAll found text = text := by
  have all : replaceAll found (text ++ []) = text ++ replaceAll found [] :=
    replaceAll_append fun part _ suffix => by rw [List.append_nil, h part suffix]
  rwa [List.append_nil, replaceAll, replaceAll, replaceFrom, List.append_nil] at all

/-- Only what is found in the text matters. -/
theorem replaceFrom_congr (h : ∀ rest, rest <:+ text → found rest = found' rest) (skip : Nat) :
    replaceFrom found skip text = replaceFrom found' skip text := by
  induction text generalizing skip with
  | nil => rw [replaceFrom, replaceFrom]
  | cons c rest ih =>
    have later := ih fun part suffix => h part (suffix.trans (List.suffix_cons c rest))
    cases skip with
    | succ skip => rw [replaceFrom, replaceFrom, later]
    | zero =>
      rw [replaceFrom, replaceFrom, h _ List.suffix_rfl]
      split
      · rw [later]
      · rw [later]

/-! ## Two passes -/

/-- What is found at a place by the first way to look or else by the second one. -/
def findEither (first second : List Char → Option (List Char × Nat)) (text : List Char) :
    Option (List Char × Nat) :=
  (first text).or (second text)

/-- When a second pass over a text finds the same places, whether the first pass has been made or
not. -/
structure Separable (first second : List Char → Option (List Char × Nat)) (text : List Char) :
    Prop where
  firstFits : ∀ rest new size, first rest = some (new, size) → 0 < size
  secondFits : ∀ rest new size, second rest = some (new, size) → 0 < size ∧ size ≤ rest.length
  /-- Nothing is found in what the first pass puts in. -/
  inert : ∀ rest new size, first rest = some (new, size) →
    ∀ back, replaceAll second (new ++ back) = new ++ replaceAll second back
  /-- At a place that the first pass leaves alone, the same is found after it as before. -/
  same : ∀ rest, rest <:+ text → first rest = none →
    second (replaceAll first rest) = second rest
  /-- No place of the first pass begins inside a place of the second one. -/
  clear : ∀ rest new size, rest <:+ text → first rest = none → second rest = some (new, size) →
    ∀ k < size, first (rest.drop k) = none

/-- What the first pass leaves alone at the front of a text stands in front of the rest. -/
theorem replaceAll_of_clear (h : ∀ k < size, first (text.drop k) = none) :
    replaceAll first text = text.take size ++ replaceAll first (text.drop size) := by
  conv_lhs => rw [← List.take_append_drop size text]
  refine replaceAll_append fun part nonempty suffix => ?_
  obtain ⟨before, eq⟩ := suffix
  have split : text = before ++ (part ++ text.drop size) := by
    rw [← List.append_assoc, eq, List.take_append_drop]
  have short : before.length < size := by
    have length := congrArg List.length eq
    have positive := List.length_pos_of_ne_nil nonempty
    have bound := List.length_take_le size text
    rw [List.length_append] at length
    omega
  have rest : text.drop before.length = part ++ text.drop size := by
    conv_lhs => rw [split]
    exact List.drop_left
  rw [← rest]
  exact h _ short

/-- Two passes that do not get into each other's way are one pass. -/
theorem replaceAll_replaceAll (apart : Separable first second text) :
    replaceAll second (replaceAll first text) = replaceAll (findEither first second) text := by
  -- induction on the length, as a place is left behind as a whole
  generalize length : text.length = n
  induction n using Nat.strong_induction_on generalizing text with
  | _ n ih =>
    cases text with
    | nil => rfl
    | cons c rest =>
      have later (k : Nat) (positive : 0 < k) :
          replaceAll second (replaceAll first ((c :: rest).drop k)) =
            replaceAll (findEither first second) ((c :: rest).drop k) := by
        have suffix : (c :: rest).drop k <:+ c :: rest := List.drop_suffix k _
        refine ih _ ?_ ⟨apart.firstFits, apart.secondFits, apart.inert,
          fun part h => apart.same part (h.trans suffix),
          fun part new size h => apart.clear part new size (h.trans suffix)⟩ rfl
        rw [List.length_drop, ← length, List.length_cons]
        omega
      have whole : c :: rest <:+ c :: rest := List.suffix_rfl
      cases one : first (c :: rest) with
      | some result =>
        obtain ⟨new, size⟩ := result
        have positive := apart.firstFits _ _ _ one
        have either : findEither first second (c :: rest) = some (new, size) := by
          rw [findEither, one, Option.some_or]
        rw [replaceAll_of_some (List.cons_ne_nil c rest) positive one, apart.inert _ _ _ one,
          later size positive, replaceAll_of_some (List.cons_ne_nil c rest) positive either]
      | none =>
        have same := apart.same _ whole one
        cases two : second (c :: rest) with
        | some result =>
          obtain ⟨new, size⟩ := result
          obtain ⟨positive, fits⟩ := apart.secondFits _ _ _ two
          have either : findEither first second (c :: rest) = some (new, size) := by
            rw [findEither, one, Option.none_or, two]
          have kept := replaceAll_of_clear (apart.clear _ _ _ whole one two)
          have behind : (replaceAll first (c :: rest)).drop size =
              replaceAll first ((c :: rest).drop size) := by
            rw [kept, List.drop_left' (List.length_take_of_le fits)]
          have nonempty : replaceAll first (c :: rest) ≠ [] := by
            rw [replaceAll_cons_of_none one]
            exact List.cons_ne_nil _ _
          rw [two] at same
          rw [replaceAll_of_some nonempty positive same, behind, later size positive,
            replaceAll_of_some (List.cons_ne_nil c rest) positive either]
        | none =>
          have either : findEither first second (c :: rest) = none := by
            rw [findEither, one, Option.none_or, two]
          rw [two, replaceAll_cons_of_none one] at same
          rw [replaceAll_cons_of_none one, replaceAll_cons_of_none same,
            replaceAll_cons_of_none either]
          exact congrArg (c :: ·) (later 1 Nat.one_pos)

end ModelBench.Text
