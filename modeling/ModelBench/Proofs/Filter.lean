import ModelBench.Filter
import Mathlib.Data.List.Basic

/-!
# Which tests are skipped

A name matches a pattern with one star exactly if it is what stands before the star, some text, and
what stands behind the star (`matchesGlob_iff`). What lies between is never looked at: a name that
starts and ends as it should is cut at the end of the one text and at the start of the other, and
counting bytes keeps these in order (`hasEnds_iff`).
-/

namespace ModelBench

variable {pattern front back name : String}

theorem prefix_iff : front.toList <+: name.toList ↔ ∃ rest, name = front ++ rest := by
  constructor
  · rintro ⟨rest, eq⟩
    exact ⟨String.ofList rest, String.ext (by simp [eq])⟩
  · rintro ⟨rest, rfl⟩
    exact ⟨rest.toList, String.toList_append.symm⟩

theorem suffix_iff : back.toList <:+ name.toList ↔ ∃ rest, name = rest ++ back := by
  constructor
  · rintro ⟨rest, eq⟩
    exact ⟨String.ofList rest, String.ext (by simp [eq])⟩
  · rintro ⟨rest, rfl⟩
    exact ⟨rest.toList, String.toList_append.symm⟩

/-- Two texts that begin a name in turn: one of them goes on where the other ends. -/
theorem append_eq_append_cases {left right : String} (eq : front ++ right = left ++ back) :
    (∃ middle, left = front ++ middle ∧ right = middle ++ back) ∨
      ∃ shared, front = left ++ shared ∧ back = shared ++ right := by
  have lists : front.toList ++ right.toList = left.toList ++ back.toList := by
    rw [← String.toList_append, eq, String.toList_append]
  rcases List.append_eq_append_iff.1 lists with ⟨middle, hl, hr⟩ | ⟨shared, hf, hb⟩
  · exact .inl ⟨String.ofList middle, String.ext (by simp [hl]), String.ext (by simp [hr])⟩
  · exact .inr ⟨String.ofList shared, String.ext (by simp [hf]), String.ext (by simp [hb])⟩

/-- A name that starts with one text, ends with another one and is long enough for both is the two
with some text between them. -/
theorem hasEnds_iff : hasEnds front back name = true ↔
    ∃ middle, name = front ++ middle ++ back := by
  rw [hasEnds, Bool.and_eq_true, Bool.and_eq_true, decide_eq_true_eq,
    List.isPrefixOf_iff_prefix, List.isSuffixOf_iff_suffix, prefix_iff, suffix_iff]
  constructor
  · rintro ⟨⟨long, right, rfl⟩, left, eq⟩
    rcases append_eq_append_cases eq with ⟨middle, -, rfl⟩ | ⟨shared, rfl, rfl⟩
    · exact ⟨middle, (String.append_assoc ..).symm⟩
    · -- what the two texts share has no bytes, so they do not overlap
      have none_ : shared.utf8ByteSize = 0 := by
        simp only [String.utf8ByteSize_append] at long
        omega
      obtain rfl := String.utf8ByteSize_eq_zero_iff.1 none_
      exact ⟨"", by simp⟩
  · rintro ⟨middle, rfl⟩
    refine ⟨⟨?_, middle ++ back, String.append_assoc ..⟩, front ++ middle, rfl⟩
    simp only [String.utf8ByteSize_append]
    omega

/-! ## Patterns with a star -/

theorem toList_starred (front back : String) :
    (front ++ "*" ++ back).toList = front.toList ++ '*' :: back.toList := by
  simp

theorem cut_at_star (plain : '*' ∉ front.toList) (back : String) :
    (front ++ "*" ++ back).toList.takeWhile (· ≠ '*') = front.toList ∧
      (front ++ "*" ++ back).toList.dropWhile (· ≠ '*') = '*' :: back.toList := by
  have others : ∀ c ∈ front.toList, decide (c ≠ '*') = true := fun c member =>
    decide_eq_true fun star => plain (star ▸ member)
  rw [toList_starred, List.takeWhile_append_of_pos others, List.dropWhile_append_of_pos others]
  simp

/-- A pattern with one star is cut there and nowhere else. -/
theorem cut_unique {front' back' : String} (plain : '*' ∉ front.toList)
    (plain' : '*' ∉ back.toList) (eq : front ++ "*" ++ back = front' ++ "*" ++ back') :
    front = front' ∧ back = back' := by
  have lists := congrArg String.toList eq
  rw [toList_starred, toList_starred] at lists
  obtain ⟨hf, -, hb⟩ := (List.append_cons_inj_of_notMem plain plain').1 lists
  exact ⟨String.ext hf, String.ext hb⟩

theorem matchesGlob_iff (plain : '*' ∉ front.toList) (plain' : '*' ∉ back.toList) :
    matchesGlob (front ++ "*" ++ back) name = true ↔
      ∃ middle, name = front ++ middle ++ back := by
  obtain ⟨before, behind⟩ := cut_at_star plain back
  rw [matchesGlob, before, behind]
  simp only [Bool.or_eq_true, beq_iff_eq, String.ofList_toList, hasEnds_iff]
  constructor
  · rintro ((star | stars) | found)
    · have cut : front ++ "*" ++ back = "" ++ "*" ++ "" := star
      obtain ⟨rfl, rfl⟩ := cut_unique plain plain' cut
      exact ⟨name, by simp⟩
    · have cut : front ++ "*" ++ back = "" ++ "*" ++ "*" := stars
      obtain ⟨rfl, rfl⟩ := cut_unique plain plain' cut
      exact absurd (by decide) plain'
    · exact found
  · exact .inr

/-- A pattern with a star and no second one is cut there into two texts without stars. -/
theorem exists_cut (single : pattern.toList.count '*' ≤ 1) (star : '*' ∈ pattern.toList) :
    ∃ front back, pattern = front ++ "*" ++ back ∧ '*' ∉ front.toList ∧ '*' ∉ back.toList := by
  obtain ⟨before, behind, eq, plain⟩ := List.eq_append_cons_of_mem star
  refine ⟨String.ofList before, String.ofList behind, String.ext (by simp [eq]), ?_, ?_⟩
  · rwa [String.toList_ofList]
  · rw [String.toList_ofList, ← List.count_eq_zero]
    rw [eq, List.count_append, List.count_cons_self] at single
    omega

theorem matchesPattern_iff (single : pattern.toList.count '*' ≤ 1) :
    matchesPattern pattern name = true ↔ ('*' ∉ pattern.toList ∧ pattern = name) ∨
      ∃ front middle back, pattern = front ++ "*" ++ back ∧ name = front ++ middle ++ back := by
  rw [matchesPattern]
  by_cases star : '*' ∈ pattern.toList
  · rw [if_pos (List.contains_iff_mem.2 star)]
    obtain ⟨front, back, rfl, plain, plain'⟩ := exists_cut single star
    rw [matchesGlob_iff plain plain']
    constructor
    · rintro ⟨middle, eq⟩
      exact .inr ⟨front, middle, back, rfl, eq⟩
    · rintro (⟨none_, -⟩ | ⟨front', middle, back', cut, eq⟩)
      · exact absurd star none_
      · obtain ⟨rfl, rfl⟩ := cut_unique plain plain' cut
        exact ⟨middle, eq⟩
  · rw [if_neg (mt List.contains_iff_mem.1 star), beq_iff_eq]
    constructor
    · exact fun eq => .inl ⟨star, eq⟩
    · rintro (⟨-, eq⟩ | ⟨front, middle, back, rfl, -⟩)
      · exact eq
      · exact absurd (by simp) star

/-! ## Filters -/

/-- A test is skipped exactly if one of the patterns is its name, or one with a star is its name
once some text stands for the star. No text stands for the star in a name that is shorter than what
is around the star. -/
theorem Filter.skips_iff {f : Filter} (single : ∀ pattern ∈ f.skip, pattern.toList.count '*' ≤ 1)
    (name : String) :
    (f.skips name = true ↔ ∃ pattern ∈ f.skip, ('*' ∉ pattern.toList ∧ pattern = name) ∨
      ∃ front middle back, pattern = front ++ "*" ++ back ∧ name = front ++ middle ++ back) ∧
    ∀ front back, front ++ "*" ++ back ∈ f.skip → name.length < front.length + back.length →
      matchesPattern (front ++ "*" ++ back) name = false := by
  constructor
  · rw [Filter.skips, List.any_eq_true]
    exact exists_congr fun pattern => and_congr_right fun member =>
      matchesPattern_iff (single pattern member)
  · intro front back member short
    rw [← Bool.not_eq_true, matchesPattern_iff (single _ member)]
    rintro (⟨plain, -⟩ | ⟨front', middle, back', cut, rfl⟩)
    · exact plain (by simp)
    · have lengths := congrArg String.length cut
      simp only [String.length_append] at lengths short
      omega

theorem Filter.skips_iff_accented :
    (∀ pattern ∈ ["éa*aé", "prüfung"], pattern.toList.count '*' ≤ 1) ∧
      (Filter.mk ["éa*aé", "prüfung"]).skips "éaaé" = true ∧
      matchesPattern "éa*aé" "éaé" = false := by
  have single : ∀ pattern ∈ ["éa*aé", "prüfung"], pattern.toList.count '*' ≤ 1 := by decide
  refine ⟨single, ?_, ?_⟩
  · exact (Filter.skips_iff single "éaaé").1.2
      ⟨"éa*aé", by simp, .inr ⟨"éa", "", "aé", by decide, by decide⟩⟩
  · exact (Filter.skips_iff single "éaé").2 "éa" "aé" (by simp) (by decide)

end ModelBench
