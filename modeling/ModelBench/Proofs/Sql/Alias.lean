import ModelBench.Proofs.Sql.Mention
import ModelBench.Proofs.Sql.Word
import ModelBench.Proofs.Text.Trim

/-!
# Aliases behind names

What a replacement takes for the alias of a mention is a clause of blanks, `AS`, blanks and a run of
alias characters that ends together with the word (`aliasAfter_eq_some_iff`). Whether there is one
is settled before the first backtick or parenthesis (`aliasAfter_append_of_stops`).
-/

namespace ModelBench.Sql

open Text

variable {label back text : List Char}

/-! ## Characters of aliases -/

theorem foldShifts_ascii_images : ∀ run ∈ foldShifts, run.2.2.2 < 128 →
    run = (0x41, 0x5A, 1, 0x61) ∨ run = (0x17F, 0x17F, 1, 0x73) ∨
      run = (0x212A, 0x212A, 1, 0x6B) := by decide +kernel

theorem isNameChar_foldCase {c : Char} (h : isNameChar c = true) :
    isNameChar (foldCase c) = true := by
  rw [isNameChar_iff] at h
  rw [foldCase, if_pos (by omega)]
  split_ifs with capital
  · have bounds : 65 ≤ c.toNat ∧ c.toNat ≤ 90 := capital
    have small : (Char.ofNat (c.toNat + 32)).toNat = c.toNat + 32 := by
      rw [Char.ofNat, dif_pos (.inl (by omega))]
      rfl
    rw [isNameChar_iff, small]
    omega
  · exact (isNameChar_iff c).2 h

/-- The alias characters outside ASCII are those that fold to a letter of ASCII: the long s and the
Kelvin sign. -/
theorem isAliasChar_iff (c : Char) :
    isAliasChar c = true ↔ isNameChar c = true ∨ c = '\u017F' ∨ c = '\u212A' := by
  have folds : isAliasChar c = isNameChar (foldCase c) := rfl
  constructor
  · intro h
    rw [folds] at h
    by_cases ascii : c.toNat < 128
    · left
      rw [foldCase, if_pos ascii] at h
      split_ifs at h with capital
      · have bounds : 65 ≤ c.toNat ∧ c.toNat ≤ 90 := capital
        exact (isNameChar_iff c).2 (.inl bounds)
      · exact h
    · rw [foldCase, if_neg ascii, Shifts.apply] at h
      split at h
      · next first last step image found =>
        -- the image is below 128, so the run is one of the three
        have mem := List.mem_of_find?_eq_some found
        have covers := List.find?_some found
        simp only [Shifts.covers, Bool.and_eq_true, decide_eq_true_eq] at covers
        obtain ⟨⟨low, high⟩, -⟩ := covers
        have small : image < 128 := by
          rw [isNameChar_iff] at h
          rcases toNat_ofNat_eq (image + (c.toNat - first)) with e | e <;> omega
        right
        rcases foldShifts_ascii_images _ mem small with e | e | e
        all_goals
          simp only [Prod.mk.injEq] at e
          obtain ⟨rfl, rfl, rfl, rfl⟩ := e
        · omega
        · left
          rw [← Char.ofNat_toNat c, show c.toNat = 0x17F by omega]
        · right
          rw [← Char.ofNat_toNat c, show c.toNat = 0x212A by omega]
      · rw [isNameChar_iff] at h
        omega
  · rintro (name | rfl | rfl)
    · exact isNameChar_foldCase name
    · decide +kernel
    · decide +kernel

theorem isBlank_of_isAliasChar {c : Char} (h : isAliasChar c = true) : isBlank c = false := by
  rcases (isAliasChar_iff c).1 h with name | rfl | rfl
  · exact isBlank_of_isNameChar name
  · decide
  · decide

theorem isWord_of_isAliasChar {c : Char} (h : isAliasChar c = true) : isWord c = true := by
  have within {first last : Nat} (mem : (first, last) ∈ wordRanges) (low : first ≤ c.toNat)
      (high : c.toNat ≤ last) : isWord c = true :=
    List.any_eq_true.2 ⟨(first, last), mem, by simp [low, high]⟩
  rcases (isAliasChar_iff c).1 h with name | rfl | rfl
  · rcases (isNameChar_iff c).1 name with ⟨low, high⟩ | ⟨low, high⟩ | ⟨low, high⟩ | same
    · exact within (.tail _ (.head _)) low high
    · exact within (.tail _ (.tail _ (.tail _ (.head _)))) low high
    · exact within (.head _) low high
    · exact within (.tail _ (.tail _ (.head _))) same.ge same.le
  · decide +kernel
  · decide +kernel

/-! ## Alias clauses -/

/-- The clause that gives an alias to the name before it: blanks, `AS` in any case, blanks, and a
run of alias characters. What is behind it continues neither the run nor the word. -/
inductive AliasClause (label back : List Char) : (clause : List Char) → Prop
  | intro {gap keyword space : List Char} (gap_ne : gap ≠ []) (gap_blank : Blanks gap)
      (keyword_as : keyword.map foldCase = ['a', 's']) (space_ne : space ≠ [])
      (space_blank : Blanks space) (label_ne : label ≠ [])
      (label_chars : ∀ c ∈ label, isAliasChar c = true)
      (run_ends : back.head?.any isAliasChar = false) (word_ends : back.head?.any isWord = false) :
      AliasClause label back (gap ++ (keyword ++ (space ++ label)))

theorem takeWhile_append_of_stop {p : Char → Bool} {run rest : List Char}
    (all : ∀ c ∈ run, p c = true) (stop : rest.head?.any p = false) :
    (run ++ rest).takeWhile p = run := by
  rw [List.takeWhile_append_of_pos all]
  cases rest with
  | nil => rw [List.takeWhile_nil, List.append_nil]
  | cons c rest => rw [List.takeWhile_cons_of_neg (by simpa using stop), List.append_nil]

theorem dropWhile_append_of_stop {p : Char → Bool} {run rest : List Char}
    (all : ∀ c ∈ run, p c = true) (stop : rest.head?.any p = false) :
    (run ++ rest).dropWhile p = rest := by
  rw [List.dropWhile_append_of_pos all, dropWhile_of_head stop]

theorem head_any_dropWhile {p : Char → Bool} (text : List Char) :
    (text.dropWhile p).head?.any p = false := by
  have h := List.head?_dropWhile_not p text
  cases eq : (text.dropWhile p).head? with
  | none => rfl
  | some c =>
    rw [eq] at h
    simpa using h

theorem head_any_append {p : Char → Bool} {run rest : List Char} (nonempty : run ≠ [])
    (none : ∀ c ∈ run, p c = false) : (run ++ rest).head?.any p = false := by
  obtain ⟨c, run, rfl⟩ := List.exists_cons_of_ne_nil nonempty
  exact none c List.mem_cons_self

theorem isBlank_of_keyword {keyword : List Char} (h : keyword.map foldCase = ['a', 's']) :
    keyword ≠ [] ∧ ∀ c ∈ keyword, isBlank c = false := by
  constructor
  · rintro rfl
    cases h
  intro c hc
  refine isBlank_of_isAliasChar ?_
  have mem : foldCase c ∈ ['a', 's'] := h ▸ List.mem_map_of_mem hc
  have folded : ∀ d ∈ ['a', 's'], isNameChar d = true := List.all_eq_true.1 (by decide)
  exact folded _ mem

/-- The alias of a name is that of the clause behind it. -/
theorem aliasAfter_eq_some_iff {size : Nat} : aliasAfter text = some (label, size) ↔
    ∃ clause back, text = clause ++ back ∧ AliasClause label back clause ∧
      size = clause.length := by
  constructor
  · intro h
    unfold aliasAfter at h
    split at h
    · cases h
    · next rest drop =>
      obtain ⟨keyword, eq, same⟩ := dropFold_eq_some_iff.1 drop
      simp only [Option.ite_none_left_eq_some, Option.some.injEq, Prod.mk.injEq, Bool.or_eq_true,
        not_or, Bool.not_eq_true, List.isEmpty_eq_false_iff] at h
      obtain ⟨⟨⟨⟨gap_ne, space_ne⟩, label_ne⟩, word_ends⟩, rfl, rfl⟩ := h
      refine ⟨text.takeWhile isBlank ++ (keyword ++ (rest.takeWhile isBlank ++
        (rest.dropWhile isBlank).takeWhile isAliasChar)),
        (rest.dropWhile isBlank).dropWhile isAliasChar, ?_, ?_, ?_⟩
      · simp only [List.append_assoc, List.takeWhile_append_dropWhile, ← eq]
      · exact .intro gap_ne (List.all_eq_true.1 List.all_takeWhile) same space_ne
          (List.all_eq_true.1 List.all_takeWhile) label_ne (List.all_eq_true.1 List.all_takeWhile)
          (head_any_dropWhile _) word_ends
      · have two : keyword.length = 2 := by simpa using congrArg List.length same
        simp only [List.length_append, two]
        omega
  · rintro ⟨_, back, rfl, clause, rfl⟩
    obtain ⟨gap_ne, gap_blank, same, space_ne, space_blank, label_ne, chars, run_ends,
      word_ends⟩ := clause
    rename_i gap keyword space
    have two : keyword.length = 2 := by simpa using congrArg List.length same
    have drop (rest : List Char) : dropFold ['a', 's'] (keyword ++ rest) = some rest :=
      dropFold_eq_some_iff.2 ⟨keyword, rfl, same⟩
    obtain ⟨keyword_ne, keyword_solid⟩ := isBlank_of_keyword same
    have afterGap : (keyword ++ (space ++ (label ++ back))).head?.any isBlank = false :=
      head_any_append keyword_ne keyword_solid
    have afterSpace : (label ++ back).head?.any isBlank = false :=
      head_any_append label_ne fun c hc => isBlank_of_isAliasChar (chars c hc)
    simp only [aliasAfter, List.append_assoc, takeWhile_append_of_stop gap_blank afterGap,
      dropWhile_append_of_stop gap_blank afterGap, drop,
      takeWhile_append_of_stop space_blank afterSpace,
      dropWhile_append_of_stop space_blank afterSpace, takeWhile_append_of_stop chars run_ends,
      dropWhile_append_of_stop chars run_ends]
    simp [gap_ne, space_ne, label_ne, word_ends, two]
    omega

/-- Neither a backtick nor a parenthesis is part of a clause. -/
theorem AliasClause.notMem {clause : List Char} (h : AliasClause label back clause) {c : Char}
    (stop : c = '\x60' ∨ c = '(') : c ∉ clause := by
  obtain ⟨-, gap_blank, same, -, space_blank, -, chars, -, -⟩ := h
  rename_i gap keyword space
  have noBlank : isBlank c = false := by rcases stop with rfl | rfl <;> decide
  have noChar : isAliasChar c = false := by rcases stop with rfl | rfl <;> decide +kernel
  have noKeyword : c ∉ keyword := by
    have fixed : isFixed c.toNat = true := by rcases stop with rfl | rfl <;> decide
    rw [← mem_map_foldCase fixed, same]
    rcases stop with rfl | rfl <;> decide
  simp only [List.mem_append, not_or]
  exact ⟨fun h => by simp [gap_blank _ h] at noBlank, noKeyword,
    fun h => by simp [space_blank _ h] at noBlank, fun h => by simp [chars _ h] at noChar⟩

/-! ## Where clauses end -/

/-- Whether a text is empty or begins with a backtick or a parenthesis. -/
def Stops (text : List Char) : Prop := ∀ c ∈ text.head?, c = '\x60' ∨ c = '('

theorem Stops.head_any {p : Char → Bool} (stops : Stops back) (tick : p '\x60' = false)
    (paren : p '(' = false) : back.head?.any p = false := by
  refine (Option.any_eq_false _ _).2 fun c hc => ?_
  rcases stops c hc with rfl | rfl
  · exact tick
  · exact paren

/-- What is behind a clause matters by its first character only. -/
theorem AliasClause.of_ends {clause back' : List Char} (h : AliasClause label back clause)
    (run_ends : back'.head?.any isAliasChar = false) (word_ends : back'.head?.any isWord = false) :
    AliasClause label back' clause := by
  obtain ⟨gap_ne, gap_blank, same, space_ne, space_blank, label_ne, chars, -, -⟩ := h
  exact .intro gap_ne gap_blank same space_ne space_blank label_ne chars run_ends word_ends

theorem AliasClause.ends {clause : List Char} (h : AliasClause label back clause) :
    back.head?.any isAliasChar = false ∧ back.head?.any isWord = false := by
  obtain ⟨-, -, -, -, -, -, -, run_ends, word_ends⟩ := h
  exact ⟨run_ends, word_ends⟩

/-- A clause does not reach a place where a text stops, and what comes there does not matter. -/
theorem AliasClause.of_stops {clause front rest rest' : List Char}
    (h : AliasClause label back clause) (eq : front ++ rest = clause ++ back) (stops : Stops rest)
    (stops' : Stops rest') :
    ∃ back', front ++ rest' = clause ++ back' ∧ AliasClause label back' clause := by
  have here : rest'.head?.any isAliasChar = false ∧ rest'.head?.any isWord = false :=
    ⟨stops'.head_any (by decide +kernel) (by decide +kernel),
      stops'.head_any (by decide +kernel) (by decide +kernel)⟩
  rcases List.append_eq_append_iff.1 eq with ⟨beyond, whole, tail⟩ | ⟨left, rfl, rfl⟩
  · cases beyond with
    | nil =>
      rw [List.append_nil] at whole
      exact ⟨rest', by rw [whole], h.of_ends here.1 here.2⟩
    | cons c beyond =>
      -- what the clause has beyond the front begins where the text stops
      have first : c ∈ rest.head? := by rw [tail]; rfl
      have inside : c ∈ clause := whole ▸ List.mem_append_right _ List.mem_cons_self
      exact absurd inside (h.notMem (stops c first))
  · refine ⟨left ++ rest', by rw [List.append_assoc], ?_⟩
    cases left with
    | nil => exact h.of_ends here.1 here.2
    | cons c left => exact h.of_ends h.ends.1 h.ends.2

/-- The alias of a name is settled before the text behind it stops. -/
theorem aliasAfter_append_of_stops {front rest rest' : List Char} (stops : Stops rest)
    (stops' : Stops rest') : aliasAfter (front ++ rest) = aliasAfter (front ++ rest') := by
  have one_way {rest rest' : List Char} (stops : Stops rest) (stops' : Stops rest')
      {found : List Char × Nat} (h : aliasAfter (front ++ rest) = some found) :
      aliasAfter (front ++ rest') = some found := by
    obtain ⟨label, size⟩ := found
    obtain ⟨clause, back, eq, alias_, rfl⟩ := aliasAfter_eq_some_iff.1 h
    obtain ⟨back', eq', alias_'⟩ := alias_.of_stops eq stops stops'
    exact aliasAfter_eq_some_iff.2 ⟨clause, back', eq', alias_', rfl⟩
  exact Option.ext fun found => ⟨one_way stops stops', one_way stops' stops⟩

/-! ## Mentions with an alias -/

theorem aliasedMention_eq_some_iff {r : Replacement} {new : List Char} {size : Nat} :
    aliasedMention r text = some (new, size) ↔ ∃ mention clause label back,
      text = mention ++ (clause ++ back) ∧
        mention.map foldCase = r.fullName.toList.map foldCase ∧ AliasClause label back clause ∧
        new = r.subquery label ∧ size = r.fullName.toList.length + clause.length := by
  rw [aliasedMention]
  constructor
  · intro h
    cases drop : dropFold r.fullName.toList text with
    | none => simp [drop] at h
    | some rest =>
      cases after : aliasAfter rest with
      | none => simp [drop, after] at h
      | some found =>
        obtain ⟨label, length⟩ := found
        obtain ⟨mention, rfl, same⟩ := dropFold_eq_some_iff.1 drop
        obtain ⟨clause, back, rfl, alias_, rfl⟩ := aliasAfter_eq_some_iff.1 after
        simp only [drop, after, Option.bind_eq_bind, Option.bind_some, Option.pure_def,
          Option.some.injEq, Prod.mk.injEq] at h
        exact ⟨mention, clause, label, back, rfl, same, alias_, h.1.symm, h.2.symm⟩
  · rintro ⟨mention, clause, label, back, rfl, same, alias_, rfl, rfl⟩
    have after : aliasAfter (clause ++ back) = some (label, clause.length) :=
      aliasAfter_eq_some_iff.2 ⟨clause, back, rfl, alias_, rfl⟩
    simp [dropFold_of_same same, after]

theorem aliasedMention_of_not_beginsWith {r : Replacement}
    (other : ¬ BeginsWith r.fullName.toList text) : aliasedMention r text = none := by
  rw [aliasedMention, dropFold_eq_none_iff.2 other]
  rfl

end ModelBench.Sql
