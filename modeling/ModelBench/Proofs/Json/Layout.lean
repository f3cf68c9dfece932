import ModelBench.Json.Reader
import ModelBench.Proofs.Json.Number
import ModelBench.Proofs.Json.Text

/-!
# The indented form read back

Between the parts of an array or object stand commas, line ends and blanks, which readers pass over.
So where each item or member is read from its own text, whatever follows it, the whole list is read
from its indented form (`exists_readItems`, `exists_readMembers`).
-/

namespace ModelBench.Json

variable {α : Type} {text rest input : List Char} {level steps : Nat}

/-! ## Values without parts -/

theorem indented_string (level : Nat) (s : String) : indented level (.string s) = renderText s := by
  simp [indented, renderAtom]

theorem indented_ofNat (level n : Nat) : indented level (.ofNat n) = Nat.toDigits 10 n := by
  have digits : toString (n : Int) = toString n := rfl
  simp [indented, ofNat, renderAtom, Number.render, digits]

theorem indented_nil (level : Nat) : indented level (.array []) = ['[', ']'] := by
  simp [indented, renderAtom]

theorem indented_empty (level : Nat) : indented level (.object []) = ['{', '}'] := by
  simp [indented, renderAtom]

/-! ## Gaps -/

theorem skipGap_cons_of_gap {c : Char} (gap : isGap c = true) :
    skipGap (c :: rest) = skipGap rest := by
  rw [skipGap, List.dropWhile_cons_of_pos gap, skipGap]

theorem skipGap_cons {c : Char} (solid : isGap c = false) : skipGap (c :: rest) = c :: rest := by
  rw [skipGap, List.dropWhile_cons_of_neg (by rw [solid]; decide)]

@[simp] theorem skipGap_newline (level : Nat) (input : List Char) :
    skipGap (newline level ++ input) = skipGap input := by
  rw [skipGap, List.dropWhile_append_of_pos, skipGap]
  intro c member
  rcases List.mem_cons.1 member with rfl | blank
  · decide
  · rw [List.eq_of_mem_replicate blank]
    decide

/-- Whether a text can start a value: with no gap and no closing bracket. -/
def Opens (text : List Char) : Prop := ∃ c tail, text = c :: tail ∧ isGap c = false ∧ c ≠ ']'

theorem Opens.skipGap (opens : Opens text) : skipGap (text ++ rest) = text ++ rest := by
  obtain ⟨c, tail, rfl, solid, -⟩ := opens
  exact skipGap_cons solid

theorem ended_newline (level : Nat) (rest : List Char) : Ended (newline level ++ rest) := by
  rintro c ⟨⟩
  exact .inr (by decide)

theorem ended_comma (rest : List Char) : Ended (',' :: rest) := by
  rintro c ⟨⟩
  exact .inl rfl

theorem ended_nil : Ended [] := by
  rintro c ⟨⟩

/-! ## Separators -/

theorem nextItem_close (first : Bool) (h : skipGap input = ']' :: rest) :
    nextItem first input = .ok (.done rest) := by
  rw [nextItem, h]
  rfl

theorem nextItem_first (opens : Opens text) :
    nextItem true (newline level ++ (text ++ rest)) = .ok (.more (text ++ rest)) := by
  rw [nextItem, skipGap_newline, opens.skipGap]
  obtain ⟨c, tail, rfl, -, other⟩ := opens
  rw [List.cons_append]
  split
  · next eq => cases eq
  · next eq => exact absurd (List.cons.inj eq).1 other
  · next eq => exact congrArg (Except.ok ∘ Next.more) eq.symm

theorem nextItem_later (opens : Opens text) :
    nextItem false (',' :: (newline level ++ (text ++ rest))) = .ok (.more (text ++ rest)) := by
  have comma (input : List Char) : skipGap (',' :: input) = ',' :: input := skipGap_cons (by decide)
  obtain ⟨c, tail, rfl, solid, other⟩ := opens
  have item : skipGap (newline level ++ (c :: tail ++ rest)) = c :: (tail ++ rest) := by
    rw [skipGap_newline]
    exact skipGap_cons solid
  rw [nextItem, comma]
  split
  · next eq => cases eq
  · next eq => exact absurd (List.cons.inj eq).1 (by decide)
  · next eq =>
    obtain ⟨rfl, rfl⟩ := List.cons.inj eq
    rw [if_neg Bool.false_ne_true, if_pos rfl, item]
    split
    · next eq => cases eq
    · next eq => exact absurd (List.cons.inj eq).1 other
    · rfl

theorem nextMember_close (first : Bool) (h : skipGap input = '}' :: rest) :
    nextMember first input = .ok (.done rest) := by
  rw [nextMember, h]
  rfl

theorem nextMember_first : nextMember true (newline level ++ '"' :: rest) = .ok (.more rest) := by
  have quote : skipGap ('"' :: rest) = '"' :: rest := skipGap_cons (by decide)
  rw [nextMember, skipGap_newline, quote]
  rfl

theorem nextMember_later :
    nextMember false (',' :: (newline level ++ '"' :: rest)) = .ok (.more rest) := by
  have comma (input : List Char) : skipGap (',' :: input) = ',' :: input := skipGap_cons (by decide)
  have quote : skipGap (newline level ++ '"' :: rest) = '"' :: rest := by
    rw [skipGap_newline, skipGap_cons (by decide)]
  simp [nextMember, comma, quote]

theorem expectColon_space : expectColon (':' :: ' ' :: rest) = .ok (' ' :: rest) := by
  rw [expectColon, skipGap_cons (by decide)]
  rfl

/-! ## Lists of parts -/

/-- Whether a reader takes a value from a text, whatever follows the value. -/
def Takes (reader : List Char → Except ReadError (α × List Char)) (text : List Char) (value : α) :
    Prop :=
  ∀ rest, Ended rest → reader (text ++ rest) = .ok (value, rest)

/-- A text is made of at least as many characters as the list it stands for has parts. -/
theorem length_lt_indentedItems (level : Nat) (items : List Json) :
    items.length < (indentedItems level items).length := by
  induction items with
  | nil => simp [indentedItems, newline]
  | cons item items ih =>
    rw [indentedItems]
    simp only [List.length_append, List.length_cons]
    omega

theorem length_lt_indentedMembers (level : Nat) (members : List (String × Json)) :
    members.length < (indentedMembers level members).length := by
  induction members with
  | nil => simp [indentedMembers, newline]
  | cons member members ih =>
    obtain ⟨name, value⟩ := member
    rw [indentedMembers]
    simp only [List.length_append, List.length_cons]
    omega

theorem ended_indentedItems (level : Nat) (items : List Json) (rest : List Char) :
    Ended (indentedItems level items ++ rest) := by
  cases items with
  | nil =>
    rw [indentedItems, List.append_assoc]
    exact ended_newline level _
  | cons item items =>
    rw [indentedItems]
    exact ended_comma _

theorem ended_indentedMembers (level : Nat) (members : List (String × Json)) (rest : List Char) :
    Ended (indentedMembers level members ++ rest) := by
  cases members with
  | nil =>
    rw [indentedMembers, List.append_assoc]
    exact ended_newline level _
  | cons member members =>
    rw [indentedMembers]
    exact ended_comma _

/-! ### Arrays -/

section

variable {item : List Char → Except ReadError (α × List Char)} {items : List Json} {values : List α}

/-- An item that is read is the first of the values. -/
theorem readItems_step {first : Bool} {v : α} {after : List Char}
    (opened : nextItem first input = .ok (.more text)) (taken : item text = .ok (v, after))
    (later : readItems item steps false after = .ok (values, rest)) :
    readItems item (steps + 1) first input = .ok (v :: values, rest) := by
  rw [readItems, opened]
  show (item text >>= _) = _
  rw [taken]
  show (readItems item steps false after >>= _) = _
  rw [later]
  rfl

/-- The items of an array after the first one are read back. -/
theorem readItems_indentedItems
    (each : List.Forall₂ (fun w v => Opens (indented (level + 1) w) ∧
      Takes item (indented (level + 1) w) v) items values)
    (enough : items.length < steps) (rest : List Char) :
    readItems item steps false (indentedItems level items ++ rest) = .ok (values, rest) := by
  induction each generalizing steps with
  | nil =>
    obtain ⟨steps, rfl⟩ := Nat.exists_eq_add_of_lt enough
    rw [readItems, indentedItems, nextItem_close]
    · rfl
    · rw [List.append_assoc, skipGap_newline]
      exact skipGap_cons (by decide)
  | @cons w v items values head tail ih =>
    obtain ⟨opens, takes⟩ := head
    obtain ⟨steps, rfl⟩ := Nat.exists_eq_add_one_of_ne_zero (Nat.ne_of_gt (Nat.zero_lt_of_lt enough))
    have later := ih (Nat.lt_of_succ_lt_succ enough)
    have input : indentedItems level (w :: items) ++ rest =
        ',' :: (newline (level + 1) ++
          (indented (level + 1) w ++ (indentedItems level items ++ rest))) := by
      simp [indentedItems]
    rw [input]
    exact readItems_step (nextItem_later opens) (takes _ (ended_indentedItems level items rest)) later

/-- An array is read back if all its items are. -/
theorem exists_readItems
    (each : List.Forall₂ (fun w v => Opens (indented (level + 1) w) ∧
      Takes item (indented (level + 1) w) v) items values) (rest : List Char) :
    ∃ tail, indented level (.array items) ++ rest = '[' :: tail ∧
      readItems item (tail.length + 1) true tail = .ok (values, rest) := by
  cases each with
  | nil =>
    refine ⟨']' :: rest, by rw [indented_nil]; rfl, ?_⟩
    rw [readItems, nextItem_close true (skipGap_cons (by decide))]
    rfl
  | @cons w v items values head tail =>
    obtain ⟨opens, takes⟩ := head
    refine ⟨newline (level + 1) ++ (indented (level + 1) w ++ (indentedItems level items ++ rest)),
      by simp [indented], ?_⟩
    refine readItems_step (nextItem_first opens) (takes _ (ended_indentedItems level items rest))
      (readItems_indentedItems tail ?_ rest)
    -- every part takes some of the characters that are left
    have longer := length_lt_indentedItems level items
    simp only [List.length_append]
    omega

end

/-! ### Objects -/

section

variable
  {member : List (String × Json) → String → List Char →
    Except ReadError (List (String × Json) × List Char)}
  {members found values : List (String × Json)}

/-- Whether a member is taken from its own text and put behind what was found before, if its name is
new. -/
def TakesMember
    (member : List (String × Json) → String → List Char →
      Except ReadError (List (String × Json) × List Char))
    (level : Nat) (w v : String × Json) : Prop :=
  v.1 = w.1 ∧ ∀ found, w.1 ∉ found.map Prod.fst →
    Takes (member found w.1) (':' :: ' ' :: indented (level + 1) w.2) (found ++ [v])

/-- A member that is read puts one more value behind what was found. -/
theorem readMembers_step {first : Bool} {name : String} {after : List Char}
    (opened : nextMember first input = .ok (.more text)) (named : readString text = .ok (name, after))
    (taken : member found name after = .ok (values, rest)) :
    readMembers member (steps + 1) first found input = readMembers member steps false values rest := by
  rw [readMembers, opened]
  show (readString text >>= _) = _
  rw [named]
  show (member found name after >>= _) = _
  rw [taken]
  rfl

/-- The members of an object after the first one are read back. -/
theorem readMembers_indentedMembers
    (each : List.Forall₂ (TakesMember member level) members values)
    (nodup : (found.map Prod.fst ++ members.map Prod.fst).Nodup) (enough : members.length < steps)
    (rest : List Char) :
    readMembers member steps false found (indentedMembers level members ++ rest) =
      .ok (found ++ values, rest) := by
  induction each generalizing steps found with
  | nil =>
    obtain ⟨steps, rfl⟩ := Nat.exists_eq_add_of_lt enough
    rw [readMembers, indentedMembers, nextMember_close, List.append_nil]
    · rfl
    · rw [List.append_assoc, skipGap_newline]
      exact skipGap_cons (by decide)
  | @cons w v members values head tail ih =>
    obtain ⟨name, written⟩ := w
    obtain ⟨same, takes⟩ := head
    obtain ⟨steps, rfl⟩ := Nat.exists_eq_add_one_of_ne_zero (Nat.ne_of_gt (Nat.zero_lt_of_lt enough))
    have new : name ∉ found.map Prod.fst := fun old =>
      (List.nodup_append.1 nodup).2.2 name old name List.mem_cons_self rfl
    have taken := takes found new _ (ended_indentedMembers level members rest)
    have later := @ih steps (found ++ [v]) (by simpa [same] using nodup)
      (Nat.lt_of_succ_lt_succ enough)
    obtain ⟨text, eq, named⟩ := readString_renderText name
      (':' :: ' ' :: indented (level + 1) written ++ (indentedMembers level members ++ rest))
    have input : indentedMembers level ((name, written) :: members) ++ rest =
        ',' :: (newline (level + 1) ++ '"' :: text) := by
      rw [← eq]
      simp [indentedMembers]
    rw [input, readMembers_step nextMember_later named taken, later, List.append_assoc]
    rfl

/-- An object is read back if all its members are. -/
theorem exists_readMembers
    (each : List.Forall₂ (TakesMember member level) members values)
    (nodup : (members.map Prod.fst).Nodup) (rest : List Char) :
    ∃ tail, indented level (.object members) ++ rest = '{' :: tail ∧
      readMembers member (tail.length + 1) true [] tail = .ok (values, rest) := by
  cases each with
  | nil =>
    refine ⟨'}' :: rest, by rw [indented_empty]; rfl, ?_⟩
    rw [readMembers, nextMember_close true (skipGap_cons (by decide))]
    rfl
  | @cons w v members values head tail =>
    obtain ⟨name, written⟩ := w
    obtain ⟨same, takes⟩ := head
    have taken := takes [] List.not_mem_nil _ (ended_indentedMembers level members rest)
    obtain ⟨text, eq, named⟩ := readString_renderText name
      (':' :: ' ' :: indented (level + 1) written ++ (indentedMembers level members ++ rest))
    refine ⟨newline (level + 1) ++ '"' :: text, ?_, ?_⟩
    · rw [← eq]
      simp [indented]
    · rw [readMembers_step nextMember_first named taken, readMembers_indentedMembers tail]
      · rfl
      · simpa [same] using nodup
      · -- every part takes some of the characters that are left
        have longer := length_lt_indentedMembers level members
        have lengths := congrArg List.length eq
        simp only [List.length_append, List.length_cons] at lengths ⊢
        omega

end

end ModelBench.Json
