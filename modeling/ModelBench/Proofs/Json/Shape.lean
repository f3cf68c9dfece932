import ModelBench.Json.Shape
import ModelBench.Proofs.Json.Layout
import Mathlib.Data.List.Forall2

/-!
# Shapes that read what was written

A shape reads a value that was written in indented form if it does so wherever the value may stand:
at any level, before anything that can follow a value, and with room for its brackets
(`Shape.Reads`). Every kind of shape does if its parts do, and then whole texts are read as well
(`Shape.Reads.parse`).
-/

namespace ModelBench.Json

variable {shape inner item : Shape} {fields : Fields} {height depth level n limit : Nat}
  {written value : Json} {input rest : List Char} {name wanted s : String}

/-! ## Beginnings -/

theorem opens_string (level : Nat) (s : String) : Opens (indented level (.string s)) := by
  rw [indented_string]
  exact ⟨'"', _, rfl, by decide, by decide⟩

theorem opens_array (level : Nat) (items : List Json) : Opens (indented level (.array items)) := by
  cases items with
  | nil =>
    rw [indented_nil]
    exact ⟨'[', _, rfl, by decide, by decide⟩
  | cons item items =>
    rw [indented]
    exact ⟨'[', _, rfl, by decide, by decide⟩

theorem opens_object (level : Nat) (members : List (String × Json)) :
    Opens (indented level (.object members)) := by
  cases members with
  | nil =>
    rw [indented_empty]
    exact ⟨'{', _, rfl, by decide, by decide⟩
  | cons member members =>
    rw [indented]
    exact ⟨'{', _, rfl, by decide, by decide⟩

theorem not_gap_of_isDigit {c : Char} (digit : isDigit c = true) : isGap c = false ∧ c ≠ ']' := by
  refine ⟨?_, ?_⟩
  · by_contra gap
    simp only [isGap, Bool.not_eq_false, Bool.or_eq_true, beq_iff_eq] at gap
    rcases gap with ((rfl | rfl) | rfl) | rfl <;> revert digit <;> decide
  · rintro rfl
    revert digit
    decide

/-- The digits of a number start with a digit. -/
theorem exists_digit (n : Nat) : ∃ c digits, Nat.toDigits 10 n = c :: digits ∧ isDigit c = true := by
  obtain ⟨c, digits, eq⟩ := List.exists_cons_of_ne_nil (Nat.toDigits_ne_nil (n := n) (b := 10))
  exact ⟨c, digits, eq, isDigit_of_mem_toDigits c (by rw [eq]; exact List.mem_cons_self)⟩

theorem opens_ofNat (level n : Nat) : Opens (indented level (.ofNat n)) := by
  rw [indented_ofNat]
  obtain ⟨c, digits, eq, digit⟩ := exists_digit n
  exact ⟨c, digits, eq, not_gap_of_isDigit digit⟩

/-! ## Shapes -/

/-- Whether a shape reads a value that was written as what it was written from, with room for some
brackets inside each other. -/
structure Shape.Reads (shape : Shape) (height : Nat) (written value : Json) : Prop where
  opens : ∀ level, Opens (indented level written)
  takes : ∀ depth, height < depth → ∀ level,
    Takes (shape.read depth) (indented level written) value

namespace Shape

theorem Reads.mono {more : Nat} (h : shape.Reads height written value) (le : height ≤ more) :
    shape.Reads more written value :=
  ⟨h.opens, fun depth room => h.takes depth (Nat.lt_of_le_of_lt le room)⟩

/-- A shape passes over the gap that a value starts with. -/
theorem read_congr {other : List Char} (same : skipGap input = skipGap other) :
    (shape : Shape) → shape.read depth input = shape.read depth other
  | .text wanted => by rw [Shape.read, Shape.read, readText, readText, same]
  | .count limit wanted => by rw [Shape.read, Shape.read, readCount, readCount, same]
  | .choice names => by rw [Shape.read, Shape.read, readChoice, readChoice, same]
  | .optional inner => by rw [Shape.read, Shape.read, same, read_congr same inner]
  | .list item => by rw [Shape.read, Shape.read, same]
  | .pair first second => by rw [Shape.read, Shape.read, same]
  | .dictionary item => by rw [Shape.read, Shape.read, same]
  | .record name fields => by rw [Shape.read, Shape.read, same]
  | .anything => by
    cases depth with
    | zero => rfl
    | succ depth => rw [Shape.read, Shape.read, readValue, readValue, same]

theorem reads_text : (text wanted).Reads height (.string s) (.string s) := by
  refine ⟨fun level => opens_string level s, ?_⟩
  intro depth _ level rest _
  obtain ⟨tail, eq, read⟩ := readString_renderText s rest
  rw [indented_string, eq, Shape.read, readText, skipGap_cons (by decide)]
  show (readString tail >>= _) = _
  rw [read]
  rfl

theorem reads_choice {names : List String} (member : name ∈ names) :
    (choice names).Reads height (.string name) (.string name) := by
  refine ⟨fun level => opens_string level name, ?_⟩
  intro depth _ level rest _
  obtain ⟨tail, eq, read⟩ := readString_renderText name rest
  rw [indented_string, eq, Shape.read, readChoice, skipGap_cons (by decide)]
  show (readString tail >>= _) = _
  rw [read]
  show (checkName names name >>= _) = _
  rw [checkName, if_pos member]
  rfl

theorem reads_count (fits : n ≤ limit) (small : limit ≤ greatestSignificand) :
    (count limit wanted).Reads height (.ofNat n) (.ofNat n) := by
  refine ⟨fun level => opens_ofNat level n, ?_⟩
  intro depth _ level rest ended
  have read := readNumber_toDigits (Nat.le_trans fits small) ended
  obtain ⟨c, digits, eq, digit⟩ := exists_digit n
  have minus : c ≠ '-' := by
    rintro rfl
    revert digit
    decide
  rw [eq, List.cons_append] at read
  rw [indented_ofNat, eq, List.cons_append, Shape.read, readCount,
    skipGap_cons (not_gap_of_isDigit digit).1]
  split
  · next same => cases same
  · next same => exact absurd (List.cons.inj same).1 minus
  · next same =>
    obtain ⟨rfl, rfl⟩ := List.cons.inj same
    rw [if_pos digit, read]
    have range : 0 ≤ (n : Int) ∧ (n : Int) ≤ limit := by omega
    show ((if 0 ≤ (n : Int) ∧ (n : Int) ≤ limit then _ else _ : Except ReadError Json) >>= _) = _
    rw [if_pos range]
    rfl

/-- A value that does not start like null is read as if it were not optional. -/
theorem Reads.optional (h : inner.Reads height written value)
    (present : ∀ level, (indented level written).head? ≠ some 'n') :
    (Shape.optional inner).Reads height written value := by
  refine ⟨h.opens, ?_⟩
  intro depth room level rest ended
  rw [Shape.read, (h.opens level).skipGap]
  split
  · next same =>
    obtain ⟨c, tail, eq, -⟩ := h.opens level
    have head := present level
    rw [eq, List.head?_cons] at head
    rw [eq, List.cons_append] at same
    exact absurd (congrArg some (List.cons.inj same).1) head
  · exact h.takes depth room level rest ended

theorem enter_of_lt (room : height + 1 < depth) : enter depth = .ok (depth - 1) := by
  rw [enter, if_neg (by omega)]

theorem Reads.list {items values : List Json}
    (each : List.Forall₂ (item.Reads height) items values) :
    (Shape.list item).Reads (height + 1) (.array items) (.array values) := by
  refine ⟨fun level => opens_array level items, ?_⟩
  intro depth room level rest _
  have parts : List.Forall₂ (fun w v => Opens (indented (level + 1) w) ∧
      Takes (item.read (depth - 1)) (indented (level + 1) w) v) items values :=
    each.imp fun w v h => ⟨h.opens (level + 1), h.takes (depth - 1) (by omega) (level + 1)⟩
  obtain ⟨tail, eq, read⟩ := exists_readItems parts rest
  rw [eq, Shape.read, skipGap_cons (by decide), enter_of_lt room]
  show (readItems (item.read (depth - 1)) _ true tail >>= _) = _
  rw [read]
  rfl

theorem Reads.pair {first second : Shape} {a b x y : Json} (h : first.Reads height a x)
    (h' : second.Reads height b y) :
    (Shape.pair first second).Reads (height + 1) (.array [a, b]) (.array [x, y]) := by
  refine ⟨fun level => opens_array level _, ?_⟩
  intro depth room level rest _
  have text : indented level (.array [a, b]) ++ rest =
      '[' :: (newline (level + 1) ++ (indented (level + 1) a ++
        (',' :: (newline (level + 1) ++ (indented (level + 1) b ++
          (newline level ++ ']' :: rest)))))) := by
    simp [indented, indentedItems]
  have close : closeArray (newline level ++ ']' :: rest) = .ok rest := by
    rw [closeArray, skipGap_newline, skipGap_cons (by decide)]
    rfl
  rw [text, Shape.read, skipGap_cons (by decide), enter_of_lt room]
  show (nextItem true _ >>= _) = _
  rw [nextItem_first (h.opens (level + 1))]
  show (first.read (depth - 1) _ >>= _) = _
  rw [h.takes (depth - 1) (by omega) (level + 1) _ (ended_comma _)]
  show (nextItem false _ >>= _) = _
  rw [nextItem_later (h'.opens (level + 1))]
  show (second.read (depth - 1) _ >>= _) = _
  rw [h'.takes (depth - 1) (by omega) (level + 1) _ (ended_newline level _)]
  show (closeArray _ >>= _) = _
  rw [close]
  rfl

end Shape

/-! ## Records -/

/-- The shape of the field of a name. -/
def Fields.find? (wanted : String) : Fields → Option Shape
  | .nil => none
  | .cons name shape _ rest => if name = wanted then some shape else rest.find? wanted

theorem Fields.readNamed_of_find? :
    (fields : Fields) → fields.find? wanted = some shape →
      fields.readNamed depth wanted input = shape.read depth input
  | .nil, found => by cases found
  | .cons name own _ rest, found => by
    rw [Fields.find?] at found
    rw [Fields.readNamed]
    split_ifs at found ⊢
    · rw [Option.some.inj found]
    · exact readNamed_of_find? rest found

theorem Fields.mem_names_of_find? :
    (fields : Fields) → fields.find? wanted = some shape → wanted ∈ fields.names
  | .nil, found => by cases found
  | .cons name own _ rest, found => by
    rw [Fields.find?] at found
    rw [Fields.names]
    split_ifs at found with same
    · exact same ▸ List.mem_cons_self
    · exact List.mem_cons_of_mem _ (mem_names_of_find? rest found)

/-- Whether the field of the name of a member reads its value as that of another one. -/
def Fields.ReadsMember (fields : Fields) (height : Nat) (w v : String × Json) : Prop :=
  v.1 = w.1 ∧ ∃ shape, fields.find? w.1 = some shape ∧ shape.Reads height w.2 v.2

theorem Fields.readsMember (known : fields.find? name = some shape)
    (reads : shape.Reads height written value) :
    fields.ReadsMember height (name, written) (name, value) :=
  ⟨rfl, shape, known, reads⟩

/-- The member of a record at the start of the input: an unknown one is skipped, and none may come
twice. -/
def Fields.readMember (fields : Fields) (depth : Nat) (found : List (String × Json)) (name : String)
    (rest : List Char) : Except ReadError (List (String × Json) × List Char) := do
  if name ∈ fields.names then
    if (found.lookup name).isSome then throw (.duplicateField name)
    let (value, rest) ← fields.readNamed depth name (← expectColon rest)
    return (found ++ [(name, value)], rest)
  else
    return (found, ← skipValue (← expectColon rest))

theorem Fields.ReadsMember.takes {w v : String × Json} (h : fields.ReadsMember height w v)
    (room : height < depth) (level : Nat) : TakesMember (fields.readMember depth) level w v := by
  obtain ⟨key, written⟩ := w
  obtain ⟨same, value⟩ := v
  obtain ⟨rfl, shape, known, reads⟩ := h
  refine ⟨rfl, ?_⟩
  intro found new rest ended
  have free : (found.lookup same).isSome = false := by
    rw [Option.isSome_eq_false_iff, Option.isNone_iff_eq_none, List.lookup_eq_none_iff]
    intro entry member
    exact bne_iff_ne.2 fun old => new (List.mem_map.2 ⟨entry, member, old.symm⟩)
  have gap : skipGap (' ' :: (indented (level + 1) written ++ rest)) =
      skipGap (indented (level + 1) written ++ rest) := skipGap_cons_of_gap (by decide)
  show fields.readMember depth found same
    (':' :: ' ' :: (indented (level + 1) written ++ rest)) = _
  rw [Fields.readMember, if_pos (mem_names_of_find? fields known), free, expectColon_space]
  show (fields.readNamed depth same (' ' :: (indented (level + 1) written ++ rest)) >>= _) = _
  rw [readNamed_of_find? fields known, Shape.read_congr gap shape,
    reads.takes depth room (level + 1) rest ended]
  rfl

theorem Shape.Reads.record {members found values : List (String × Json)}
    (each : List.Forall₂ (fields.ReadsMember height) members found)
    (nodup : (members.map Prod.fst).Nodup) (assembled : fields.assemble found = .ok values) :
    (Shape.record name fields).Reads (height + 1) (.object members) (.object values) := by
  refine ⟨fun level => opens_object level members, ?_⟩
  intro depth room level rest _
  have parts : List.Forall₂ (TakesMember (fields.readMember (depth - 1)) level) members found :=
    each.imp fun w v h => h.takes (by omega) level
  obtain ⟨tail, eq, read⟩ := exists_readMembers parts nodup rest
  rw [eq, Shape.read, skipGap_cons (by decide), enter_of_lt room]
  show (readMembers (fields.readMember (depth - 1)) _ true [] tail >>= _) = _
  rw [read]
  show (fields.assemble found >>= _) = _
  rw [assembled]
  rfl

/-! ## Whole texts -/

/-- A text is read as the value it was written from. -/
theorem Shape.Reads.parse (h : shape.Reads height written value) (room : height < depthLimit) :
    shape.parse written.renderIndented = .ok value := by
  have read := h.takes depthLimit room 0 [] ended_nil
  rw [List.append_nil] at read
  rw [Shape.parse, renderIndented, String.toList_ofList, read]
  rfl

end ModelBench.Json
