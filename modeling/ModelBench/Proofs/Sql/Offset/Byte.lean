import ModelBench.Proofs.Sql.Marks
import ModelBench.Proofs.Text.Offset

/-!
# Bytes of statements

Names, quotes and the case of letters are read off single bytes. The bytes of a text of characters
with one byte each are compared with others as the characters are (`window_same_iff`), since the
bytes of longer characters are none of theirs. A keyword is thus found where a text starts with it,
and what follows it starts at a border (`stripKeyword_eq`).
-/

namespace ModelBench.Sql.ByOffset

open Text

variable {text past rest found pattern : List Char} {c : Char}

/-! ## Bytes of names and quotes -/

/-- Whether a byte is one of a plain name. -/
def isNameByte (b : UInt8) : Bool :=
  (byte 'A' ≤ b && b ≤ byte 'Z') || (byte 'a' ≤ b && b ≤ byte 'z') ||
    (byte '0' ≤ b && b ≤ byte '9') || b == byte '_'

/-- The byte of the small letter, if the byte is one of a capital. -/
def lowerByte (b : UInt8) : UInt8 := if byte 'A' ≤ b ∧ b ≤ byte 'Z' then b + 32 else b

/-- Whether a byte opens a quote. -/
def isQuoteByte (b : UInt8) : Bool := b == byte '"' || b == byte '\'' || b == byte '\x60'

theorem ne_of_large {b d : UInt8} (large : 128 ≤ b) (small : d < 128) : b ≠ d := fun eq =>
  absurd (UInt8.lt_of_le_of_lt large (eq ▸ small)) (UInt8.lt_irrefl _)

theorem byte_le_byte {d : Char} (small : IsSmall c) (small' : IsSmall d) :
    byte c ≤ byte d ↔ c.toNat ≤ d.toNat := by
  rw [UInt8.le_iff_toNat_le, toNat_byte small, toNat_byte small']

theorem isNameByte_byte (small : IsSmall c) : isNameByte (byte c) = isNameChar c := by
  rw [Bool.eq_iff_iff, isNameChar_iff, isNameByte]
  simp only [Bool.or_eq_true, Bool.and_eq_true, decide_eq_true_eq, beq_iff_eq]
  rw [byte_le_byte (by decide) small, byte_le_byte small (by decide),
    byte_le_byte (by decide) small, byte_le_byte small (by decide),
    byte_le_byte (by decide) small, byte_le_byte small (by decide),
    byte_inj small (by decide), or_assoc, or_assoc]
  have underscore : c = '_' ↔ c.toNat = 95 :=
    ⟨fun eq => eq ▸ rfl, fun eq => by rw [← Char.ofNat_toNat c, eq]⟩
  rw [underscore]
  rfl

theorem isNameByte_of_le {b : UInt8} (large : 128 ≤ b) : isNameByte b = false := by
  have le_toNat : 128 ≤ b.toNat := UInt8.le_iff_toNat_le.1 large
  have above (d : Char) (small : IsSmall d) : ¬ b ≤ byte d := fun le => by
    rw [UInt8.le_iff_toNat_le, toNat_byte small] at le
    exact absurd (Nat.lt_of_le_of_lt le small) (Nat.not_lt.2 le_toNat)
  have other : b ≠ byte '_' := fun eq => above '_' (by decide) (eq ▸ UInt8.le_refl _)
  simp [isNameByte, above 'Z' (by decide), above 'z' (by decide), above '9' (by decide), other]

theorem isNameChar_of_large (large : ¬ IsSmall c) : isNameChar c = false := by
  rw [← Bool.not_eq_true, isNameChar_iff]
  rw [IsSmall] at large
  omega

/-- Every byte of a character is one of a name exactly if the character is. -/
theorem isNameByte_of_mem {b : UInt8} (member : b ∈ String.utf8EncodeChar c) :
    isNameByte b = isNameChar c := by
  by_cases small : IsSmall c
  · rw [encode_of_small small, List.mem_singleton] at member
    rw [member, isNameByte_byte small]
  · rw [isNameByte_of_le (le_of_mem_encode small b member), isNameChar_of_large small]

theorem isSmall_toLower : IsSmall c.toLower ↔ IsSmall c := by
  rw [IsSmall, IsSmall]
  by_cases capital : 65 ≤ c.toNat ∧ c.toNat ≤ 90
  · rw [toNat_toLower capital]
    omega
  · rw [toLower_eq_self capital]

theorem lowerByte_byte (small : IsSmall c) : lowerByte (byte c) = byte c.toLower := by
  have capital_iff : byte 'A' ≤ byte c ∧ byte c ≤ byte 'Z' ↔ 65 ≤ c.toNat ∧ c.toNat ≤ 90 :=
    and_congr (byte_le_byte (by decide) small) (byte_le_byte small (by decide))
  rw [lowerByte]
  split_ifs with capital
  · rw [byte, byte, toNat_toLower (capital_iff.1 capital), UInt8.ofNat_add]
    rfl
  · rw [toLower_eq_self (mt capital_iff.2 capital)]

theorem lowerByte_of_le {b : UInt8} (large : 128 ≤ b) : lowerByte b = b := by
  refine if_neg fun capital => ?_
  have := UInt8.le_trans large capital.2
  revert this
  decide

theorem isQuoteByte_byte (small : IsSmall c) : isQuoteByte (byte c) = isQuote c := by
  rw [Bool.eq_iff_iff, isQuoteByte, isQuote]
  simp only [Bool.or_eq_true, beq_iff_eq]
  rw [byte_inj small (by decide), byte_inj small (by decide), byte_inj small (by decide)]

theorem isQuoteByte_of_le {b : UInt8} (large : 128 ≤ b) : ¬ isQuoteByte b = true := by
  have ne (d : Char) (small : IsSmall d) : b ≠ byte d := ne_of_large large (byte_lt small)
  simp [isQuoteByte, ne '"' (by decide), ne '\'' (by decide), ne '\x60' (by decide)]

theorem isSmall_of_isQuote (quote : isQuote c = true) : IsSmall c := by
  rw [isQuote] at quote
  simp only [Bool.or_eq_true, beq_iff_eq] at quote
  rcases quote with (rfl | rfl) | rfl <;> decide

/-! ## Reading characters -/

theorem getElem?_bytes (past rest : List Char) {k : Nat} (within : k < c.utf8Size) :
    (bytes (past ++ c :: rest))[size past + k]? = (String.utf8EncodeChar c)[k]? := by
  have behind : (bytes past).length ≤ size past + k := Nat.le_add_right _ _
  rw [bytes_append, List.getElem?_append_right behind, size, Nat.add_sub_cancel_left, bytes_cons,
    List.getElem?_append_left]
  rwa [String.length_utf8EncodeChar]

theorem exists_of_lt (past rest : List Char) {k : Nat} (within : k < c.utf8Size) :
    ∃ b ∈ String.utf8EncodeChar c, (bytes (past ++ c :: rest))[size past + k]? = some b := by
  rw [getElem?_bytes past rest within]
  rw [← String.length_utf8EncodeChar] at within
  exact ⟨_, List.getElem_mem within, List.getElem?_eq_getElem within⟩

theorem getElem?_of_small (small : IsSmall c) (past rest : List Char) :
    (bytes (past ++ c :: rest))[size past]? = some (byte c) := by
  have first := getElem?_bytes past rest c.utf8Size_pos
  rwa [Nat.add_zero, encode_of_small small] at first

theorem exists_of_large (large : ¬ IsSmall c) (past rest : List Char) {k : Nat}
    (within : k < c.utf8Size) :
    ∃ b, (bytes (past ++ c :: rest))[size past + k]? = some b ∧ 128 ≤ b := by
  obtain ⟨b, member, read⟩ := exists_of_lt past rest within
  exact ⟨b, read, le_of_mem_encode large b member⟩

theorem size_concat (small : IsSmall c) (past : List Char) :
    size (past ++ [c]) = size past + 1 := by
  rw [size_append, size_cons, utf8Size_of_small small, size_nil]

/-! ## Patterns -/

theorem allSmall_of_lower (small : AllSmall pattern) (same : lower found = lower pattern) :
    AllSmall found := by
  intro c member
  have lowered : c.toLower ∈ lower pattern := same ▸ List.mem_map_of_mem member
  obtain ⟨d, member', eq⟩ := List.mem_map.1 lowered
  rw [← isSmall_toLower, ← eq, isSmall_toLower]
  exact small d member'

theorem size_of_lower (small : AllSmall pattern) (same : lower found = lower pattern) :
    size found = size pattern := by
  rw [size_of_small (allSmall_of_lower small same), size_of_small small, length_congr same]

/-- A pattern of small characters does not start with a byte of a longer one. -/
theorem map_lowerByte_ne {w : Char} {b : UInt8} (small : IsSmall w) (large : 128 ≤ b)
    (bs : List UInt8) (pattern : List Char) :
    (b :: bs).map lowerByte ≠ (bytes (w :: pattern)).map lowerByte := by
  rw [bytes_cons, encode_of_small small, List.singleton_append, List.map_cons, List.map_cons,
    lowerByte_of_le large, lowerByte_byte small]
  exact fun same => ne_of_large large (byte_lt (isSmall_toLower.2 small)) (List.cons.inj same).1

/-- A pattern of small characters is compared with bytes as it is with their characters. -/
theorem window_same_iff (small : AllSmall pattern) (rest : List Char) :
    (size pattern ≤ size rest ∧
        ((bytes rest).take (size pattern)).map lowerByte = (bytes pattern).map lowerByte) ↔
      (dropIgnoringCase pattern rest).isSome = true := by
  induction pattern generalizing rest with
  | nil => simp [dropIgnoringCase]
  | cons w pattern ih =>
    obtain ⟨first, small⟩ := List.forall_mem_cons.1 small
    rw [size_cons, utf8Size_of_small first, Nat.add_comm]
    cases rest with
    | nil => simp [dropIgnoringCase]
    | cons c rest =>
      rw [dropIgnoringCase]
      by_cases small' : IsSmall c
      · have head : lowerByte (byte c) = lowerByte (byte w) ↔ w.toLower = c.toLower := by
          rw [lowerByte_byte small', lowerByte_byte first,
            byte_inj (isSmall_toLower.2 small') (isSmall_toLower.2 first), eq_comm]
        rw [size_cons, utf8Size_of_small small', bytes_cons, bytes_cons, encode_of_small small',
          encode_of_small first, List.singleton_append, List.singleton_append,
          List.take_succ_cons, List.map_cons, List.map_cons, List.cons.injEq, head,
          Nat.add_comm 1, Nat.add_le_add_iff_right]
        split_ifs with same
        · rw [← ih small, eq_true same, true_and]
        · simp [same]
      · have other : w.toLower ≠ c.toLower := fun same =>
          small' (isSmall_toLower.1 (same ▸ isSmall_toLower.2 first))
        obtain ⟨b, bs, eq⟩ := exists_encode c
        have large := le_of_mem_encode small' b (eq ▸ List.mem_cons_self)
        rw [if_neg other, bytes_cons, eq, List.cons_append, List.take_succ_cons]
        exact iff_of_false (fun same => map_lowerByte_ne first large _ pattern same.2)
          Bool.false_ne_true

/-! ## Keywords -/

/-- What follows a keyword that a text starts with. -/
def stripKeyword (keyword text : List Char) : Option (Option (List Char)) :=
  match takeBytes (size keyword) text with
  | none => some none
  | some head =>
    if (bytes head).map lowerByte ≠ (bytes keyword).map lowerByte then some none
    else do
      let rest ← slice text (size keyword) (size text)
      return if (bytes rest).head?.any isNameByte then none else some rest

theorem any_isNameByte_head (text : List Char) :
    (bytes text).head?.any isNameByte = startsName text := by
  cases text with
  | nil => rfl
  | cons c rest =>
    obtain ⟨b, member, read⟩ := exists_of_lt [] rest c.utf8Size_pos
    have head : (bytes (c :: rest)).head? = some b := List.head?_eq_getElem?.trans read
    rw [head, Option.any_some, isNameByte_of_mem member]
    rfl

/-- A keyword of small characters ends at a border of every text that starts with it. -/
theorem stripKeyword_eq {keyword : List Char} (small : AllSmall keyword)
    (text : List Char) : stripKeyword keyword text = some (dropKeyword keyword text) := by
  have same_iff := window_same_iff small text
  rw [stripKeyword, dropKeyword]
  cases h : dropIgnoringCase keyword text with
  | none =>
    rw [h] at same_iff
    cases taken : takeBytes (size keyword) text with
    | none => rfl
    | some head =>
      obtain ⟨back, rfl, eq⟩ := exists_of_takeBytes taken
      have part : (bytes (head ++ back)).take (size keyword) = bytes head := by
        rw [bytes_append, ← eq, size, List.take_left]
      rw [part, size_append, eq] at same_iff
      exact if_pos fun same => Bool.false_ne_true (same_iff.1 ⟨Nat.le_add_right _ _, same⟩)
  | some rest =>
    rw [h] at same_iff
    obtain ⟨found, rfl, same⟩ := dropIgnoringCase_eq_some_iff.1 h
    have long := size_of_lower small same
    have part : (bytes (found ++ rest)).take (size keyword) = bytes found := by
      rw [bytes_append, ← long, size, List.take_left]
    rw [part] at same_iff
    rw [← long, takeBytes_size, slice_to_end]
    simp only [Option.bind_eq_bind, Option.bind_some, any_isNameByte_head]
    exact if_neg (not_not.2 (same_iff.2 rfl).2)

end ModelBench.Sql.ByOffset
