import ModelBench.Text.Utf8
import Mathlib.Tactic.Common

/-!
# Offsets in bytes

An offset into a text counts the bytes before it. It is a border if no character lies on both sides
of it. A slice between two offsets exists exactly if both are borders and in order
(`isSome_slice_iff`), and it is then the part of the text between them (`slice_append`).
-/

namespace ModelBench.Text

variable {text front middle back rest : List Char} {c : Char} {start stop offset : Nat}

/-! ## Bytes -/

/-- The bytes of a text. -/
def bytes (text : List Char) : List UInt8 := text.flatMap String.utf8EncodeChar

/-- The number of bytes of a text. -/
def size (text : List Char) : Nat := (bytes text).length

@[simp] theorem length_bytes (text : List Char) : (bytes text).length = size text := rfl

@[simp] theorem bytes_nil : bytes [] = [] := rfl

@[simp] theorem bytes_cons : bytes (c :: text) = String.utf8EncodeChar c ++ bytes text :=
  List.flatMap_cons

@[simp] theorem bytes_append : bytes (front ++ back) = bytes front ++ bytes back :=
  List.flatMap_append

@[simp] theorem size_nil : size [] = 0 := rfl

@[simp] theorem size_cons : size (c :: text) = c.utf8Size + size text := by
  rw [size, bytes_cons, List.length_append, String.length_utf8EncodeChar]
  rfl

@[simp] theorem size_append : size (front ++ back) = size front + size back := by
  rw [size, bytes_append, List.length_append]
  rfl

theorem exists_encode (c : Char) : ∃ b bs, String.utf8EncodeChar c = b :: bs := by
  refine List.exists_cons_of_length_pos ?_
  rw [String.length_utf8EncodeChar]
  exact c.utf8Size_pos

theorem size_eq_zero_iff : size text = 0 ↔ text = [] := by
  cases text with
  | nil => simp
  | cons c text =>
    have := c.utf8Size_pos
    simp only [size_cons, reduceCtorEq, iff_false]
    omega

/-! ## Characters of one byte -/

/-- Whether a character has a single byte. -/
def IsSmall (c : Char) : Prop := c.toNat < 128

instance (c : Char) : Decidable (IsSmall c) := inferInstanceAs (Decidable (_ < _))

/-- Whether all characters of a text have a single byte. -/
def AllSmall (text : List Char) : Prop := ∀ c ∈ text, IsSmall c

instance (text : List Char) : Decidable (AllSmall text) := List.decidableBAll _ _

/-- The byte of a character that has a single one. -/
def byte (c : Char) : UInt8 := UInt8.ofNat c.toNat

theorem toNat_byte (small : IsSmall c) : (byte c).toNat = c.toNat := by
  rw [byte, UInt8.toNat_ofNat']
  exact Nat.mod_eq_of_lt (Nat.lt_trans small (by decide))

theorem byte_lt (small : IsSmall c) : byte c < 128 := by
  rw [UInt8.lt_iff_toNat_lt, toNat_byte small]
  exact small

theorem byte_inj {d : Char} (small : IsSmall c) (small' : IsSmall d) : byte c = byte d ↔ c = d := by
  refine ⟨fun same => ?_, fun same => same ▸ rfl⟩
  have same := congrArg UInt8.toNat same
  rw [toNat_byte small, toNat_byte small'] at same
  rw [← Char.ofNat_toNat c, same, Char.ofNat_toNat]

theorem byte_ne {d : Char} (small : IsSmall c) (small' : IsSmall d) (ne : c ≠ d) :
    byte c ≠ byte d :=
  mt (byte_inj small small').1 ne

theorem encode_of_small (small : IsSmall c) : String.utf8EncodeChar c = [byte c] := by
  rw [String.utf8EncodeChar]
  exact if_pos (Nat.le_of_lt_succ small)

theorem utf8Size_of_small (small : IsSmall c) : c.utf8Size = 1 := by
  rw [← String.length_utf8EncodeChar, encode_of_small small]
  rfl

theorem size_of_small (small : AllSmall text) : size text = text.length := by
  induction text with
  | nil => rfl
  | cons c text ih =>
    obtain ⟨first, small⟩ := List.forall_mem_cons.1 small
    rw [size_cons, utf8Size_of_small first, ih small, List.length_cons, Nat.add_comm]

/-- The bytes of any other character are none of those of characters with a single byte. -/
theorem le_of_mem_encode (large : ¬ IsSmall c) : ∀ b ∈ String.utf8EncodeChar c, 128 ≤ b := by
  have le (n : Nat) (low : 128 ≤ n) (high : n < 256) : 128 ≤ UInt8.ofNat n := by
    rw [UInt8.le_iff_toNat_le, UInt8.toNat_ofNat', Nat.mod_eq_of_lt high]
    exact low
  have above : ¬ c.val.toNat ≤ 127 := fun h => large (Nat.lt_succ_of_le h)
  intro b member
  rw [String.utf8EncodeChar] at member
  simp only [if_neg above] at member
  split_ifs at member <;> simp only [List.mem_cons, List.not_mem_nil, or_false] at member
  · rcases member with rfl | rfl <;> exact le _ (by omega) (by omega)
  · rcases member with rfl | rfl | rfl <;> exact le _ (by omega) (by omega)
  · rcases member with rfl | rfl | rfl | rfl <;> exact le _ (by omega) (by omega)

/-- The byte of a character stands in no other character. -/
theorem eq_of_byte_mem {d : Char} (small : IsSmall d) (member : byte d ∈ String.utf8EncodeChar c) :
    c = d := by
  by_cases small' : IsSmall c
  · rw [encode_of_small small', List.mem_singleton] at member
    exact ((byte_inj small small').1 member).symm
  · have large := le_of_mem_encode small' _ member
    exact absurd (UInt8.lt_of_le_of_lt large (byte_lt small)) (UInt8.lt_irrefl _)

/-! ## Slices -/

/-- Whether an offset lies in a text and divides no character. -/
def IsBorder (text : List Char) (offset : Nat) : Prop :=
  ∃ front back, text = front ++ back ∧ size front = offset

/-- What stands behind an offset, none if that is no border. -/
def dropBytes : (offset : Nat) → List Char → Option (List Char)
  | 0, text => some text
  | _ + 1, [] => none
  | offset + 1, c :: rest =>
    if c.utf8Size ≤ offset + 1 then dropBytes (offset + 1 - c.utf8Size) rest else none

/-- What stands before an offset, none if that is no border. -/
def takeBytes : (offset : Nat) → List Char → Option (List Char)
  | 0, _ => some []
  | _ + 1, [] => none
  | offset + 1, c :: rest =>
    if c.utf8Size ≤ offset + 1 then (takeBytes (offset + 1 - c.utf8Size) rest).map (c :: ·) else none

/-- What stands between two offsets, none if one of them is no border or they are not in order. -/
def slice (text : List Char) (start stop : Nat) : Option (List Char) :=
  if start ≤ stop then (dropBytes start text).bind (takeBytes (stop - start)) else none

theorem dropBytes_cons (c : Char) (offset : Nat) (rest : List Char) :
    dropBytes (c.utf8Size + offset) (c :: rest) = dropBytes offset rest := by
  have pos := c.utf8Size_pos
  obtain ⟨n, eq⟩ : ∃ n, c.utf8Size + offset = n + 1 := ⟨c.utf8Size + offset - 1, by omega⟩
  rw [eq, dropBytes, if_pos (by omega), ← eq, Nat.add_sub_cancel_left]

theorem takeBytes_cons (c : Char) (offset : Nat) (rest : List Char) :
    takeBytes (c.utf8Size + offset) (c :: rest) = (takeBytes offset rest).map (c :: ·) := by
  have pos := c.utf8Size_pos
  obtain ⟨n, eq⟩ : ∃ n, c.utf8Size + offset = n + 1 := ⟨c.utf8Size + offset - 1, by omega⟩
  rw [eq, takeBytes, if_pos (by omega), ← eq, Nat.add_sub_cancel_left]

theorem dropBytes_size (front back : List Char) :
    dropBytes (size front) (front ++ back) = some back := by
  induction front with
  | nil => rw [size_nil, dropBytes, List.nil_append]
  | cons c front ih => rw [size_cons, List.cons_append, dropBytes_cons, ih]

theorem takeBytes_size (front back : List Char) :
    takeBytes (size front) (front ++ back) = some front := by
  induction front with
  | nil => rw [size_nil, takeBytes]
  | cons c front ih =>
    rw [size_cons, List.cons_append, takeBytes_cons, ih]
    rfl

theorem exists_of_dropBytes (h : dropBytes offset text = some back) :
    ∃ front, text = front ++ back ∧ size front = offset := by
  fun_induction dropBytes offset text with
  | case1 text =>
    cases h
    exact ⟨[], rfl, rfl⟩
  | case2 => cases h
  | case3 offset c rest fits ih =>
    obtain ⟨front, rfl, eq⟩ := ih h
    exact ⟨c :: front, rfl, by rw [size_cons]; omega⟩
  | case4 => cases h

theorem exists_of_takeBytes (h : takeBytes offset text = some front) :
    ∃ back, text = front ++ back ∧ size front = offset := by
  fun_induction takeBytes offset text generalizing front with
  | case1 text =>
    cases h
    exact ⟨text, rfl, rfl⟩
  | case2 => cases h
  | case3 offset c rest fits ih =>
    obtain ⟨part, found, rfl⟩ := Option.map_eq_some_iff.1 h
    obtain ⟨back, rfl, eq⟩ := ih found
    exact ⟨back, rfl, by rw [size_cons]; omega⟩
  | case4 => cases h

/-- The part between two borders is their slice. -/
theorem slice_append (front middle back : List Char) :
    slice (front ++ (middle ++ back)) (size front) (size front + size middle) = some middle := by
  rw [slice, if_pos (Nat.le_add_right _ _), dropBytes_size, Option.bind_some,
    Nat.add_sub_cancel_left, takeBytes_size]

theorem exists_of_slice (h : slice text start stop = some middle) : ∃ front back,
    text = front ++ (middle ++ back) ∧ size front = start ∧ size front + size middle = stop := by
  rw [slice] at h
  split_ifs at h with le
  obtain ⟨behind, dropped, taken⟩ := Option.bind_eq_some_iff.1 h
  obtain ⟨front, rfl, eq⟩ := exists_of_dropBytes dropped
  obtain ⟨back, rfl, eq'⟩ := exists_of_takeBytes taken
  exact ⟨front, back, rfl, eq, by omega⟩

/-- A slice exists exactly between borders that are in order. -/
theorem isSome_slice_iff : (slice text start stop).isSome = true ↔
    start ≤ stop ∧ IsBorder text start ∧ IsBorder text stop := by
  constructor
  · intro some_
    obtain ⟨middle, found⟩ := Option.isSome_iff_exists.1 some_
    obtain ⟨front, back, rfl, rfl, rfl⟩ := exists_of_slice found
    refine ⟨Nat.le_add_right _ _, ⟨front, middle ++ back, rfl, rfl⟩, front ++ middle, back, ?_, ?_⟩
    · rw [List.append_assoc]
    · rw [size_append]
  · rintro ⟨le, ⟨front, behind, rfl, rfl⟩, longer, back, eq, rfl⟩
    rcases List.append_eq_append_iff.1 eq with ⟨middle, rfl, rfl⟩ | ⟨more, rfl, rfl⟩
    · rw [size_append, slice_append]
      rfl
    · -- the borders are in order, so they are the same one
      have none_ : size more = 0 := by
        rw [size_append] at le
        omega
      obtain rfl := size_eq_zero_iff.1 none_
      have empty := slice_append longer [] behind
      rw [size_nil, Nat.add_zero, List.nil_append] at empty
      rw [List.append_nil, empty]
      rfl

theorem borders_of_slice (h : slice text start stop = some middle) :
    start ≤ stop ∧ IsBorder text start ∧ IsBorder text stop :=
  isSome_slice_iff.1 (Option.isSome_of_eq_some h)

theorem slice_to_end (front back : List Char) :
    slice (front ++ back) (size front) (size (front ++ back)) = some back := by
  have whole := slice_append front back []
  rwa [List.append_nil, ← size_append] at whole

theorem slice_from_start (front back : List Char) :
    slice (front ++ back) 0 (size front) = some front := by
  have whole := slice_append [] front back
  rwa [List.nil_append, size_nil, Nat.zero_add] at whole

end ModelBench.Text
