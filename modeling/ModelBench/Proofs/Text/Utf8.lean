import ModelBench.Proofs.Except
import ModelBench.Proofs.Text.Offset
import Mathlib.Data.String.Basic

/-!
# Texts as bytes

Bytes are read as a text exactly if they are the bytes of this text (`decode_eq_ok_iff`), and texts
stand in the order of their bytes (`encode_lt_encode_iff`).
-/

namespace ModelBench

namespace Text.Utf8

/-! ## Characters -/

/-- Whether a byte continues a character. -/
def Continues (b : UInt8) : Prop := 128 ≤ b.toNat ∧ b.toNat ≤ 191

/-- Whether some bytes are those of a character with a code point: the first byte tells how many
there are, and the second one keeps shorter forms, surrogates and what is beyond Unicode out. -/
inductive Spells : List UInt8 → Nat → Prop
  | one {b : UInt8} (lead : b.toNat ≤ 127) : Spells [b] b.toNat
  | two {b x : UInt8} (lead : 194 ≤ b.toNat ∧ b.toNat ≤ 223) (second : Continues x) :
      Spells [b, x] (b.toNat % 32 * 64 + low x)
  | three {b x y : UInt8} (lead : 224 ≤ b.toNat ∧ b.toNat ≤ 239) (second : Continues x)
      (third : Continues y) (long : b.toNat = 224 → 160 ≤ x.toNat)
      (noSurrogate : b.toNat = 237 → x.toNat ≤ 159) :
      Spells [b, x, y] ((b.toNat % 16 * 64 + low x) * 64 + low y)
  | four {b x y z : UInt8} (lead : 240 ≤ b.toNat ∧ b.toNat ≤ 244) (second : Continues x)
      (third : Continues y) (fourth : Continues z) (long : b.toNat = 240 → 144 ≤ x.toNat)
      (inUnicode : b.toNat = 244 → x.toNat ≤ 143) :
      Spells [b, x, y, z] (((b.toNat % 8 * 64 + low x) * 64 + low y) * 64 + low z)

variable {c d : Char} {b : UInt8} {front rest bs : List UInt8} {n m size : Nat}

theorem eq_ofNat (h : b.toNat = n) : b = UInt8.ofNat n := by rw [← h, UInt8.ofNat_toNat]

/-- The bytes of the character with a code point. -/
theorem encode_ofNat (valid : n.isValidChar) : String.utf8EncodeChar (Char.ofNat n) =
    if n ≤ 127 then [UInt8.ofNat n]
    else if n ≤ 2047 then [UInt8.ofNat (n / 64 % 32 + 192), UInt8.ofNat (n % 64 + 128)]
    else if n ≤ 65535 then
      [UInt8.ofNat (n / 4096 % 16 + 224), UInt8.ofNat (n / 64 % 64 + 128),
        UInt8.ofNat (n % 64 + 128)]
    else
      [UInt8.ofNat (n / 262144 % 8 + 240), UInt8.ofNat (n / 4096 % 64 + 128),
        UInt8.ofNat (n / 64 % 64 + 128), UInt8.ofNat (n % 64 + 128)] := by
  have value : (Char.ofNat n).val.toNat = n := by
    rw [Char.ofNat, dif_pos valid]
    rfl
  rw [String.utf8EncodeChar, value]

/-- Bytes that spell a code point are those of its character. -/
theorem Spells.encode (h : Spells bs n) :
    n.isValidChar ∧ String.utf8EncodeChar (Char.ofNat n) = bs := by
  cases h with
  | @one b lead =>
    have valid : b.toNat.isValidChar := .inl (by omega)
    rw [encode_ofNat valid, if_pos (by omega), UInt8.ofNat_toNat]
    exact ⟨valid, rfl⟩
  | @two b x lead second =>
    simp only [Continues] at second
    have valid : (b.toNat % 32 * 64 + low x).isValidChar := .inl (by rw [low]; omega)
    rw [encode_ofNat valid, low, if_neg (by omega), if_pos (by omega),
      ← eq_ofNat (b := b) (by omega), ← eq_ofNat (b := x) (by omega)]
    exact ⟨valid, rfl⟩
  | @three b x y lead second third long noSurrogate =>
    simp only [Continues] at second third
    have valid : ((b.toNat % 16 * 64 + low x) * 64 + low y).isValidChar := by
      simp only [low, Nat.isValidChar]
      omega
    rw [encode_ofNat valid, low, low, if_neg (by omega), if_neg (by omega), if_pos (by omega),
      ← eq_ofNat (b := b) (by omega), ← eq_ofNat (b := x) (by omega),
      ← eq_ofNat (b := y) (by omega)]
    exact ⟨valid, rfl⟩
  | @four b x y z lead second third fourth long inUnicode =>
    simp only [Continues] at second third fourth
    have valid : (((b.toNat % 8 * 64 + low x) * 64 + low y) * 64 + low z).isValidChar := by
      simp only [low, Nat.isValidChar]
      omega
    rw [encode_ofNat valid, low, low, low, if_neg (by omega), if_neg (by omega), if_neg (by omega),
      ← eq_ofNat (b := b) (by omega), ← eq_ofNat (b := x) (by omega),
      ← eq_ofNat (b := y) (by omega), ← eq_ofNat (b := z) (by omega)]
    exact ⟨valid, rfl⟩

theorem Spells.of_eq (h : Spells bs n) (eq : n = m) : Spells bs m := eq ▸ h

/-- The bytes of a character spell its code point. -/
theorem spells_encode (c : Char) : Spells (String.utf8EncodeChar c) c.toNat := by
  have valid : c.toNat < 55296 ∨ 57343 < c.toNat ∧ c.toNat < 1114112 := c.valid
  have encoded := encode_ofNat (n := c.toNat) valid
  rw [Char.ofNat_toNat] at encoded
  rw [encoded]
  generalize c.toNat = n at valid
  split_ifs with one two three
  · refine Spells.of_eq (.one ?_) ?_ <;> simp only [UInt8.toNat_ofNat'] <;> omega
  · refine Spells.of_eq (.two ?_ ?_) ?_ <;>
      simp only [Continues, low, UInt8.toNat_ofNat'] <;> omega
  · refine Spells.of_eq (.three ?_ ?_ ?_ ?_ ?_) ?_ <;>
      simp only [Continues, low, UInt8.toNat_ofNat'] <;> omega
  · refine Spells.of_eq (.four ?_ ?_ ?_ ?_ ?_ ?_) ?_ <;>
      simp only [Continues, low, UInt8.toNat_ofNat'] <;> omega

theorem inRange_iff {low high : UInt8} :
    inRange low high b = true ↔ low.toNat ≤ b.toNat ∧ b.toNat ≤ high.toNat := by
  rw [inRange, Bool.and_eq_true, decide_eq_true_iff, decide_eq_true_iff, UInt8.le_iff_toNat_le,
    UInt8.le_iff_toNat_le]

theorem continues_iff : continues b = true ↔ Continues b := inRange_iff

theorem beq_iff_toNat_eq {x : UInt8} : (b == x) = true ↔ b.toNat = x.toNat := by
  rw [beq_iff_eq, UInt8.toNat_inj]

theorem inRange_second3_iff {x : UInt8} : inRange (second3 b).1 (second3 b).2 x = true ↔
    Continues x ∧ (b.toNat = 224 → 160 ≤ x.toNat) ∧ (b.toNat = 237 → x.toNat ≤ 159) := by
  simp only [inRange_iff, second3, beq_iff_toNat_eq, Continues]
  split_ifs with first last <;> simp_all <;> omega

theorem inRange_second4_iff {x : UInt8} : inRange (second4 b).1 (second4 b).2 x = true ↔
    Continues x ∧ (b.toNat = 240 → 144 ≤ x.toNat) ∧ (b.toNat = 244 → x.toNat ≤ 143) := by
  simp only [inRange_iff, second4, beq_iff_toNat_eq, Continues]
  split_ifs with first last <;> simp_all <;> omega

theorem lt_128_iff : b < 0x80 ↔ b.toNat ≤ 127 := by
  rw [UInt8.lt_iff_toNat_lt]
  exact Nat.lt_succ_iff

/-- What is read first is a character whose bytes come first. -/
theorem exists_spells_of_first (h : first bs = some (c, size)) : ∃ front rest n,
    bs = front ++ rest ∧ Spells front n ∧ c = Char.ofNat n ∧ size = front.length := by
  unfold first at h
  split at h
  · cases h
  · next b rest =>
    split at h
    · next one =>
      cases h
      exact ⟨[b], rest, _, rfl, .one (lt_128_iff.1 one), rfl, rfl⟩
    · split at h
      · next two =>
        split at h
        · next x rest =>
          rw [Option.ite_none_right_eq_some, continues_iff] at h
          obtain ⟨second, eq⟩ := h
          cases eq
          exact ⟨[b, x], rest, _, rfl, .two (inRange_iff.1 two) second, rfl, rfl⟩
        · cases h
      · split at h
        · next three =>
          split at h
          · next x y rest =>
            rw [Option.ite_none_right_eq_some, Bool.and_eq_true, inRange_second3_iff,
              continues_iff] at h
            obtain ⟨⟨⟨second, long, noSurrogate⟩, third⟩, eq⟩ := h
            cases eq
            exact ⟨[b, x, y], rest, _, rfl,
              .three (inRange_iff.1 three) second third long noSurrogate, rfl, rfl⟩
          · cases h
        · split at h
          · next four =>
            split at h
            · next x y z rest =>
              rw [Option.ite_none_right_eq_some, Bool.and_eq_true, Bool.and_eq_true,
                inRange_second4_iff, continues_iff, continues_iff] at h
              obtain ⟨⟨⟨⟨second, long, inUnicode⟩, third⟩, fourth⟩, eq⟩ := h
              cases eq
              exact ⟨[b, x, y, z], rest, _, rfl,
                .four (inRange_iff.1 four) second third fourth long inUnicode, rfl, rfl⟩
            · cases h
          · cases h

/-- Bytes that spell a code point are read as its character, whatever comes after them. -/
theorem first_of_spells (h : Spells front n) (rest : List UInt8) :
    first (front ++ rest) = some (Char.ofNat n, front.length) := by
  cases h with
  | one lead => exact if_pos (lt_128_iff.2 lead)
  | @two b x lead second =>
    have two : inRange 0xC2 0xDF b = true := inRange_iff.2 lead
    simp only [List.cons_append, first, if_neg (mt lt_128_iff.1 (by omega : ¬ b.toNat ≤ 127)),
      if_pos two, if_pos (continues_iff.2 second)]
    rfl
  | @three b x y lead second third long noSurrogate =>
    have two : ¬ inRange 0xC2 0xDF b = true :=
      mt inRange_iff.1 (by simp only [UInt8.reduceToNat]; omega)
    have three : inRange 0xE0 0xEF b = true := inRange_iff.2 lead
    simp only [List.cons_append, first, if_neg (mt lt_128_iff.1 (by omega : ¬ b.toNat ≤ 127)),
      if_neg two, if_pos three, inRange_second3_iff.2 ⟨second, long, noSurrogate⟩,
      continues_iff.2 third]
    rfl
  | @four b x y z lead second third fourth long inUnicode =>
    have two : ¬ inRange 0xC2 0xDF b = true :=
      mt inRange_iff.1 (by simp only [UInt8.reduceToNat]; omega)
    have three : ¬ inRange 0xE0 0xEF b = true :=
      mt inRange_iff.1 (by simp only [UInt8.reduceToNat]; omega)
    have four : inRange 0xF0 0xF4 b = true := inRange_iff.2 lead
    simp only [List.cons_append, first, if_neg (mt lt_128_iff.1 (by omega : ¬ b.toNat ≤ 127)),
      if_neg two, if_neg three, if_pos four, inRange_second4_iff.2 ⟨second, long, inUnicode⟩,
      continues_iff.2 third, continues_iff.2 fourth]
    rfl

/-! ## Texts -/

variable {text text' : List Char} {position : Nat}

theorem decodeAt_append (front rest : List UInt8) (position : Nat) :
    decodeAt front.length position (front ++ rest) = decodeAt 0 (position + front.length) rest := by
  induction front generalizing position with
  | nil => rfl
  | cons b front ih =>
    rw [List.length_cons, List.cons_append, decodeAt, ih, Nat.add_assoc, Nat.add_comm 1]

/-- The bytes of a character are read as it. -/
theorem decodeAt_encode (c : Char) (rest : List UInt8) (position : Nat) :
    decodeAt 0 position (String.utf8EncodeChar c ++ rest) =
      (decodeAt 0 (position + c.utf8Size) rest).map (c :: ·) := by
  have read := first_of_spells (spells_encode c) rest
  have size := String.length_utf8EncodeChar c
  obtain ⟨b, front, encoded⟩ := exists_encode c
  rw [encoded, Char.ofNat_toNat, List.cons_append] at read
  rw [encoded, List.length_cons] at size
  rw [encoded, List.cons_append, decodeAt, read]
  show (decodeAt front.length (position + 1) (front ++ rest)).bind _ = _
  rw [decodeAt_append, ← size, Nat.add_assoc, Nat.add_comm 1]
  rfl

theorem decodeAt_bytes (text : List Char) (position : Nat) :
    decodeAt 0 position (bytes text) = .ok text := by
  induction text generalizing position with
  | nil => rfl
  | cons c text ih =>
    rw [bytes_cons, decodeAt_encode, ih]
    rfl

theorem bytes_of_decodeAt {bs : List UInt8} {text : List Char} {position : Nat}
    (h : decodeAt 0 position bs = .ok text) : bytes text = bs := by
  match bs with
  | [] =>
    cases h
    rfl
  | b :: bs =>
    cases read : first (b :: bs) with
    | none =>
      rw [decodeAt, read] at h
      cases h
    | some found =>
      obtain ⟨front, rest, n, eq, spells, -, -⟩ := exists_spells_of_first read
      have shorter : rest.length < (b :: bs).length := by
        obtain ⟨b, more, encoded⟩ := exists_encode (Char.ofNat n)
        rw [eq, ← spells.encode.2, encoded, List.length_append, List.length_cons]
        omega
      rw [eq, ← spells.encode.2, decodeAt_encode] at h
      obtain ⟨text', read', rfl⟩ := map_eq_ok_iff.1 h
      rw [bytes_cons, bytes_of_decodeAt read', spells.encode.2, eq]
termination_by bs.length
decreasing_by exact shorter

/-- Bytes are read as a text exactly if they are its bytes. -/
theorem decode_eq_ok_iff {s : String} : decode bs = .ok s ↔ encode s = bs := by
  rw [decode, map_eq_ok_iff]
  constructor
  · rintro ⟨text, read, rfl⟩
    rw [encode, String.toList_ofList]
    exact bytes_of_decodeAt read
  · rintro rfl
    exact ⟨s.toList, decodeAt_bytes s.toList 0, String.ofList_toList⟩

/-! ## Order -/

/-- The bytes of characters stand in the order of the code points. -/
theorem lt_of_spells {front' : List UInt8} (h : Spells front n) (h' : Spells front' m) (lt : n < m)
    (rest rest' : List UInt8) : front ++ rest < front' ++ rest' := by
  -- a longer form has the greater first byte, and two of one length are compared digit by digit
  cases h <;> cases h' <;>
    simp only [Continues, low, List.cons_append, List.nil_append, List.cons_lt_cons_iff,
      UInt8.lt_iff_toNat_lt, ← UInt8.toNat_inj] at * <;>
    omega

theorem bytes_lt_of_lt (lt : text < text') : bytes text < bytes text' := by
  induction text generalizing text' with
  | nil =>
    cases text' with
    | nil => cases lt
    | cons d text' =>
      obtain ⟨b, bs, encoded⟩ := exists_encode d
      rw [bytes_nil, bytes_cons, encoded]
      exact List.nil_lt_cons _ _
  | cons c text ih =>
    cases text' with
    | nil => cases lt
    | cons d text' =>
      rw [bytes_cons, bytes_cons]
      rcases List.cons_lt_cons_iff.1 lt with first | ⟨rfl, later⟩
      · exact lt_of_spells (spells_encode c) (spells_encode d) first _ _
      · exact List.append_left_lt (ih later)

/-- Texts stand in the order of their bytes. -/
theorem encode_lt_encode_iff {s t : String} : encode s < encode t ↔ s < t := by
  rw [String.lt_iff_toList_lt]
  refine ⟨fun lt => ?_, bytes_lt_of_lt⟩
  rcases lt_trichotomy s.toList t.toList with less | same | greater
  · exact less
  · rw [encode, encode, same] at lt
    exact absurd lt (List.lt_irrefl _)
  · exact absurd lt (List.lt_asymm (bytes_lt_of_lt greater))

end Text.Utf8

end ModelBench
