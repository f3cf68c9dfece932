import ModelBench.Query.Evaluation
import ModelBench.Proofs.Sql.Alias

/-!
# Numbers in statements

A text counts as a number exactly when it is a decimal number, which is a sign, digits with at most
one point, and an exponent, or when it is a sign and one of the names for what is no finite number
(`isNumber_iff`).
-/

namespace ModelBench.Query

open Text Sql

variable {text rest : List Char}

/-- Whether a text has no characters but digits. -/
def Digits (text : List Char) : Prop := ∀ c ∈ text, c.isDigit = true

/-- Whether a text is a sign or nothing. -/
inductive IsSign : List Char → Prop
  | nothing : IsSign []
  | plus : IsSign ['+']
  | minus : IsSign ['-']

/-- Whether a text can stand before the exponent of a number: digits, and at most one point before,
among or behind them. -/
inductive IsMantissa : List Char → Prop
  | whole {digits : List Char} (nonempty : digits ≠ []) (all : Digits digits) : IsMantissa digits
  | pointed {whole places : List Char} (nonempty : whole ++ places ≠ []) (before : Digits whole)
      (behind : Digits places) : IsMantissa (whole ++ '.' :: places)

/-- Whether a text can end a number: nothing, or an `e` in any case, a sign and digits. -/
inductive EndsNumber : List Char → Prop
  | nothing : EndsNumber []
  | power {e : Char} {sign digits : List Char} (isE : e.toLower = 'e') (isSign : IsSign sign)
      (nonempty : digits ≠ []) (all : Digits digits) : EndsNumber (e :: (sign ++ digits))

/-- Whether a text is a decimal number. -/
inductive IsDecimal : List Char → Prop
  | number {sign mantissa exponent : List Char} (isSign : IsSign sign)
      (isMantissa : IsMantissa mantissa) (ends : EndsNumber exponent) :
      IsDecimal (sign ++ (mantissa ++ exponent))

/-- The names for what is no finite number. -/
def notFinite : List (List Char) := ["inf".toList, "infinity".toList, "nan".toList]

/-- Whether a text names what is no finite number, with a sign or none. -/
inductive IsNotFinite : List Char → Prop
  | named {sign name : List Char} (isSign : IsSign sign) (listed : lower name ∈ notFinite) :
      IsNotFinite (sign ++ name)

/-! ## Signs -/

/-- Whether a character is a sign. -/
def isSignChar (c : Char) : Bool := c == '+' || c == '-'

/-- The text without the sign that it starts with. -/
def afterSign : List Char → List Char
  | '+' :: rest => rest
  | '-' :: rest => rest
  | text => text

theorem exists_sign (text : List Char) : ∃ sign, IsSign sign ∧ text = sign ++ afterSign text := by
  unfold afterSign
  split
  · exact ⟨_, .plus, rfl⟩
  · exact ⟨_, .minus, rfl⟩
  · exact ⟨_, .nothing, rfl⟩

theorem afterSign_append {sign : List Char} (isSign : IsSign sign)
    (bare : rest.head?.any isSignChar = false) : afterSign (sign ++ rest) = rest := by
  cases isSign with
  | plus => rfl
  | minus => rfl
  | nothing =>
    cases rest with
    | nil => rfl
    | cons c rest =>
      have bare : (c == '+' || c == '-') = false := bare
      rw [Bool.or_eq_false_iff, beq_eq_false_iff_ne, beq_eq_false_iff_ne] at bare
      simp [afterSign, bare.1, bare.2]

/-! ## Digits -/

theorem digits_takeWhile (text : List Char) : Digits (text.takeWhile Char.isDigit) :=
  List.all_eq_true.1 List.all_takeWhile

theorem isSignChar_of_isDigit {c : Char} (digit : c.isDigit = true) : isSignChar c = false := by
  rw [isSignChar, Bool.or_eq_false_iff, beq_eq_false_iff_ne, beq_eq_false_iff_ne]
  constructor
  · rintro rfl
    cases digit
  · rintro rfl
    cases digit

theorem Digits.no_sign (all : Digits text) : text.head?.any isSignChar = false :=
  (Option.any_eq_false _ _).2 fun c hc => by
    simpa using isSignChar_of_isDigit (all c (List.mem_of_head? hc))

/-- A digit has no other case. -/
theorem toLower_of_isDigit {c : Char} (digit : c.isDigit = true) : c.toLower = c := by
  refine toLower_eq_self fun capital => ?_
  rw [Char.isDigit, Bool.and_eq_true, decide_eq_true_iff, decide_eq_true_iff] at digit
  have : c.toNat ≤ 57 := digit.2
  omega

theorem isDigit_of_toLower {c d : Char} (same : c.toLower = d) (other : d.isDigit = false) :
    c.isDigit = false := by
  rw [← Bool.not_eq_true]
  intro digit
  rw [← same, toLower_of_isDigit digit, digit] at other
  cases other

theorem EndsNumber.stop (h : EndsNumber text) : text.head?.any Char.isDigit = false := by
  cases h with
  | nothing => rfl
  | power isE => exact isDigit_of_toLower isE rfl

/-! ## Exponents -/

theorem isExponent_cons (e : Char) (rest : List Char) : isExponent (e :: rest) =
    (e.toLower == 'e' && !(afterSign rest).isEmpty && (afterSign rest).all Char.isDigit) := rfl

theorem isExponent_iff : isExponent text = true ↔ EndsNumber text := by
  constructor
  · intro h
    cases text with
    | nil => exact .nothing
    | cons e rest =>
      rw [isExponent_cons, Bool.and_eq_true, Bool.and_eq_true, beq_iff_eq, Bool.not_eq_true',
        List.isEmpty_eq_false_iff, List.all_eq_true] at h
      obtain ⟨sign, isSign, eq⟩ := exists_sign rest
      rw [eq]
      exact .power h.1.1 isSign h.1.2 h.2
  · intro h
    cases h with
    | nothing => rfl
    | power isE isSign nonempty all =>
      rw [isExponent_cons, afterSign_append isSign all.no_sign, Bool.and_eq_true, Bool.and_eq_true,
        beq_iff_eq, Bool.not_eq_true', List.isEmpty_eq_false_iff, List.all_eq_true]
      exact ⟨⟨isE, nonempty⟩, all⟩

/-! ## Numbers -/

/-- Whether a text is a decimal number without a sign. -/
def isPlainNumber (text : List Char) : Bool :=
  match text.dropWhile Char.isDigit with
  | '.' :: rest =>
    !((text.takeWhile Char.isDigit).isEmpty && (rest.takeWhile Char.isDigit).isEmpty) &&
      isExponent (rest.dropWhile Char.isDigit)
  | rest => !(text.takeWhile Char.isDigit).isEmpty && isExponent rest

theorem isUnsignedNumber_eq (text : List Char) : isUnsignedNumber text =
    (isPlainNumber text || ["inf", "infinity", "nan"].contains (String.ofList (lower text))) := rfl

theorem contains_notFinite (text : List Char) :
    ["inf", "infinity", "nan"].contains (String.ofList (lower text)) = true ↔
      lower text ∈ notFinite := by
  simp [notFinite, ← String.toList_inj]

theorem isPlainNumber_iff : isPlainNumber text = true ↔
    ∃ mantissa exponent, text = mantissa ++ exponent ∧ IsMantissa mantissa ∧
      EndsNumber exponent := by
  have parts := (List.takeWhile_append_dropWhile (p := Char.isDigit) (l := text)).symm
  constructor
  · intro h
    rw [isPlainNumber] at h
    split at h
    · next rest eq =>
      rw [Bool.and_eq_true, isExponent_iff, Bool.not_eq_true', ← Bool.not_eq_true,
        Bool.and_eq_true, List.isEmpty_iff, List.isEmpty_iff, ← List.append_eq_nil_iff] at h
      refine ⟨text.takeWhile Char.isDigit ++ '.' :: rest.takeWhile Char.isDigit,
        rest.dropWhile Char.isDigit, ?_,
        .pointed h.1 (digits_takeWhile text) (digits_takeWhile rest), h.2⟩
      rw [List.append_assoc, List.cons_append, List.takeWhile_append_dropWhile, ← eq]
      exact parts
    · rw [Bool.and_eq_true, isExponent_iff, Bool.not_eq_true', List.isEmpty_eq_false_iff] at h
      exact ⟨_, _, parts, .whole h.1 (digits_takeWhile text), h.2⟩
  · rintro ⟨mantissa, exponent, rfl, isMantissa, ends⟩
    cases isMantissa with
    | whole nonempty all =>
      rw [isPlainNumber, takeWhile_append_of_stop all ends.stop,
        dropWhile_append_of_stop all ends.stop]
      split
      · cases ends with
        | power isE => cases isE
      · rw [Bool.and_eq_true, isExponent_iff, Bool.not_eq_true', List.isEmpty_eq_false_iff]
        exact ⟨nonempty, ends⟩
    | @pointed whole places nonempty before behind =>
      have stop : ('.' :: (places ++ exponent)).head?.any Char.isDigit = false := rfl
      rw [isPlainNumber, List.append_assoc, List.cons_append,
        takeWhile_append_of_stop before stop, dropWhile_append_of_stop before stop]
      simp only [takeWhile_append_of_stop behind ends.stop,
        dropWhile_append_of_stop behind ends.stop]
      rw [Bool.and_eq_true, isExponent_iff, Bool.not_eq_true', ← Bool.not_eq_true,
        Bool.and_eq_true, List.isEmpty_iff, List.isEmpty_iff, ← List.append_eq_nil_iff]
      exact ⟨nonempty, ends⟩

theorem IsMantissa.no_sign (h : IsMantissa text) (rest : List Char) :
    (text ++ rest).head?.any isSignChar = false := by
  cases h with
  | whole nonempty all => exact head_any_append nonempty fun c hc => isSignChar_of_isDigit (all c hc)
  | @pointed whole places nonempty before behind =>
    cases whole with
    | nil => rfl
    | cons c whole => exact isSignChar_of_isDigit (before c List.mem_cons_self)

theorem no_sign_of_notFinite (listed : lower text ∈ notFinite) :
    text.head?.any isSignChar = false := by
  cases text with
  | nil => rfl
  | cons c text =>
    rw [← Bool.not_eq_true]
    intro sign
    have sign : (c == '+' || c == '-') = true := sign
    rw [Bool.or_eq_true, beq_iff_eq, beq_iff_eq] at sign
    rcases sign with rfl | rfl
    · simp [notFinite] at listed
    · simp [notFinite] at listed

theorem isNumber_eq (text : List Char) : isNumber text = isUnsignedNumber (afterSign text) := by
  fun_cases afterSign text with
  | case1 => rfl
  | case2 => rfl
  | case3 text noPlus noMinus => simp only [isNumber]

/-- What counts as a number is a decimal number or a name for what is no finite one. -/
theorem isNumber_iff : isNumber text = true ↔ IsDecimal text ∨ IsNotFinite text := by
  rw [isNumber_eq, isUnsignedNumber_eq, Bool.or_eq_true, isPlainNumber_iff, contains_notFinite]
  constructor
  · obtain ⟨sign, isSign, eq⟩ := exists_sign text
    rintro (⟨mantissa, exponent, plain, isMantissa, ends⟩ | listed)
    · rw [eq, plain]
      exact .inl (.number isSign isMantissa ends)
    · rw [eq]
      exact .inr (.named isSign listed)
  · rintro (⟨isSign, isMantissa, ends⟩ | ⟨isSign, listed⟩)
    · rw [afterSign_append isSign (isMantissa.no_sign _)]
      exact .inl ⟨_, _, rfl, isMantissa, ends⟩
    · rw [afterSign_append isSign (no_sign_of_notFinite listed)]
      exact .inr listed

/-! ## The first characters of numbers -/

/-- What a number starts with: a sign, a digit or a point, unless it is the name for no finite
number. -/
theorem first_of_isNumber {c : Char} (h : isNumber (c :: rest) = true) :
    isSignChar c = true ∨ c.isDigit = true ∨ c = '.' ∨ lower (c :: rest) ∈ notFinite := by
  have signed {behind : List Char} (eq : c :: rest = '+' :: behind ∨ c :: rest = '-' :: behind) :
      isSignChar c = true := by
    rcases eq with eq | eq
    · rw [(List.cons.inj eq).1]
      rfl
    · rw [(List.cons.inj eq).1]
      rfl
  generalize eq : c :: rest = text at h ⊢
  rcases isNumber_iff.1 h with ⟨isSign, isMantissa, ends⟩ | ⟨isSign, listed⟩
  · cases isSign with
    | plus => exact .inl (signed (.inl eq))
    | minus => exact .inl (signed (.inr eq))
    | nothing =>
      cases isMantissa with
      | whole nonempty all =>
        obtain ⟨d, digits, rfl⟩ := List.exists_cons_of_ne_nil nonempty
        rw [(List.cons.inj eq).1]
        exact .inr (.inl (all d List.mem_cons_self))
      | @pointed whole places nonempty before behind =>
        cases whole with
        | nil => exact .inr (.inr (.inl (List.cons.inj eq).1))
        | cons d whole =>
          rw [(List.cons.inj eq).1]
          exact .inr (.inl (before d List.mem_cons_self))
  · cases isSign with
    | plus => exact .inl (signed (.inl eq))
    | minus => exact .inl (signed (.inr eq))
    | nothing => exact .inr (.inr (.inr listed))

/-- A number that starts with a letter is the name for no finite number. -/
theorem named_of_isNumber {c d : Char} (number : isNumber (c :: rest) = true) (same : c.toLower = d)
    (letter : isSignChar d = false ∧ d.isDigit = false ∧ d ≠ '.') :
    lower (c :: rest) ∈ notFinite := by
  rcases first_of_isNumber number with sign | digit | rfl | named
  · rw [isSignChar, Bool.or_eq_true, beq_iff_eq, beq_iff_eq] at sign
    rcases sign with rfl | rfl
    · exact absurd letter.1 (same ▸ by decide)
    · exact absurd letter.1 (same ▸ by decide)
  · rw [isDigit_of_toLower same letter.2.1] at digit
    cases digit
  · exact absurd same.symm letter.2.2
  · exact named

end ModelBench.Query
