import ModelBench.Proofs.Mock.Encoding
import ModelBench.Proofs.Text.Utf8

/-!
# Which bytes are a mock

Bytes are encoded exactly if they hold a header and rows that fit under it
(`accepts_exactly`). A header that will not do is what is reported, whatever stands below it.
-/

namespace ModelBench

open Text

/-! ## Records of texts -/

namespace Csv

variable {r : Record} {index width valid : Nat} {field : List UInt8}
  {fields front back : List (List UInt8)} {texts : List String}

/-- Whether the fields of a record are the bytes of some texts. -/
def Record.Reads (r : Record) (texts : List String) : Prop := r.fields = texts.map Utf8.encode

theorem textsFrom_eq_ok_iff :
    textsFrom index fields = .ok texts ↔ fields = texts.map Utf8.encode := by
  induction fields generalizing index texts with
  | nil => cases texts <;> simp [textsFrom]
  | cons field fields ih =>
    cases texts with
    | nil => cases read : Utf8.decode field <;> simp [textsFrom, read, map_eq_ok_iff]
    | cons text texts =>
      rw [List.map_cons, List.cons.injEq, eq_comm (a := field), ← Utf8.decode_eq_ok_iff]
      cases read : Utf8.decode field <;> simp [textsFrom, read, map_eq_ok_iff, ih, and_comm]

theorem Record.texts_eq_ok_iff : r.texts = .ok texts ↔ r.Reads texts := textsFrom_eq_ok_iff

theorem Record.textsOfLength_eq_ok_iff :
    r.textsOfLength width = .ok texts ↔ r.fields.length = width ∧ r.Reads texts := by
  rw [textsOfLength, ← texts_eq_ok_iff]
  split_ifs with length <;> simp [length]

/-- The first field that is no text is reported. -/
theorem textsFrom_of_bad (bad : Utf8.decode field = .error valid) (texts : List String) :
    textsFrom index (texts.map Utf8.encode ++ field :: back) =
      .error (.notText (index + texts.length) valid) := by
  induction texts generalizing index with
  | nil => simp [textsFrom, bad]
  | cons text texts ih =>
    have read : Utf8.decode (Utf8.encode text) = .ok text := Utf8.decode_eq_ok_iff.2 rfl
    simp only [List.map_cons, List.cons_append, textsFrom, read, ih, Except.map, List.length_cons]
    congr 2
    omega

theorem Record.texts_of_bad (fields : r.fields = texts.map Utf8.encode ++ field :: back)
    (bad : Utf8.decode field = .error valid) : r.texts = .error (.notText texts.length valid) := by
  rw [Record.texts, fields, textsFrom_of_bad bad, Nat.zero_add]

theorem exists_bad_of_textsFrom {fault : Fault} (h : textsFrom index fields = .error fault) :
    ∃ (texts : List String) (field : List UInt8) (back : List (List UInt8)) (valid : Nat),
      fields = texts.map Utf8.encode ++ field :: back ∧ Utf8.decode field = .error valid := by
  induction fields generalizing index fault with
  | nil => cases h
  | cons field fields ih =>
    cases read : Utf8.decode field with
    | error valid => exact ⟨[], field, fields, valid, rfl, read⟩
    | ok text =>
      rw [textsFrom, read] at h
      cases rest : textsFrom (index + 1) fields with
      | ok texts =>
        simp only [rest] at h
        cases h
      | error fault =>
        obtain ⟨texts, bad, back, valid, rfl, found⟩ := ih rest
        rw [Utf8.decode_eq_ok_iff] at read
        exact ⟨text :: texts, bad, back, valid, by rw [← read]; rfl, found⟩

/-- Whether some records are one that reads as a header and others below it. -/
def IsHeaded (records : List Record) (header : List String) (rest : List Record) : Prop :=
  ∃ first, records = first :: rest ∧ first.Reads header

theorem IsHeaded.unique {records rest rest' : List Record} {header header' : List String}
    (h : IsHeaded records header rest) (h' : IsHeaded records header' rest') :
    header = header' ∧ rest = rest' := by
  obtain ⟨first, rfl, read⟩ := h
  obtain ⟨first', eq, read'⟩ := h'
  cases eq
  rw [← Record.texts_eq_ok_iff] at read read'
  exact ⟨Except.ok.inj (read.symm.trans read'), rfl⟩

/-- Whether a record is a row: as many texts as stand in the header. -/
def Record.IsRow (r : Record) (header : List String) : Prop :=
  r.fields.length = header.length ∧ ∃ texts, r.Reads texts

/-- Records are rows exactly if their texts are those of a table. -/
theorem forall_isRow_iff {header : List String} {rest : List Record} :
    (∀ r ∈ rest, r.IsRow header) ↔ ∃ rows,
      List.Forall₂ (fun (r : Record) row => r.textsOfLength header.length = .ok row) rest rows := by
  induction rest with
  | nil => simp
  | cons r rest ih =>
    rw [List.forall_mem_cons, ih]
    constructor
    · rintro ⟨⟨length, texts, read⟩, rows, all⟩
      exact ⟨texts :: rows, .cons (Record.textsOfLength_eq_ok_iff.2 ⟨length, read⟩) all⟩
    · rintro ⟨rows, all⟩
      cases all with
      | cons read all =>
        obtain ⟨length, read⟩ := Record.textsOfLength_eq_ok_iff.1 read
        exact ⟨⟨length, _, read⟩, _, all⟩

theorem AreTable.isHeaded {records : List Record} {header : List String} {rows : List (List String)}
    (h : AreTable records header rows) : ∃ rest, IsHeaded records header rest ∧
      (∀ r ∈ rest, r.IsRow header) ∧ rows.length = rest.length := by
  obtain ⟨first, rest, eq, texts, all⟩ := h
  exact ⟨rest, ⟨first, eq, Record.texts_eq_ok_iff.1 texts⟩, forall_isRow_iff.2 ⟨rows, all⟩,
    all.length_eq.symm⟩

end Csv

namespace EncodedMock

variable {names header : List String} {name other : String}

/-! ## Repeated names -/

/-- Whether a name is the one, of those that stand twice, whose bytes come first. -/
def IsLeastRepeated (names : List String) (name : String) : Prop :=
  2 ≤ names.count name ∧
    ∀ other, 2 ≤ names.count other → other = name ∨ Utf8.encode name < Utf8.encode other

theorem IsLeastRepeated.unique (h : IsLeastRepeated names name)
    (h' : IsLeastRepeated names other) : name = other := by
  rcases h.2 other h'.1 with same | less
  · exact same.symm
  · rcases h'.2 name h.1 with same | greater
    · exact same
    · exact absurd greater (List.lt_asymm less)

theorem IsLeastRepeated.not_nodup (h : IsLeastRepeated names name) : ¬ names.Nodup := fun nodup =>
  absurd (h.1.trans (List.nodup_iff_count_le_one.1 nodup name)) (by decide)

theorem isLeastRepeated_perm {names' : List String} (perm : names.Perm names') :
    IsLeastRepeated names name ↔ IsLeastRepeated names' name := by
  simp only [IsLeastRepeated, perm.count_eq]

/-- What stands before the first name that stands twice in a row, and that name, has none. -/
theorem exists_split_of_repeated? (h : repeated? names = some name) : ∃ front back,
    names = front ++ name :: name :: back ∧ repeated? (front ++ [name]) = none := by
  induction names with
  | nil => cases h
  | cons a names ih =>
    cases names with
    | nil => cases h
    | cons b rest =>
      rw [repeated?] at h
      split_ifs at h with same
      · cases h
        subst same
        exact ⟨[], rest, rfl, rfl⟩
      · obtain ⟨front, back, eq, none_⟩ := ih h
        refine ⟨a :: front, back, by rw [eq]; rfl, ?_⟩
        cases front <;> cases eq <;> exact (if_neg same).trans none_

/-- Among ascending names the first one that stands twice in a row is the least that stands
twice. -/
theorem isLeastRepeated_of_repeated? (le : names.Pairwise (· ≤ ·))
    (h : repeated? names = some name) : IsLeastRepeated names name := by
  obtain ⟨front, back, rfl, none_⟩ := exists_split_of_repeated? h
  refine ⟨by simp only [List.count_append, List.count_cons_self]; omega, fun other twice => ?_⟩
  rw [Utf8.encode_lt_encode_iff]
  rcases lt_trichotomy other name with less | same | greater
  · -- a lesser name stands only before the two, where no name stands twice
    exfalso
    obtain ⟨-, least, -⟩ := List.pairwise_append.1 le
    have absent : other ∉ name :: name :: back := by
      intro member
      rcases List.mem_cons.1 member with rfl | member
      · exact lt_irrefl _ less
      · exact absurd ((List.pairwise_cons.1 least).1 other member) (not_le_of_gt less)
    have sorted := sorted_of_repeated?_eq_none (le.sublist (by simp)) none_
    have once := List.nodup_iff_count_le_one.1 (sorted.imp ne_of_lt) other
    rw [List.count_append, List.count_eq_zero_of_not_mem absent] at twice
    rw [List.count_append] at once
    omega
  · exact .inl same
  · exact .inr greater

/-! ## Headers -/

/-- Whether a header has a name, and no name twice. -/
def IsHeader (header : List String) : Prop := (∃ name ∈ header, name ≠ "") ∧ header.Nodup

theorem IsHeader.perm {header' : List String} (h : IsHeader header) (perm : header.Perm header') :
    IsHeader header' := by
  obtain ⟨⟨name, member, ne⟩, nodup⟩ := h
  exact ⟨⟨name, perm.mem_iff.1 member, ne⟩, perm.nodup_iff.1 nodup⟩

theorem all_isEmpty_iff : header.all String.isEmpty = true ↔ ¬ ∃ name ∈ header, name ≠ "" := by
  simp [String.isEmpty_iff]

theorem checkHeader_of_unnamed (unnamed : ¬ ∃ name ∈ header, name ≠ "") :
    checkHeader header = .error .noHeader :=
  if_pos (all_isEmpty_iff.2 unnamed)

theorem checkHeader_of_repeated (named : ∃ name ∈ header, name ≠ "") (repeats : ¬ header.Nodup) :
    ∃ name, IsLeastRepeated header name ∧ checkHeader header = .error (.duplicateColumn name) := by
  rw [checkHeader, if_neg (mt all_isEmpty_iff.1 (not_not.2 named))]
  cases found : repeated? ((order header).map Prod.fst) with
  | none =>
    have sorted := sorted_of_repeated?_eq_none (columns_le header) found
    exact absurd ((columns_perm header).nodup_iff.1 (sorted.imp ne_of_lt)) repeats
  | some name =>
    have least := isLeastRepeated_of_repeated? (columns_le header) found
    exact ⟨name, (isLeastRepeated_perm (columns_perm header)).1 least, rfl⟩

theorem checkHeader_of_isLeastRepeated (named : ∃ name ∈ header, name ≠ "")
    (h : IsLeastRepeated header name) : checkHeader header = .error (.duplicateColumn name) := by
  obtain ⟨found, least, refused⟩ := checkHeader_of_repeated named h.not_nodup
  rw [refused, least.unique h]

theorem checkHeader_eq_ok_iff : checkHeader header = .ok () ↔ IsHeader header := by
  constructor
  · intro ok
    have named : ∃ name ∈ header, name ≠ "" := by
      by_contra unnamed
      rw [checkHeader_of_unnamed unnamed] at ok
      cases ok
    exact ⟨named, (columns_perm header).nodup_iff.1 ((columns_sorted ok).imp ne_of_lt)⟩
  · rintro ⟨named, nodup⟩
    rw [checkHeader, if_neg (mt all_isEmpty_iff.1 (not_not.2 named))]
    cases found : repeated? ((order header).map Prod.fst) with
    | none => rfl
    | some name =>
      have least := isLeastRepeated_of_repeated? (columns_le header) found
      exact absurd ((columns_perm header).nodup_iff.2 nodup) least.not_nodup

/-- What is wrong with the header of some records, however they go on. -/
inductive HeaderFault : List Csv.Record → Refusal → Prop
  | absent : HeaderFault [] .noHeader
  | notText {first : Csv.Record} {rest : List Csv.Record} {texts : List String}
      {field : List UInt8} {back : List (List UInt8)} {valid : Nat}
      (fields : first.fields = texts.map Utf8.encode ++ field :: back)
      (bad : Utf8.decode field = .error valid) :
      HeaderFault (first :: rest) (.badRecord 0 first.start (.notText texts.length valid))
  | unnamed {records rest : List Csv.Record} {header : List String}
      (headed : Csv.IsHeaded records header rest) (unnamed : ¬ ∃ name ∈ header, name ≠ "") :
      HeaderFault records .noHeader
  | repeated {records rest : List Csv.Record} {header : List String} {name : String}
      (headed : Csv.IsHeaded records header rest) (named : ∃ name ∈ header, name ≠ "")
      (least : IsLeastRepeated header name) : HeaderFault records (.duplicateColumn name)

variable {records rest : List Csv.Record} {refusal : Refusal} {types : List (String × String)}

theorem ofRecords_of_checkHeader (headed : Csv.IsHeaded records header rest)
    (refused : checkHeader header = .error refusal) : ofRecords types records = .error refusal := by
  obtain ⟨first, rfl, read⟩ := headed
  rw [ofRecords]
  simp only [Csv.Record.texts_eq_ok_iff.2 read, refused]
  rfl

/-- What is wrong with the header is reported, whatever the rows are. -/
theorem HeaderFault.ofRecords (h : HeaderFault records refusal) :
    ofRecords types records = .error refusal := by
  cases h with
  | absent => rfl
  | notText fields bad =>
    rw [EncodedMock.ofRecords]
    simp only [Csv.Record.texts_of_bad fields bad]
    rfl
  | unnamed headed unnamed => exact ofRecords_of_checkHeader headed (checkHeader_of_unnamed unnamed)
  | repeated headed named least =>
    exact ofRecords_of_checkHeader headed (checkHeader_of_isLeastRepeated named least)

/-- Some records have a header that will do, or there is something wrong with it. -/
theorem isHeader_or_headerFault (records : List Csv.Record) :
    (∃ header rest, Csv.IsHeaded records header rest ∧ IsHeader header) ∨
      ∃ refusal, HeaderFault records refusal := by
  cases records with
  | nil => exact .inr ⟨_, .absent⟩
  | cons first rest =>
    cases texts : first.texts with
    | error fault =>
      obtain ⟨texts, field, back, valid, fields, bad⟩ := Csv.exists_bad_of_textsFrom texts
      exact .inr ⟨_, .notText fields bad⟩
    | ok header =>
      have headed : Csv.IsHeaded (first :: rest) header rest :=
        ⟨first, rfl, Csv.Record.texts_eq_ok_iff.1 texts⟩
      by_cases named : ∃ name ∈ header, name ≠ ""
      · by_cases nodup : header.Nodup
        · exact .inl ⟨header, rest, headed, named, nodup⟩
        · obtain ⟨name, least, -⟩ := checkHeader_of_repeated named nodup
          exact .inr ⟨_, .repeated headed named least⟩
      · exact .inr ⟨_, .unnamed headed named⟩

/-! ## Acceptance -/

theorem ofBytes_of_ofRecords {path : String} {bytes : List UInt8}
    (refused : ofRecords types (Csv.records bytes) = .error refusal) :
    ofBytes path types bytes = .error (.malformed path refusal.message) := by
  rw [ofBytes, refused]

/-- Bytes are encoded exactly if their first record is a header, texts of which not all are empty
and no two equal, and all others are rows, as many texts. The columns are then the names of the
header in the order of their bytes. Names that stand twice are refused, the least of them being
named, and whatever is wrong with the header is reported before the rows are looked at. -/
theorem accepts_exactly (path : String) (types : List (String × String)) (bytes : List UInt8) :
    ((∃ encoded, ofBytes path types bytes = .ok encoded) ↔
      ∃ header rest, Csv.IsHeaded (Csv.records bytes) header rest ∧
        (∃ name ∈ header, name ≠ "") ∧ header.Nodup ∧ ∀ r ∈ rest, r.IsRow header) ∧
    (∀ encoded header rest, ofBytes path types bytes = .ok encoded →
      Csv.IsHeaded (Csv.records bytes) header rest →
      encoded.columns.Perm header ∧
        encoded.columns.Pairwise (fun a b => Utf8.encode a < Utf8.encode b) ∧
        encoded.rowCount = rest.length) ∧
    (∀ header rest, Csv.IsHeaded (Csv.records bytes) header rest → (∃ name ∈ header, name ≠ "") →
      ¬ header.Nodup → ∃ name, IsLeastRepeated header name ∧
        ofBytes path types bytes = .error (.malformed path s!"duplicate column '{name}'")) ∧
    ((∃ header rest, Csv.IsHeaded (Csv.records bytes) header rest ∧ IsHeader header) ∨
      ∃ refusal, HeaderFault (Csv.records bytes) refusal ∧
        ofBytes path types bytes = .error (.malformed path refusal.message)) := by
  refine ⟨⟨?_, ?_⟩, ?_, ?_, ?_⟩
  · rintro ⟨encoded, ok⟩
    obtain ⟨header, rows, table, checked, rfl⟩ := exists_table_of_ofBytes ok
    obtain ⟨rest, headed, fit, -⟩ := table.isHeaded
    obtain ⟨named, nodup⟩ := checkHeader_eq_ok_iff.1 checked
    exact ⟨header, rest, headed, named, nodup, fit⟩
  · rintro ⟨header, rest, ⟨first, eq, read⟩, named, nodup, fit⟩
    obtain ⟨rows, all⟩ := Csv.forall_isRow_iff.1 fit
    have table : Csv.AreTable (Csv.records bytes) header rows :=
      ⟨first, rest, eq, Csv.Record.texts_eq_ok_iff.2 read, all⟩
    exact ⟨_, ofBytes_of_areTable table (checkHeader_eq_ok_iff.2 ⟨named, nodup⟩) path types⟩
  · intro encoded header rest ok headed
    obtain ⟨header', rows, table, checked, rfl⟩ := exists_table_of_ofBytes ok
    obtain ⟨rest', headed', -, length⟩ := table.isHeaded
    obtain ⟨rfl, rfl⟩ := headed.unique headed'
    refine ⟨columns_perm header, ?_, length⟩
    exact (columns_sorted checked).imp Utf8.encode_lt_encode_iff.2
  · intro header rest headed named repeats
    obtain ⟨name, least, refused⟩ := checkHeader_of_repeated named repeats
    exact ⟨name, least, ofBytes_of_ofRecords (ofRecords_of_checkHeader headed refused)⟩
  · rcases isHeader_or_headerFault (Csv.records bytes) with good | ⟨refusal, fault⟩
    · exact .inl good
    · exact .inr ⟨refusal, fault, ofBytes_of_ofRecords fault.ofRecords⟩

end EncodedMock

end ModelBench
