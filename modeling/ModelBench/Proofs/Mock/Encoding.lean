import ModelBench.Mock.Encoding
import Mathlib.Data.List.Sort
import Mathlib.Data.String.Basic

/-!
# Encoding tables

The columns of a mock are the names of its header in ascending order (`columns_perm`,
`columns_sorted`), and every value of a row moves with its name (`valuesAt_order`). A mock that was
encoded is the table that its file holds (`exists_holds_of_encode`).
-/

namespace ModelBench

namespace EncodedMock

variable {header row names : List String} {name : String}

theorem order_perm (header : List String) : (order header).Perm header.zipIdx :=
  List.mergeSort_perm _ _

theorem columns_perm (header : List String) : ((order header).map Prod.fst).Perm header := by
  have perm := (order_perm header).map Prod.fst
  rwa [List.zipIdx_map_fst] at perm

theorem columns_le (header : List String) : ((order header).map Prod.fst).Pairwise (· ≤ ·) := by
  rw [List.pairwise_map]
  refine (List.pairwise_mergeSort ?_ ?_ header.zipIdx).imp of_decide_eq_true
  · intro a b c ab bc
    rw [decide_eq_true_eq] at ab bc ⊢
    exact le_trans ab bc
  · intro a b
    rw [Bool.or_eq_true, decide_eq_true_eq, decide_eq_true_eq]
    exact le_total a.1 b.1

/-- Ascending names of which none stands twice in a row are strictly ascending. -/
theorem sorted_of_repeated?_eq_none (le : names.Pairwise (· ≤ ·)) (h : repeated? names = none) :
    names.Pairwise (· < ·) := by
  induction names with
  | nil => exact .nil
  | cons a rest ih =>
    cases rest with
    | nil => exact List.pairwise_singleton _ _
    | cons b rest =>
      rw [repeated?] at h
      split_ifs at h with same
      obtain ⟨least, le⟩ := List.pairwise_cons.1 le
      have sorted := ih le h
      have lt : a < b := lt_of_le_of_ne (least b List.mem_cons_self) same
      refine List.pairwise_cons.2 ⟨fun x hx => ?_, sorted⟩
      rcases List.mem_cons.1 hx with rfl | hx
      · exact lt
      · exact lt.trans ((List.pairwise_cons.1 sorted).1 x hx)

theorem columns_sorted (h : checkHeader header = .ok ()) :
    ((order header).map Prod.fst).Pairwise (· < ·) := by
  rw [checkHeader] at h
  split_ifs at h
  split at h
  · cases h
  · next none_ => exact sorted_of_repeated?_eq_none (columns_le header) none_

theorem header_ne_nil (h : checkHeader header = .ok ()) : header ≠ [] := by
  rintro rfl
  cases h

/-! ## Values -/

/-- What a column has in a row: the value at the position of its name. -/
theorem lookup_zip {α : Type} (header : List String) (row : List α) (name : String) :
    (header.zip row).lookup name = (header.findIdx? (· == name)).bind (row[·]?) := by
  induction header generalizing row with
  | nil => rfl
  | cons other header ih =>
    cases row with
    | nil => cases (other :: header).findIdx? (· == name) <;> rfl
    | cons value row =>
      rw [List.zip_cons_cons, List.lookup_cons, List.findIdx?_cons, ih]
      by_cases same : other = name
      · subst same
        simp
      · rw [beq_eq_false_iff_ne.2 (Ne.symm same), beq_eq_false_iff_ne.2 same]
        cases header.findIdx? (· == name) <;> simp

theorem findIdx?_of_mem_zipIdx (nodup : header.Nodup) {i : Nat} (h : (name, i) ∈ header.zipIdx) :
    header.findIdx? (· == name) = some i := by
  obtain ⟨lt, rfl⟩ := List.getElem?_eq_some_iff.1 (List.mk_mem_zipIdx_iff_getElem?.1 h)
  refine List.findIdx?_eq_some_iff_getElem.2 ⟨lt, beq_self_eq_true _, fun j before same => ?_⟩
  exact before.ne (nodup.getElem_inj_iff.1 (beq_iff_eq.1 same))

/-- Every value of a row moves with the name of its column. -/
theorem valuesAt_order (nodup : header.Nodup) (row : List String) :
    valuesAt ((order header).map Prod.snd) row =
      ((order header).map Prod.fst).map fun name => ((header.zip row).lookup name).getD "" := by
  rw [valuesAt, List.map_map, List.map_map]
  refine List.map_congr_left fun entry member => ?_
  have found := findIdx?_of_mem_zipIdx nodup ((order_perm header).mem_iff.1 member)
  show row.getD entry.2 "" = ((header.zip row).lookup entry.1).getD ""
  rw [lookup_zip, found, Option.bind_some, List.getD_eq_getElem?_getD]

end EncodedMock

/-! ## Files -/

variable {files : Volume} {mock : Mock} {encoded : EncodedMock}

/-- Whether the file of a mock holds a table: a header, and rows of as many texts. -/
def Mock.Holds (files : Volume) (mock : Mock) (header : List String) (rows : List (List String)) :
    Prop :=
  ∃ bytes first rest, files.read mock.filepath = .ok bytes ∧ Csv.records bytes = first :: rest ∧
    first.texts = .ok header ∧
    List.Forall₂ (fun (r : Csv.Record) row => r.textsOfLength header.length = .ok row) rest rows

theorem EncodedMock.forall₂_of_rowsFrom {width number : Nat} {records : List Csv.Record}
    {rows : List (List String)} (h : rowsFrom width number records = .ok rows) :
    List.Forall₂ (fun (r : Csv.Record) row => r.textsOfLength width = .ok row) records rows := by
  induction records generalizing number rows with
  | nil =>
    cases h
    exact .nil
  | cons r records ih =>
    rw [rowsFrom] at h
    cases texts : r.textsOfLength width with
    | error fault =>
      rw [texts] at h
      cases h
    | ok row =>
      rw [texts] at h
      cases rest : rowsFrom width (number + 1) records with
      | error refusal =>
        rw [rest] at h
        cases h
      | ok rest_ =>
        rw [rest] at h
        cases h
        exact .cons texts (ih rest)

theorem EncodedMock.rowsFrom_of_forall₂ {width : Nat} {records : List Csv.Record}
    {rows : List (List String)}
    (h : List.Forall₂ (fun (r : Csv.Record) row => r.textsOfLength width = .ok row) records rows)
    (number : Nat) : rowsFrom width number records = .ok rows := by
  induction h generalizing number with
  | nil => rfl
  | cons texts _ ih => simp only [rowsFrom, texts, ih, Except.map]

theorem EncodedMock.table_of_ofRecords {types : List (String × String)}
    {records : List Csv.Record} (h : ofRecords types records = .ok encoded) :
    ∃ first rest header rows, records = first :: rest ∧ first.texts = .ok header ∧
      checkHeader header = .ok () ∧ rowsFrom header.length 1 rest = .ok rows ∧
      encoded = ofTable types header rows := by
  cases records with
  | nil => cases h
  | cons first rest =>
    rw [ofRecords] at h
    cases texts : first.texts with
    | error fault =>
      simp only [texts] at h
      cases h
    | ok header =>
      simp only [texts] at h
      cases checked : checkHeader header with
      | error refusal =>
        rw [checked] at h
        cases h
      | ok u =>
        rw [checked] at h
        cases found : rowsFrom header.length 1 rest with
        | error refusal =>
          rw [found] at h
          cases h
        | ok rows =>
          rw [found] at h
          cases h
          exact ⟨first, rest, header, rows, rfl, texts, checked, found, rfl⟩

/-- Whether records are a table: a header, and rows of as many texts. -/
def Csv.AreTable (records : List Csv.Record) (header : List String) (rows : List (List String)) :
    Prop :=
  ∃ first rest, records = first :: rest ∧ first.texts = .ok header ∧
    List.Forall₂ (fun (r : Csv.Record) row => r.textsOfLength header.length = .ok row) rest rows

/-- What bytes are encoded to is the table that they hold. -/
theorem EncodedMock.exists_table_of_ofBytes {path : String} {types : List (String × String)}
    {bytes : List UInt8} (h : ofBytes path types bytes = .ok encoded) :
    ∃ header rows, Csv.AreTable (Csv.records bytes) header rows ∧ checkHeader header = .ok () ∧
      encoded = ofTable types header rows := by
  rw [ofBytes] at h
  cases records : ofRecords types (Csv.records bytes) with
  | error refusal =>
    rw [records] at h
    cases h
  | ok found =>
    rw [records] at h
    cases h
    obtain ⟨first, rest, header, rows, eq, texts, checked, found, rfl⟩ := table_of_ofRecords records
    exact ⟨header, rows, ⟨first, rest, eq, texts, forall₂_of_rowsFrom found⟩, checked, rfl⟩

/-- Bytes that hold a table are encoded to it. -/
theorem EncodedMock.ofBytes_of_areTable {bytes : List UInt8} {header : List String}
    {rows : List (List String)} (table : Csv.AreTable (Csv.records bytes) header rows)
    (checked : checkHeader header = .ok ()) (path : String) (types : List (String × String)) :
    ofBytes path types bytes = .ok (ofTable types header rows) := by
  obtain ⟨first, rest, eq, texts, read⟩ := table
  have found := rowsFrom_of_forall₂ read 1
  rw [ofBytes, eq, ofRecords]
  simp only [texts, checked, found]
  rfl

/-- A mock that was encoded is the table that its file holds. -/
theorem exists_holds_of_encode (h : mock.encode files = .ok encoded) :
    ∃ header rows, mock.Holds files header rows ∧ EncodedMock.checkHeader header = .ok () ∧
      encoded = .ofTable mock.types header rows := by
  rw [Mock.encode] at h
  cases read : files.read mock.filepath with
  | error fault =>
    rw [read] at h
    cases fault <;> cases h
  | ok bytes =>
    rw [read] at h
    obtain ⟨header, rows, ⟨first, rest, table⟩, checked, rfl⟩ :=
      EncodedMock.exists_table_of_ofBytes h
    exact ⟨header, rows, ⟨bytes, first, rest, read, table⟩, checked, rfl⟩

end ModelBench
