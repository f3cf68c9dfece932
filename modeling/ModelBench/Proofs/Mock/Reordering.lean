import ModelBench.Proofs.Mock.Acceptance
import Mathlib.Data.List.FinRange
import Mathlib.Logic.Equiv.Fin.Rotate

/-!
# Reordering columns

A table is encoded to the same statement in whatever order its columns stand in the file
(`ofBytes_reordered`): ascending names can be arranged in one way only, and every value moves with
its name.
-/

namespace ModelBench.EncodedMock

variable {n : Nat} {header : Fin n → String}

/-- The columns are the same for every order of the names. -/
theorem columns_eq_of_perm {names names' : List String} (perm : names.Perm names') :
    (order names).map Prod.fst = (order names').map Prod.fst := by
  refine List.Perm.eq_of_pairwise (fun _ _ _ _ => le_antisymm) (columns_le names)
    (columns_le names') ?_
  exact (columns_perm names).trans (perm.trans (columns_perm names').symm)

/-- A column has in a row the value that stands where its name stands in the header. -/
theorem lookup_zip_ofFn (distinct : Function.Injective header) (row : Fin n → String) (i : Fin n) :
    ((List.ofFn header).zip (List.ofFn row)).lookup (header i) = some (row i) := by
  have member : (header i, i.val) ∈ (List.ofFn header).zipIdx := by
    rw [List.mk_mem_zipIdx_iff_getElem?, List.getElem?_ofFn, dif_pos i.isLt]
  have found := findIdx?_of_mem_zipIdx (List.nodup_ofFn.2 distinct) member
  rw [lookup_zip, found, Option.bind_some, List.getElem?_ofFn, dif_pos i.isLt]

/-- The values of a row in the order of the columns are the same if its values are permuted as the
names are. -/
theorem valuesAt_reordered (distinct : Function.Injective header) (σ : Equiv.Perm (Fin n))
    (row : Fin n → String) :
    valuesAt ((order (List.ofFn (header ∘ σ))).map Prod.snd) (List.ofFn (row ∘ σ)) =
      valuesAt ((order (List.ofFn header)).map Prod.snd) (List.ofFn row) := by
  have distinct' : Function.Injective (header ∘ σ) := distinct.comp σ.injective
  rw [valuesAt_order (List.nodup_ofFn.2 distinct), valuesAt_order (List.nodup_ofFn.2 distinct'),
    columns_eq_of_perm (σ.ofFn_comp_perm header)]
  refine List.map_congr_left fun name member => ?_
  obtain ⟨i, rfl⟩ := (List.mem_ofFn' _ _).1 ((columns_perm _).mem_iff.1 member)
  have moved := lookup_zip_ofFn distinct' (row ∘ σ) (σ.symm i)
  simp only [Function.comp_apply, Equiv.apply_symm_apply] at moved
  rw [lookup_zip_ofFn distinct row i, moved]

theorem ofTable_reordered (distinct : Function.Injective header) (σ : Equiv.Perm (Fin n))
    (rows : List (Fin n → String)) (types : List (String × String)) :
    ofTable types (List.ofFn (header ∘ σ)) (rows.map fun row => List.ofFn (row ∘ σ)) =
      ofTable types (List.ofFn header) (rows.map List.ofFn) := by
  have columns := columns_eq_of_perm (σ.ofFn_comp_perm header)
  simp only [ofTable, List.map_map, List.length_map, columns]
  congr 2
  refine List.map_congr_left fun row _ => ?_
  exact congrArg (fun values => "\n SELECT " ++ renderRow types _ values)
    (valuesAt_reordered distinct σ row)

/-- Bytes that hold a table, and bytes that hold it with the columns permuted, are encoded to the
same statement. -/
theorem ofBytes_reordered (distinct : Function.Injective header) (named : ∃ i, header i ≠ "")
    (rows : List (Fin n → String)) (σ : Equiv.Perm (Fin n)) {bytes bytes' : List UInt8}
    (table : Csv.AreTable (Csv.records bytes) (List.ofFn header) (rows.map List.ofFn))
    (permuted : Csv.AreTable (Csv.records bytes') (List.ofFn (header ∘ σ))
      (rows.map fun row => List.ofFn (row ∘ σ)))
    (path path' : String) (types : List (String × String)) :
    ∃ encoded, ofBytes path types bytes = .ok encoded ∧
      ofBytes path' types bytes' = .ok encoded := by
  have checked : checkHeader (List.ofFn header) = .ok () := by
    obtain ⟨i, ne⟩ := named
    exact checkHeader_eq_ok_iff.2
      ⟨⟨header i, (List.mem_ofFn' _ _).2 ⟨i, rfl⟩, ne⟩, List.nodup_ofFn.2 distinct⟩
  have checked' : checkHeader (List.ofFn (header ∘ σ)) = .ok () := by
    rw [checkHeader_eq_ok_iff] at checked ⊢
    exact checked.perm (σ.ofFn_comp_perm header).symm
  refine ⟨_, ofBytes_of_areTable table checked path types, ?_⟩
  rw [ofBytes_of_areTable permuted checked' path' types, ofTable_reordered distinct σ]

/-- The names of three columns that do not stand in ascending order. -/
def stockHeader : Fin 3 → String
  | 0 => "zeta"
  | 1 => "alpha"
  | 2 => "mid"

/-- A row in which one value is empty. -/
def stockRow : Fin 3 → String
  | 0 => "4"
  | 1 => ""
  | 2 => "6"

/-- A file of them. -/
def stockBytes : List UInt8 := Text.Utf8.encode "zeta,alpha,mid\n4,,6\n"

/-- A file of them with the first column at the end. -/
def movedBytes : List UInt8 := Text.Utf8.encode "alpha,mid,zeta\n,6,4\n"

theorem ofBytes_stock_reordered :
    Csv.AreTable (Csv.records stockBytes) (List.ofFn stockHeader) ([stockRow].map List.ofFn) ∧
      Csv.AreTable (Csv.records movedBytes) (List.ofFn (stockHeader ∘ finRotate 3))
        ([stockRow].map fun row => List.ofFn (row ∘ finRotate 3)) ∧
      ∃ encoded, ofBytes "stock.csv" [("mid", "INT64")] stockBytes = .ok encoded ∧
        ofBytes "moved.csv" [("mid", "INT64")] movedBytes = .ok encoded := by
  have distinct : ∀ i j, stockHeader i = stockHeader j → i = j := by decide +kernel
  have named : stockHeader 0 ≠ "" := by decide +kernel
  have table : Csv.AreTable (Csv.records stockBytes) (List.ofFn stockHeader)
      ([stockRow].map List.ofFn) := ⟨_, _, rfl, rfl, .cons rfl .nil⟩
  have moved : Csv.AreTable (Csv.records movedBytes) (List.ofFn (stockHeader ∘ finRotate 3))
      ([stockRow].map fun row => List.ofFn (row ∘ finRotate 3)) :=
    ⟨_, _, rfl, rfl, .cons rfl .nil⟩
  exact ⟨table, moved, ofBytes_reordered (fun i j => distinct i j) ⟨0, named⟩ [stockRow]
    (finRotate 3) table moved "stock.csv" "moved.csv" [("mid", "INT64")]⟩

end ModelBench.EncodedMock
