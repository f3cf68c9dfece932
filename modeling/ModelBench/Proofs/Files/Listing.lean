import ModelBench.TestSpec
import ModelBench.Proofs.Files.Folder
import Mathlib.Data.List.Sort
import Mathlib.Data.String.Basic

/-!
# What a folder lists

In a volume where every place has one node, a folder lists what stands directly inside it
(`mem_children_iff`), each name once and in ascending order (`children_ascending`). A name has an
extension if there is something before it (`extension_eq_some_iff`). Volumes with the same folders
take every path to the same place and have the same faults on the way (`SameTree.locate`), so a file
that is replaced is noticed only by those who read it (`readText_put`).
-/

namespace ModelBench

open ModelBench.Path (IsFileName join)

/-! ## Extensions -/

namespace Path

variable {name : String}

instance (name : String) : Decidable (IsFileName name) :=
  decidable_of_iff (name.toList ≠ [] ∧ '/' ∉ name.toList ∧ name ≠ "." ∧ name ≠ "..")
    ⟨fun ⟨nonempty, single, notIdle, notParent⟩ => ⟨nonempty, single, notIdle, notParent⟩,
      fun ⟨nonempty, single, notIdle, notParent⟩ => ⟨nonempty, single, notIdle, notParent⟩⟩

theorem fileName_of_isFileName (h : IsFileName name) : fileName name = some name := by
  have single : segments name = [name] := by
    rw [segments, Text.splitAt_of_notMem h.single, List.map_singleton, String.ofList_toList]
  have active : (!isIdle name) = true := by
    have proper : name ≠ "" := fun empty => h.nonempty (by rw [empty]; rfl)
    simp [isIdle, proper, h.notIdle]
  rw [fileName, names, single, List.filter_singleton, active]
  exact if_neg h.notParent

theorem splitName_stem {stem ending : String} (begun : stem ≠ "") (last : '.' ∉ ending.toList) :
    splitName (stem ++ "." ++ ending) = (stem, some ending) := by
  have reversed : (stem ++ "." ++ ending).toList.reverse =
      ending.toList.reverse ++ '.' :: stem.toList.reverse := by simp
  have plain : ∀ c ∈ ending.toList.reverse, decide (c ≠ '.') = true := fun c member =>
    decide_eq_true fun dot => last (dot ▸ List.mem_reverse.1 member)
  have nonempty : stem.toList ≠ [] := mt String.toList_eq_nil_iff.1 begun
  rw [splitName, reversed, List.takeWhile_append_of_pos plain, List.dropWhile_append_of_pos plain]
  simp [nonempty]

/-- A name with an extension is what stands before the last dot, which is something, and the
extension behind it. -/
theorem splitName_eq_some {stem ending : String} (h : splitName name = (stem, some ending)) :
    name = stem ++ "." ++ ending ∧ stem ≠ "" := by
  have parts := List.takeWhile_append_dropWhile (p := (· ≠ '.')) (l := name.toList.reverse)
  rw [splitName] at h
  split at h
  · next before dot =>
    split_ifs at h with empty
    · cases h
    · rw [Prod.mk.injEq, Option.some.injEq] at h
      obtain ⟨rfl, rfl⟩ := h
      rw [dot] at parts
      refine ⟨String.ext ?_, fun none_ => empty ?_⟩
      · have whole := congrArg List.reverse parts
        rw [List.reverse_reverse] at whole
        exact whole.symm.trans (by simp)
      · simpa using congrArg String.toList none_
  · cases h

theorem extension_eq_some_iff {ending : String} (h : IsFileName name)
    (last : '.' ∉ ending.toList) :
    extension name = some ending ↔ ∃ stem, stem ≠ "" ∧ name = stem ++ "." ++ ending := by
  rw [extension, fileName_of_isFileName h, Option.bind_some]
  constructor
  · intro found
    obtain ⟨eq, begun⟩ := splitName_eq_some (Prod.ext rfl found)
    exact ⟨_, begun, eq⟩
  · rintro ⟨stem, begun, rfl⟩
    rw [splitName_stem begun last]

end Path

namespace Volume

variable {v w : Volume} {place : Place} {path folder name : String} {node : FileNode}

/-! ## Entries of folders -/

/-- Whether every place of a volume has one node, and what is on the way to it can be the names of
files. -/
structure IsTidy (v : Volume) : Prop where
  unique : (v.nodes.map Prod.fst).Nodup
  named : ∀ entry ∈ v.nodes, ∀ name ∈ entry.1, IsFileName name

theorem childOf_eq_some_iff {entry : Place × FileNode} {child : String × FileNode} :
    childOf place entry = some child ↔ entry = (place ++ [child.1], child.2) := by
  obtain ⟨key, node⟩ := entry
  obtain ⟨name, other⟩ := child
  rw [Prod.mk.injEq]
  obtain rfl | ⟨front, last, rfl⟩ := key.eq_nil_or_concat'
  · simp [childOf]
  · simp only [childOf, List.getLast?_concat, List.dropLast_concat, Option.ite_none_right_eq_some,
      Option.some.injEq, Prod.mk.injEq, List.append_singleton_inj, and_assoc]

/-- A folder lists exactly what stands directly inside it. -/
theorem mem_children_iff (tidy : v.IsTidy) :
    (name, node) ∈ v.children place ↔ v.node? (place ++ [name]) = some node := by
  have proper : place ++ [name] ≠ [] := by simp
  rw [children, List.mem_mergeSort, List.mem_filterMap, node?, if_neg proper,
    lookup_eq_some_iff_mem tidy.unique]
  simp only [childOf_eq_some_iff, exists_eq_right]

/-- The names in a folder are strictly ascending. -/
theorem children_ascending (tidy : v.IsTidy) (place : Place) :
    ((v.children place).map Prod.fst).Pairwise (· < ·) := by
  have sorted : ((v.children place).map Prod.fst).Pairwise (· ≤ ·) := by
    rw [List.pairwise_map]
    refine (List.pairwise_mergeSort ?_ ?_ _).imp of_decide_eq_true
    · intro a b c ab bc
      rw [decide_eq_true_eq] at ab bc ⊢
      exact le_trans ab bc
    · intro a b
      rw [Bool.or_eq_true, decide_eq_true_eq, decide_eq_true_eq]
      exact le_total a.1 b.1
  have once : ((v.children place).map Prod.fst).Nodup := by
    rw [children, ((List.mergeSort_perm _ _).map Prod.fst).nodup_iff, List.Nodup,
      List.pairwise_map]
    refine List.Pairwise.filterMap _ ?_ (List.pairwise_map.1 tidy.unique)
    intro entry entry' apart child here child' there same
    rw [childOf_eq_some_iff] at here there
    exact apart (by rw [here, there, same])
  exact sorted.imp₂ (fun _ _ le ne => lt_of_le_of_ne le ne) once

theorem IsTidy.isFileName (tidy : v.IsTidy) (found : v.node? place = some node) :
    ∀ name ∈ place, IsFileName name := by
  by_cases root : place = []
  · rw [root]
    exact List.forall_mem_nil _
  · rw [node?, if_neg root, lookup_eq_some_iff_mem tidy.unique] at found
    exact tidy.named _ found

theorem isFileName_of_mem_children (tidy : v.IsTidy) (member : (name, node) ∈ v.children place) :
    IsFileName name :=
  tidy.isFileName ((mem_children_iff tidy).1 member) name (by simp)

theorem IsTidy.put (tidy : v.IsTidy) (named : ∀ name ∈ place, IsFileName name) (node : FileNode) :
    (v.put place node).IsTidy where
  unique := by
    rw [Volume.put, List.map_cons, List.nodup_cons]
    refine ⟨fun member => ?_, tidy.unique.sublist (List.filter_sublist.map _)⟩
    obtain ⟨entry, kept, same⟩ := List.mem_map.1 member
    simp [same] at kept
  named := by
    rw [Volume.put, List.forall_mem_cons]
    exact ⟨named, fun entry kept => tidy.named entry (List.mem_of_mem_filter kept)⟩

/-! ## Volumes with the same folders -/

/-- Whether two volumes start at the same place and have folders and files at the same places. -/
structure SameTree (v w : Volume) : Prop where
  current : v.current = w.current
  none_iff : ∀ place, v.node? place = none ↔ w.node? place = none
  folder_iff : ∀ place, v.node? place = some .folder ↔ w.node? place = some .folder

/-- Volumes with the same folders and files take every path to the same place, or have the same
fault on the way. -/
theorem SameTree.follow (h : SameTree v w) (place : Place) (rest : List String) :
    v.follow place rest = w.follow place rest := by
  induction rest generalizing place with
  | nil => rfl
  | cons segment rest ih =>
    have none_iff := h.none_iff place
    have folder_iff := h.folder_iff place
    rw [Volume.follow, Volume.follow]
    cases here : v.node? place with
    | none => rw [none_iff.1 here]
    | some node =>
      cases node with
      | folder => simp only [folder_iff.1 here, ih]
      | file bytes =>
        rw [here] at none_iff folder_iff
        cases there : w.node? place with
        | none => exact absurd (none_iff.2 there) (by simp)
        | some node =>
          cases node with
          | folder => exact absurd (folder_iff.2 there) (by simp)
          | file _ => rfl

theorem SameTree.locate (h : SameTree v w) (path : String) : v.locate path = w.locate path := by
  rw [Volume.locate, Volume.locate, start, start, h.current, h.follow]

theorem isFolder_iff : v.isFolder path = true ↔
    ∃ place, v.locate path = .ok place ∧ v.node? place = some .folder := by
  rw [isFolder, find]
  cases v.locate path with
  | error e => simp [bind, Except.bind]
  | ok place =>
    cases found : v.node? place with
    | none => simp [bind, Except.bind, found, throw, throwThe, MonadExceptOf.throw]
    | some node => cases node <;> simp [bind, Except.bind, found, pure, Except.pure]

/-- A file is read alike in volumes with the same folders and files if it is the same in both. -/
theorem SameTree.readText (h : SameTree v w)
    (same : ∀ place, v.locate path = .ok place → v.node? place = w.node? place) :
    v.readText path = w.readText path := by
  rw [Volume.readText, Volume.readText, read, read, find, find, ← h.locate]
  cases located : v.locate path with
  | error fault => rfl
  | ok place => simp only [bind, Except.bind, same place located]

/-- Replacing a file moves nothing. -/
theorem sameTree_put {bytes : List UInt8} (file : v.node? place = some (.file bytes))
    (bytes' : List UInt8) : SameTree v (v.put place (.file bytes')) := by
  have proper : place ≠ [] := ne_nil_of_no_folder (v := v) (by simp [file])
  refine ⟨rfl, fun other => ?_, fun other => ?_⟩
  all_goals
    rw [node?_put proper]
    split_ifs with same
    · simp [same, file]
    · rfl

/-- A replaced file changes nothing for the other files of its folder. -/
theorem readText_put {bytes : List UInt8} {other : String} (h : IsFileName other)
    (ne : other ≠ name) (file : v.node? (place ++ [name]) = some (.file bytes))
    (bytes' : List UInt8) :
    (v.put (place ++ [name]) (.file bytes')).readText (join folder other) =
      v.readText (join folder other) := by
  refine ((sameTree_put file bytes').readText fun found located => ?_).symm
  obtain ⟨parent, -, -, rfl⟩ := locate_join h located
  rw [node?_put_file, if_neg]
  exact fun same => ne (List.append_inj' same rfl |>.2 |> List.singleton_inj.1)

end Volume

end ModelBench
