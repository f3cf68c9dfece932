import ModelBench.Proofs.Files.Volume
import ModelBench.Proofs.Text.Split
import ModelBench.Proofs.Text.Trim

/-!
# The files of a folder

A name behind the path of a folder is one step more than the folder itself (`steps_join`), so files
with different names stand at different places of one folder (`locate_join`). Writing files with
different names leaves each with its own text and everything else as it was (`node?_withFiles`).
-/

namespace ModelBench

open Text (splitAt)

/-! ## Paths of files -/

namespace Path

variable {folder name : String}

/-- Whether a text can be the name of a file: a single segment that stands for no folder. -/
structure IsFileName (name : String) : Prop where
  nonempty : name.toList ≠ []
  single : '/' ∉ name.toList
  notIdle : name ≠ "."
  notParent : name ≠ ".."

theorem IsFileName.not_absolute (h : IsFileName name) : isAbsolute name = false := by
  rw [isAbsolute, beq_eq_false_iff_ne]
  intro absolute
  exact h.single (List.mem_of_head? absolute)

/-- What is put between a folder and a name. -/
def divider (folder : String) : List Char :=
  if folder.isEmpty || endsInSlash folder then [] else ['/']

theorem toList_join (h : IsFileName name) :
    (join folder name).toList = folder.toList ++ divider folder ++ name.toList := by
  rw [join, h.not_absolute, if_neg Bool.false_ne_true, divider]
  split_ifs
  · rw [String.toList_append, List.append_nil]
  · rw [String.toList_append, String.toList_append]
    rfl

theorem join_injective {other : String} (h : IsFileName name) (h' : IsFileName other)
    (same : join folder name = join folder other) : name = other := by
  have texts := congrArg String.toList same
  rw [toList_join h, toList_join h'] at texts
  exact String.toList_inj.1 (List.append_cancel_left texts)

theorem endsInSlash_join (h : IsFileName name) : endsInSlash (join folder name) = false := by
  have last := List.getLast?_eq_some_getLast h.nonempty
  rw [endsInSlash, toList_join h, List.getLast?_append, last, beq_eq_false_iff_ne]
  intro ends
  exact h.single (List.mem_of_getLast? (last.trans ends))

theorem isAbsolute_join (h : IsFileName name) : isAbsolute (join folder name) = isAbsolute folder := by
  rw [isAbsolute, isAbsolute, toList_join h]
  cases text : folder.toList with
  | cons c rest => rfl
  | nil =>
    have empty : folder = "" := String.toList_eq_nil_iff.1 text
    subst empty
    exact h.not_absolute.trans rfl

/-- The names on the way to a folder. -/
def folders (path : String) : List String := (segments path).filter (· ≠ "")

theorem segments_join (h : IsFileName name) :
    (segments (join folder name)).filter (· ≠ "") = folders folder ++ [name] := by
  have proper : name ≠ "" := fun empty => h.nonempty (by rw [empty]; rfl)
  have single : splitAt '/' name.toList = [name.toList] := Text.splitAt_of_notMem h.single
  have last : ([name.toList].map String.ofList).filter (· ≠ "") = [name] := by
    simp [proper]
  rw [segments, toList_join h, folders, segments, divider]
  by_cases empty : folder = ""
  · subst empty
    show ((splitAt '/' name.toList).map String.ofList).filter _ = _
    rw [single, last]
    rfl
  by_cases slash : endsInSlash folder = true
  · -- the folder ends in an empty segment, which is no step
    obtain ⟨front, eq⟩ : ∃ front, folder.toList = front ++ ['/'] :=
      List.getLast?_eq_some_iff.1 (by simpa [endsInSlash] using slash)
    rw [slash, Bool.or_true, if_pos rfl, List.append_nil, eq, List.append_assoc,
      List.singleton_append, Text.splitAt_divided, Text.splitAt_divided, single, List.map_append,
      List.map_append, List.filter_append, List.filter_append, last]
    simp [Text.splitAt]
  · rw [if_neg (by simp [empty, slash]), List.append_assoc, List.singleton_append,
      Text.splitAt_divided, single, List.map_append, List.filter_append, last]

end Path

namespace Volume

open ModelBench.Path (IsFileName join)

variable {v w : Volume} {place parent : Place} {path folder name text : String}
  {files : List (String × String)}

theorem steps_join (h : IsFileName name) :
    steps (join folder name) = Path.folders folder ++ [name] := by
  rw [steps, Path.endsInSlash_join h, Path.segments_join h]
  exact List.append_nil _

theorem step_of_isFileName (h : IsFileName name) (place : Place) :
    step place name = place ++ [name] := by
  rw [step, if_neg h.notIdle, if_neg h.notParent]

/-- The place of a file is its name in the place of its folder. -/
theorem locate_join (h : IsFileName name) (located : v.locate (join folder name) = .ok place) :
    ∃ parent, v.follow (v.start folder) (Path.folders folder) = .ok parent ∧
      v.node? parent = some .folder ∧ place = parent ++ [name] := by
  obtain ⟨-, way⟩ := locate_eq_ok_iff.1 located
  rw [steps_join h, follow_append_eq_ok_iff, start, Path.isAbsolute_join h] at way
  obtain ⟨parent, way, last⟩ := way
  obtain ⟨isFolder, -, last⟩ := follow_cons_eq_ok_iff.1 last
  rw [step_of_isFileName h] at last
  exact ⟨parent, way, isFolder, (Except.ok.inj last).symm⟩

/-! ## Writing -/

theorem withoutSlash_of_file (file : Path.endsInSlash path = false) : withoutSlash path = path := by
  have trimmed : path.toList.reverse.dropWhile (· = '/') = path.toList.reverse := by
    refine Text.dropWhile_of_head ?_
    rw [List.head?_reverse]
    rw [Path.endsInSlash, beq_eq_false_iff_ne] at file
    cases last : path.toList.getLast? with
    | none => rfl
    | some c =>
      rw [last] at file
      simpa using file
  rw [withoutSlash, trimmed, List.reverse_reverse, String.ofList_toList]
  cases path.isEmpty <;> rfl

/-- A file that can be written stands at a place without a folder. -/
theorem locate_of_write (file : Path.endsInSlash path = false) (h : v.write path text = .ok w) :
    ∃ place, v.locate path = .ok place ∧ v.node? place ≠ some .folder := by
  rw [write, withoutSlash_of_file file] at h
  cases located : v.locate path with
  | error e =>
    rw [located] at h
    cases h
  | ok place =>
    refine ⟨place, rfl, fun folder => ?_⟩
    simp only [located, bind, Except.bind, folder] at h
    cases h

/-- Writing a file puts it into its folder. -/
theorem write_eq_put (file : Path.endsInSlash path = false)
    (located : v.locate path = .ok (parent ++ [name])) (folder : v.node? parent = some .folder)
    (free : v.node? (parent ++ [name]) ≠ some .folder) :
    v.write path text = .ok (v.put (parent ++ [name]) (.file (Text.Utf8.encode text))) := by
  rw [write, withoutSlash_of_file file, located]
  simp only [bind, Except.bind]
  cases found : v.node? (parent ++ [name]) with
  | none =>
    simp only [file, List.dropLast_concat, folder]
    rfl
  | some node =>
    cases node with
    | folder => exact absurd found free
    | file bytes =>
      simp only [file]
      rfl

/-- The volume with files in a folder, one put there after the other. -/
def withFiles (v : Volume) (parent : Place) (files : List (String × String)) : Volume :=
  files.foldl (fun v file => v.put (parent ++ [file.1]) (.file (Text.Utf8.encode file.2))) v

theorem withFiles_append (more : List (String × String)) :
    v.withFiles parent (files ++ more) = (v.withFiles parent files).withFiles parent more :=
  List.foldl_append

theorem current_withFiles : (v.withFiles parent files).current = v.current := by
  induction files generalizing v with
  | nil => rfl
  | cons file files ih => exact ih

theorem node?_put_file (node : FileNode) (other : Place) :
    (v.put (parent ++ [name]) node).node? other =
      if other = parent ++ [name] then some node else v.node? other :=
  node?_put (by simp) node other

/-- No other place is touched. -/
theorem node?_withFiles_of_notMem {other : Place}
    (apart : ∀ file ∈ files, other ≠ parent ++ [file.1]) :
    (v.withFiles parent files).node? other = v.node? other := by
  induction files generalizing v with
  | nil => rfl
  | cons file files ih =>
    obtain ⟨here, rest⟩ := List.forall_mem_cons.1 apart
    show (withFiles _ parent files).node? other = _
    rw [ih rest, node?_put_file, if_neg here]

/-- Every file has its own text in the end, if their names differ. -/
theorem node?_withFiles (nodup : (files.map Prod.fst).Nodup) (member : (name, text) ∈ files) :
    (v.withFiles parent files).node? (parent ++ [name]) =
      some (.file (Text.Utf8.encode text)) := by
  induction files generalizing v with
  | nil => cases member
  | cons file files ih =>
    rw [List.map_cons, List.nodup_cons] at nodup
    obtain ⟨other, nodup⟩ := nodup
    rcases List.mem_cons.1 member with rfl | member
    · show (withFiles _ parent files).node? _ = _
      rw [node?_withFiles_of_notMem, node?_put_file, if_pos rfl]
      intro file member same
      rw [List.append_cancel_left_eq, List.singleton_inj] at same
      exact other (List.mem_map.2 ⟨file, member, same.symm⟩)
    · exact ih nodup member

/-- Writing files makes no folder. -/
theorem folder_of_withFiles {other : Place}
    (h : (v.withFiles parent files).node? other = some .folder) :
    v.node? other = some .folder := by
  induction files generalizing v with
  | nil => exact h
  | cons file files ih =>
    have before := ih h
    rw [node?_put_file] at before
    split_ifs at before with same
    · cases before
    · exact before

/-- Writing files into a folder changes nothing but these files. -/
theorem agreeBeyond_withFiles {places : List Place}
    (covered : ∀ file ∈ files, parent ++ [file.1] ∈ places)
    (free : ∀ place ∈ places, v.node? place ≠ some .folder) :
    AgreeBeyond places v (v.withFiles parent files) where
  current := current_withFiles.symm
  same place outside := by
    refine (node?_withFiles_of_notMem ?_).symm
    rintro file member rfl
    exact outside (covered file member)
  noFolder place member := ⟨free place member, fun folder =>
    free place member (folder_of_withFiles folder)⟩

end Volume

end ModelBench
