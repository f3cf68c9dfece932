import ModelBench.Loading
import ModelBench.Proofs.Except
import ModelBench.Proofs.Files.Listing
import ModelBench.Proofs.Text.Utf8

/-!
# Loading the tests of a folder

The tests of a folder are the files directly inside whose names end in `.json` behind something
else, in the order of the bytes of their names (`exists_listing`). They are loaded one by one or all
together, and both ways load the same files in the same order: a file that holds no test is an error
for that file alone, or, if it is the first one, the error for all (`loads_folder`).
-/

namespace ModelBench

open ModelBench.Path (IsFileName join)

/-! ## The tests of a folder -/

namespace TestSpec

variable {files : Volume} {folder name : String} {place : Place} {names : List String}
  {bytes : List UInt8}

/-- Whether some names are those of the tests in a folder: of all files directly inside that have
something before `.json`, each once, in ascending order of the bytes. -/
structure AreTests (files : Volume) (place : Place) (names : List String) : Prop where
  complete : ∀ name, name ∈ names ↔ (∃ bytes, files.node? (place ++ [name]) = some (.file bytes)) ∧
    ∃ stem, stem ≠ "" ∧ name = stem ++ ".json"
  ascending : names.Pairwise fun a b => Text.Utf8.encode a < Text.Utf8.encode b

theorem AreTests.unique {names' : List String} (h : AreTests files place names)
    (h' : AreTests files place names') : names = names' := by
  have ascending := h.ascending.imp Text.Utf8.encode_lt_encode_iff.1
  have ascending' := h'.ascending.imp Text.Utf8.encode_lt_encode_iff.1
  exact ascending.eq_of_mem_iff ascending' fun name =>
    (h.complete name).trans (h'.complete name).symm

theorem isSpecEntry_iff {node : FileNode} (named : IsFileName name) :
    isSpecEntry (name, node) = true ↔
      (∃ bytes, node = .file bytes) ∧ ∃ stem, stem ≠ "" ∧ name = stem ++ ".json" := by
  cases node with
  | folder => simp [isSpecEntry]
  | file bytes =>
    have json : Path.extension name = some "json" ↔ _ :=
      Path.extension_eq_some_iff named (by decide)
    simp only [isSpecEntry, beq_iff_eq, json, String.append_assoc]
    simp

theorem paths_of_folder (located : files.locate folder = .ok place)
    (isFolder : files.node? place = some .folder) :
    paths files folder =
      .ok ((((files.children place).filter isSpecEntry).map Prod.fst).map (join folder)) := by
  have found : files.find folder = .ok .folder := by
    rw [Volume.find, located]
    simp only [bind, Except.bind, isFolder]
    rfl
  rw [paths, found, located, List.map_map]
  rfl

/-- The tests of a folder are found, whatever else is in there. -/
theorem exists_listing (tidy : files.IsTidy) (located : files.locate folder = .ok place)
    (isFolder : files.node? place = some .folder) :
    ∃ names, AreTests files place names ∧ paths files folder = .ok (names.map (join folder)) := by
  refine ⟨_, ⟨fun name => ?_, ?_⟩, paths_of_folder located isFolder⟩
  · rw [List.mem_map]
    constructor
    · rintro ⟨⟨name, node⟩, member, rfl⟩
      obtain ⟨child, isSpec⟩ := List.mem_filter.1 member
      have named := Volume.isFileName_of_mem_children tidy child
      obtain ⟨⟨bytes, rfl⟩, ending⟩ := (isSpecEntry_iff named).1 isSpec
      exact ⟨⟨bytes, (Volume.mem_children_iff tidy).1 child⟩, ending⟩
    · rintro ⟨⟨bytes, file⟩, ending⟩
      have child := (Volume.mem_children_iff tidy).2 file
      have named := Volume.isFileName_of_mem_children tidy child
      exact ⟨(name, .file bytes),
        List.mem_filter.2 ⟨child, (isSpecEntry_iff named).2 ⟨⟨bytes, rfl⟩, ending⟩⟩, rfl⟩
  · have sublist := (List.filter_sublist (p := isSpecEntry) (l := files.children place)).map Prod.fst
    exact ((Volume.children_ascending tidy place).sublist sublist).imp
      Text.Utf8.encode_lt_encode_iff.2

/-- Replacing a file leaves the list of tests as it is. -/
theorem AreTests.put (h : AreTests files place names)
    (file : files.node? (place ++ [name]) = some (.file bytes)) (bytes' : List UInt8) :
    AreTests (files.put (place ++ [name]) (.file bytes')) place names where
  complete other := by
    rw [h.complete other, Volume.node?_put_file]
    refine and_congr_left fun _ => ?_
    split_ifs with same
    · exact iff_of_true ⟨bytes, same ▸ file⟩ ⟨bytes', rfl⟩
    · rfl
  ascending := h.ascending

end TestSpec

/-! ## Both ways to load them -/

section

variable {files : Volume} {folder name : String} {place : Place} {names : List String}
  {c : Config} {tests : Option String}

theorem loadSpecs_of_paths (asked : tests.getD (c.resolvePath c.tests) = folder)
    (isFolder : files.isFolder folder = true) {paths : List String}
    (found : TestSpec.paths files folder = .ok paths) :
    loadSpecs files c tests = .ok (paths.map (loadSpec files c)) := by
  rw [loadSpecs, specPaths, asked, if_pos isFolder, found]
  rfl

theorem loadFolder_of_paths {paths : List String} (found : TestSpec.paths files folder = .ok paths) :
    TestSpec.loadFolder files folder = paths.mapM (TestSpec.load files) := by
  rw [TestSpec.loadFolder, found]
  rfl

theorem loadSpec_congr {other : Volume} {path : String}
    (same : other.readText path = files.readText path) :
    loadSpec other c path = loadSpec files c path := by
  rw [loadSpec, loadSpec, TestSpec.load, TestSpec.load, same]

/-- Replacing the file of a test changes what is loaded for that test and for no other one. -/
theorem loadSpecs_put (tidy : files.IsTidy) (asked : tests.getD (c.resolvePath c.tests) = folder)
    (located : files.locate folder = .ok place) (isFolder : files.node? place = some .folder)
    (tests_ : TestSpec.AreTests files place names) (member : name ∈ names) (bytes : List UInt8) :
    loadSpecs (files.put (place ++ [name]) (.file bytes)) c tests =
      .ok (names.map fun other => loadSpec
        (if other = name then files.put (place ++ [name]) (.file bytes) else files) c
          (join folder other)) := by
  obtain ⟨⟨old, file⟩, -⟩ := (tests_.complete name).1 member
  have same := Volume.sameTree_put file bytes
  have named (other : String) (member : other ∈ names) : IsFileName other := by
    obtain ⟨⟨bytes, file⟩, -⟩ := (tests_.complete other).1 member
    exact tidy.isFileName file other (by simp)
  have tidy' := tidy.put (tidy.isFileName file) (.file bytes)
  have located' := (same.locate folder).symm.trans located
  have isFolder' := (same.folder_iff place).1 isFolder
  obtain ⟨names', tests', found⟩ := TestSpec.exists_listing tidy' located' isFolder'
  obtain rfl := tests'.unique (tests_.put file bytes)
  rw [loadSpecs_of_paths asked (Volume.isFolder_iff.2 ⟨place, located', isFolder'⟩) found,
    List.map_map]
  refine congrArg Except.ok (List.map_congr_left fun other member => ?_)
  show loadSpec _ c (join folder other) = _
  split_ifs with eq
  · rfl
  · exact loadSpec_congr (Volume.readText_put (named other member) eq file bytes)

/-- The tests of a folder are found and loaded, whatever the folder holds. One by one, every file
has an outcome of its own, which no other file changes. All together they are loaded exactly if each
of them is, and then they are the same; otherwise the first one that cannot be loaded is the error
for all. -/
theorem loads_folder (tidy : files.IsTidy) (isFolder : files.isFolder folder = true)
    (asked : tests.getD (c.resolvePath c.tests) = folder) :
    ∃ place names paths, files.locate folder = .ok place ∧ TestSpec.AreTests files place names ∧
      paths = names.map (join folder) ∧ TestSpec.paths files folder = .ok paths ∧
      loadSpecs files c tests = .ok (paths.map fun path =>
        ⟨path, (TestSpec.load files path).map (TestSpec.rebase c.root)⟩) ∧
      (∀ name ∈ names, ∀ bytes,
        loadSpecs (files.put (place ++ [name]) (.file bytes)) c tests =
          .ok (names.map fun other => loadSpec
            (if other = name then files.put (place ++ [name]) (.file bytes) else files) c
              (join folder other))) ∧
      ((∃ specs, TestSpec.loadFolder files folder = .ok specs) ↔
        ∀ path ∈ paths, ∃ spec, TestSpec.load files path = .ok spec) ∧
      (∀ specs, TestSpec.loadFolder files folder = .ok specs →
        paths.map (TestSpec.load files) = specs.map .ok ∧
        ∀ loaded, loadSpecs files c tests = .ok loaded →
          loaded.map LoadedSpec.spec = specs.map fun spec => .ok (spec.rebase c.root)) ∧
      ∀ e, TestSpec.loadFolder files folder = .error e ↔
        ∃ front path back, paths = front ++ path :: back ∧
          (∀ before ∈ front, ∃ spec, TestSpec.load files before = .ok spec) ∧
          TestSpec.load files path = .error e := by
  obtain ⟨place, located, node⟩ := Volume.isFolder_iff.1 isFolder
  obtain ⟨names, tests_, found⟩ := TestSpec.exists_listing tidy located node
  have loaded := loadSpecs_of_paths asked isFolder found
  have together := loadFolder_of_paths found
  refine ⟨place, names, _, located, tests_, rfl, found, loaded,
    fun name member bytes => loadSpecs_put tidy asked located node tests_ member bytes,
    ?_, fun specs all => ?_, fun e => ?_⟩
  · rw [together, exists_mapM_eq_ok_iff]
  · rw [together, mapM_eq_ok_iff] at all
    refine ⟨all, fun entries eq => ?_⟩
    obtain rfl := Except.ok.inj (loaded.symm.trans eq)
    have outcomes := congrArg (List.map (Except.map (TestSpec.rebase c.root))) all
    simp only [List.map_map] at outcomes ⊢
    exact outcomes
  · rw [together, mapM_eq_error_iff]

/-- A folder of tests with a file that is no text, a hidden file, a folder with the name of a test
and a file of another kind. -/
def untidyTests : Volume where
  current := []
  nodes := [(["tests"], .folder), (["tests", "é.json"], .file []), (["tests", ".json"], .file []),
    (["tests", "z.json"], .file [255]), (["tests", "d.json"], .folder),
    (["tests", "notes.txt"], .file []), (["tests", "d.json", "a.json"], .file [])]

theorem isTidy_untidyTests : untidyTests.IsTidy where
  unique := by decide
  named := by decide

theorem loads_folder_untidy :
    untidyTests.IsTidy ∧ untidyTests.isFolder "tests" = true ∧
      (some "tests").getD ((Config.default "").resolvePath (Config.default "").tests) = "tests" ∧
      (¬ ∃ specs, TestSpec.loadFolder untidyTests "tests" = .ok specs) ∧
      ∃ loaded, loadSpecs untidyTests (.default "") (some "tests") = .ok loaded ∧
        ⟨"tests/z.json", .error (.unreadable "tests/z.json" FileError.notText.message)⟩ ∈ loaded := by
  have isFolder : untidyTests.isFolder "tests" = true := by decide +kernel
  have chosen : (some "tests").getD ((Config.default "").resolvePath (Config.default "").tests) =
      "tests" := rfl
  have bad : TestSpec.load untidyTests "tests/z.json" =
      .error (.unreadable "tests/z.json" FileError.notText.message) := rfl
  obtain ⟨place, names, paths, located, tests_, rfl, -, loaded, -, together, -⟩ :=
    loads_folder isTidy_untidyTests isFolder chosen
  obtain rfl : ["tests"] = place := Except.ok.inj located
  have member : "z.json" ∈ names :=
    (tests_.complete "z.json").2 ⟨⟨[255], by decide⟩, "z", by decide, by decide⟩
  have listed : "tests/z.json" ∈ names.map (join "tests") := List.mem_map.2 ⟨_, member, by decide⟩
  refine ⟨isTidy_untidyTests, isFolder, chosen, fun all => ?_, _, loaded,
    List.mem_map.2 ⟨_, listed, by rw [bad]; rfl⟩⟩
  obtain ⟨spec, good⟩ := together.1 all _ listed
  rw [bad] at good
  cases good

end

end ModelBench
