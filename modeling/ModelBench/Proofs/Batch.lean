import ModelBench.Proofs.Batch.Files
import ModelBench.Proofs.Preflight

/-!
# Batches of statements

A batch writes the statements of every test that can be generated, each to its own file, and nothing
else; every test that cannot be loaded or generated is reported once, in order (`write_complete`).
A step adds the files or the problem of one specification (`exists_writeSpec`). No test reads what
another one wrote, so all of them have the files that they have on their own (`exists_writeSpecs`).
-/

namespace ModelBench

open ModelBench.Path (IsFileName join)
open Volume (AgreeBeyond)

section

variable {v w : Volume} {m : Manifest} {filter : Filter} {direction : AssertionDirection}
  {specs : List LoadedSpec} {loaded : LoadedSpec} {folder name : String} {parent : Place}
  {places : List Place} {file : String × String}

/-! ## Files that can be written -/

/-- Whether a name stands for a file in a folder, at a place of its own. -/
structure Fits (v : Volume) (folder : String) (parent : Place) (name : String) : Prop where
  isFileName : IsFileName name
  located : v.locate (join folder name) = .ok (parent ++ [name])
  folder : v.node? parent = some .folder
  free : v.node? (parent ++ [name]) ≠ some .folder

/-- A file still fits after other ones have been written. -/
theorem Fits.of_agree (fits : Fits v folder parent name) (agree : AgreeBeyond places v w)
    (member : parent ++ [name] ∈ places) : Fits w folder parent name :=
  ⟨fits.isFileName, agree.locate fits.located, agree.folder fits.folder,
    (agree.noFolder _ member).2⟩

theorem Fits.write_eq_put (fits : Fits v folder parent name) (text : String) :
    v.write (join folder name) text =
      .ok (v.put (parent ++ [name]) (.file (Text.Utf8.encode text))) :=
  Volume.write_eq_put (Path.endsInSlash_join fits.isFileName) fits.located fits.folder fits.free

/-- Files that can be written fit into one and the same place. -/
theorem exists_fits {files : List (String × String)}
    (names : ∀ file ∈ files, IsFileName file.1)
    (writable : ∀ file ∈ files, (v.write (join folder file.1) file.2).isOk) :
    ∃ parent, ∀ file ∈ files, Fits v folder parent file.1 := by
  have each (file : String × String) (member : file ∈ files) :
      ∃ parent, v.follow (v.start folder) (Path.folders folder) = .ok parent ∧
        Fits v folder parent file.1 := by
    cases written : v.write (join folder file.1) file.2 with
    | error fault =>
      have ok := writable file member
      rw [written] at ok
      cases ok
    | ok after =>
      obtain ⟨place, located, free⟩ :=
        Volume.locate_of_write (Path.endsInSlash_join (names file member)) written
      obtain ⟨parent, way, isFolder, rfl⟩ := Volume.locate_join (names file member) located
      exact ⟨parent, way, names file member, located, isFolder, free⟩
  cases files with
  | nil => exact ⟨[], by simp⟩
  | cons file files =>
    obtain ⟨parent, way, -⟩ := each file List.mem_cons_self
    refine ⟨parent, fun other member => ?_⟩
    obtain ⟨place, way', fits⟩ := each other member
    obtain rfl : parent = place := Except.ok.inj (way.symm.trans way')
    exact fits

/-- The places of some files in a folder. -/
def outputs (v : Volume) (folder : String) (files : List (String × String)) : List Place :=
  files.filterMap fun file => (v.locate (join folder file.1)).toOption

theorem outputs_eq {files : List (String × String)}
    (fits : ∀ file ∈ files, Fits v folder parent file.1) :
    outputs v folder files = files.map fun file => parent ++ [file.1] := by
  rw [outputs, ← List.filterMap_eq_map]
  refine List.filterMap_congr fun file member => ?_
  rw [(fits file member).located]
  rfl

/-! ## Steps of a batch -/

namespace Batch

variable {b after last : Batch} {files more : List (String × String)}
  {problems further : List Diagnostic}

@[simp] theorem written_note (b : Batch) (event : BatchEvent) :
    (b.note event).written = b.written ++ match event with
      | .wrote path => [path]
      | _ => [] := by
  cases event <;> simp [written, note]

@[simp] theorem diagnostics_note (b : Batch) (event : BatchEvent) :
    (b.note event).diagnostics = b.diagnostics ++ match event with
      | .failed diagnostic => [diagnostic]
      | _ => [] := by
  cases event <;> simp [diagnostics, note]

/-- Whether a later batch has written some files into a folder and met some problems. -/
structure Adds (folder : String) (parent : Place) (new : List (String × String))
    (problems : List Diagnostic) (b after : Batch) : Prop where
  files : after.files = b.files.withFiles parent new
  written : after.written = b.written ++ new.map fun file => join folder file.1
  diagnostics : after.diagnostics = b.diagnostics ++ problems

theorem Adds.trans (h : Adds folder parent files problems b after)
    (h' : Adds folder parent more further after last) :
    Adds folder parent (files ++ more) (problems ++ further) b last where
  files := by rw [h'.files, h.files, Volume.withFiles_append]
  written := by rw [h'.written, h.written, List.map_append, List.append_assoc]
  diagnostics := by rw [h'.diagnostics, h.diagnostics, List.append_assoc]

/-- An event that is neither a file nor a problem adds nothing. -/
theorem Adds.note (h : Adds folder parent files problems b after) (event : BatchEvent)
    (quiet : (∀ path, event ≠ .wrote path) ∧ ∀ d, event ≠ .failed d) :
    Adds folder parent files problems b (after.note event) where
  files := h.files
  written := by
    rw [← h.written, written_note]
    cases event <;> simp_all
  diagnostics := by
    rw [← h.diagnostics, diagnostics_note]
    cases event <;> simp_all

theorem Adds.refl (folder : String) (parent : Place) (b : Batch) : Adds folder parent [] [] b b :=
  ⟨rfl, (List.append_nil _).symm, (List.append_nil _).symm⟩

theorem Adds.failed (folder : String) (parent : Place) (b : Batch) (d : Diagnostic) :
    Adds folder parent [] [d] b (b.note (.failed d)) :=
  ⟨rfl, by simp, by simp⟩

/-- Files that fit are all written. -/
theorem exists_writeFiles (fits : ∀ file ∈ files, Fits b.files folder parent file.1) :
    ∃ after, writeFiles folder b files = (after, none) ∧
      Adds folder parent files [] b after := by
  induction files generalizing b with
  | nil => exact ⟨b, by rw [writeFiles], .refl folder parent b⟩
  | cons file files ih =>
    obtain ⟨name, text⟩ := file
    obtain ⟨here, rest⟩ := List.forall_mem_cons.1 fits
    have agree : AgreeBeyond (((name, text) :: files).map fun file => parent ++ [file.1]) b.files
        (b.files.withFiles parent [(name, text)]) := by
      refine Volume.agreeBeyond_withFiles (by simp) fun place member => ?_
      obtain ⟨file, mem, rfl⟩ := List.mem_map.1 member
      exact (fits file mem).free
    let next : Batch := Batch.note ⟨b.files.withFiles parent [(name, text)], b.events⟩
      (.wrote (join folder name))
    have first : Adds folder parent [(name, text)] [] b next :=
      ⟨rfl, written_note _ _, diagnostics_note _ _⟩
    obtain ⟨after, done, adds⟩ := @ih next fun file member =>
      (rest file member).of_agree agree
        (List.mem_map_of_mem (List.mem_cons_of_mem (name, text) member))
    refine ⟨after, ?_, first.trans adds⟩
    rw [writeFiles]
    simp only [here.write_eq_put]
    exact done

/-- One more specification adds its own files, or its own problem. -/
theorem exists_writeSpec
    (fits : ∀ file ∈ loaded.files b.files m filter direction, Fits b.files folder parent file.1) :
    ∃ after, b.writeSpec m filter direction folder loaded = (after, none) ∧
      Adds folder parent (loaded.files b.files m filter direction)
        (loaded.problem? b.files m filter direction).toList b after := by
  rw [writeSpec]
  rw [LoadedSpec.files] at fits ⊢
  rw [LoadedSpec.problem?]
  cases spec : loaded.spec with
  | error e => exact ⟨_, rfl, .failed folder parent b _⟩
  | ok spec' =>
    simp only [spec] at fits ⊢
    by_cases skipped : filter.skips spec'.name = true
    · simp only [skipped, if_true]
      exact ⟨_, rfl, (Adds.refl folder parent b).note _ (by simp)⟩
    · simp only [skipped] at fits ⊢
      cases generated : spec'.generate b.files m direction with
      | error e => exact ⟨_, rfl, .failed folder parent b _⟩
      | ok test =>
        simp only [generated, Bool.false_eq_true, if_false] at fits ⊢
        rw [← files_of_generate generated] at fits ⊢
        obtain ⟨after, done, adds⟩ := exists_writeFiles fits
        refine ⟨after.note (.finished spec'.name), ?_, adds.note _ (by simp)⟩
        simp only [done]

/-! ## Runs of a batch -/

/-- What a batch reports: one problem for each specification that has one, in order, as it is met
among the files that the batch writes. -/
def Reports (v : Volume) (places : List Place) (m : Manifest) (filter : Filter)
    (direction : AssertionDirection) (specs : List LoadedSpec) (problems : List Diagnostic) : Prop :=
  List.Forall₂
    (fun loaded d => ∃ w, AgreeBeyond places v w ∧ loaded.problem? w m filter direction = some d)
    (specs.filter fun loaded => (loaded.problem? v m filter direction).isSome) problems

/-- The problem that a specification meets is the one that is reported for it. -/
theorem Reports.cons {problems : List Diagnostic} (agree : AgreeBeyond places v w)
    (apart : loaded.ReadsApart v places)
    (rest : Reports v places m filter direction specs problems) :
    Reports v places m filter direction (loaded :: specs)
      ((loaded.problem? w m filter direction).toList ++ problems) := by
  have same := isSome_problem?_congr m filter direction agree apart
  rw [Reports, List.filter_cons, same]
  cases met : loaded.problem? w m filter direction with
  | none => exact rest
  | some d => exact .cons ⟨w, agree, met⟩ rest

/-- A batch adds the files of all specifications, those that they have on their own. -/
theorem exists_writeSpecs (agree : AgreeBeyond places v b.files)
    (apart : ∀ loaded ∈ specs, loaded.ReadsApart v places)
    (fits : ∀ file ∈ filesOf v m filter direction specs,
      parent ++ [file.1] ∈ places ∧ Fits v folder parent file.1) :
    ∃ after problems, b.writeSpecs m filter direction folder specs = (after, none) ∧
      Adds folder parent (filesOf v m filter direction specs) problems b after ∧
      Reports v places m filter direction specs problems := by
  induction specs generalizing b with
  | nil => exact ⟨b, [], rfl, .refl folder parent b, .nil⟩
  | cons loaded specs ih =>
    obtain ⟨apart, others⟩ := List.forall_mem_cons.1 apart
    rw [filesOf, List.flatMap_cons, List.forall_mem_append] at fits
    obtain ⟨own, rest⟩ := fits
    have same : loaded.files v m filter direction = loaded.files b.files m filter direction :=
      files_congr m filter direction agree apart
    have here : ∀ file ∈ loaded.files b.files m filter direction,
        Fits b.files folder parent file.1 := by
      intro file member
      rw [← same] at member
      exact (own file member).2.of_agree agree (own file member).1
    obtain ⟨next, done, adds⟩ := exists_writeSpec here
    rw [← same] at adds
    have later : AgreeBeyond places v next.files := by
      rw [adds.files]
      exact agree.trans (Volume.agreeBeyond_withFiles (fun file member => (own file member).1)
        fun place member => (agree.noFolder place member).2)
    obtain ⟨after, problems, all, adds', reports⟩ := ih later others rest
    refine ⟨after, _, ?_, adds.trans adds', reports.cons agree apart⟩
    rw [writeSpecs, done]
    exact all

/-! ## Whole batches -/

/-- Whether the statements of some specifications can all be written into a folder of a volume: the
names of the tests are single segments and differ, every file can be written, and no test reads one
of these files. -/
structure Admitted (v : Volume) (m : Manifest) (filter : Filter) (direction : AssertionDirection)
    (folder : String) (specs : List LoadedSpec) : Prop where
  differ : NamesDiffer specs
  single : ∀ loaded ∈ specs, ∀ spec, loaded.spec = .ok spec → '/' ∉ spec.name.toList
  writable : ∀ file ∈ filesOf v m filter direction specs, (v.write (join folder file.1) file.2).isOk
  apart : ∀ loaded ∈ specs,
    loaded.ReadsApart v (outputs v folder (filesOf v m filter direction specs))

/-- What a batch comes to that starts with some files, in the volume with the folder it writes to:
the files of every test that is loaded, not left out and generated, and one problem for every test
that is not loaded or not generated. The file that is named after a test and one of its halves holds
the statement of this half, the one between what the test's model is resolved to and what its output
is encoded to. -/
structure Complete (before v : Volume) (m : Manifest) (filter : Filter)
    (direction : AssertionDirection) (folder : String) (specs : List LoadedSpec) (after : Batch) :
    Prop where
  written : after.written =
    (filesOf v m filter direction specs).map fun file => join folder file.1
  distinct : after.written.Nodup
  holds : ∀ loaded ∈ specs, ∀ spec test, loaded.spec = .ok spec → filter.skips spec.name = false →
    spec.generate v m direction = .ok test →
    spec.HasHalves v m direction test.queries.halves ∧ ∀ half ∈ test.queries.halves,
      after.files.read (join folder (spec.name ++ direction.ending half.1)) =
        .ok (Text.Utf8.encode half.2)
  unchanged : ∀ place ∉ outputs v folder (filesOf v m filter direction specs), ∀ bytes,
    after.files.node? place = some (.file bytes) ↔ before.node? place = some (.file bytes)
  reported : Reports v (outputs v folder (filesOf v m filter direction specs)) m filter direction
    specs after.diagnostics

theorem Admitted.isFileName (admitted : Admitted v m filter direction folder specs)
    (member : file ∈ filesOf v m filter direction specs) : IsFileName file.1 := by
  obtain ⟨loaded, mem, own⟩ := List.mem_flatMap.1 member
  obtain ⟨spec, ok, half, name⟩ := exists_ending_of_mem (List.mem_map_of_mem own)
  rw [name]
  exact isFileName_append (admitted.single loaded mem spec ok) direction half

/-- Adding the files of all specifications completes a batch that has written nothing yet. -/
theorem Adds.complete {before : Volume} {after : Batch} {problems : List Diagnostic}
    (grew : Volume.GrewFrom before v) (admitted : Admitted v m filter direction folder specs)
    (fits : ∀ file ∈ filesOf v m filter direction specs, Fits v folder parent file.1)
    (agree : AgreeBeyond (outputs v folder (filesOf v m filter direction specs)) v after.files)
    (adds : Adds folder parent (filesOf v m filter direction specs) problems ⟨v, []⟩ after)
    (reports : Reports v (outputs v folder (filesOf v m filter direction specs)) m filter direction
      specs problems) :
    Complete before v m filter direction folder specs after := by
  have nodup := names_nodup v m filter direction admitted.differ
  refine ⟨adds.written, ?_, fun loaded mem spec test ok runs generated =>
    ⟨hasHalves_of_generate generated, fun half isHalf => ?_⟩, fun place outside bytes => ?_, ?_⟩
  · rw [adds.written]
    show (List.map (join folder ∘ Prod.fst) _).Nodup
    rw [← List.map_map]
    refine nodup.map_on fun name isName other isName' same => ?_
    obtain ⟨file, mem, rfl⟩ := List.mem_map.1 isName
    obtain ⟨last, mem', rfl⟩ := List.mem_map.1 isName'
    exact Path.join_injective (admitted.isFileName mem) (admitted.isFileName mem') same
  · have member := mem_filesOf mem ok runs generated isHalf
    refine Volume.read_eq_ok_iff.2 ⟨_, agree.locate (fits _ member).located, ?_⟩
    rw [adds.files]
    exact Volume.node?_withFiles nodup member
  · rw [← grew.file_iff, adds.files, Volume.node?_withFiles_of_notMem]
    rintro file member rfl
    rw [outputs_eq fits] at outside
    exact outside (List.mem_map_of_mem member)
  · rw [adds.diagnostics]
    exact reports

/-- Writing the statements of all tests into a folder that can be made stops nowhere and is
complete, if the statements can all be written. -/
theorem write_complete (before : Volume) (m : Manifest) (specs : List LoadedSpec) (filter : Filter)
    (direction : AssertionDirection) (folder : String) (v : Volume)
    (made : before.makeFolders folder = .ok v)
    (admitted : Admitted v m filter direction folder specs) :
    ∃ after, write before m specs filter direction folder = (after, none) ∧
      Complete before v m filter direction folder specs after := by
  obtain ⟨parent, fits⟩ := exists_fits (fun file member => admitted.isFileName member)
    admitted.writable
  have places := outputs_eq fits
  have free : ∀ place ∈ outputs v folder (filesOf v m filter direction specs),
      v.node? place ≠ some .folder := by
    intro place member
    rw [places] at member
    obtain ⟨file, mem, rfl⟩ := List.mem_map.1 member
    exact (fits file mem).free
  have covered : ∀ file ∈ filesOf v m filter direction specs,
      parent ++ [file.1] ∈ outputs v folder (filesOf v m filter direction specs) := by
    intro file member
    rw [places]
    exact List.mem_map_of_mem member
  obtain ⟨after, problems, done, adds, reports⟩ := @exists_writeSpecs v m filter direction specs
    folder parent _ ⟨v, []⟩ (.refl free) admitted.apart
    fun file member => ⟨covered file member, fits file member⟩
  refine ⟨after, ?_, adds.complete (Volume.grewFrom_makeFolders made) admitted fits ?_ reports⟩
  · rw [write, made]
    exact done
  · rw [adds.files]
    exact Volume.agreeBeyond_withFiles covered free

/-! ## An example -/

open TestSpec (layered layeredTest layeredFiles)

deriving instance DecidableEq for Volume

/-- A file that holds no test, and four tests. -/
def mixedSpecs : List LoadedSpec :=
  [⟨"broken.json", .error (.invalid "test name is empty")⟩,
    ⟨"one.json", .ok { layeredTest with name := "one" }⟩,
    ⟨"later.json", .ok { layeredTest with name := "later" }⟩,
    ⟨"lost.json", .ok { layeredTest with name := "lost", model := "model.x.lost" }⟩,
    ⟨"two.json", .ok { layeredTest with name := "two" }⟩]

/-- The files of the example with the folder that is written to. -/
def mixedFiles : Volume := (layeredFiles.put ["target"] .folder).put ["target", "sql"] .folder

theorem mixed_made : layeredFiles.makeFolders "target/sql" = .ok mixedFiles := by
  decide +kernel

theorem mixed_tests {spec : TestSpec} (member : loaded ∈ mixedSpecs) (ok : loaded.spec = .ok spec) :
    ∃ name model, spec = { layeredTest with name, model } ∧ '/' ∉ name.toList := by
  simp only [mixedSpecs, List.mem_cons, List.not_mem_nil, or_false] at member
  rcases member with rfl | rfl | rfl | rfl | rfl <;> cases ok
  all_goals exact ⟨_, _, rfl, by decide +kernel⟩

/-- One test is left out and one cannot be generated; no test reads what another one writes. -/
theorem mixed_admitted : Admitted mixedFiles (layered "source.x.s") ⟨["lat*"]⟩ .both "target/sql"
    mixedSpecs where
  differ := by
    simp [NamesDiffer, mixedSpecs]
  single loaded member spec ok := by
    obtain ⟨name, model, rfl, single⟩ := mixed_tests member ok
    exact single
  writable := by
    decide +kernel
  apart loaded member spec ok := by
    obtain ⟨name, model, rfl, -⟩ := mixed_tests member ok
    have free : ∀ mock ∈ layeredTest.output :: layeredTest.mocks.map Prod.snd,
        ∀ place ∈ outputs mixedFiles "target/sql"
          (filesOf mixedFiles (layered "source.x.s") ⟨["lat*"]⟩ .both mixedSpecs),
        mixedFiles.locate mock.filepath ≠ .ok place := by
      decide +kernel
    intro mock used
    exact free mock (TestSpec.mem_of_used used)

example : (filesOf mixedFiles (layered "source.x.s") ⟨["lat*"]⟩ .both mixedSpecs).map Prod.fst =
    ["one_QueryMinusExpected.sql", "one_ExpectedMinusQuery.sql", "two_QueryMinusExpected.sql",
      "two_ExpectedMinusQuery.sql"] := by
  decide +kernel

theorem write_mixed :
    layeredFiles.makeFolders "target/sql" = .ok mixedFiles ∧
      Admitted mixedFiles (layered "source.x.s") ⟨["lat*"]⟩ .both "target/sql" mixedSpecs ∧
      ∃ after, write layeredFiles (layered "source.x.s") mixedSpecs ⟨["lat*"]⟩ .both "target/sql" =
          (after, none) ∧
        Complete layeredFiles mixedFiles (layered "source.x.s") ⟨["lat*"]⟩ .both "target/sql"
          mixedSpecs after :=
  ⟨mixed_made, mixed_admitted, write_complete _ _ _ _ _ _ _ mixed_made mixed_admitted⟩

end Batch

end

end ModelBench
