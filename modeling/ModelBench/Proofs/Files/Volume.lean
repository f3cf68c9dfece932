import ModelBench.Files.Volume
import ModelBench.Proofs.Entries

/-!
# What stands where

The place of a path depends only on the folders of a volume (`follow_mono`), so two volumes that
differ in nothing but some files take every path to the same place (`AgreeBeyond.locate`), and read
the same behind every path that leads to none of these files (`AgreeBeyond.read_eq_ok_iff`). Making
folders changes no file (`makeFolders_file_iff`).
-/

namespace ModelBench.Volume

variable {v w : Volume} {place found parent : Place} {path segment : String}
  {rest : List String} {bytes : List UInt8}

/-! ## Nodes -/

theorem node?_put (nonempty : place ≠ []) (node : FileNode) (other : Place) :
    (v.put place node).node? other = if other = place then some node else v.node? other := by
  rw [node?, node?, put]
  by_cases same : other = place
  · subst same
    rw [if_neg nonempty, if_pos rfl, List.lookup_cons_self]
  · rw [if_neg same, List.lookup_cons, beq_false_of_ne same, lookup_filter_ne same]

@[simp] theorem node?_root (v : Volume) : v.node? [] = some .folder := if_pos rfl

theorem ne_nil_of_no_folder (h : v.node? place ≠ some .folder) : place ≠ [] := by
  rintro rfl
  exact h v.node?_root

/-! ## Following a path -/

/-- Where one more segment leads. -/
def step (place : Place) (segment : String) : Place :=
  if segment = "." then place else if segment = ".." then place.dropLast else place ++ [segment]

theorem follow_cons_eq_ok_iff : v.follow place (segment :: rest) = .ok found ↔
    v.node? place = some .folder ∧ segment.utf8ByteSize ≤ nameLimit ∧
      v.follow (step place segment) rest = .ok found := by
  rw [follow]
  split
  · next absent => simp [absent]
  · next file => simp [file]
  · next folder =>
    rw [and_iff_right folder, step]
    by_cases long : nameLimit < segment.utf8ByteSize
    · rw [if_pos long]
      simp [Nat.not_le.2 long]
    · rw [if_neg long, and_iff_right (Nat.not_lt.1 long)]
      split_ifs <;> rfl

theorem follow_append_eq_ok_iff {front back : List String} :
    v.follow place (front ++ back) = .ok found ↔
      ∃ between, v.follow place front = .ok between ∧ v.follow between back = .ok found := by
  induction front generalizing place with
  | nil => simp [follow]
  | cons segment front ih =>
    simp only [List.cons_append, follow_cons_eq_ok_iff, ih]
    constructor
    · rintro ⟨folder, short, between, way, last⟩
      exact ⟨between, ⟨folder, short, way⟩, last⟩
    · rintro ⟨between, ⟨folder, short, way⟩, last⟩
      exact ⟨folder, short, between, way, last⟩

/-- A path leads to the same place in every volume that has the folders of the first one. -/
theorem follow_mono (folders : ∀ place, v.node? place = some .folder → w.node? place = some .folder)
    (h : v.follow place rest = .ok found) : w.follow place rest = .ok found := by
  induction rest generalizing place with
  | nil => exact h
  | cons segment rest ih =>
    obtain ⟨folder, short, way⟩ := follow_cons_eq_ok_iff.1 h
    exact follow_cons_eq_ok_iff.2 ⟨folders _ folder, short, ih way⟩

/-- Whether a text can be a path at all. -/
def IsPath (path : String) : Prop :=
  path.isEmpty = false ∧ '\x00' ∉ path.toList ∧ path.utf8ByteSize ≤ pathLimit

theorem locate_eq_ok_iff : v.locate path = .ok place ↔
    IsPath path ∧ v.follow (v.start path) (steps path) = .ok place := by
  simp only [locate, List.contains_iff_mem]
  by_cases empty : path.isEmpty = true
  · rw [if_pos empty]
    simp [IsPath, empty]
  · rw [if_neg empty]
    by_cases nul : '\x00' ∈ path.toList
    · rw [if_pos nul]
      simp [IsPath, nul]
    · rw [if_neg nul]
      by_cases long : pathLimit < path.utf8ByteSize
      · rw [if_pos long]
        simp [IsPath, Nat.not_le.2 long]
      · rw [if_neg long, and_iff_right]
        exact ⟨by simpa using empty, nul, Nat.not_lt.1 long⟩

/-! ## Reading -/

theorem read_eq_ok_iff : v.read path = .ok bytes ↔
    ∃ place, v.locate path = .ok place ∧ v.node? place = some (.file bytes) := by
  rw [read, find]
  cases v.locate path with
  | error e => simp [bind, Except.bind]
  | ok place =>
    cases found : v.node? place with
    | none => simp [bind, Except.bind, found, throw, throwThe, MonadExceptOf.throw]
    | some node =>
      cases node <;>
        simp [bind, Except.bind, found, pure, Except.pure, throw, throwThe, MonadExceptOf.throw]

/-! ## Volumes that differ in some files -/

/-- Whether two volumes differ in nothing but what stands at some places, where neither has a
folder. -/
structure AgreeBeyond (places : List Place) (v w : Volume) : Prop where
  current : v.current = w.current
  same : ∀ place ∉ places, v.node? place = w.node? place
  noFolder : ∀ place ∈ places, v.node? place ≠ some .folder ∧ w.node? place ≠ some .folder

variable {places : List Place}

theorem AgreeBeyond.symm (h : AgreeBeyond places v w) : AgreeBeyond places w v :=
  ⟨h.current.symm, fun place free => (h.same place free).symm,
    fun place member => (h.noFolder place member).symm⟩

theorem AgreeBeyond.trans {u : Volume} (h : AgreeBeyond places u v) (h' : AgreeBeyond places v w) :
    AgreeBeyond places u w :=
  ⟨h.current.trans h'.current, fun place free => (h.same place free).trans (h'.same place free),
    fun place member => ⟨(h.noFolder place member).1, (h'.noFolder place member).2⟩⟩

theorem AgreeBeyond.refl (free : ∀ place ∈ places, v.node? place ≠ some .folder) :
    AgreeBeyond places v v :=
  ⟨rfl, fun _ _ => rfl, fun place member => ⟨free place member, free place member⟩⟩

theorem AgreeBeyond.folder (h : AgreeBeyond places v w) (folder : v.node? place = some .folder) :
    w.node? place = some .folder := by
  rw [← h.same place fun member => (h.noFolder place member).1 folder]
  exact folder

theorem AgreeBeyond.locate (h : AgreeBeyond places v w) (found : v.locate path = .ok place) :
    w.locate path = .ok place := by
  obtain ⟨isPath, way⟩ := locate_eq_ok_iff.1 found
  refine locate_eq_ok_iff.2 ⟨isPath, ?_⟩
  rw [start, ← h.current]
  exact follow_mono (fun _ => h.folder) way

/-- A path that leads to none of the places is read alike. -/
theorem AgreeBeyond.read_eq_ok (h : AgreeBeyond places v w)
    (free : ∀ place ∈ places, v.locate path ≠ .ok place) (found : v.read path = .ok bytes) :
    w.read path = .ok bytes := by
  obtain ⟨place, located, node⟩ := read_eq_ok_iff.1 found
  refine read_eq_ok_iff.2 ⟨place, h.locate located, ?_⟩
  rw [← h.same place fun member => free place member located]
  exact node

theorem AgreeBeyond.read_eq_ok_iff (h : AgreeBeyond places v w)
    (free : ∀ place ∈ places, v.locate path ≠ .ok place) :
    v.read path = .ok bytes ↔ w.read path = .ok bytes :=
  ⟨h.read_eq_ok free, h.symm.read_eq_ok fun place member located =>
    free place member (h.symm.locate located)⟩

/-! ## Making folders -/

theorem makeFolder_ok {path : String} (h : v.makeFolder path = .ok w) :
    ∃ place, v.node? place = none ∧ w = v.put place .folder := by
  rw [makeFolder] at h
  cases located : v.locate (withoutSlash path) with
  | error e =>
    rw [located] at h
    cases h
  | ok place =>
    simp only [located, bind, Except.bind] at h
    split at h
    · cases h
    · next free =>
      split at h
      · cases h
        exact ⟨place, free, rfl⟩
      · cases h
      · cases h

/-- Whether a volume came from another one by adding folders where nothing stood. -/
structure GrewFrom (v w : Volume) : Prop where
  current : v.current = w.current
  kept : ∀ place node, v.node? place = some node → w.node? place = some node
  added : ∀ place node, w.node? place = some node → v.node? place = some node ∨ node = .folder

theorem GrewFrom.refl (v : Volume) : GrewFrom v v := ⟨rfl, fun _ _ h => h, fun _ _ h => .inl h⟩

theorem GrewFrom.trans {u : Volume} (h : GrewFrom u v) (h' : GrewFrom v w) : GrewFrom u w where
  current := h.current.trans h'.current
  kept place node found := h'.kept place node (h.kept place node found)
  added place node found := by
    rcases h'.added place node found with before | folder
    · exact h.added place node before
    · exact .inr folder

theorem GrewFrom.put (free : v.node? place = none) : GrewFrom v (v.put place .folder) := by
  have nonempty : place ≠ [] := ne_nil_of_no_folder (v := v) (by simp [free])
  refine ⟨rfl, fun other node found => ?_, fun other node found => ?_⟩
  · rw [node?_put nonempty, if_neg]
    · exact found
    · rintro rfl
      rw [free] at found
      cases found
  · rw [node?_put nonempty] at found
    split_ifs at found with same
    · cases found
      exact .inr rfl
    · exact .inl found

theorem grewFrom_makeFolder (h : v.makeFolder path = .ok w) : GrewFrom v w := by
  obtain ⟨place, free, rfl⟩ := makeFolder_ok h
  exact .put free

theorem grewFrom_makeFoldersIn {steps : Nat} (h : makeFoldersIn steps v path = .ok w) :
    GrewFrom v w := by
  induction steps generalizing w path with
  | zero => cases h
  | succ steps ih =>
    rw [makeFoldersIn] at h
    by_cases empty : path.isEmpty = true
    · rw [if_pos empty] at h
      cases h
      exact .refl v
    · rw [if_neg empty] at h
      split at h
      · next made =>
        cases h
        exact grewFrom_makeFolder made
      · -- the folder above comes first
        split at h
        · cases h
        · next parent _ =>
          cases above : makeFoldersIn steps v parent with
          | error e =>
            rw [above] at h
            cases h
          | ok u =>
            simp only [above, bind, Except.bind] at h
            split at h
            · next made =>
              cases h
              exact (ih above).trans (grewFrom_makeFolder made)
            · split_ifs at h
              cases h
              exact ih above
      · split_ifs at h
        cases h
        exact .refl v

theorem grewFrom_makeFolders (h : v.makeFolders path = .ok w) : GrewFrom v w :=
  grewFrom_makeFoldersIn h

/-- Growing changes no file and adds none. -/
theorem GrewFrom.file_iff (h : GrewFrom v w) :
    w.node? place = some (.file bytes) ↔ v.node? place = some (.file bytes) :=
  ⟨fun found => (h.added _ _ found).resolve_right (by simp), h.kept _ _⟩

end ModelBench.Volume
