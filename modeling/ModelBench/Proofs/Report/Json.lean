import ModelBench.Proofs.Json.Shape
import ModelBench.Proofs.Run
import ModelBench.Report.Json

/-!
# Reports written and read back

Every part of a report, from a single diagnostic to the whole, is read from what it was written as
(`Json.Shape.Restores`), whatever its texts are and whichever of its optional fields are there. A
report without metadata whose numbers are in range is the report of its own text (`parse_render`),
and so is every report of results that can be counted (`parse_render_ofResults`).
-/

namespace ModelBench

open Json (Shape Fields)

variable {α : Type} {shape item : Shape} {height : Nat} {written : Json}

/-- Whether a thing is what a shape reads, with room for some brackets, from what was written. -/
def Json.Shape.Restores (shape : Shape) (height : Nat) (written : Json) (ofJson : Json → α) (x : α) :
    Prop :=
  ∃ value, shape.Reads height written value ∧ ofJson value = x

namespace Json.Shape

variable {toJson : α → Json} {ofJson : Json → α} {x : α} {xs : List α}

/-- A list is restored if all its items are. -/
theorem Restores.list (each : ∀ x ∈ xs, item.Restores height (toJson x) ofJson x) :
    (Shape.list item).Restores (height + 1) (.array (xs.map toJson))
      (fun j => j.items.map ofJson) xs := by
  have values : ∃ values, List.Forall₂ (item.Reads height) (xs.map toJson) values ∧
      values.map ofJson = xs := by
    induction xs with
    | nil => exact ⟨[], .nil, rfl⟩
    | cons x xs ih =>
      obtain ⟨here, rest⟩ := List.forall_mem_cons.1 each
      obtain ⟨value, reads, same⟩ := here
      obtain ⟨values, all, sames⟩ := ih rest
      exact ⟨value :: values, .cons reads all, by rw [List.map_cons, same, sames]⟩
  obtain ⟨values, reads, sames⟩ := values
  exact ⟨.array values, .list reads, sames⟩

/-- A record is restored from its members, those that are left out being filled in. -/
theorem Restores.record {fields : Fields} {name : String} {members found : List (String × Json)}
    (each : List.Forall₂ (fields.ReadsMember height) members found)
    (nodup : (members.map Prod.fst).Nodup)
    (restored : ∃ values, fields.assemble found = .ok values ∧ ofJson (.object values) = x) :
    (Shape.record name fields).Restores (height + 1) (.object members) ofJson x := by
  obtain ⟨values, assembled, same⟩ := restored
  exact ⟨.object values, .record each nodup assembled, same⟩

/-- A thing that is restored is read from its whole text. -/
theorem Restores.parse (h : shape.Restores height written ofJson x)
    (room : height < Json.depthLimit) :
    (shape.parse written.renderIndented).map ofJson = .ok x := by
  obtain ⟨value, reads, same⟩ := h
  rw [reads.parse room]
  exact congrArg Except.ok same

/-- A text that may be left out is read if it is there. -/
theorem forall₂_optionalMember {fields : Fields} {name : String}
    (known : fields.find? name = some (.optional .string)) (text : Option String) :
    List.Forall₂ (fields.ReadsMember height) (Diagnostic.optionalMember name text)
      (Diagnostic.optionalMember name text) := by
  cases text with
  | none => exact .nil
  | some s =>
    refine .cons (Fields.readsMember known (reads_text.optional fun level => ?_)) .nil
    rw [indented_string]
    show some '"' ≠ some 'n'
    decide

end Json.Shape

/-! ## Names -/

@[simp] theorem DiagnosticCode.ofName?_name (code : DiagnosticCode) :
    ofName? code.name = some code := by
  cases code <;> rfl

@[simp] theorem Severity.ofName?_name (severity : Severity) :
    ofName? severity.name = some severity := by
  cases severity <;> rfl

@[simp] theorem DiffDirection.ofName?_name (direction : DiffDirection) :
    ofName? direction.name = some direction := by
  cases direction <;> rfl

@[simp] theorem TestStatus.ofName?_name (status : TestStatus) :
    ofName? status.name = some status := by
  cases status <;> rfl

/-- A name that stands for something is one of the names. -/
theorem mem_names {all : List α} {name : α → String} {x : α}
    (known : (all.find? fun y => name y == name x) = some x) : name x ∈ all.map name :=
  List.mem_map_of_mem (List.mem_of_find?_eq_some known)

/-! ## The parts of a report -/

open Json.Shape (Restores reads_text reads_choice reads_count forall₂_optionalMember)

theorem Diagnostic.restores (d : Diagnostic) :
    Diagnostic.shape.Restores 1 d.toJson Diagnostic.ofJson d := by
  obtain ⟨code, severity, message, test, node, file⟩ := d
  refine .record
    (.cons (Fields.readsMember rfl (reads_choice (mem_names code.ofName?_name))) <|
      .cons (Fields.readsMember rfl (reads_choice (mem_names severity.ofName?_name))) <|
      .cons (Fields.readsMember rfl reads_text) <|
      List.rel_append (List.rel_append (forall₂_optionalMember rfl test)
        (forall₂_optionalMember rfl node)) (forall₂_optionalMember rfl file)) ?_ ?_
  · cases test <;> cases node <;> cases file <;>
      simp [Diagnostic.optionalMember]
  · cases test <;> cases node <;> cases file <;>
      exact ⟨_, rfl, by simp [Diagnostic.ofJson, Json.field, Json.toText, Json.toText?, List.lookup_cons]⟩

theorem RowDiff.restores (d : RowDiff) : RowDiff.shape.Restores 3 d.toJson RowDiff.ofJson d := by
  obtain ⟨direction, fields⟩ := d
  have pair (field : String × String) : (Shape.pair .string .string).Restores 1
      (.array [.string field.1, .string field.2]) fieldOfJson field :=
    ⟨_, .pair reads_text reads_text, rfl⟩
  obtain ⟨pairs, reads, same⟩ : (Shape.list (.pair .string .string)).Restores 2
      (.array (fields.map fun field => .array [.string field.1, .string field.2]))
      (fun j => j.items.map fieldOfJson) fields :=
    .list fun field _ => pair field
  refine .record
    (.cons (Fields.readsMember rfl (reads_choice (mem_names direction.ofName?_name))) <|
      .cons (Fields.readsMember rfl reads) .nil) (by simp) ⟨_, rfl, ?_⟩
  simp [RowDiff.ofJson, Json.field, Json.toText, List.lookup_cons, same]

theorem TestResult.restores (r : TestResult) :
    TestResult.shape.Restores 5 r.toJson TestResult.ofJson r := by
  obtain ⟨name, model, status, diffs, diagnostics⟩ := r
  obtain ⟨rows, readsRows, sameRows⟩ : (Shape.list RowDiff.shape).Restores 4
      (.array (diffs.map RowDiff.toJson)) (fun j => j.items.map RowDiff.ofJson) diffs :=
    .list fun d _ => d.restores
  obtain ⟨found, readsFound, sameFound⟩ : (Shape.list Diagnostic.shape).Restores 2
      (.array (diagnostics.map Diagnostic.toJson)) (fun j => j.items.map Diagnostic.ofJson)
      diagnostics :=
    .list fun d _ => d.restores
  have readsFound := readsFound.mono (show 2 ≤ 4 by decide)
  refine .record
    (.cons (Fields.readsMember rfl reads_text) <| .cons (Fields.readsMember rfl reads_text) <|
      .cons (Fields.readsMember rfl (reads_choice (mem_names status.ofName?_name))) <|
      .cons (Fields.readsMember rfl readsRows) <|
      .cons (Fields.readsMember rfl readsFound) .nil) (by simp) ⟨_, rfl, ?_⟩
  simp [TestResult.ofJson, Json.field, Json.toText, List.lookup_cons, sameRows, sameFound]

/-- Whether the numbers of a version are in range. -/
def ReportVersion.InRange (v : ReportVersion) : Prop :=
  v.major ≤ Nat.pow 2 32 - 1 ∧ v.minor ≤ Nat.pow 2 32 - 1

/-- Whether the numbers of a summary are in range. -/
def ReportSummary.InRange (s : ReportSummary) : Prop :=
  ∀ n ∈ [s.total, s.passed, s.failed, s.errored, s.skipped], n ≤ Nat.pow 2 64 - 1

theorem ReportVersion.restores {v : ReportVersion} (inRange : v.InRange) :
    ReportVersion.shape.Restores 1 v.toJson ReportVersion.ofJson v :=
  .record (.cons (Fields.readsMember rfl (reads_count inRange.1 (by decide))) <|
    .cons (Fields.readsMember rfl (reads_count inRange.2 (by decide))) .nil) (by simp) ⟨_, rfl, rfl⟩

theorem ReportSummary.restores {s : ReportSummary} (inRange : s.InRange) :
    ReportSummary.shape.Restores 1 s.toJson ReportSummary.ofJson s := by
  have reads (n : Nat) (member : n ∈ [s.total, s.passed, s.failed, s.errored, s.skipped]) :
      (Shape.count (Nat.pow 2 64 - 1) "usize").Reads 0 (.ofNat n) (.ofNat n) :=
    reads_count (inRange n member) (Nat.le_refl _)
  exact .record (.cons (Fields.readsMember rfl (reads s.total (by simp))) <|
    .cons (Fields.readsMember rfl (reads s.passed (by simp))) <|
    .cons (Fields.readsMember rfl (reads s.failed (by simp))) <|
    .cons (Fields.readsMember rfl (reads s.errored (by simp))) <|
    .cons (Fields.readsMember rfl (reads s.skipped (by simp))) .nil) (by simp) ⟨_, rfl, rfl⟩

/-! ## Whole reports -/

namespace Report

theorem restores {r : Report} (plain : r.metadata = none) (version : r.version.InRange)
    (summary : r.summary.InRange) : Report.shape.Restores 7 r.toJson Report.ofJson r := by
  obtain ⟨v, timestamp, s, results, metadata⟩ := r
  obtain rfl : metadata = none := plain
  obtain ⟨readVersion, readsVersion, sameVersion⟩ := ReportVersion.restores version
  obtain ⟨readSummary, readsSummary, sameSummary⟩ := ReportSummary.restores summary
  obtain ⟨read, reads, same⟩ : (Shape.list TestResult.shape).Restores 6
      (.array (results.map TestResult.toJson)) (fun j => j.items.map TestResult.ofJson) results :=
    .list fun result _ => result.restores
  have readsVersion := readsVersion.mono (show 1 ≤ 6 by decide)
  have readsSummary := readsSummary.mono (show 1 ≤ 6 by decide)
  refine .record
    (.cons (Fields.readsMember rfl readsVersion) <| .cons (Fields.readsMember rfl reads_text) <|
      .cons (Fields.readsMember rfl readsSummary) <| .cons (Fields.readsMember rfl reads) .nil)
    (by simp) ⟨_, rfl, ?_⟩
  simp [Report.ofJson, Json.field, Json.toText, List.lookup_cons, sameVersion, sameSummary, same]

/-- A report without metadata whose numbers are in range is read back from its own text. -/
theorem parse_render (r : Report) (plain : r.metadata = none) (version : r.version.InRange)
    (summary : r.summary.InRange) : Report.parse r.render = .ok r := by
  have restored := restores plain version summary
  exact restored.parse (by decide)

/-- Two results, one with everything that a result can have and one with next to nothing. -/
def richReport : Report where
  version := ⟨1, 4294967295⟩
  timestamp := "2024-05-01T00:00:00Z"
  summary := ⟨2, 0, 1, 0, 18446744073709551615⟩
  results :=
    [{ name := "quote \" slash \\ line\n", model := "model.x.été", status := .failed
       diffs := [⟨.queryMinusExpected, [("a", "\x00\t\x1f"), ("ü", "")]⟩, ⟨.expectedMinusQuery, []⟩]
       diagnostics :=
         [⟨.assertionMismatch, .error, "m", some "t", none, some "f.csv"⟩,
           ⟨.testSkipped, .warn, "", none, some "n", none⟩] },
      { name := "", model := "", status := .passed, diffs := [], diagnostics := [] }]
  metadata := none

theorem parse_render_rich : richReport.metadata = none ∧ richReport.version.InRange ∧
    richReport.summary.InRange ∧ Report.parse richReport.render = .ok richReport := by
  have version : richReport.version.InRange := ⟨by decide, by decide⟩
  have summary : richReport.summary.InRange := by
    intro n member
    revert n
    decide
  exact ⟨rfl, version, summary, parse_render richReport rfl version summary⟩

theorem version_ofResults (timestamp : String) (results : List TestResult) :
    (ofResults timestamp results).version = .current ∧
      (ofResults timestamp results).metadata = none := by
  suffices all : ∀ r : Report, (results.foldl add r).version = r.version ∧
      (results.foldl add r).metadata = r.metadata from all (empty timestamp)
  induction results with
  | nil => exact fun _ => ⟨rfl, rfl⟩
  | cons result results ih => exact fun r => ih (r.add result)

/-- The report of results whose number is in range is read back from its own text. -/
theorem parse_render_ofResults (timestamp : String) (results : List TestResult)
    (few : results.length ≤ Nat.pow 2 64 - 1) :
    Report.parse (ofResults timestamp results).render = .ok (ofResults timestamp results) := by
  have tallied := tallied_ofResults timestamp results
  have all := results_ofResults timestamp results
  obtain ⟨version, plain⟩ := version_ofResults timestamp results
  have number (status : TestStatus) :
      (ofResults timestamp results).summary.number status ≤ Nat.pow 2 64 - 1 := by
    rw [tallied.number, all]
    exact Nat.le_trans List.countP_le_length few
  have summary : (ofResults timestamp results).summary.InRange := by
    intro n member
    simp only [List.mem_cons, List.not_mem_nil, or_false] at member
    rcases member with rfl | rfl | rfl | rfl | rfl
    · rw [tallied.total, all]
      exact few
    · exact number .passed
    · exact number .failed
    · exact number .errored
    · exact number .skipped
  have restored := restores plain (by rw [version]; exact ⟨by decide, by decide⟩) summary
  exact restored.parse (by decide)

end Report

end ModelBench
