import ModelBench.Run
import Mathlib.Tactic.Common

/-!
# Reports of runs

A report is an account of its results: every counter of its summary is the number of results that
ended in its way, and the counters add up to the total (`tallied_ofResults`). A test that does not
fail leaves nothing behind that blocks (`earned_run`), so a run has failures exactly when one of its
tests failed or errored (`runAll_accountsFor`).
-/

namespace ModelBench

/-! ## Summaries -/

namespace ReportSummary

/-- The counter of a status. -/
def number (s : ReportSummary) : TestStatus → Nat
  | .passed => s.passed
  | .failed => s.failed
  | .errored => s.errored
  | .skipped => s.skipped

/-- Counting a test moves the counter of its status and no other one. -/
theorem number_count (s : ReportSummary) (status other : TestStatus) :
    (s.count status).number other = s.number other + if status = other then 1 else 0 := by
  cases status <;> cases other <;> rfl

theorem total_count (s : ReportSummary) (status : TestStatus) :
    (s.count status).total = s.total + 1 := by
  cases status <;> rfl

end ReportSummary

namespace Report

variable {r : Report}

/-- Whether the summary of a report is an account of its results. -/
structure Tallied (r : Report) : Prop where
  total : r.summary.total = r.results.length
  number : ∀ status, r.summary.number status = r.results.countP fun result => result.status = status

theorem tallied_empty (timestamp : String) : (empty timestamp).Tallied where
  total := rfl
  number status := by cases status <;> rfl

theorem Tallied.add (h : r.Tallied) (result : TestResult) : (r.add result).Tallied where
  total := by
    show (r.summary.count result.status).total = (r.results ++ [result]).length
    rw [ReportSummary.total_count, h.total, List.length_append, List.length_singleton]
  number status := by
    show (r.summary.count result.status).number status = (r.results ++ [result]).countP _
    rw [ReportSummary.number_count, h.number, List.countP_append, List.countP_singleton]
    simp only [decide_eq_true_eq]

/-- What adding results one after the other leads to, from any report on. -/
theorem Tallied.foldl_add (h : r.Tallied) (results : List TestResult) :
    (results.foldl Report.add r).Tallied ∧
      (results.foldl Report.add r).results = r.results ++ results := by
  induction results generalizing r with
  | nil => exact ⟨h, (List.append_nil _).symm⟩
  | cons result rest ih =>
    obtain ⟨tallied, all⟩ := ih (h.add result)
    refine ⟨tallied, ?_⟩
    rw [List.foldl_cons, all]
    exact List.append_assoc _ _ _

theorem tallied_ofResults (timestamp : String) (results : List TestResult) :
    (ofResults timestamp results).Tallied := ((tallied_empty timestamp).foldl_add results).1

theorem results_ofResults (timestamp : String) (results : List TestResult) :
    (ofResults timestamp results).results = results :=
  ((tallied_empty timestamp).foldl_add results).2

/-- Every result is counted once: the counters add up to the number of results. -/
theorem sum_countP_status (results : List TestResult) :
    (results.countP fun result => result.status = .passed) +
      (results.countP fun result => result.status = .failed) +
      (results.countP fun result => result.status = .errored) +
      (results.countP fun result => result.status = .skipped) = results.length := by
  induction results with
  | nil => rfl
  | cons result rest ih =>
    simp only [List.countP_cons, List.length_cons]
    cases result.status <;> simp <;> omega

end Report

/-! ## Failures -/

/-- Whether a test that ended in this way failed or errored. -/
def TestStatus.IsFailure (status : TestStatus) : Prop := status = .failed ∨ status = .errored

/-- Whether only a test that failed or errored leaves a blocking problem behind. -/
def TestResult.Earned (result : TestResult) : Prop :=
  ∀ d ∈ result.diagnostics, d.severity = .error → result.status.IsFailure

/-- A report whose blocking problems are all earned has failures exactly when a test failed or
errored. -/
theorem Report.Tallied.hasFailures_iff {r : Report} (tallied : r.Tallied)
    (earned : ∀ result ∈ r.results, result.Earned) :
    r.hasFailures = true ↔ ∃ result ∈ r.results, result.status.IsFailure := by
  have failed : 0 < r.summary.failed ↔ ∃ result ∈ r.results, result.status = .failed := by
    rw [show r.summary.failed = _ from tallied.number .failed, List.countP_pos_iff]
    simp only [decide_eq_true_eq]
  have errored : 0 < r.summary.errored ↔ ∃ result ∈ r.results, result.status = .errored := by
    rw [show r.summary.errored = _ from tallied.number .errored, List.countP_pos_iff]
    simp only [decide_eq_true_eq]
  simp only [Report.hasFailures, Bool.or_eq_true, decide_eq_true_eq, failed, errored,
    List.any_eq_true, beq_iff_eq]
  constructor
  · rintro ((⟨result, member, h⟩ | ⟨result, member, h⟩) | ⟨d, found, blocking⟩)
    · exact ⟨result, member, .inl h⟩
    · exact ⟨result, member, .inr h⟩
    · obtain ⟨result, member, has⟩ := List.mem_flatMap.1 found
      exact ⟨result, member, earned result member d has blocking⟩
  · rintro ⟨result, member, h | h⟩
    · exact .inl (.inl ⟨result, member, h⟩)
    · exact .inl (.inr ⟨result, member, h⟩)

/-! ## Runs -/

theorem earned_verdict (spec : TestSpec)
    (outcome : Except (DiffDirection × QueryError) (List RowDiff)) :
    (spec.verdict outcome).Earned := by
  intro d member _
  match outcome with
  | .error _ => exact .inr rfl
  | .ok [] => cases member
  | .ok (_ :: _) => exact .inl rfl

/-- Whichever way a test takes, a blocking problem is left only where it fails or errors. -/
theorem earned_run (execute : Execute Id) (files : Volume) (manifest : Manifest)
    (options : RunOptions) (spec : TestSpec) :
    TestResult.Earned (spec.run execute files manifest options) := by
  rw [TestSpec.run]
  split_ifs with skipped
  · -- the one diagnostic of a skipped test is a warning
    intro d member blocking
    obtain rfl : d = skippedDiagnostic spec.name := List.mem_singleton.1 member
    cases blocking
  · split
    · exact fun _ _ _ => .inr rfl
    · exact earned_verdict spec _

theorem runResults_eq_map (execute : Execute Id) (files : Volume) (manifest : Manifest)
    (options : RunOptions) (specs : List TestSpec) :
    runResults execute files manifest options specs =
      specs.map fun spec => (spec.run execute files manifest options : Id TestResult) := by
  induction specs with
  | nil => rfl
  | cons spec rest ih =>
    rw [runResults, List.map_cons, ← ih]
    rfl

/-- Whether a report accounts for some outcomes: its results are these outcomes in their order, its
counters count them by the way they ended and add up to the total, and it has failures exactly when
one of them failed or errored. -/
structure Report.AccountsFor (report : Report) (outcomes : List TestResult) : Prop where
  results : report.results = outcomes
  total : report.summary.total = outcomes.length
  passed : report.summary.passed = outcomes.countP fun result => result.status = .passed
  failed : report.summary.failed = outcomes.countP fun result => result.status = .failed
  errored : report.summary.errored = outcomes.countP fun result => result.status = .errored
  skipped : report.summary.skipped = outcomes.countP fun result => result.status = .skipped
  sum : report.summary.passed + report.summary.failed + report.summary.errored +
    report.summary.skipped = report.summary.total
  hasFailures : report.hasFailures = true ↔
    ∃ result ∈ outcomes, result.status = .failed ∨ result.status = .errored

theorem Report.Tallied.accountsFor {r : Report} (tallied : r.Tallied)
    (earned : ∀ result ∈ r.results, result.Earned) : r.AccountsFor r.results where
  results := rfl
  total := tallied.total
  passed := tallied.number .passed
  failed := tallied.number .failed
  errored := tallied.number .errored
  skipped := tallied.number .skipped
  sum := by
    rw [tallied.total, ← sum_countP_status r.results, ← tallied.number .passed,
      ← tallied.number .failed, ← tallied.number .errored, ← tallied.number .skipped]
    rfl
  hasFailures := tallied.hasFailures_iff earned

/-- The report of a run accounts for what each test gives when it is run alone, in the order of the
tests, whatever the database answers and however many tests are skipped, fail or error. -/
theorem runAll_accountsFor (execute : Execute Id) (files : Volume) (manifest : Manifest)
    (options : RunOptions) (timestamp : String) (specs : List TestSpec) :
    Report.AccountsFor (runAll execute files manifest options timestamp specs)
      (specs.map fun spec => (spec.run execute files manifest options : Id TestResult)) := by
  have results : (Report.ofResults timestamp
      (runResults execute files manifest options specs)).results = specs.map _ :=
    (Report.results_ofResults timestamp _).trans (runResults_eq_map execute files manifest options
      specs)
  have tallied := Report.tallied_ofResults timestamp
    (runResults execute files manifest options specs)
  have accounts := tallied.accountsFor fun result member => by
    rw [results] at member
    obtain ⟨spec, -, rfl⟩ := List.mem_map.1 member
    exact earned_run execute files manifest options spec
  rw [results] at accounts
  exact accounts

end ModelBench
