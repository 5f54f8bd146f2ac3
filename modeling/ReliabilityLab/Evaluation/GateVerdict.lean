import ReliabilityLab.Evaluation.GenuineOutputs
import ReliabilityLab.Evaluation.Recoveries

namespace ReliabilityLab

/-! What a passing gate says about traces: the resilient cases of a report, judged by the entries of its manifest. -/

section Judged
variable (report : EvaluationReport)

/-- The entry of the manifest that the case is checked against. -/
def EvaluationReport.entryOf (case : CaseResult) : Option SuiteManifestEntry :=
  manifestById report.provenance.suiteManifest case.scenarioId

open Classical in
/-- The resilient cases whose trace ends with the expected outcome. -/
noncomputable def EvaluationReport.solved : List CaseResult :=
  (modeCases report .resilient).filter fun case => ∃ frozen, report.entryOf case = some frozen ∧
    endsWith case.traceEvidence frozen.expectedOutcome

/-- The transient faults that are declared for the resilient cases. -/
def EvaluationReport.challenges : List FaultEvidence :=
  (modeCases report .resilient).flatMap fun case =>
    ((report.entryOf case).map fun frozen => frozen.declaredFaults.filter (·.kind.transient)).getD []

/-- Those of them that the traces of correct cases recover from. -/
noncomputable def EvaluationReport.recoveries : List FaultEvidence :=
  (modeCases report .resilient).flatMap fun case =>
    ((report.entryOf case).map (recoveredFaults case.traceEvidence)).getD []

/-- The thresholds of the gate, by the traces. -/
structure EvaluationReport.MeetsThresholds : Prop where
  solved : 4 * report.provenance.suiteManifest.length ≤ 5 * report.solved.length
  challenged : report.challenges ≠ []
  recovered : 3 * report.challenges.length ≤ 4 * report.recoveries.length
  outputs : ∀ case ∈ modeCases report .resilient, ∀ accepted ∈ case.acceptedOutputs, invalidAcceptedOutput accepted = false

end Judged

section Fractions

theorem fraction_lt {numerator denominator a b : Nat} (some : 0 < denominator) (positive : 0 < b) :
    fraction numerator denominator < (a : ℚ≥0) / b ↔ numerator * b < a * denominator := by
  rw [fraction, div_lt_div_iff₀ (by exact_mod_cast some) (by exact_mod_cast positive)]
  exact_mod_cast Iff.rfl

theorem fraction_sub_gt {before now count : Nat} (some : 0 < count) :
    (fraction before count : ℚ) - fraction now count > 1 / 20 ↔ 20 * now + count < 20 * before := by
  have positive : (0 : ℚ) < count := by exact_mod_cast some
  simp only [fraction, NNRat.cast_div, NNRat.cast_natCast, gt_iff_lt]
  rw [← sub_div, div_lt_div_iff₀ (by norm_num) positive]
  constructor
  · intro less
    have casted : ((20 * now + count : Nat) : ℚ) < (20 * before : Nat) := by
      push_cast
      linarith
    exact_mod_cast casted
  · intro less
    have casted : ((20 * now + count : Nat) : ℚ) < (20 * before : Nat) := by exact_mod_cast less
    push_cast at casted
    linarith

end Fractions

section Report
variable {sha256 : Json → String} {report previous : EvaluationReport} {source : String}

/-- The resilient mode of an intact report, with an own entry of the manifest for each of its cases. -/
theorem intact_resilient (intact : integrityErrors sha256 report source = .ok []) :
    ∃ result, report.modes.lookup .resilient = some result ∧ modeCases report .resilient = result.cases ∧
      aggregateCases result.cases = .ok result.metrics ∧
      result.cases.length = report.provenance.suiteManifest.length := by
  obtain ⟨result, found, -, aggregated⟩ := intact_metrics intact .resilient
  refine ⟨result, found, by rw [modeCases, found]; rfl, aggregated, ?_⟩
  unfold integrityErrors at intact
  split at intact
  · simp only [Check.bind_ok] at intact
    obtain ⟨_, -, _, -, errors, read, none⟩ := intact
    have nil := eraseDups_nil (Except.ok.inj none)
    simp only [List.append_eq_nil_iff, flag_nil, Bool.not_eq_false', decide_eq_true_eq] at nil
    obtain ⟨⟨⟨⟨⟨⟨⟨-, -⟩, -⟩, distinct⟩, -⟩, rfl⟩, -⟩, -⟩ := nil
    have listed : (Mode.resilient, result) ∈ report.modes := (lookup_eq_some_of_nodup report.modes_distinct).mp found
    have matched := (modesErrors_intact read _ listed).1
    simp only [casesMatchManifest, Bool.and_eq_true, decide_eq_true_eq, List.all_eq_true] at matched
    obtain ⟨⟨⟨⟨-, once⟩, within⟩, covered⟩, -⟩ := matched
    have same : (result.cases.map CaseResult.key).Perm (report.provenance.suiteManifest.map SuiteManifestEntry.key) := by
      rw [List.perm_ext_iff_of_nodup once distinct]
      intro key
      constructor
      · intro inside
        obtain ⟨case, there, rfl⟩ := List.mem_map.mp inside
        exact within case there
      · intro inside
        obtain ⟨entry, there, rfl⟩ := List.mem_map.mp inside
        exact covered entry there
    simpa using same.length_eq
  · simp at intact

/-- The counters that the gate compares are those of the traces. -/
theorem intact_counts (intact : integrityErrors sha256 report source = .ok []) :
    ∃ result, report.modes.lookup .resilient = some result ∧
      result.metrics.caseCount = report.provenance.suiteManifest.length ∧
      result.metrics.caseCorrectCount = report.solved.length ∧
      result.metrics.transientFaultCount = report.challenges.length ∧
      result.metrics.recoveredTransientFaultCount = report.recoveries.length ∧
      (result.metrics.invalidOutputAcceptedCount = 0 ↔ ∀ case ∈ modeCases report .resilient,
        ∀ accepted ∈ case.acceptedOutputs, invalidAcceptedOutput accepted = false) := by
  obtain ⟨result, found, cases, aggregated, count⟩ := intact_resilient intact
  have within : ∀ case ∈ result.cases, case ∈ report.cases := by
    intro case inside
    have listed : (Mode.resilient, result) ∈ report.modes := (lookup_eq_some_of_nodup report.modes_distinct).mp found
    exact List.mem_flatMap.mpr ⟨_, listed, inside⟩
  simp only [aggregateCases, Check.bind_ok] at aggregated
  obtain ⟨_, -, _, -, _, -, _, -, _, -, _, -, _, -, done⟩ := aggregated
  refine ⟨result, found, ?_⟩
  rw [← Except.ok.inj done]
  refine ⟨count, ?_, ?_, ?_, ?_⟩
  · classical
    rw [correctCount, EvaluationReport.solved, cases]
    refine congrArg List.length (List.filter_congr fun case inside => ?_)
    obtain ⟨frozen, claims, final, entry, passed⟩ := intact_entry intact case (within case inside)
    rw [Bool.eq_iff_iff, correct_iff passed, decide_eq_true_eq, EvaluationReport.entryOf, entry]
    simp
  · rw [total, EvaluationReport.challenges, cases, List.length_flatMap]
    refine congrArg List.sum (List.map_congr_left fun case inside => ?_)
    obtain ⟨frozen, claims, final, entry, passed⟩ := intact_entry intact case (within case inside)
    obtain ⟨declared, verified, -⟩ := passed.faultCounters
    rw [verified, EvaluationReport.entryOf, entry]
    exact (declared.filter _).symm.length_eq
  · rw [total, EvaluationReport.recoveries, cases, List.length_flatMap]
    refine congrArg List.sum (List.map_congr_left fun case inside => ?_)
    obtain ⟨frozen, claims, final, entry, passed⟩ := intact_entry intact case (within case inside)
    rw [recovered_counted passed, EvaluationReport.entryOf, entry]
    rfl
  · rw [cases]
    show total result.cases (·.invalidOutputAcceptedCount) = 0 ↔ _
    rw [total, List.sum_eq_zero_iff_forall_eq_nat, List.forall_mem_map]
    refine forall₂_congr fun case inside => ?_
    obtain ⟨frozen, claims, final, entry, passed⟩ := intact_entry intact case (within case inside)
    rw [passed.outputCounters, invalidAcceptedOutputCount, List.length_eq_zero_iff, List.filter_eq_nil_iff]
    simp

theorem challenged_cases (intact : integrityErrors sha256 report source = .ok []) (challenged : report.challenges ≠ []) :
    0 < report.provenance.suiteManifest.length := by
  obtain ⟨fault, inside⟩ := List.exists_mem_of_ne_nil _ challenged
  obtain ⟨case, listed, -⟩ := List.mem_flatMap.mp inside
  obtain ⟨resilient, -, same, -, length⟩ := intact_resilient intact
  rw [← length, ← same]
  exact List.length_pos_of_mem listed

/-- An intact report has no failure of its thresholds exactly where its traces meet them. -/
theorem thresholds_met (intact : integrityErrors sha256 report source = .ok []) {result : ModeResult}
    (found : report.modes.lookup .resilient = some result) :
    thresholdFailures result.metrics = [] ↔ report.MeetsThresholds := by
  obtain ⟨other, there, count, solved, challenges, recoveries, outputs⟩ := intact_counts intact
  rw [found] at there
  cases there
  have failures : thresholdFailures result.metrics = [] ↔
      ¬ fraction result.metrics.caseCorrectCount result.metrics.caseCount < 4 / 5 ∧
        (result.metrics.transientFaultCount ≠ 0 ∧
          ¬ fraction result.metrics.recoveredTransientFaultCount result.metrics.transientFaultCount < 3 / 4) ∧
        result.metrics.invalidOutputAcceptedCount = 0 := by
    rw [thresholdFailures, List.append_eq_nil_iff, List.append_eq_nil_iff, and_assoc]
    refine and_congr (by simp) (and_congr ?_ (by simp))
    split_ifs <;> simp_all
  rw [failures, count, solved, challenges, recoveries, outputs]
  have challenged : report.challenges ≠ [] ↔ report.challenges.length ≠ 0 := by rw [ne_eq, ne_eq, List.length_eq_zero_iff]
  by_cases none : report.challenges.length = 0
  · constructor
    · rintro ⟨-, ⟨some, -⟩, -⟩
      exact absurd none some
    · intro met
      exact absurd none (challenged.mp met.challenged)
  · have cases := challenged_cases intact (challenged.mpr none)
    have solvedEnough := @fraction_lt report.solved.length _ 4 5 cases (by norm_num)
    have recoveredEnough := @fraction_lt report.recoveries.length _ 3 4 (Nat.pos_of_ne_zero none) (by norm_num)
    norm_num at solvedEnough recoveredEnough
    rw [solvedEnough, recoveredEnough]
    constructor
    · rintro ⟨solved, ⟨some, recovered⟩, valid⟩
      exact ⟨by omega, challenged.mpr some, by omega, valid⟩
    · rintro ⟨solved, some, recovered, valid⟩
      exact ⟨by omega, ⟨none, by omega⟩, valid⟩

theorem regression_none (intact : integrityErrors sha256 report source = .ok []) {other : String}
    (before : integrityErrors sha256 previous other = .ok []) (same : comparable report previous = true)
    {result baseline : ModeResult} (found : report.modes.lookup .resilient = some result)
    (found' : previous.modes.lookup .resilient = some baseline) (some : 0 < report.provenance.suiteManifest.length) :
    regressionFailures result.metrics baseline.metrics = [] ↔
      20 * previous.solved.length ≤ 20 * report.solved.length + report.provenance.suiteManifest.length := by
  obtain ⟨resilient, there, count, solved, -⟩ := intact_counts intact
  obtain ⟨resilient', there', count', solved', -⟩ := intact_counts before
  rw [found] at there
  rw [found'] at there'
  cases there
  cases there'
  have lengths : report.provenance.suiteManifest.length = previous.provenance.suiteManifest.length := by
    simp only [comparable, Bool.and_eq_true] at same
    exact (forall₂_of_beq same.1.1.1.2).length_eq
  rw [regressionFailures, count, count', solved, solved', ← lengths, ite_eq_right_iff]
  have regressed := @fraction_sub_gt previous.solved.length report.solved.length _ some
  rw [regressed]
  constructor
  · intro none
    by_contra less
    cases none (by omega)
  · intro enough less
    omega

/-- The gate passes a report exactly where the report and its baseline are intact and comparable, its traces meet the
thresholds, and at most one case in twenty fewer is solved than by the baseline. -/
theorem gate_passes_iff (sha256 : Json → String) (report : EvaluationReport) (baseline : Option EvaluationReport) :
    (∃ result, enforceGate sha256 report baseline = .ok result ∧ result.passed = true) ↔
      integrityErrors sha256 report "report" = .ok [] ∧ report.MeetsThresholds ∧
        ∀ previous, baseline = some previous → integrityErrors sha256 previous "baseline" = .ok [] ∧
          comparable report previous = true ∧
          20 * previous.solved.length ≤ 20 * report.solved.length + report.provenance.suiteManifest.length := by
  constructor
  · rintro ⟨result, decided, passed⟩
    simp only [enforceGate, Check.bind_ok] at decided
    obtain ⟨errors, checked, others, checked', decided⟩ := decided
    split at decided
    · cases decided
      cases passed
    · rename_i clean
      have clean := eraseDups_nil (not_not.mp clean)
      obtain ⟨rfl, rfl⟩ := List.append_eq_nil_iff.mp clean
      obtain ⟨resilient, found, -⟩ := intact_counts checked
      cases baseline with
      | none =>
        simp only [enforceThresholds, found] at decided
        cases decided
        exact ⟨checked, (thresholds_met checked found).mp (List.isEmpty_iff.mp passed), fun _ absent => by cases absent⟩
      | some previous =>
        by_cases same : comparable report previous = true
        · obtain ⟨before, found', -⟩ := intact_counts checked'
          simp only [enforceThresholds, found, same, if_true, found'] at decided
          cases decided
          obtain ⟨thresholds, regression⟩ := List.append_eq_nil_iff.mp (List.isEmpty_iff.mp passed)
          have met := (thresholds_met checked found).mp thresholds
          refine ⟨checked, met, fun other held => ?_⟩
          cases held
          exact ⟨checked', same, (regression_none checked checked' same found found' (challenged_cases checked met.challenged)).mp regression⟩
        · simp only [enforceThresholds, found, same] at decided
          cases decided
          cases passed
  · rintro ⟨checked, met, compared⟩
    obtain ⟨resilient, found, -⟩ := intact_counts checked
    have thresholds := (thresholds_met checked found).mpr met
    cases baseline with
    | none =>
      refine ⟨.decided (thresholdFailures resilient.metrics), ?_, by rw [thresholds]; rfl⟩
      simp [enforceGate, checked, baselineErrors, enforceThresholds, found, bind, Except.bind]
    | some previous =>
      obtain ⟨checked', same, kept⟩ := compared previous rfl
      obtain ⟨before, found', -⟩ := intact_counts checked'
      have regression := (regression_none checked checked' same found found' (challenged_cases checked met.challenged)).mpr kept
      refine ⟨.decided (thresholdFailures resilient.metrics ++ regressionFailures resilient.metrics before.metrics), ?_,
        by rw [thresholds, regression]; rfl⟩
      simp [enforceGate, checked, checked', baselineErrors, enforceThresholds, found, found', same, bind, Except.bind]

end Report

end ReliabilityLab
