import ReliabilityLab.Evaluation.Gate
import ReliabilityLab.Foundation.JsonEquality

namespace ReliabilityLab

/-- A case that passed every check on its own evidence. -/
structure IntactCase (sha256 : Json → String) (case : CaseResult) (frozen : SuiteManifestEntry)
    (claims : TraceClaims) (final : TraceState) : Prop where
  builtIn : builtIn frozen = true
  header : traceHeader sha256 case = .ok ()
  steps : (frozenSteps frozen).Perm (List.range (frozenSteps frozen).length)
  agreed : frozen.logicalActions.forM (frozenActionAgrees sha256) = .ok ()
  ran : Check.run (traceStep sha256 case.mode frozen) (.initial frozen) case.traceEvidence = .ok final
  verdict : traceVerdict case frozen final = .ok claims
  errors : claimErrors case frozen claims = []

section Extraction
variable {sha256 : Json → String}

theorem traceClaims_ok {case : CaseResult} {frozen : SuiteManifestEntry} {claims : TraceClaims} :
    traceClaims sha256 case frozen = .ok claims ↔ traceHeader sha256 case = .ok () ∧
      (frozenSteps frozen).Perm (List.range (frozenSteps frozen).length) ∧
      frozen.logicalActions.forM (frozenActionAgrees sha256) = .ok () ∧
      ∃ final, Check.run (traceStep sha256 case.mode frozen) (.initial frozen) case.traceEvidence = .ok final ∧
        traceVerdict case frozen final = .ok claims := by
  simp only [traceClaims, Check.bind_ok, Check.require_ok, exists_const]
  constructor
  · rintro ⟨⟨⟩, header, steps, ⟨⟩, agreed, final, ran, verdict⟩
    exact ⟨header, steps, agreed, final, ran, verdict⟩
  · rintro ⟨header, steps, agreed, final, ran, verdict⟩
    exact ⟨(), header, steps, (), agreed, final, ran, verdict⟩

theorem caseEvidenceErrors_intact {case : CaseResult} {frozen : SuiteManifestEntry}
    (clean : caseEvidenceErrors case frozen sha256 = .ok []) :
    ∃ claims final, IntactCase sha256 case frozen claims final := by
  unfold caseEvidenceErrors at clean
  split at clean
  · rename_i known
    split at clean
    · rename_i claims passed
      obtain ⟨header, steps, agreed, final, ran, verdict⟩ := traceClaims_ok.mp passed
      exact ⟨claims, final, known, header, steps, agreed, ran, verdict, Except.ok.inj clean⟩
    · simp at clean
    · cases clean
  · simp at clean

theorem casesErrors_intact {manifest : List SuiteManifestEntry} {cases : List CaseResult}
    (clean : casesErrors sha256 manifest cases = .ok []) : ∀ case ∈ cases, ∃ frozen ∈ manifest, ∃ claims final,
      manifestById manifest case.scenarioId = some frozen ∧ IntactCase sha256 case frozen claims final := by
  induction cases with
  | nil => simp
  | cons case rest ih =>
    rw [casesErrors] at clean
    split at clean
    · cases clean
    · rename_i frozen found
      simp only [Check.bind_ok] at clean
      obtain ⟨first, here, second, later, none⟩ := clean
      obtain ⟨rfl, rfl⟩ := List.append_eq_nil_iff.mp (Except.ok.inj none)
      rw [List.forall_mem_cons]
      obtain ⟨claims, final, intact⟩ := caseEvidenceErrors_intact here
      exact ⟨⟨frozen, List.mem_reverse.mp (List.mem_of_find?_eq_some found), claims, final, found, intact⟩, ih later⟩

theorem modesErrors_intact {manifest : List SuiteManifestEntry} {modes : List (Mode × ModeResult)}
    (clean : modesErrors sha256 manifest modes = .ok []) :
    ∀ entry ∈ modes, casesMatchManifest manifest entry.1 entry.2 = true ∧
      casesErrors sha256 manifest entry.2.cases = .ok [] := by
  induction modes with
  | nil => simp
  | cons entry rest ih =>
    obtain ⟨mode, result⟩ := entry
    rw [modesErrors] at clean
    split at clean
    · rename_i matched
      simp only [Check.bind_ok] at clean
      obtain ⟨first, here, second, later, none⟩ := clean
      obtain ⟨rfl, rfl⟩ := List.append_eq_nil_iff.mp (Except.ok.inj none)
      rw [List.forall_mem_cons]
      exact ⟨⟨matched, here⟩, ih later⟩
    · simp at clean

theorem eraseDups_nil {α : Type} [BEq α] {values : List α} (none : values.eraseDups = []) : values = [] := by
  cases values with
  | nil => rfl
  | cons first rest => simp [List.eraseDups_cons] at none

/-- Every case of a report without integrity errors passed every check against its own entry. -/
theorem intact_entry {report : EvaluationReport} {source : String}
    (intact : integrityErrors sha256 report source = .ok []) :
    ∀ case ∈ report.cases, ∃ frozen claims final,
      manifestById report.provenance.suiteManifest case.scenarioId = some frozen ∧
        IntactCase sha256 case frozen claims final := by
  unfold integrityErrors at intact
  split at intact
  · simp only [Check.bind_ok] at intact
    obtain ⟨_, -, _, -, errors, read, none⟩ := intact
    have nil := eraseDups_nil (Except.ok.inj none)
    simp only [List.append_eq_nil_iff] at nil
    obtain ⟨⟨⟨-, rfl⟩, -⟩, -⟩ := nil
    intro case member
    obtain ⟨entry, there, listed⟩ := List.mem_flatMap.mp member
    obtain ⟨frozen, -, claims, final, found, passed⟩ :=
      casesErrors_intact (modesErrors_intact read entry there).2 case listed
    exact ⟨frozen, claims, final, found, passed⟩
  · simp at intact

theorem intact_case {report : EvaluationReport} {source : String}
    (intact : integrityErrors sha256 report source = .ok []) :
    ∀ case ∈ report.cases, ∃ frozen ∈ report.provenance.suiteManifest, ∃ claims final,
      IntactCase sha256 case frozen claims final := by
  intro case member
  obtain ⟨frozen, claims, final, found, passed⟩ := intact_entry intact case member
  exact ⟨frozen, List.mem_reverse.mp (List.mem_of_find?_eq_some found), claims, final, passed⟩

theorem flag_nil {wrong : Bool} {code : String} : flag wrong code = [] ↔ wrong = false := by
  cases wrong <;> simp [flag]

theorem summaryMismatch_none {modes : List (Mode × ModeResult)} (agree : summaryMismatch modes = .ok false) :
    ∀ entry ∈ modes, aggregateCases entry.2.cases = .ok entry.2.metrics := by
  induction modes with
  | nil => simp
  | cons entry rest ih =>
    obtain ⟨mode, result⟩ := entry
    simp only [summaryMismatch, Check.bind_ok] at agree
    obtain ⟨metrics, aggregated, later⟩ := agree
    rw [List.forall_mem_cons]
    by_cases same : result.metrics = metrics
    · rw [if_neg (by simp [same])] at later
      exact ⟨same ▸ aggregated, ih later⟩
    · rw [if_pos same] at later
      cases later

/-- A report without integrity errors has both modes, with the metrics of their cases. -/
theorem intact_metrics {report : EvaluationReport} {source : String}
    (intact : integrityErrors sha256 report source = .ok []) (mode : Mode) :
    ∃ result, report.modes.lookup mode = some result ∧ (∀ case ∈ result.cases, case ∈ report.cases) ∧
      aggregateCases result.cases = .ok result.metrics := by
  unfold integrityErrors at intact
  split at intact
  · rename_i both
    simp only [Check.bind_ok] at intact
    obtain ⟨_, -, mismatch, summed, _, -, none⟩ := intact
    have nil := eraseDups_nil (Except.ok.inj none)
    simp only [List.append_eq_nil_iff, flag_nil] at nil
    obtain ⟨⟨⟨⟨⟨⟨⟨-, -⟩, rfl⟩, -⟩, -⟩, -⟩, -⟩, -⟩ := nil
    have named : mode ∈ report.modes.map (·.1) := by
      simp only [bothModes, Bool.or_eq_true, decide_eq_true_eq] at both
      rcases both with both | both <;> rw [both] <;> cases mode <;> decide
    obtain ⟨⟨known, result⟩, there, same⟩ := List.mem_map.mp named
    cases same
    have found : report.modes.lookup known = some result := (lookup_eq_some_of_nodup report.modes_distinct).mpr there
    refine ⟨result, found, fun case member => ?_, summaryMismatch_none summed (known, result) there⟩
    exact List.mem_flatMap.mpr ⟨(known, result), there, member⟩
  · simp at intact

variable {case : CaseResult} {frozen : SuiteManifestEntry} {claims : TraceClaims} {final : TraceState}

theorem IntactCase.claimsAgree (intact : IntactCase sha256 case frozen claims final) :
    claimsAgree case frozen claims = true := by
  have clean := intact.errors
  simp only [claimErrors, List.append_eq_nil_iff, flag_nil, Bool.not_eq_false'] at clean
  exact clean.1.1.1.1.1.1.1.1.1

theorem IntactCase.outcomeAgrees (intact : IntactCase sha256 case frozen claims final) :
    outcomeAgrees case frozen claims = true := by
  have clean := intact.errors
  simp only [claimErrors, List.append_eq_nil_iff, flag_nil, Bool.not_eq_false'] at clean
  exact clean.1.1.1.1.1.1.1.1.2

/-- The checks on attempts, faults and rejected outputs. -/
theorem IntactCase.evidence (intact : IntactCase sha256 case frozen claims final) :
    attemptsAreContiguous case = true ∧ case.observedFaults.all (faultHasMatchingFailure case) = true ∧
      (validationIdentities case).Perm (failedInvalidIdentities case) := by
  have clean := intact.errors
  simp only [claimErrors, List.append_eq_nil_iff, flag_nil, Bool.not_eq_false', decide_eq_true_eq] at clean
  obtain ⟨⟨⟨⟨⟨_, faults⟩, counters⟩, outputs⟩, -⟩, -⟩ := clean
  simp only [attemptCountersAgree, Bool.and_eq_true] at counters
  exact ⟨counters.1.1.1.1.2, faults, outputs⟩

/-- Sequence numbers rise along the trace. -/
theorem IntactCase.sorted (intact : IntactCase sha256 case frozen claims final) :
    (case.traceEvidence.map (·.sequence)).Pairwise (· < ·) := by
  have header := intact.header
  simp only [traceHeader, Check.bind_ok, Check.require_ok, exists_const] at header
  obtain ⟨_, -, -, -, -, ordered, distinct⟩ := header
  exact ordered.imp₂ (fun _ _ le ne => lt_of_le_of_ne le ne) distinct

/-- What the checks after the loop say about its variables. -/
theorem IntactCase.verdict_ok (intact : IntactCase sha256 case frozen claims final) :
    final.final = some (claims.finalStatus, claims.finalResult) ∧ attemptSemanticsAreSupported final = true ∧
      claims.attempts = final.attempts ∧ claims.faults = final.faults ∧
      claims.validationFailures = final.validations ∧ claims.acceptedOutputs = final.acceptedOutputs := by
  have verdict := intact.verdict
  simp only [traceVerdict, Check.bind_ok, Check.require_ok, exists_const, Check.some?_ok] at verdict
  obtain ⟨-, ⟨status, result⟩, ended, -, supported, reconstructed, -, done⟩ := verdict
  cases done
  exact ⟨ended, supported, rfl, rfl, rfl, rfl⟩

theorem IntactCase.settled (intact : IntactCase sha256 case frozen claims final) :
    final.started = [] ∧ final.pendingSuccess = none := by
  have verdict := intact.verdict
  simp only [traceVerdict, Check.bind_ok, Check.require_ok, exists_const] at verdict
  obtain ⟨⟨started, pending, -⟩, -⟩ := verdict
  exact ⟨List.isEmpty_iff.mp started, Option.isNone_iff_eq_none.mp pending⟩

/-- The case lists what the loop collected. -/
theorem IntactCase.recorded (intact : IntactCase sha256 case frozen claims final) :
    case.attemptEvidence = final.attempts ∧ case.observedFaults = final.faults ∧
      case.outputValidationFailures = final.validations ∧ (case.acceptedOutputs == final.acceptedOutputs) = true := by
  have agree := intact.claimsAgree
  obtain ⟨-, -, attempts, faults, validations, outputs⟩ := intact.verdict_ok
  simp only [ReliabilityLab.claimsAgree, Bool.and_eq_true, decide_eq_true_eq] at agree
  obtain ⟨⟨⟨⟨⟨⟨⟨⟨⟨-, a⟩, f⟩, v⟩, o⟩, -⟩, -⟩, -⟩, -⟩, -⟩ := agree
  rw [attempts] at a
  rw [faults] at f
  rw [validations] at v
  rw [outputs] at o
  exact ⟨a, f, v, o⟩

end Extraction

/-! Forged reports: all digests fit, and the trace is what its author wants it to be. -/

def blankDigest : String := "0000000000000000000000000000000000000000000000000000000000000000"

def noRate : Rate := ⟨0, by simp⟩

def wholeRate : Rate := ⟨1, le_rfl⟩

def blankMetrics : ModeMetrics where
  caseCorrectCount := 0
  caseCount := 0
  taskCorrectnessRate := noRate
  terminalSuccessCount := 0
  toolSequenceAccuracy := noRate
  toolSequenceCaseCount := 0
  recoveredTransientFaultCount := 0
  transientFaultCount := 0
  recoveryRate := none
  invalidOutputAcceptedCount := 0
  acceptedOutputCount := 0
  invalidOutputRate := noRate
  invalidOutputDetectedCount := 0
  invalidOutputRejectedCount := 0
  malformedFaultInjectedCount := 0
  unnecessaryCallCount := 0
  retryAttemptCount := 0
  p50LatencyMs := 0
  p95LatencyMs := 0
  estimatedInputTokens := 0
  estimatedOutputTokens := 0
  estimatedCostUsd := 0

section Forgery
variable (sha256 : Json → String)

/-- The frozen projection of a built-in action. -/
def builtInProjection (step : Nat) (payload : Dict) : LogicalActionProjection where
  actionStep := step
  kind := if (payloadGet payload "tool_name").str?.isSome then .callTool else .finish
  toolName := (payloadGet payload "tool_name").str?
  actionPayload := payload
  actionFingerprint := sha256 (Json.obj payload).canonical
  expectedOutputDigest := do
    let toolName ← (payloadGet payload "tool_name").str?
    let arguments ← (payloadGet payload "arguments").obj?
    let output ← deterministicIncidentOutput toolName arguments
    pure (sha256 output.canonical)

def builtInEntry (scenarioId : String) (tools : List String) (outcome : String) (faults : List FaultEvidence) :
    SuiteManifestEntry where
  relativePath := "scenario.yaml"
  scenarioId := scenarioId
  version := 1
  scenarioSha256 := sha256 .null
  initialContext := (deterministicIncidentInitialContext scenarioId).getD []
  logicalActions := ((deterministicIncidentActions scenarioId).getD []).mapIdx (builtInProjection sha256)
  expectedToolSequence := tools
  expectedOutcome := outcome
  declaredFaults := faults
  approvalSupplied := true

theorem policyAction_admitted : EventType.policyAction.evidence = true := rfl

theorem attemptStarted_admitted : EventType.toolAttemptStarted.evidence = true := rfl

theorem runSucceeded_admitted : EventType.runSucceeded.evidence = true := rfl

/-- One event of a trace: its number, its type, its status and its payload. -/
def forgedEvent (trace : Uuid) (sequence : Nat) (status : String) (eventType : EventType) (payload : Dict)
    (admitted : eventType.evidence = true) : OrderedTraceEvidence :=
  ⟨trace + sequence, trace, trace + sequence, some trace, status, sequence, eventType, payload, admitted⟩

def forgedAnnouncement (trace : Uuid) (step : Nat) (payload : Dict) : OrderedTraceEvidence :=
  forgedEvent trace step "ok" .policyAction (payload ++ [("action_step", .int step)]) rfl

/-- A case that reached the expected outcome without any attempt, as far as its fields say. -/
def forgedCase (entry : SuiteManifestEntry) (status : FinalStatus) (result : Dict)
    (evidence : Uuid → List OrderedTraceEvidence) (mode : Mode) : CaseResult :=
  let id : Uuid := if mode = .fragile then 100 else 200
  { scenarioId := entry.scenarioId
    scenarioVersion := entry.version
    scenarioPath := entry.relativePath
    scenarioSha256 := entry.scenarioSha256
    mode
    runId := id
    traceId := id
    traceDigest := sha256 (Json.arr ((evidence id).map OrderedTraceEvidence.modelDump)).canonical
    traceEvidence := evidence id
    logicalActions := entry.logicalActions
    finalStatus := status
    finalResult := some result
    expectedOutcome := entry.expectedOutcome
    observedOutcome := entry.expectedOutcome
    correct := true
    terminalSuccess := status = .succeeded
    expectedToolSequence := entry.expectedToolSequence
    actualToolSequence := entry.expectedToolSequence
    sequenceMatchCount := entry.expectedToolSequence.length
    sequenceDenominator := entry.expectedToolSequence.length
    unnecessaryCallCount := 0
    logicalToolCallCount := entry.expectedToolSequence.length
    attemptEvidence := []
    attemptCount := 0
    retryAttemptCount := 0
    declaredFaults := entry.declaredFaults
    observedFaults := entry.declaredFaults
    verifiedTransientFaultCount := 0
    recoveredTransientFaultCount := 0
    acceptedOutputs := []
    acceptedOutputCount := 0
    invalidOutputAcceptedCount := 0
    invalidOutputDetectedCount := 0
    invalidOutputRejectedCount := 0
    malformedFaultInjectedCount := 0
    outputValidationFailures := []
    latencyNs := 0
    estimatedInputTokens := 0
    estimatedOutputTokens := 0
    estimatedCostUsd := 0
    approvalReconstructed := false
    prePauseWriteExecutionCount := 0
    writeExecutionCount := 0
    storeRunCount := 1 }

/-- One case in both modes, correct in both. -/
def forgedReport (entry : SuiteManifestEntry) (case : Mode → CaseResult) (metrics : ModeMetrics) :
    EvaluationReport where
  provenance := ⟨sha256 (Json.arr [entry.modelDump]).canonical, [entry], "0000000000000000000000000000000000000000",
    false, ⟨1, 2, 1, floatTenth⟩⟩
  modes := [(.fragile, ⟨.fragile, [case .fragile], metrics⟩), (.resilient, ⟨.resilient, [case .resilient], metrics⟩)]
  comparison := some ⟨0, none, 0, 0, 0, 0, 0, 0, []⟩
  modes_distinct := by simp

end Forgery

end ReliabilityLab
