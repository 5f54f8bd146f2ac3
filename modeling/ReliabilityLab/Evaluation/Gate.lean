import ReliabilityLab.Evaluation.TraceClaims

namespace ReliabilityLab

def FaultType.transient : FaultType → Bool
  | .malformedOutput => false
  | _ => true

def flag (wrong : Bool) (code : String) : List String := if wrong then [code] else []

def gitSha1Pattern (revision : String) : Bool :=
  revision.length = 40 && revision.toList.all fun c => ('0' ≤ c ∧ c ≤ '9') || ('a' ≤ c ∧ c ≤ 'f')

section Case
variable (case : CaseResult)

def faultRecovered (fault : FaultEvidence) : Bool :=
  case.correct && case.attemptEvidence.any fun attempt => attempt.actionStep = fault.actionStep &&
    attempt.toolName = fault.toolName && fault.attempt < attempt.attempt && attempt.status = .succeeded

def faultHasMatchingFailure (fault : FaultEvidence) : Bool :=
  (case.attemptEvidence.filter fun attempt => attempt.actionStep = fault.actionStep &&
    attempt.toolName = fault.toolName && attempt.attempt = fault.attempt && attempt.status = .failed &&
    attempt.errorCode = some (faultFailure fault.kind).1 &&
    attempt.transient = some (faultFailure fault.kind).2).length = 1

/-- Attempts of one action are numbered from 1, and only failures have a code and a flag. -/
def attemptsAreContiguous : Bool :=
  (case.attemptEvidence.all fun attempt =>
    (attempt.status ≠ .succeeded || attempt.errorCode.isNone && attempt.transient.isNone) &&
    (attempt.status ≠ .failed || attempt.errorCode.isSome && attempt.transient.isSome)) &&
  case.attemptEvidence.all fun attempt =>
    let numbers := (attemptsOf case.attemptEvidence attempt.action).map (·.attempt)
    decide (numbers.Perm (List.range' 1 numbers.length))

def retryAttemptCount : Nat :=
  ((case.attemptEvidence.map (·.action)).dedup.map fun action =>
    (attemptsOf case.attemptEvidence action).length - 1).sum

def invalidAcceptedOutput (accepted : AcceptedOutputEvidence) : Bool :=
  match incidentRegistry.get accepted.toolName with
  | none => true
  | some definition =>
    match definition.outputModel accepted.output with
    | .rejected => true
    | _ => false

def invalidAcceptedOutputCount : Nat := (case.acceptedOutputs.filter invalidAcceptedOutput).length

def terminalOutcome (status : FinalStatus) (result : Dict) : String :=
  match payloadGet result (if status = .succeeded then "outcome" else "code") with
  | .str text => text
  | _ => "missing_terminal_outcome"

variable (frozen : SuiteManifestEntry) (trace : TraceClaims)

def transientFaults : List FaultEvidence := case.observedFaults.filter (·.kind.transient)

def validationIdentities : List (Nat × String × Nat) :=
  case.outputValidationFailures.map fun failure => (failure.actionStep, failure.toolName, failure.attempt)

def failedInvalidIdentities : List (Nat × String × Nat) :=
  (case.attemptEvidence.filter fun attempt => attempt.status = .failed && attempt.errorCode = some "invalid_output").map
    fun attempt => (attempt.actionStep, attempt.toolName, attempt.attempt)

/-- The case says what the manifest and the trace say. -/
def claimsAgree : Bool :=
  case.logicalActions == frozen.logicalActions && case.expectedOutcome = frozen.expectedOutcome &&
    case.expectedToolSequence = frozen.expectedToolSequence && case.declaredFaults = frozen.declaredFaults &&
    case.attemptEvidence = trace.attempts && case.observedFaults = trace.faults &&
    case.outputValidationFailures = trace.validationFailures && case.acceptedOutputs == trace.acceptedOutputs &&
    case.actualToolSequence = trace.actualToolSequence && case.finalStatus = trace.finalStatus &&
    sameResult case.finalResult (some trace.finalResult) &&
    case.terminalSuccess = (trace.finalStatus = .succeeded) &&
    case.approvalReconstructed = trace.approvalReconstructed

def outcomeAgrees : Bool :=
  case.observedOutcome = terminalOutcome trace.finalStatus trace.finalResult &&
    case.correct = (terminalOutcome trace.finalStatus trace.finalResult = frozen.expectedOutcome)

def sequenceAgrees : Bool :=
  let sequence := toolSequenceGrade case.expectedToolSequence case.actualToolSequence
  case.sequenceMatchCount = sequence.matchCount && case.sequenceDenominator = sequence.denominator

def callCountersAgree : Bool :=
  case.logicalToolCallCount = case.actualToolSequence.length &&
    case.unnecessaryCallCount = unnecessaryCallCount case.expectedToolSequence case.actualToolSequence

def attemptCountersAgree : Bool :=
  case.attemptCount = case.attemptEvidence.length && attemptsAreContiguous case &&
    case.verifiedTransientFaultCount = (transientFaults case).length &&
    case.recoveredTransientFaultCount = ((transientFaults case).filter (faultRecovered case)).length &&
    case.retryAttemptCount = retryAttemptCount case &&
    case.malformedFaultInjectedCount = (case.observedFaults.filter (·.kind = .malformedOutput)).length

def outputCountersAgree : Bool :=
  case.acceptedOutputCount = case.acceptedOutputs.length &&
    case.invalidOutputAcceptedCount = invalidAcceptedOutputCount case &&
    case.invalidOutputDetectedCount = case.outputValidationFailures.length &&
    case.invalidOutputRejectedCount = case.outputValidationFailures.length

def writesAgree : Bool :=
  !trace.approvalReconstructed ||
    frozen.approvalSupplied && case.prePauseWriteExecutionCount = 0 && case.writeExecutionCount = 1

/-- The checks of a case against what its trace supports. -/
def claimErrors : List String :=
  flag (!claimsAgree case frozen trace) "case_evidence_mismatch" ++
  flag (!outcomeAgrees case frozen trace) "case_outcome_mismatch" ++
  flag (!sequenceAgrees case) "sequence_evidence_mismatch" ++
  flag (!callCountersAgree case) "call_counter_mismatch" ++
  flag (!decide (frozen.declaredFaults.Perm case.observedFaults)) "case_evidence_mismatch" ++
  flag (!case.observedFaults.all (faultHasMatchingFailure case)) "case_evidence_mismatch" ++
  flag (!attemptCountersAgree case) "case_evidence_mismatch" ++
  flag (!decide ((validationIdentities case).Perm (failedInvalidIdentities case))) "case_evidence_mismatch" ++
  flag (!outputCountersAgree case) "case_evidence_mismatch" ++
  flag (!writesAgree case frozen trace) "case_evidence_mismatch"

/-- The frozen scenario is one of the built-in ones. -/
def builtIn : Bool :=
  match deterministicIncidentActions frozen.scenarioId, deterministicIncidentInitialContext frozen.scenarioId with
  | some actions, some context =>
    frozen.logicalActions.map (Json.obj ·.actionPayload) == actions.map Json.obj &&
      Json.obj frozen.initialContext == .obj context
  | _, _ => false

/-- `_case_evidence_errors`. -/
def caseEvidenceErrors (sha256 : Json → String) : Except Exn (List String) :=
  if builtIn frozen then
    match traceClaims sha256 case frozen with
    | .ok trace => .ok (claimErrors case frozen trace)
    | .error .refused => .ok ["case_evidence_mismatch"]
    | .error (.raised error) => .error error
  else .ok ["case_evidence_mismatch"]

end Case

section Modes

def floatSub (right left : ℚ≥0) : ℚ :=
  if left ≤ right then (double.round (right - left)).getD 0 else -((double.round (left - right)).getD 0 : ℚ≥0)

def caseById (cases : List CaseResult) (scenarioId : String) : Option CaseResult :=
  cases.reverse.find? (·.scenarioId = scenarioId)

def sameIds (a b : List String) : Bool := a.all (· ∈ b) && b.all (· ∈ a)

/-- Resilient minus fragile, and the scenarios that only the resilient mode got right after a recovery. -/
def compareModes (modes : List (Mode × ModeResult)) : Except Exn ModeComparison :=
  match modes.lookup .fragile, modes.lookup .resilient with
  | some fragile, some resilient =>
    if sameIds (fragile.cases.map (·.scenarioId)) (resilient.cases.map (·.scenarioId)) then
      let left := fragile.metrics
      let right := resilient.metrics
      .ok {
        taskCorrectnessRateDelta := floatSub right.taskCorrectnessRate left.taskCorrectnessRate
        recoveryRateDelta :=
          match left.recoveryRate, right.recoveryRate with
          | some l, some r => some (floatSub r l)
          | _, _ => none
        toolSequenceAccuracyDelta := floatSub right.toolSequenceAccuracy left.toolSequenceAccuracy
        invalidOutputRateDelta := floatSub right.invalidOutputRate left.invalidOutputRate
        unnecessaryCallCountDelta := right.unnecessaryCallCount - left.unnecessaryCallCount
        retryAttemptCountDelta := right.retryAttemptCount - left.retryAttemptCount
        p50LatencyMsDelta := floatSub right.p50LatencyMs left.p50LatencyMs
        p95LatencyMsDelta := floatSub right.p95LatencyMs left.p95LatencyMs
        fragileWorseRecoveryScenarios := ((resilient.cases.map (·.scenarioId)).dedup.filter fun id =>
          (caseById resilient.cases id).any (fun case => 0 < case.recoveredTransientFaultCount && case.correct) &&
            (caseById fragile.cases id).any fun case => !case.correct).insertionSort (· ≤ ·) }
    else .error (.other "EvaluationInfrastructureError")
  | _, _ => .error (.other "EvaluationInfrastructureError")

/-- `_normalized_case_semantics` of both cases is the same. -/
def sameSemantics (a b : CaseResult) : Bool :=
  a.finalStatus = b.finalStatus && sameResult a.finalResult b.finalResult && a.expectedOutcome = b.expectedOutcome &&
    a.observedOutcome = b.observedOutcome && a.correct = b.correct && a.terminalSuccess = b.terminalSuccess &&
    a.actualToolSequence = b.actualToolSequence && a.attemptEvidence = b.attemptEvidence &&
    a.observedFaults = b.observedFaults && a.outputValidationFailures = b.outputValidationFailures &&
    a.acceptedOutputs == b.acceptedOutputs && a.approvalReconstructed = b.approvalReconstructed &&
    a.prePauseWriteExecutionCount = b.prePauseWriteExecutionCount && a.writeExecutionCount = b.writeExecutionCount &&
    a.storeRunCount = b.storeRunCount

/-- A scenario was put to both modes in the same way; without transient faults both did the same. -/
def pairErrors (fragile resilient : CaseResult) : List String :=
  flag (!(fragile.logicalActions == resilient.logicalActions && fragile.expectedOutcome = resilient.expectedOutcome &&
    fragile.expectedToolSequence = resilient.expectedToolSequence &&
    fragile.declaredFaults = resilient.declaredFaults)) "case_evidence_mismatch" ++
  flag (!fragile.declaredFaults.any (·.kind.transient) && !sameSemantics fragile resilient) "case_evidence_mismatch"

def crossErrors (fragile resilient : List CaseResult) : List String :=
  (fragile.map (·.scenarioId)).dedup.flatMap fun id =>
    match caseById fragile id, caseById resilient id with
    | some f, some r => pairErrors f r
    | _, _ => []

/-- Some mode's metrics are not those of its cases; the first such mode ends the search. -/
def summaryMismatch : List (Mode × ModeResult) → Except Exn Bool
  | [] => .ok false
  | (_, result) :: rest => do
    let metrics ← aggregateCases result.cases
    if result.metrics ≠ metrics then pure true else summaryMismatch rest

def CaseResult.key (case : CaseResult) : String × Nat × String × String :=
  (case.scenarioId, case.scenarioVersion, case.scenarioPath, case.scenarioSha256)

def SuiteManifestEntry.key (entry : SuiteManifestEntry) : String × Nat × String × String :=
  (entry.scenarioId, entry.version, entry.relativePath, entry.scenarioSha256)

variable (sha256 : Json → String) (manifest : List SuiteManifestEntry)

/-- The cases of a mode are the entries of the manifest, each once. -/
def casesMatchManifest (mode : Mode) (result : ModeResult) : Bool :=
  result.mode = mode && decide (result.cases.map CaseResult.key).Nodup &&
    result.cases.all (fun case => case.key ∈ manifest.map SuiteManifestEntry.key) &&
    manifest.all (fun entry => entry.key ∈ result.cases.map CaseResult.key) &&
    result.cases.all fun case => case.mode = mode

def manifestById (scenarioId : String) : Option SuiteManifestEntry :=
  manifest.reverse.find? (·.scenarioId = scenarioId)

def casesErrors : List CaseResult → Except Exn (List String)
  | [] => .ok []
  | case :: rest =>
    match manifestById manifest case.scenarioId with
    | none => .error .lookupError
    | some frozen => do
      let errors ← caseEvidenceErrors case frozen sha256
      let more ← casesErrors rest
      pure (errors ++ more)

def modesErrors : List (Mode × ModeResult) → Except Exn (List String)
  | [] => .ok []
  | (mode, result) :: rest =>
    if casesMatchManifest manifest mode result then do
      let errors ← casesErrors sha256 manifest result.cases
      let more ← modesErrors rest
      pure (errors ++ more)
    else .ok ["case_manifest_mismatch"]

end Modes

section Report
variable (sha256 : Json → String)

def EvaluationReport.cases (report : EvaluationReport) : List CaseResult := report.modes.flatMap (·.2.cases)

def provenanceErrors (report : EvaluationReport) (source : String) : List String :=
  flag (!gitSha1Pattern report.provenance.gitRevision) (source ++ "_git_revision_invalid") ++
    flag report.provenance.gitDirty (source ++ "_git_worktree_dirty")

def bothModes (report : EvaluationReport) : Bool :=
  report.modes.map (·.1) = [.fragile, .resilient] || report.modes.map (·.1) = [.resilient, .fragile]

/-- Runs, traces and events of the whole report are pairwise different. -/
def identitiesDistinct (report : EvaluationReport) : Bool :=
  decide (report.cases.map (·.runId)).Nodup && decide (report.cases.map (·.traceId)).Nodup &&
    decide ((report.cases.flatMap (·.traceEvidence)).map (·.eventId)).Nodup

def modeCases (report : EvaluationReport) (mode : Mode) : List CaseResult :=
  ((report.modes.lookup mode).map (·.cases)).getD []

def comparisonErrors (report : EvaluationReport) : List String :=
  match compareModes report.modes with
  | .ok expected => flag (report.comparison ≠ some expected) "comparison_mismatch"
  | .error _ => ["comparison_mismatch"]

/-- `_integrity_errors`. -/
def integrityErrors (report : EvaluationReport) (source : String) : Except Exn (List String) :=
  if bothModes report then do
    let manifest := report.provenance.suiteManifest
    let manifestHash ← suiteSha256 sha256 manifest
    let mismatch ← summaryMismatch report.modes
    let caseErrors ← modesErrors sha256 manifest report.modes
    pure (provenanceErrors report source ++
      flag (report.provenance.suiteHash ≠ manifestHash) "suite_hash_mismatch" ++
      flag mismatch "summary_mismatch" ++
      flag (!decide (manifest.map SuiteManifestEntry.key).Nodup) "case_manifest_mismatch" ++
      flag (!identitiesDistinct report) "case_evidence_mismatch" ++ caseErrors ++
      crossErrors (modeCases report .fragile) (modeCases report .resilient) ++ comparisonErrors report).eraseDups
  else .ok (provenanceErrors report source ++ ["mode_set_mismatch"])

def fraction (numerator denominator : Nat) : ℚ≥0 := numerator / denominator

def comparable (current baseline : EvaluationReport) : Bool :=
  current.provenance.suiteHash = baseline.provenance.suiteHash &&
    current.provenance.suiteManifest == baseline.provenance.suiteManifest &&
    current.provenance.effectiveConfiguration = baseline.provenance.effectiveConfiguration &&
    (current.modes.map (·.1)).all (· ∈ baseline.modes.map (·.1)) &&
    (baseline.modes.map (·.1)).all (· ∈ current.modes.map (·.1))

/-- The fixed thresholds on the resilient mode. -/
def thresholdFailures (metrics : ModeMetrics) : List (String × String) :=
  (if fraction metrics.caseCorrectCount metrics.caseCount < 4 / 5 then
    [("task_correctness_rate", "must be at least 0.80")] else []) ++
  (if metrics.transientFaultCount = 0 then
    [("recovery_rate", "requires a non-zero verified fault denominator")]
  else if fraction metrics.recoveredTransientFaultCount metrics.transientFaultCount < 3 / 4 then
    [("recovery_rate", "must be at least 0.75")] else []) ++
  (if metrics.invalidOutputAcceptedCount ≠ 0 then
    [("invalid_output_rate", "accepted invalid outputs must be zero")] else [])

def regressionFailures (metrics baseline : ModeMetrics) : List (String × String) :=
  if (fraction baseline.caseCorrectCount baseline.caseCount : ℚ) -
      fraction metrics.caseCorrectCount metrics.caseCount > 1 / 20 then
    [("success_regression", "must not regress by more than 0.05")] else []

def GateResult.refused (errors : List String) : GateResult := ⟨false, false, [], errors⟩

def GateResult.decided (failures : List (String × String)) : GateResult := ⟨failures.isEmpty, true, failures, []⟩

/-- The thresholds, and the regression against a comparable baseline. -/
def enforceThresholds (report : EvaluationReport) (baseline : Option EvaluationReport) : Except Exn GateResult :=
  match report.modes.lookup .resilient, baseline with
  | none, _ => .error .lookupError
  | some resilient, none => .ok (.decided (thresholdFailures resilient.metrics))
  | some resilient, some baseline =>
    if comparable report baseline then
      match baseline.modes.lookup .resilient with
      | none => .ok (.refused ["incomparable_baseline"])
      | some previous =>
        .ok (.decided (thresholdFailures resilient.metrics ++ regressionFailures resilient.metrics previous.metrics))
    else .ok (.refused ["incomparable_baseline"])

def baselineErrors : Option EvaluationReport → Except Exn (List String)
  | some baseline => integrityErrors sha256 baseline "baseline"
  | none => .ok []

/-- `enforce_gate`: evidence first, thresholds after it. -/
def enforceGate (report : EvaluationReport) (baseline : Option EvaluationReport) : Except Exn GateResult := do
  let reportErrors ← integrityErrors sha256 report "report"
  let baselineErrors ← baselineErrors sha256 baseline
  let errors := (reportErrors ++ baselineErrors).eraseDups
  if errors ≠ [] then pure (.refused errors) else enforceThresholds report baseline

end Report

end ReliabilityLab
