import Mathlib.Data.List.Sort
import ReliabilityLab.Foundation.Checker
import ReliabilityLab.Foundation.Rounding
import ReliabilityLab.Storage.Tables
import ReliabilityLab.Tools.Incident

namespace ReliabilityLab

/-! Report models. Fields that no check reads (evaluation id, times, versions of
the interpreter and the package, literals with one value) are left out. -/

structure EffectiveConfiguration where
  fragileMaxAttempts : Int
  resilientMaxAttempts : Int
  timeoutSeconds : ℚ
  initialBackoffSeconds : ℚ
  deriving DecidableEq

structure FaultEvidence where
  actionStep : Nat
  toolName : String
  attempt : Nat
  kind : FaultType
  toolName_nonempty : toolName ≠ ""
  attempt_pos : 1 ≤ attempt
  deriving DecidableEq

inductive ActionKind where
  | callTool
  | finish
  | fail
  deriving DecidableEq

def ActionKind.value : ActionKind → String
  | .callTool => "call_tool"
  | .finish => "finish"
  | .fail => "fail"

/-- Frozen action identity, independent of how attempts go at run time. -/
structure LogicalActionProjection where
  actionStep : Nat
  kind : ActionKind
  toolName : Option String
  actionPayload : Dict
  actionFingerprint : String
  expectedOutputDigest : Option String

structure SuiteManifestEntry where
  relativePath : String
  scenarioId : String
  version : Nat
  scenarioSha256 : String
  initialContext : Dict
  logicalActions : List LogicalActionProjection
  expectedToolSequence : List String
  expectedOutcome : String
  declaredFaults : List FaultEvidence
  approvalSupplied : Bool

/-- The event types that a report admits. -/
def EventType.evidence : EventType → Bool
  | .runResumeRejected => false
  | .approvalRejected => false
  | _ => true

structure OrderedTraceEvidence where
  eventId : Uuid
  traceId : Uuid
  spanId : Uuid
  parentSpanId : Option Uuid
  status : String
  sequence : Nat
  eventType : EventType
  payload : Dict
  admitted : eventType.evidence = true

structure EvaluationProvenance where
  suiteHash : String
  suiteManifest : List SuiteManifestEntry
  gitRevision : String
  gitDirty : Bool
  effectiveConfiguration : EffectiveConfiguration

inductive AttemptStatus where
  | succeeded
  | failed
  | cancelled
  deriving DecidableEq

/-- One terminal attempt outcome. -/
structure AttemptEvidence where
  actionStep : Nat
  toolName : String
  attempt : Nat
  status : AttemptStatus
  errorCode : Option String
  transient : Option Bool
  toolName_nonempty : toolName ≠ ""
  attempt_pos : 1 ≤ attempt
  deriving DecidableEq

/-- A durable context result kept for schema validation. -/
structure AcceptedOutputEvidence where
  actionStep : Nat
  toolName : String
  output : Json

/-- An output-model rejection seen at the gateway. -/
structure OutputValidationEvidence where
  actionStep : Nat
  toolName : String
  attempt : Nat
  deriving DecidableEq

inductive FinalStatus where
  | succeeded
  | failed
  | waitingApproval
  deriving DecidableEq

structure CaseResult where
  scenarioId : String
  scenarioVersion : Nat
  scenarioPath : String
  scenarioSha256 : String
  mode : Mode
  runId : Uuid
  traceId : Uuid
  traceDigest : String
  traceEvidence : List OrderedTraceEvidence
  logicalActions : List LogicalActionProjection
  finalStatus : FinalStatus
  finalResult : Option Dict
  expectedOutcome : String
  observedOutcome : String
  correct : Bool
  terminalSuccess : Bool
  expectedToolSequence : List String
  actualToolSequence : List String
  sequenceMatchCount : Nat
  sequenceDenominator : Nat
  unnecessaryCallCount : Nat
  logicalToolCallCount : Nat
  attemptEvidence : List AttemptEvidence
  attemptCount : Nat
  retryAttemptCount : Nat
  declaredFaults : List FaultEvidence
  observedFaults : List FaultEvidence
  verifiedTransientFaultCount : Nat
  recoveredTransientFaultCount : Nat
  acceptedOutputs : List AcceptedOutputEvidence
  acceptedOutputCount : Nat
  invalidOutputAcceptedCount : Nat
  invalidOutputDetectedCount : Nat
  invalidOutputRejectedCount : Nat
  malformedFaultInjectedCount : Nat
  outputValidationFailures : List OutputValidationEvidence
  latencyNs : Nat
  estimatedInputTokens : Nat
  estimatedOutputTokens : Nat
  estimatedCostUsd : ℚ≥0
  approvalReconstructed : Bool
  prePauseWriteExecutionCount : Nat
  writeExecutionCount : Nat
  storeRunCount : Nat

/-- A float field between 0 and 1. -/
abbrev Rate := { q : ℚ≥0 // q ≤ 1 }

structure ModeMetrics where
  caseCorrectCount : Nat
  caseCount : Nat
  taskCorrectnessRate : Rate
  terminalSuccessCount : Nat
  toolSequenceAccuracy : Rate
  toolSequenceCaseCount : Nat
  recoveredTransientFaultCount : Nat
  transientFaultCount : Nat
  recoveryRate : Option Rate
  invalidOutputAcceptedCount : Nat
  acceptedOutputCount : Nat
  invalidOutputRate : Rate
  invalidOutputDetectedCount : Nat
  invalidOutputRejectedCount : Nat
  malformedFaultInjectedCount : Nat
  unnecessaryCallCount : Nat
  retryAttemptCount : Nat
  p50LatencyMs : ℚ≥0
  p95LatencyMs : ℚ≥0
  estimatedInputTokens : Nat
  estimatedOutputTokens : Nat
  estimatedCostUsd : ℚ≥0
  deriving DecidableEq

structure ModeResult where
  mode : Mode
  cases : List CaseResult
  metrics : ModeMetrics

structure ModeComparison where
  taskCorrectnessRateDelta : ℚ
  recoveryRateDelta : Option ℚ
  toolSequenceAccuracyDelta : ℚ
  invalidOutputRateDelta : ℚ
  unnecessaryCallCountDelta : Int
  retryAttemptCountDelta : Int
  p50LatencyMsDelta : ℚ
  p95LatencyMsDelta : ℚ
  fragileWorseRecoveryScenarios : List String
  deriving DecidableEq

/-- `modes` is a dict, in insertion order. -/
structure EvaluationReport where
  provenance : EvaluationProvenance
  modes : List (Mode × ModeResult)
  comparison : Option ModeComparison
  modes_distinct : (modes.map (·.1)).Nodup

structure GateResult where
  passed : Bool
  comparable : Bool
  failures : List (String × String)
  infrastructureErrors : List String
  deriving DecidableEq

/-! Equality of models is equality of their fields, with Python's `==` on JSON. -/

instance : BEq LogicalActionProjection where
  beq a b := a.actionStep = b.actionStep && a.kind = b.kind && a.toolName = b.toolName &&
    Json.obj a.actionPayload == .obj b.actionPayload && a.actionFingerprint = b.actionFingerprint &&
    a.expectedOutputDigest = b.expectedOutputDigest

instance : BEq SuiteManifestEntry where
  beq a b := a.relativePath = b.relativePath && a.scenarioId = b.scenarioId && a.version = b.version &&
    a.scenarioSha256 = b.scenarioSha256 && Json.obj a.initialContext == .obj b.initialContext &&
    a.logicalActions == b.logicalActions && a.expectedToolSequence = b.expectedToolSequence &&
    a.expectedOutcome = b.expectedOutcome && a.declaredFaults = b.declaredFaults &&
    a.approvalSupplied = b.approvalSupplied

instance : BEq AcceptedOutputEvidence where
  beq a b := a.actionStep = b.actionStep && a.toolName = b.toolName && a.output == b.output

/-- A dict or `None`. -/
def sameResult : Option Dict → Option Dict → Bool
  | none, none => true
  | some a, some b => Json.obj a == .obj b
  | _, _ => false

def AttemptStatus.value : AttemptStatus → String
  | .succeeded => "succeeded"
  | .failed => "failed"
  | .cancelled => "cancelled"

def Mode.value : Mode → String
  | .fragile => "fragile"
  | .resilient => "resilient"

def EventType.value : EventType → String
  | .runRunning => "run.running"
  | .policyAction => "policy.action"
  | .toolAttemptStarted => "tool.attempt.started"
  | .faultInjected => "fault.injected"
  | .toolOutputValidationFailed => "tool.output.validation_failed"
  | .toolPreflightFailed => "tool.preflight.failed"
  | .toolAttemptFailed => "tool.attempt.failed"
  | .toolAttemptSucceeded => "tool.attempt.succeeded"
  | .toolAttemptCancelled => "tool.attempt.cancelled"
  | .runWaitingApproval => "run.waiting_approval"
  | .approvalRecorded => "approval.recorded"
  | .approvalDenied => "approval.denied"
  | .runCheckpointed => "run.checkpointed"
  | .toolRetryCancelled => "tool.retry.cancelled"
  | .runSucceeded => "run.succeeded"
  | .runFailed => "run.failed"
  | .runResumeRejected => "run.resume.rejected"
  | .approvalRejected => "approval.rejected"

/-! `model_dump(mode="json")` of what gets hashed. -/

def FaultEvidence.modelDump (fault : FaultEvidence) : Json :=
  .obj [("action_step", .int fault.actionStep), ("tool_name", .str fault.toolName), ("attempt", .int fault.attempt),
    ("kind", .str fault.kind.value)]

def LogicalActionProjection.modelDump (action : LogicalActionProjection) : Json :=
  .obj [("action_step", .int action.actionStep), ("kind", .str action.kind.value),
    ("tool_name", optionalStr action.toolName), ("action_payload", .obj action.actionPayload),
    ("action_fingerprint", .str action.actionFingerprint),
    ("expected_output_digest", optionalStr action.expectedOutputDigest)]

def SuiteManifestEntry.modelDump (entry : SuiteManifestEntry) : Json :=
  .obj [("relative_path", .str entry.relativePath), ("scenario_id", .str entry.scenarioId),
    ("version", .int entry.version), ("scenario_sha256", .str entry.scenarioSha256),
    ("initial_context", .obj entry.initialContext),
    ("logical_actions", .arr (entry.logicalActions.map LogicalActionProjection.modelDump)),
    ("expected_tool_sequence", .arr (entry.expectedToolSequence.map .str)),
    ("expected_outcome", .str entry.expectedOutcome),
    ("declared_faults", .arr (entry.declaredFaults.map FaultEvidence.modelDump)),
    ("approval_supplied", .bool entry.approvalSupplied)]

def OrderedTraceEvidence.modelDump (item : OrderedTraceEvidence) : Json :=
  .obj [("event_id", .str (Uuid.text item.eventId)), ("trace_id", .str (Uuid.text item.traceId)),
    ("span_id", .str (Uuid.text item.spanId)), ("parent_span_id", optionalStr (item.parentSpanId.map Uuid.text)),
    ("status", .str item.status), ("sequence", .int item.sequence), ("event_type", .str item.eventType.value),
    ("payload", .obj item.payload)]

def canonicalActionFingerprint (sha256 : Json → String) (payload : Dict) : Except Exn String :=
  canonicalJsonDigest sha256 (.obj payload)

def traceEvidenceDigest (sha256 : Json → String) (evidence : List OrderedTraceEvidence) : Except Exn String :=
  canonicalJsonDigest sha256 (.arr (evidence.map OrderedTraceEvidence.modelDump))

/-- The manifest, sorted by path and hashed. -/
def suiteSha256 (sha256 : Json → String) (manifest : List SuiteManifestEntry) : Except Exn String :=
  canonicalJsonDigest sha256 (.arr ((manifest.insertionSort fun a b => a.relativePath ≤ b.relativePath).map
    SuiteManifestEntry.modelDump))

end ReliabilityLab
