import ReliabilityLab.Evaluation.Graders

namespace ReliabilityLab

/-- Identity of one attempt in the trace; numbers of payloads may be any integers. -/
structure AttemptIdentity where
  actionStep : Nat
  toolName : String
  attempt : Int
  deriving DecidableEq

def AttemptIdentity.action (identity : AttemptIdentity) : Nat × String := (identity.actionStep, identity.toolName)

def AttemptEvidence.action (attempt : AttemptEvidence) : Nat × String := (attempt.actionStep, attempt.toolName)

def AttemptEvidence.identity (attempt : AttemptEvidence) : AttemptIdentity :=
  ⟨attempt.actionStep, attempt.toolName, attempt.attempt⟩

structure ApprovalWait where
  sequence : Nat
  step : Nat
  toolName : String
  fingerprint : Json

structure ApprovalDecision where
  sequence : Nat
  step : Nat
  fingerprint : String
  actor : String
  allow : Bool

structure DeniedAction where
  step : Nat
  fingerprint : String
  actor : String
  deriving DecidableEq

/-- The local variables of the event loop. `started` keeps the span of each
attempt with it; the terminal action and the terminal event are set once, with
all that belongs to them. -/
structure TraceState where
  seenActions : List (Nat × ActionKind)
  lastPolicyStep : Int
  policyPositions : List (Nat × Nat)
  actual : List String
  activeCall : Option (Nat × String)
  terminalAction : Option (ActionKind × Dict)
  started : List (AttemptIdentity × Uuid)
  attempts : List AttemptEvidence
  attemptStartPositions : List (AttemptIdentity × Nat)
  lastAttemptByAction : List ((Nat × String) × AttemptEvidence)
  pendingSuccess : Option (AttemptIdentity × Json)
  acceptedOutputs : List AcceptedOutputEvidence
  reconstructedContext : Dict
  contextOutputs : Dict
  faults : List FaultEvidence
  validations : List OutputValidationEvidence
  waits : List ApprovalWait
  approvals : List ApprovalDecision
  resumes : List Nat
  preflightFailure : Option String
  denied : Option (DeniedAction × Json)
  mustFailPreflight : Option String
  mustRecordDenial : Option DeniedAction
  mustFailApprovalDenied : Option Json
  final : Option (FinalStatus × Dict)

structure TraceClaims where
  actualToolSequence : List String
  attempts : List AttemptEvidence
  faults : List FaultEvidence
  validationFailures : List OutputValidationEvidence
  acceptedOutputs : List AcceptedOutputEvidence
  finalStatus : FinalStatus
  finalResult : Dict
  approvalReconstructed : Bool

/-- `d[key] = value` for dicts whose order nobody reads. -/
def putEntry {κ β : Type} [DecidableEq κ] (entries : List (κ × β)) (key : κ) (value : β) : List (κ × β) :=
  (key, value) :: entries.filter fun entry => entry.1 ≠ key

/-- `_payload_int`; a missing key and a wrong type end the same way everywhere. -/
def payloadInt (payload : Dict) (key : String) : Option Int := (payload.lookup key).bind Json.int?

/-- `payload.get(key)`. -/
def payloadGet (payload : Dict) (key : String) : Json := (payload.lookup key).getD .null

def nullToNone : Json → Option Json
  | .null => none
  | value => some value

/-- `active_call == (step, tool_name)` for values of a payload. -/
def callIs (activeCall : Option (Nat × String)) (step : Int) (toolName : Json) : Bool :=
  match activeCall with
  | some (activeStep, activeTool) => step = activeStep && Json.str activeTool == toolName
  | none => false

/-- `_attempt_identity`, for the active call only. -/
def attemptIdentity (activeCall : Option (Nat × String)) (payload : Dict) : Option AttemptIdentity := do
  let step ← payloadInt payload "action_step"
  let toolName ← payload.lookup "tool_name"
  let attempt ← payloadInt payload "attempt"
  let (activeStep, activeTool) ← activeCall
  if callIs activeCall step toolName then some ⟨activeStep, activeTool, attempt⟩ else none

/-- `frozen_by_step`: the last action of a step wins. -/
def SuiteManifestEntry.frozenByStep (frozen : SuiteManifestEntry) (step : Int) : Option LogicalActionProjection :=
  frozen.logicalActions.reverse.find? fun action => (action.actionStep : Int) = step

def optionalText : Json → Option (Option String)
  | .null => some none
  | .str text => some (some text)
  | _ => none

def optionalBool : Json → Option (Option Bool)
  | .null => some none
  | value => (laxBool value).map some

/-- `AttemptEvidence(...)` of a terminal attempt event; validation may refuse its code or its flag. -/
def AttemptEvidence.make (identity : AttemptIdentity) (status : AttemptStatus) (payload : Dict) :
    Except Exn AttemptEvidence :=
  match optionalText (payloadGet payload "code"), optionalBool (payloadGet payload "transient") with
  | some errorCode, some transient =>
    if valid : identity.toolName ≠ "" ∧ 1 ≤ identity.attempt.toNat then
      .ok ⟨identity.actionStep, identity.toolName, identity.attempt.toNat, status, errorCode, transient,
        valid.1, valid.2⟩
    else .error .validationError
  | _, _ => .error .validationError

def FaultType.ofJson (kind : Json) : Option FaultType :=
  [FaultType.timeout, .rateLimit, .toolError, .malformedOutput].find? fun type => Json.str type.value == kind

def FaultEvidence.make? (identity : AttemptIdentity) (kind : Json) : Option FaultEvidence := do
  let kind ← FaultType.ofJson kind
  if valid : identity.toolName ≠ "" ∧ 1 ≤ identity.attempt.toNat then
    some ⟨identity.actionStep, identity.toolName, identity.attempt.toNat, kind, valid.1, valid.2⟩
  else none

/-- `OutputValidationEvidence.model_validate(payload)`, after its identity was read. -/
def OutputValidationEvidence.validate (identity : AttemptIdentity) (payload : Dict) : Option OutputValidationEvidence :=
  if payload.all (fun item => item.1 ∈ ["action_step", "tool_name", "attempt", "code", "source"]) &&
      (payload.lookup "code").all (Json.str "invalid_output" == ·) &&
      (payload.lookup "source").all (Json.str "output_model" == ·) &&
      identity.toolName ≠ "" && 1 ≤ identity.attempt then
    some ⟨identity.actionStep, identity.toolName, identity.attempt.toNat⟩
  else none

def TraceState.initial (frozen : SuiteManifestEntry) : TraceState where
  seenActions := []
  lastPolicyStep := -1
  policyPositions := []
  actual := []
  activeCall := none
  terminalAction := none
  started := []
  attempts := []
  attemptStartPositions := []
  lastAttemptByAction := []
  pendingSuccess := none
  acceptedOutputs := []
  reconstructedContext := frozen.initialContext
  contextOutputs := ((payloadGet frozen.initialContext "tool_results").obj?).getD []
  faults := []
  validations := []
  waits := []
  approvals := []
  resumes := []
  preflightFailure := none
  denied := none
  mustFailPreflight := none
  mustRecordDenial := none
  mustFailApprovalDenied := none
  final := none

section Loop
variable (sha256 : Json → String) (mode : Mode) (frozen : SuiteManifestEntry) (st : TraceState)
  (item : OrderedTraceEvidence)

/-- What has to come next, before an event is looked at. -/
def TraceState.expects : Prop :=
  (st.pendingSuccess.isSome → item.eventType = .runCheckpointed) ∧
  (st.mustFailPreflight.isSome → item.eventType = .runFailed) ∧
  (st.mustRecordDenial.isSome → item.eventType = .approvalDenied) ∧
  (st.mustFailApprovalDenied.isSome → item.eventType = .runFailed) ∧
  st.final.isNone ∧
  (st.terminalAction.isSome → item.eventType = .runSucceeded ∨ item.eventType = .runFailed)

instance : Decidable (st.expects item) := by
  unfold TraceState.expects
  infer_instance

/-- The variables after an accepted `policy.action` for `action`. -/
def TraceState.announced (action : LogicalActionProjection) (actionPayload : Dict) : TraceState :=
  let first := (st.seenActions.lookup action.actionStep).isNone
  { st with
    seenActions := if first then st.seenActions ++ [(action.actionStep, action.kind)] else st.seenActions
    actual := if first ∧ action.kind = .callTool then st.actual ++ action.toolName.toList else st.actual
    policyPositions := st.policyPositions ++ [(action.actionStep, item.sequence)]
    lastPolicyStep := max st.lastPolicyStep action.actionStep
    activeCall := if action.kind = .callTool then action.toolName.map (action.actionStep, ·) else none
    terminalAction := if action.kind = .callTool then none else some (action.kind, actionPayload) }

/-- A step is the next new one, or announced again as what it was. -/
def mayAnnounce (action : LogicalActionProjection) : Bool :=
  match st.seenActions.lookup action.actionStep with
  | none => action.actionStep = st.seenActions.length
  | some kind => kind = action.kind

def policyAction : Check Exn TraceState := do
  let step ← Check.some? (payloadInt item.payload "action_step")
  let actionPayload := item.payload.erase "action_step"
  let kind ← Check.some? (actionPayload.lookup "type")
  let frozenAction ← Check.some? (frozen.frozenByStep step)
  Check.require ((Json.str frozenAction.kind.value == kind) = true ∧
    (optionalStr frozenAction.toolName == payloadGet actionPayload "tool_name") = true ∧
    (Json.obj actionPayload == .obj frozenAction.actionPayload) = true)
  let fingerprint ← Check.lift (canonicalActionFingerprint sha256 actionPayload)
  Check.require (fingerprint = frozenAction.actionFingerprint ∧ st.lastPolicyStep ≤ step)
  Check.require (mayAnnounce st frozenAction)
  pure (st.announced item frozenAction actionPayload)

/-- The next attempt of an action: the first, or the one after a transient failure. -/
def mayStart (identity : AttemptIdentity) : Bool :=
  match st.lastAttemptByAction.lookup identity.action with
  | none => identity.attempt = 1
  | some previous => identity.attempt ≠ 1 && identity.attempt = previous.attempt + 1 &&
    previous.status = .failed && previous.transient = some true

def attemptLimit : Int :=
  match mode with
  | .fragile => 1
  | .resilient => 2

def attemptStarted : Check Exn TraceState := do
  let identity ← Check.some? (attemptIdentity st.activeCall item.payload)
  Check.require (st.terminalAction.isNone ∧ item.status = "ok" ∧ (st.started.lookup identity).isNone)
  Check.require (mayStart st identity ∧ identity.attempt ≤ attemptLimit mode)
  pure { st with
    started := (identity, item.spanId) :: st.started
    attemptStartPositions := putEntry st.attemptStartPositions identity item.sequence }

/-- A successful attempt shows the frozen output, and waits for its checkpoint. -/
def attemptOutputShown (identity : AttemptIdentity) (next : TraceState) : Check Exn TraceState := do
  let output ← Check.some? (item.payload.lookup "output")
  let action ← Check.some? (frozen.frozenByStep identity.actionStep)
  let expected ← Check.some? action.expectedOutputDigest
  let digest ← Check.lift (canonicalJsonDigest sha256 output)
  Check.require (digest = expected)
  pure { next with pendingSuccess := some (identity, output) }

def attemptEnded (status : AttemptStatus) : Check Exn TraceState := do
  let identity ← Check.some? (attemptIdentity st.activeCall item.payload)
  Check.require (st.terminalAction.isNone ∧ st.started.lookup identity = some item.spanId ∧
    item.status = if status = .succeeded then "ok" else "error")
  let attempt ← Check.lift (AttemptEvidence.make identity status item.payload)
  let next := { st with
    started := st.started.filter fun entry => entry.1 ≠ identity
    attempts := st.attempts ++ [attempt]
    lastAttemptByAction := putEntry st.lastAttemptByAction identity.action attempt }
  if status = .succeeded then attemptOutputShown sha256 frozen item identity next else pure next

/-- The running attempt that a fault or a rejected output belongs to. -/
def runningAttempt : Check Exn AttemptIdentity := do
  let identity ← Check.some? (attemptIdentity st.activeCall item.payload)
  Check.require (st.terminalAction.isNone ∧ st.started.lookup identity = some item.spanId ∧ item.status = "error")
  pure identity

/-- A fault without a kind escapes as a `KeyError`. -/
def faultInjected : Check Exn TraceState := do
  let identity ← runningAttempt st item
  match item.payload.lookup "kind" with
  | none => Check.raise .lookupError
  | some kind => do
    let fault ← Check.some? (FaultEvidence.make? identity kind)
    pure { st with faults := st.faults ++ [fault] }

def outputValidationFailed : Check Exn TraceState := do
  let identity ← runningAttempt st item
  let validation ← Check.some? (OutputValidationEvidence.validate identity item.payload)
  pure { st with validations := st.validations ++ [validation] }

def checkpointed : Check Exn TraceState := do
  let (identity, output) ← Check.some? st.pendingSuccess
  Check.require (item.status = "ok")
  let contextDigest ← Check.some? (item.payload.lookup "context_digest")
  let cached ← Check.some? (item.payload.lookup "cached")
  Check.require ((Json.int identity.actionStep == payloadGet item.payload "action_step") = true ∧
    (Json.int identity.attempt == payloadGet item.payload "attempt") = true ∧
    (Json.int (identity.actionStep + 1) == payloadGet item.payload "current_step") = true ∧ cached.bool?.isSome)
  let outputDigest ← Check.lift (canonicalJsonDigest sha256 output)
  Check.require ((Json.str outputDigest == payloadGet item.payload "output_digest") = true)
  let contextOutputs := st.contextOutputs.set (toString identity.actionStep) output
  let context := st.reconstructedContext.set "tool_results" (.obj contextOutputs)
  let reconstructed ← Check.lift (canonicalJsonDigest sha256 (.obj context))
  Check.require ((Json.str reconstructed == contextDigest) = true)
  pure { st with
    contextOutputs := contextOutputs
    reconstructedContext := context
    acceptedOutputs := st.acceptedOutputs ++ [⟨identity.actionStep, identity.toolName, output⟩]
    pendingSuccess := none
    activeCall := none }

def preflightCodes : List String :=
  ["unknown_tool", "invalid_input", "invalid_fault_plan", "idempotency_key_required"]

/-- A code that cannot be hashed escapes as a `TypeError`. -/
def preflightFailed : Check Exn TraceState := do
  Check.require (st.activeCall.isSome ∧ item.status = "error" ∧ st.started.isEmpty ∧ st.preflightFailure.isNone)
  let step ← Check.some? (payloadInt item.payload "action_step")
  let toolName ← Check.some? (item.payload.lookup "tool_name")
  let code ← Check.some? (item.payload.lookup "code")
  let fingerprint ← Check.some? (item.payload.lookup "action_fingerprint")
  Check.require (callIs st.activeCall step toolName)
  let action ← Check.some? (frozen.frozenByStep step)
  Check.require ((Json.str action.actionFingerprint == fingerprint) = true)
  if code.hashable then do
    let code ← Check.some? (preflightCodes.find? fun known => Json.str known == code)
    pure { st with preflightFailure := some code, mustFailPreflight := some code }
  else Check.raise (.other "TypeError")

def waitingApproval : Check Exn TraceState := do
  let step ← Check.some? (payloadInt item.payload "step")
  let toolName ← Check.some? (item.payload.lookup "tool_name")
  let fingerprint ← Check.some? (item.payload.lookup "action_fingerprint")
  let (activeStep, activeTool) ← Check.some? st.activeCall
  Check.require (callIs st.activeCall step toolName ∧ st.terminalAction.isNone)
  pure { st with waits := st.waits ++ [⟨item.sequence, activeStep, activeTool, fingerprint⟩] }

/-- The frozen action of the active call, if the payload names its step and its fingerprint. -/
def decidedAction : Check Exn LogicalActionProjection := do
  let step ← Check.some? (payloadInt item.payload "action_step")
  let fingerprint ← Check.some? (item.payload.lookup "action_fingerprint")
  let action ← Check.some? (frozen.frozenByStep step)
  Check.require ((Json.str action.actionFingerprint == fingerprint) = true ∧
    st.activeCall.isSome ∧ st.activeCall = action.toolName.map (action.actionStep, ·))
  pure action

def approvalRecorded : Check Exn TraceState := do
  let action ← decidedAction frozen st item
  let actor ← Check.some? (payloadGet item.payload "actor").str?
  let allow ← Check.some? (payloadGet item.payload "allow").bool?
  Check.require (if allow then st.mustRecordDenial.isNone ∧ st.denied.isNone else ¬ st.approvals.any (·.allow))
  pure { st with
    mustRecordDenial := if allow then st.mustRecordDenial
      else some ⟨action.actionStep, action.actionFingerprint, actor⟩
    approvals := st.approvals ++ [⟨item.sequence, action.actionStep, action.actionFingerprint, actor, allow⟩] }

def approvalDenied : Check Exn TraceState := do
  let action ← decidedAction frozen st item
  let actor ← Check.some? (payloadGet item.payload "actor").str?
  Check.require (item.status = "error" ∧
    st.mustRecordDenial = some ⟨action.actionStep, action.actionFingerprint, actor⟩ ∧ ¬ st.approvals.any (·.allow))
  pure { st with
    denied := some (⟨action.actionStep, action.actionFingerprint, actor⟩, payloadGet item.payload "reason")
    mustRecordDenial := none
    mustFailApprovalDenied := nullToNone (payloadGet item.payload "reason") }

def running : Check Exn TraceState := do
  Check.require (item.status = "ok")
  pure (if Json.str "waiting_approval" == payloadGet item.payload "from_status" then
    { st with resumes := st.resumes ++ [item.sequence] } else st)

def expectedFinish (actionPayload : Dict) : Dict :=
  [("outcome", payloadGet actionPayload "outcome"), ("summary", payloadGet actionPayload "summary"),
    ("evidence_refs", payloadGet actionPayload "evidence_refs")]

def expectedFail (actionPayload : Dict) : Dict :=
  [("code", payloadGet actionPayload "code"), ("explanation", payloadGet actionPayload "explanation")]

/-- The payload that the terminal event has to carry; none where the branch does not look at it. -/
def terminalPayload : Option Dict :=
  match st.terminalAction with
  | some (.finish, actionPayload) => some (expectedFinish actionPayload)
  | some (_, actionPayload) => some (expectedFail actionPayload)
  | none =>
    match st.denied with
    | some (_, reason) => some [("code", .str "approval_denied"), ("reason", reason)]
    | none => st.preflightFailure.map fun code => [("code", .str code)]

/-- Which terminal event may come: success after a finish action only. -/
def mayEnd (status : FinalStatus) : Prop :=
  match st.terminalAction with
  | some (.finish, _) => status = .succeeded
  | some (_, _) => status = .failed
  | none => status = .failed ∧ (st.denied.isSome ∨ st.preflightFailure.isSome ∨
      st.attempts.getLast?.any (·.status = .failed))

instance (status : FinalStatus) : Decidable (mayEnd st status) := by
  unfold mayEnd
  split <;> infer_instance

def terminal (status : FinalStatus) : Check Exn TraceState := do
  Check.require (st.started.isEmpty ∧ item.status = if status = .succeeded then "ok" else "error")
  Check.require (mayEnd st status ∧ (terminalPayload st).all (Json.obj · == .obj item.payload))
  pure { st with
    mustFailApprovalDenied := if st.terminalAction.isNone ∧ st.denied.isSome then none else st.mustFailApprovalDenied
    mustFailPreflight := if st.terminalAction.isNone ∧ st.denied.isNone ∧ st.preflightFailure.isSome then none
      else st.mustFailPreflight
    final := some (status, item.payload) }

/-- One round of the event loop. -/
def traceStep : Check Exn TraceState := do
  Check.require (st.expects item)
  match item.eventType with
  | .policyAction => policyAction sha256 frozen st item
  | .toolAttemptStarted => attemptStarted mode st item
  | .toolAttemptSucceeded => attemptEnded sha256 frozen st item .succeeded
  | .toolAttemptFailed => attemptEnded sha256 frozen st item .failed
  | .toolAttemptCancelled => attemptEnded sha256 frozen st item .cancelled
  | .faultInjected => faultInjected st item
  | .toolOutputValidationFailed => outputValidationFailed st item
  | .runCheckpointed => checkpointed sha256 st item
  | .toolPreflightFailed => preflightFailed frozen st item
  | .runWaitingApproval => waitingApproval st item
  | .approvalRecorded => approvalRecorded frozen st item
  | .approvalDenied => approvalDenied frozen st item
  | .runRunning => running st item
  | .runSucceeded => terminal st item .succeeded
  | .runFailed => terminal st item .failed
  | .toolRetryCancelled => .error .refused
  | .runResumeRejected => .error .refused
  | .approvalRejected => .error .refused

end Loop

/-- `incident_registry(...).get(tool_name)` asks for approval. -/
def approvalTool (toolName : Option String) : Bool :=
  (toolName.bind incidentRegistry.get).any (·.requiresApproval)

section Verdict
variable (sha256 : Json → String) (case : CaseResult) (frozen : SuiteManifestEntry) (st : TraceState)

def faultFailure : FaultType → String × Bool
  | .timeout => ("tool_timeout", true)
  | .rateLimit => ("rate_limit", true)
  | .toolError => ("tool_error", true)
  | .malformedOutput => ("invalid_output", false)

/-- A failed attempt has one rejected output, or one fault that explains it. -/
def attemptSupported (attempt : AttemptEvidence) : Bool :=
  match attempt.status with
  | .succeeded => true
  | .cancelled => false
  | .failed =>
    if attempt.errorCode = some "invalid_output" then
      attempt.transient = some false &&
        st.validations.count ⟨attempt.actionStep, attempt.toolName, attempt.attempt⟩ = 1
    else
      ([FaultType.timeout, .rateLimit, .toolError, .malformedOutput].filter fun kind =>
        st.faults.count ⟨attempt.actionStep, attempt.toolName, attempt.attempt, kind, attempt.toolName_nonempty,
          attempt.attempt_pos⟩ = 1 && attempt.errorCode = some (faultFailure kind).1 &&
          attempt.transient = some (faultFailure kind).2).length = 1

def AttemptEvidence.follows (previous later : AttemptEvidence) : Prop :=
  later.attempt = previous.attempt + 1 ∧ previous.status = .failed ∧ previous.transient = some true

instance : DecidableRel AttemptEvidence.follows := fun previous later => by
  unfold AttemptEvidence.follows
  infer_instance

def attemptsOf (attempts : List AttemptEvidence) (action : Nat × String) : List AttemptEvidence :=
  attempts.filter fun attempt => attempt.action = action

def attemptSemanticsAreSupported : Bool :=
  st.attempts.all (attemptSupported st) &&
    st.attempts.all fun attempt => (attemptsOf st.attempts attempt.action).IsChain AttemptEvidence.follows

def positionsOf (step : Nat) : List Nat := (st.policyPositions.filter fun entry => entry.1 = step).map (·.2)

def startsOf (step : Nat) : List Nat :=
  (st.attemptStartPositions.filter fun entry => entry.1.actionStep = step).map (·.2)

/-- Every step is announced once, and twice where an approved call was executed. -/
def announcementsAreCounted : Bool :=
  st.policyPositions.all fun (step, _) =>
    match frozen.frozenByStep step with
    | some action => (positionsOf st step).length =
        if action.kind = .callTool ∧ approvalTool action.toolName ∧ startsOf st step ≠ [] then 2 else 1
    | none => false

/-- Steps behind approval that were executed. -/
def approvalSteps : List Nat :=
  ((frozen.logicalActions.filter fun action => action.kind = .callTool && approvalTool action.toolName &&
    startsOf st action.actionStep ≠ []).map (·.actionStep)).dedup

/-- One wait, one decision and one resume, in order, between the two announcements of the approved step. -/
def approvalCycleIsValid (action : LogicalActionProjection) : Bool :=
  match st.waits, st.approvals, st.resumes, positionsOf st action.actionStep with
  | [wait], [approval], [resumed], [first, second] =>
    wait.step = action.actionStep && approval.step = action.actionStep && some wait.toolName = action.toolName &&
      Json.str action.actionFingerprint == wait.fingerprint && approval.fingerprint = action.actionFingerprint &&
      approval.actor = "evaluation-reviewer" && approval.allow && first < wait.sequence &&
      wait.sequence < approval.sequence && approval.sequence < resumed && resumed < second &&
      startsOf st action.actionStep ≠ [] && (startsOf st action.actionStep).all (second < ·) &&
      case.prePauseWriteExecutionCount = 0 && case.writeExecutionCount = 1
  | _, _, _, _ => false

def approvalCyclesAreValid : Option Bool :=
  match approvalSteps frozen st with
  | [] => if st.waits.isEmpty && st.approvals.isEmpty && st.resumes.isEmpty then some false else none
  | [step] =>
    match frozen.logicalActions.find? fun action => action.actionStep = step with
    | some action => if frozen.approvalSupplied && approvalCycleIsValid case st action then some true else none
    | none => none
  | _ => none

/-- The projection of one frozen action agrees with its payload. -/
def frozenActionAgrees (action : LogicalActionProjection) : Check Exn Unit := do
  Check.require ((Json.str action.kind.value == payloadGet action.actionPayload "type") = true)
  Check.require (if action.kind = .callTool then
    (optionalStr action.toolName == payloadGet action.actionPayload "tool_name") = true else action.toolName = none)
  let fingerprint ← Check.lift (canonicalActionFingerprint sha256 action.actionPayload)
  Check.require (fingerprint = action.actionFingerprint)
  if action.kind = .callTool then do
    let arguments ← Check.some? (payloadGet action.actionPayload "arguments").obj?
    let toolName ← Check.some? action.toolName
    match deterministicIncidentOutput toolName arguments with
    | none => Check.require (action.expectedOutputDigest = none)
    | some output => do
      let digest ← Check.lift (canonicalJsonDigest sha256 output)
      Check.require (action.expectedOutputDigest = some digest)
  else Check.require (action.expectedOutputDigest = none)

/-- Digest, identifiers and order of the trace. -/
def traceHeader : Check Exn Unit := do
  let digest ← Check.lift (traceEvidenceDigest sha256 case.traceEvidence)
  Check.require (case.traceDigest = digest)
  Check.require (∀ item ∈ case.traceEvidence, item.traceId = case.traceId ∧ item.parentSpanId = some case.traceId)
  Check.require (case.traceEvidence.map (·.eventId)).Nodup
  Check.require ((case.traceEvidence.map (·.sequence)).Pairwise (· ≤ ·) ∧ (case.traceEvidence.map (·.sequence)).Nodup)

def frozenSteps : List Nat := (frozen.logicalActions.map (·.actionStep)).dedup

/-- What has to be true of the variables after the loop. -/
def traceVerdict : Check Exn TraceClaims := do
  Check.require (st.started.isEmpty ∧ st.pendingSuccess.isNone ∧ st.mustFailPreflight.isNone ∧
    st.mustRecordDenial.isNone ∧ st.mustFailApprovalDenied.isNone)
  let (finalStatus, finalResult) ← Check.some? st.final
  Check.require (announcementsAreCounted frozen st)
  Check.require (attemptSemanticsAreSupported st)
  let approvalReconstructed ← Check.some? (approvalCyclesAreValid case frozen st)
  pure {
    actualToolSequence := st.actual
    attempts := st.attempts
    faults := st.faults
    validationFailures := st.validations
    acceptedOutputs := st.acceptedOutputs
    finalStatus
    finalResult
    approvalReconstructed }

/-- `_trace_claims`: what one pass over the ordered evidence supports. -/
def traceClaims : Check Exn TraceClaims := do
  traceHeader sha256 case
  Check.require ((frozenSteps frozen).Perm (List.range (frozenSteps frozen).length))
  frozen.logicalActions.forM (frozenActionAgrees sha256)
  let final ← Check.run (traceStep sha256 case.mode frozen) (.initial frozen) case.traceEvidence
  traceVerdict case frozen final

end Verdict

end ReliabilityLab
