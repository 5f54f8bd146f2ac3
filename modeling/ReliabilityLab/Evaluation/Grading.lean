import ReliabilityLab.Evaluation.Failures
import ReliabilityLab.Evaluation.FaultTargets

namespace ReliabilityLab

/-- `EvaluationInfrastructureError`. -/
def infrastructureError {α : Type} : Except Exn α := .error (.other "EvaluationInfrastructureError")

section Manifest
variable (sha256 : Json → String)

def AgentAction.kind : AgentAction → ActionKind
  | .callTool _ => .callTool
  | .finish _ => .finish
  | .fail _ => .fail

def AgentAction.toolName? : AgentAction → Option String
  | .callTool action => some action.toolName
  | _ => none

/-- `_expected_output_digest`. -/
def expectedOutputDigest : AgentAction → Except Exn (Option String)
  | .callTool action =>
    match deterministicIncidentOutput action.toolName action.arguments with
    | some output => (canonicalJsonDigest sha256 output).map some
    | none => .ok none
  | _ => .ok none

def projectAction (step : Nat) (action : AgentAction) : Except Exn LogicalActionProjection := do
  let fingerprint ← canonicalActionFingerprint sha256 action.modelDump
  let digest ← expectedOutputDigest sha256 action
  pure ⟨step, action.kind, action.toolName?, action.modelDump, fingerprint, digest⟩

/-- `logical_action_projection`. -/
def logicalActionProjection (scenario : Scenario) : Except Exn (List LogicalActionProjection) :=
  scenario.actions.zipIdx.mapM fun entry => projectAction sha256 entry.2 entry.1

/-- The entry of `build_suite_manifest` for the scenario in a file with this path and this digest. -/
def manifestEntry (relativePath scenarioSha256 : String) (scenario : Scenario) : Except Exn SuiteManifestEntry := do
  let logicalActions ← logicalActionProjection sha256 scenario
  let declaredFaults ← declaredFaultEvidence scenario
  pure {
    relativePath
    scenarioId := scenario.id
    version := scenario.version
    scenarioSha256
    initialContext := scenario.initialContext
    logicalActions
    expectedToolSequence := scenario.expectedToolSequence
    expectedOutcome := scenario.expectedOutcome
    declaredFaults
    approvalSupplied := scenario.approvalSupplied }

end Manifest

/-- `_payload`. -/
def EventRow.dict (row : EventRow) : Except Exn Dict :=
  match row.payload with
  | .obj payload => .ok payload
  | _ => infrastructureError

/-- `_ordered_trace_evidence`. -/
def orderedTraceEvidence : List EventRow → Except Exn (List OrderedTraceEvidence)
  | [] => .ok []
  | row :: rest =>
    if admitted : row.eventType.evidence = true then do
      let payload ← row.dict
      if row.status ≠ "" ∧ 1 ≤ row.sequence then do
        let later ← orderedTraceEvidence rest
        pure (⟨row.id, row.traceId, row.spanId, row.parentSpanId, row.status, row.sequence, row.eventType, payload,
          admitted⟩ :: later)
      else .error .validationError
    else orderedTraceEvidence rest

/-- The step and the tool of a `policy.action` payload, if it is a call. -/
def announcedCall (payload : Dict) : Except Exn (Option (Int × String)) :=
  if Json.str "call_tool" == payloadGet payload "type" then
    match payload.lookup "action_step", payload.lookup "tool_name" with
    | some (.int step), some (.str toolName) => .ok (some (step, toolName))
    | some _, some _ => .error .validationError
    | _, _ => .error .lookupError
  else .ok none

/-- `by_step.setdefault(step, name)`, in the order of the steps' first announcements. -/
def collectTools (byStep : List (Int × String)) : List (Option (Int × String)) → Except Exn (List (Int × String))
  | [] => .ok byStep
  | none :: rest => collectTools byStep rest
  | some (step, toolName) :: rest =>
    match byStep.lookup step with
    | none => collectTools (byStep ++ [(step, toolName)]) rest
    | some previous => if previous = toolName then collectTools byStep rest else infrastructureError

/-- `_logical_tool_sequence`. -/
def logicalToolSequence (events : List EventRow) : Except Exn (List String) := do
  let calls ← (events.filter (·.eventType = .policyAction)).mapM fun row => row.dict >>= announcedCall
  let byStep ← collectTools [] calls
  pure ((byStep.insertionSort fun a b => a.1 ≤ b.1).map (·.2))

/-- The fields that name an attempt; numbers are written as integers and names as texts. -/
def attemptFields (payload : Dict) : Except Exn (Int × String × Int) :=
  match payload.lookup "action_step", payload.lookup "tool_name", payload.lookup "attempt" with
  | some (.int step), some (.str toolName), some (.int attempt) => .ok (step, toolName, attempt)
  | some _, some _, some _ => .error .validationError
  | _, _, _ => .error .lookupError

/-- `event_type.removeprefix("tool.attempt.")` of the end of an attempt. -/
def EventType.attemptStatus : EventType → AttemptStatus
  | .toolAttemptSucceeded => .succeeded
  | .toolAttemptCancelled => .cancelled
  | _ => .failed

/-- One terminal event: its identity, and its evidence. -/
def terminalAttempt (row : EventRow) : Except Exn ((Int × String × Int) × AttemptEvidence) := do
  let payload ← row.dict
  let identity ← attemptFields payload
  if 0 ≤ identity.1 then do
    let attempt ← AttemptEvidence.make ⟨identity.1.toNat, identity.2.1, identity.2.2⟩ row.eventType.attemptStatus payload
    pure (identity, attempt)
  else .error .validationError

/-- `_attempt_evidence`. -/
def attemptEvidence (events : List EventRow) : Except Exn (List AttemptEvidence) := do
  let started ← (events.filter (·.eventType = .toolAttemptStarted)).mapM fun row => row.dict >>= attemptFields
  let ended ← (events.filter (·.eventType.endsAttempt)).mapM terminalAttempt
  if started.isPerm (ended.map (·.1)) then pure (ended.map (·.2)) else infrastructureError

/-- `OutputValidationEvidence.model_validate`. -/
def outputValidation (payload : Dict) : Except Exn OutputValidationEvidence :=
  match attemptFields payload with
  | .ok (step, toolName, attempt) =>
    match OutputValidationEvidence.validate ⟨step.toNat, toolName, attempt⟩ payload with
    | some failure => if 0 ≤ step then .ok failure else .error .validationError
    | none => .error .validationError
  | .error _ => .error .validationError

/-- `_output_validation_evidence`. -/
def outputValidationEvidence (events : List EventRow) : Except Exn (List OutputValidationEvidence) :=
  (events.filter (·.eventType = .toolOutputValidationFailed)).mapM fun row => row.dict >>= outputValidation

/-- `items[index]` of Python, from the end for a negative index. -/
def pyIndex {α : Type} (items : List α) (index : Int) : Option α :=
  if 0 ≤ index then items[index.toNat]?
  else if 0 ≤ items.length + index then items[(items.length + index).toNat]? else none

/-- One item of `context["tool_results"]`. -/
def acceptedOutput (scenario : Scenario) (registry : ToolRegistry) (item : String × Json) :
    Except Exn AcceptedOutputEvidence :=
  match item.1.toInt? with
  | none => infrastructureError
  | some step =>
    match pyIndex scenario.actions step with
    | some (.callTool action) =>
      if (registry.get action.toolName).isNone then infrastructureError
      else if 0 ≤ step ∧ action.toolName ≠ "" then .ok ⟨step.toNat, action.toolName, item.2⟩
      else .error .validationError
    | _ => infrastructureError

/-- `accepted_output_evidence`. -/
def acceptedOutputEvidence (run : Run) (scenario : Scenario) (registry : ToolRegistry) :
    Except Exn (List AcceptedOutputEvidence) :=
  match (run.context.lookup "tool_results").getD (.obj []) with
  | .obj results => do
    let accepted ← results.mapM (acceptedOutput scenario registry)
    pure (accepted.insertionSort fun a b => a.actionStep ≤ b.actionStep)
  | _ => .ok []

/-- `count_invalid_accepted_outputs`. -/
def countInvalidAcceptedOutputs (accepted : List AcceptedOutputEvidence) (registry : ToolRegistry) : Nat :=
  (accepted.filter fun output =>
    match registry.get output.toolName with
    | none => true
    | some definition =>
      match definition.outputModel output.output with
      | .rejected => true
      | _ => false).length

def outcomeText (value : Json) : String :=
  match value with
  | .str text => text
  | _ => "missing_terminal_outcome"

/-- `_observed_outcome`. -/
def observedOutcome (run : Run) : String :=
  match run.status with
  | .succeeded => outcomeText (payloadGet (run.result.getD []) "outcome")
  | .failed => outcomeText (payloadGet (run.result.getD []) "code")
  | status => status.value

/-- `_fault_recovered` of the runner. -/
def recoveredBy (attempts : List AttemptEvidence) (correct : Bool) (fault : FaultEvidence) : Bool :=
  correct && attempts.any fun attempt => attempt.actionStep = fault.actionStep && attempt.toolName = fault.toolName &&
    fault.attempt < attempt.attempt && attempt.status = .succeeded

/-- The statuses that a report admits. -/
def RunStatus.final? : RunStatus → Option FinalStatus
  | .succeeded => some .succeeded
  | .failed => some .failed
  | .waitingApproval => some .waitingApproval
  | _ => none

/-- What `_run_case` measures beside the trace. -/
structure CaseMeasures where
  latencyNs : Nat
  approvalReconstructed : Bool
  prePauseWriteExecutionCount : Nat
  writeExecutionCount : Nat
  storeRunCount : Nat

/-- `_grade_case`. -/
def gradeCase (sha256 : Json → String) (entry : SuiteManifestEntry) (scenario : Scenario) (mode : Mode) (run : Run)
    (events : List EventRow) (registry : ToolRegistry) (measures : CaseMeasures) : Except Exn CaseResult := do
  let traceEvidence ← orderedTraceEvidence events
  let logicalActions ← logicalActionProjection sha256 scenario
  let actualToolSequence ← logicalToolSequence events
  let sequence := toolSequenceGrade scenario.expectedToolSequence actualToolSequence
  let declaredFaults ← declaredFaultEvidence scenario
  let observedFaults ← observedFaultEvidence (events.map EventRow.content)
  if declaredFaults.isPerm observedFaults then do
    let correct := decide (observedOutcome run = scenario.expectedOutcome)
    let attempts ← attemptEvidence events
    let acceptedOutputs ← acceptedOutputEvidence run scenario registry
    let failures ← outputValidationEvidence events
    let transient := ((declaredFaults.zip scenario.faults).filter (·.2.type.transient)).map (·.1)
    let steps := (attempts.map (·.actionStep)).dedup
    let traceDigest ← traceEvidenceDigest sha256 traceEvidence
    match run.status.final? with
    | none => .error .validationError
    | some finalStatus =>
      pure {
        scenarioId := scenario.id
        scenarioVersion := scenario.version
        scenarioPath := entry.relativePath
        scenarioSha256 := entry.scenarioSha256
        mode
        runId := run.id
        traceId := run.traceId
        traceDigest
        traceEvidence
        logicalActions
        finalStatus
        finalResult := run.result
        expectedOutcome := scenario.expectedOutcome
        observedOutcome := observedOutcome run
        correct
        terminalSuccess := run.status = .succeeded
        expectedToolSequence := scenario.expectedToolSequence
        actualToolSequence
        sequenceMatchCount := sequence.matchCount
        sequenceDenominator := sequence.denominator
        unnecessaryCallCount := unnecessaryCallCount scenario.expectedToolSequence actualToolSequence
        logicalToolCallCount := actualToolSequence.length
        attemptEvidence := attempts
        attemptCount := attempts.length
        retryAttemptCount := (steps.map fun step => (attempts.filter (·.actionStep = step)).length - 1).sum
        declaredFaults
        observedFaults
        verifiedTransientFaultCount := transient.length
        recoveredTransientFaultCount := (transient.filter (recoveredBy attempts correct)).length
        acceptedOutputs
        acceptedOutputCount := acceptedOutputs.length
        invalidOutputAcceptedCount := countInvalidAcceptedOutputs acceptedOutputs registry
        invalidOutputDetectedCount := failures.length
        invalidOutputRejectedCount := failures.length
        malformedFaultInjectedCount := (observedFaults.filter (·.kind = .malformedOutput)).length
        outputValidationFailures := failures
        latencyNs := measures.latencyNs
        estimatedInputTokens := 0
        estimatedOutputTokens := 0
        estimatedCostUsd := 0
        approvalReconstructed := measures.approvalReconstructed
        prePauseWriteExecutionCount := measures.prePauseWriteExecutionCount
        writeExecutionCount := measures.writeExecutionCount
        storeRunCount := measures.storeRunCount }
  else infrastructureError

end ReliabilityLab
