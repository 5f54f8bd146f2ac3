import ReliabilityLab.Runtime.Operations

namespace ReliabilityLab

/-- The terminal result of every gateway invocation. -/
inductive ToolCallResult where
  | succeeded (output : Json) (attempts : Nat) (cached : Bool)
  | failed (errorCode : String) (attempts : Nat) (retryable : Bool)

/-- `text or other`. -/
def orText (text other : String) : String := if text = "" then other else text

namespace Deployment
variable (dep : Deployment)

def actionFingerprint (action : CallToolAction) : String :=
  dep.sha256 (Json.canonical (.obj action.modelDump))

def requestFingerprint (toolName : String) (validatedInput : Dict) : String :=
  dep.sha256 (Json.canonical (.obj [("tool_name", .str toolName), ("arguments", .obj validatedInput)]))

def requiresApproval (action : CallToolAction) : Bool :=
  match dep.registry.get action.toolName with
  | some definition => definition.requiresApproval
  | none => false

/-- The deterministic key of an action at the run's cursor. -/
def stableKey (run : Run) (action : CallToolAction) : String :=
  "runtime-" ++ dep.sha256 (Json.canonical (.obj
    [("run_id", .str (Uuid.text run.id)), ("step", .int run.currentStep),
      ("tool_name", .str action.toolName), ("arguments", .obj action.arguments)]))

/-- Attach a deterministic key when the registered tool requires one. -/
def stabilizeAction (run : Run) (action : CallToolAction) : CallToolAction :=
  match dep.registry.get action.toolName with
  | none => action
  | some definition =>
    if action.idempotencyKey.isSome || !(definition.isWrite || definition.requiresApproval) then action
    else { action with idempotencyKey := some (dep.stableKey run action) }

/-- Every non-executing requirement in stable order; the approval check runs
only when `checkApproval` is set. The answer is the failure, if any. -/
def preflight (run : Run) (action : CallToolAction) (plan : FaultPlan) (checkApproval : Bool) :
    Prog (Option ToolCallResult) :=
  match dep.registry.get action.toolName with
  | none => .ret (some (.failed "unknown_tool" 0 false))
  | some definition =>
    match definition.inputModel action.arguments with
    | none => .ret (some (.failed "invalid_input" 0 false))
    | some _ =>
      if plan.any fun rule => (dep.registry.get rule.toolName).isNone then
        .ret (some (.failed "invalid_fault_plan" 0 false))
      else if (definition.isWrite || definition.requiresApproval) && action.idempotencyKey.isNone then
        .ret (some (.failed "idempotency_key_required" 0 false))
      else if definition.requiresApproval && checkApproval then do
        let approval ← getApproval run.id run.currentStep
        match approval with
        | none => pure (some (.failed "approval_required" 0 false))
        | some row =>
          if row.actionFingerprint ≠ dep.actionFingerprint action then
            pure (some (.failed "approval_mismatch" 0 false))
          else if row.allow ≠ true then pure (some (.failed "approval_denied" 0 false))
          else pure none
      else .ret none

/-- `ToolGateway._record`. -/
def recordAttempt (run : Run) (eventType : EventType) (payload : Dict) (span : Uuid) (status : String) :
    Prog Unit :=
  record dep run.traceId eventType payload (some span) status

def attemptPayload (run : Run) (toolName : String) (number : Nat) : Dict :=
  [("tool_name", .str toolName), ("attempt", .int number), ("action_step", .int run.currentStep)]

def malformedOutput : Json := .obj [("__arl_malformed_output__", .bool true)]

/-- What one attempt gets to validate: the fault planned for it, or the handler's answer. -/
def rawOutput (run : Run) (action : CallToolAction) (definition : ToolDefinition) (input : Dict)
    (context : ToolExecutionContext) (plan : FaultPlan) (span : Uuid) (number : Nat) : Prog Json :=
  match plan.faultFor action.toolName number with
  | some injected => do
    dep.recordAttempt run .faultInjected
      (Dict.set injected.modelDump "action_step" (.int run.currentStep)) span "error"
    if injected.kind = .malformedOutput then pure malformedOutput
    else .raise (.toolError (faultCode injected.kind) true)
  | none => invokeHandler ⟨run, action, definition, input, context⟩

/-- The body of the `try` of one attempt. -/
def attemptOutput (run : Run) (action : CallToolAction) (definition : ToolDefinition) (input : Dict)
    (context : ToolExecutionContext) (plan : FaultPlan) (span : Uuid) (number : Nat) : Prog Json := do
  let raw ← dep.rawOutput run action definition input context plan span number
  match definition.outputModel raw with
  | .accepted output => pure output
  | .rejected => do
    dep.recordAttempt run .toolOutputValidationFailed (attemptPayload run action.toolName number ++
      [("code", .str "invalid_output"), ("source", .str "output_model")]) span "error"
    .raise (.toolError "invalid_output" false)
  | .unserializable => .raise (.other "PydanticSerializationError")

/-- The code and the retryability that the `except` clauses give an error. -/
def attemptError : Exn → String × Bool
  | .timeout => ("tool_timeout", true)
  | .toolError code transient => (code, transient)
  | .validationError => ("invalid_output", false)
  | _ => ("tool_execution_failed", false)

def traceableOutput (output : Json) : Json :=
  if output.printable then output else .obj [("__arl_unserializable_output__", .bool true)]

/-- `error.transient and attempt < max_attempts`, with `left` attempts to go. -/
def retried (error : Exn) (left : Nat) : Bool := (attemptError error).2 && left ≠ 0

def failedAttemptPayload (run : Run) (toolName : String) (definition : ToolDefinition) (number : Nat) (error : Exn)
    (left : Nat) : Dict :=
  attemptPayload run toolName number ++
    [("code", .str (attemptError error).1), ("transient", .bool (attemptError error).2)] ++
    if retried error left then [("retry_delay_seconds", .float (.finite (definition.delaySeconds number)))] else []

/-- The sleep between two attempts; a cancellation there is recorded under a new span. -/
def backoff (run : Run) (toolName : String) (definition : ToolDefinition) (number : Nat) : Prog Unit := do
  let slept ← (sleep (definition.delaySeconds number)).attempt
  match slept with
  | .ok _ => pure ()
  | .error error =>
    if error = .cancelled then do
      let span ← uuid4
      dep.recordAttempt run .toolRetryCancelled [("tool_name", .str toolName), ("after_attempt", .int number)]
        span "error"
      .raise error
    else .raise error

/-- The retry loop, with `left` attempts to go. -/
def attempts (run : Run) (action : CallToolAction) (definition : ToolDefinition) (input : Dict)
    (context : ToolExecutionContext) (plan : FaultPlan) : Nat → Nat → Prog ToolCallResult
  | 0, _ => .raise .assertion
  | left + 1, number => do
    let span ← uuid4
    dep.recordAttempt run .toolAttemptStarted (attemptPayload run action.toolName number) span "ok"
    let outcome ← (dep.attemptOutput run action definition input context plan span number).attempt
    match outcome with
    | .ok output => do
      dep.recordAttempt run .toolAttemptSucceeded
        (attemptPayload run action.toolName number ++ [("output", traceableOutput output)]) span "ok"
      pure (.succeeded output number false)
    | .error error =>
      if error = .cancelled then do
        dep.recordAttempt run .toolAttemptCancelled (attemptPayload run action.toolName number) span "error"
        .raise error
      else do
        dep.recordAttempt run .toolAttemptFailed
          (failedAttemptPayload run action.toolName definition number error left) span "error"
        if retried error left then do
          dep.backoff run action.toolName definition number
          attempts run action definition input context plan left (number + 1)
        else pure (.failed (attemptError error).1 number (attemptError error).2)

def maxAttempts (run : Run) (definition : ToolDefinition) : Nat :=
  match run.mode with
  | .fragile => 1
  | .resilient => definition.maxAttempts

/-- `_persist_claim_result`. -/
def persistClaimResult (run : Run) (key : String) (owner : Uuid) (result : ToolCallResult)
    (definition : ToolDefinition) : Prog ToolCallResult :=
  match result with
  | .succeeded output attempts _ => do
    let completed ← (completeToolResult dep run.id key output owner
      (if definition.isWrite then .indeterminate else .retryable)).attempt
    match completed with
    | .ok _ => pure result
    | .error error =>
      if error.isValueError then
        pure (.failed (if definition.isWrite then "idempotency_indeterminate" else "result_serialization_failed")
          attempts (!definition.isWrite))
      else .raise error
  | .failed code _ retryable => do
    failToolExecution run.id key owner (orText code "tool_execution_failed")
      (if definition.isWrite then .indeterminate else if retryable then .retryable else .terminal)
    pure result

/-- Run the attempts of a claimed keyed action and settle its claim. -/
def executeClaimed (run : Run) (action : CallToolAction) (definition : ToolDefinition) (input : Dict)
    (fingerprint : String) (plan : FaultPlan) (key : String) (owner : Uuid) : Prog ToolCallResult := do
  let outcome ← (dep.attempts run action definition input ⟨run.id, action.toolName, key, fingerprint⟩ plan
    (maxAttempts run definition) 1).attempt
  match outcome with
  | .ok result => dep.persistClaimResult run key owner result definition
  | .error .cancelled => do
    failToolExecution run.id key owner "tool_execution_cancelled"
      (if !definition.isWrite || definition.idempotent then .retryable else .indeterminate)
    .raise .cancelled
  | .error error => .raise error

/-- What `call` makes of an answer to its claim. -/
def callClaimed (run : Run) (action : CallToolAction) (definition : ToolDefinition) (input : Dict)
    (fingerprint : String) (plan : FaultPlan) (key : String) (owner : Uuid) : ToolClaim → Prog ToolCallResult
  | .conflict _ => .ret (.failed "idempotency_conflict" 0 false)
  | .row row =>
    match row.state with
    | .completed =>
      match definition.outputModel (row.payload.getD .null) with
      | .accepted output => .ret (.succeeded output 0 true)
      | .rejected => .ret (.failed "invalid_cached_output" 0 false)
      | .unserializable => .raise (.other "PydanticSerializationError")
    | .failed => .ret (.failed (if row.failureDisposition = some .indeterminate then "idempotency_indeterminate"
        else "idempotency_terminal_failure") 0 false)
    | .claimed =>
      if row.ownerToken ≠ owner then .ret (.failed "idempotency_in_progress" 0 false)
      else dep.executeClaimed run action definition input fingerprint plan key owner

/-- Execute one known action through every durable safety boundary. -/
def call (run : Run) (proposed : CallToolAction) (plan : FaultPlan) : Prog ToolCallResult := do
  let action := dep.stabilizeAction run proposed
  let failure ← dep.preflight run action plan true
  match failure with
  | some failure => pure failure
  | none =>
    match dep.registry.get action.toolName with
    | none => .raise .assertion
    | some definition =>
      match definition.inputModel action.arguments with
      | none => .raise .validationError
      | some input =>
        let fingerprint := dep.requestFingerprint action.toolName input
        match action.idempotencyKey with
        | some key => do
          let owner ← uuid4
          let claim ← claimToolExecution run.id key owner fingerprint
            (!definition.isWrite || definition.idempotent)
          dep.callClaimed run action definition input fingerprint plan key owner claim
        | none => do
          let token ← uuid4
          dep.attempts run action definition input ⟨run.id, action.toolName, Uuid.hex token, fingerprint⟩ plan
            (maxAttempts run definition) 1

end Deployment

variable {dep : Deployment}

theorem stabilizeAction_toolName (run : Run) (action : CallToolAction) :
    (dep.stabilizeAction run action).toolName = action.toolName := by
  unfold Deployment.stabilizeAction
  split
  · rfl
  · split <;> rfl

theorem stabilizeAction_stable (run : Run) (action : CallToolAction) :
    dep.stabilizeAction run (dep.stabilizeAction run action) = dep.stabilizeAction run action := by
  cases found : dep.registry.get action.toolName with
  | none => simp [Deployment.stabilizeAction, found]
  | some definition =>
    by_cases settled : (action.idempotencyKey.isSome || !(definition.isWrite || definition.requiresApproval)) = true
    · simp only [Deployment.stabilizeAction, found, if_pos settled]
    · have attached : dep.stabilizeAction run action =
          { action with idempotencyKey := some (dep.stableKey run action) } := by
        simp only [Deployment.stabilizeAction, found, if_neg settled]
      rw [attached]
      simp [Deployment.stabilizeAction, found]

end ReliabilityLab
