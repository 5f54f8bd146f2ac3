import ReliabilityLab.Tools.Gateway

namespace ReliabilityLab

/-- `ScriptedPolicy.next_action`: the scenario's action at the durable cursor. -/
def scriptedPolicy (run : Run) (scenario : Scenario) : Except Exn AgentAction :=
  match scenario.actions[run.currentStep]? with
  | some action => .ok action
  | none => .error (.other "PolicyExhaustedError")

/-- Whether the loop of `execute` goes on, or leaves with the run it stored last. -/
inductive Progress (α : Type) where
  | stopped (run : Run)
  | continued (value : α)

def failurePayload (code : String) (explanation : Option String) : Dict :=
  ("code", .str code) :: match explanation with
    | some text => [("explanation", .str text)]
    | none => []

/-- The run that `_terminal_failure` stores. -/
def Run.failedWith (run : Run) (payload : Dict) (nextStep : Bool) : Run :=
  { run with
    status := .failed
    currentStep := run.currentStep + nextStep.toNat
    pendingApproval := false
    pendingAction := none
    pendingActionFingerprint := none
    result := some payload }

def finishResult (action : FinishAction) : Dict :=
  [("outcome", .str action.outcome), ("summary", .str action.summary),
    ("evidence_refs", .arr (action.evidenceRefs.map .str))]

def Run.succeededWith (run : Run) (action : FinishAction) : Run :=
  { run with
    status := .succeeded
    currentStep := run.currentStep + 1
    pendingAction := none
    pendingActionFingerprint := none
    result := some (finishResult action) }

def Run.pausedOn (run : Run) (action : CallToolAction) (fingerprint : String) : Run :=
  { run with
    status := .waitingApproval
    pendingApproval := true
    pendingAction := some action
    pendingActionFingerprint := some fingerprint }

def Run.started (run : Run) : Run := { run with status := .running, pendingApproval := false }

def Run.budgetUsed (run : Run) : Nat := max run.currentStep run.policyCallsStarted

def Run.reserved (run : Run) : Run := { run with policyCallsStarted := run.budgetUsed + 1 }

def Run.toolResults (run : Run) : Dict :=
  match run.context.lookup "tool_results" with
  | some (.obj items) => items
  | _ => []

/-- `{**run.context, "tool_results": tool_results}` with the new output under its step. -/
def Run.contextWith (run : Run) (output : Json) : Dict :=
  run.context.set "tool_results" (.obj (run.toolResults.set (toString run.currentStep) output))

def Run.checkpointed (run : Run) (output : Json) : Run :=
  { run with
    currentStep := run.currentStep + 1
    context := run.contextWith output
    pendingApproval := false
    pendingAction := none
    pendingActionFingerprint := none }

def checkpointPayload (run : Run) (attempts : Nat) (cached : Bool) (outputDigest contextDigest : String) : Dict :=
  [("action_step", .int run.currentStep), ("attempt", .int attempts), ("current_step", .int (run.currentStep + 1)),
    ("cached", .bool cached), ("output_digest", .str outputDigest), ("context_digest", .str contextDigest)]

/-- `_save`. -/
def save (changed previous : Run) (owner : Uuid) : Prog Run := saveRunOwned changed owner previous.version

namespace Deployment
variable (dep : Deployment)

/-- `_save_with_event`: the change and its audit event in one transaction. -/
def saveWithEvent (changed previous : Run) (owner : Uuid) (eventType : EventType) (payload : Dict)
    (status : String) : Prog Run :=
  saveRunOwnedWithEvents changed [buildEvent dep changed.traceId eventType (.obj payload) none status] owner
    previous.version

/-- `_terminal_failure`. -/
def terminalFailure (run : Run) (code : String) (explanation : Option String) (owner : Uuid) (nextStep : Bool) :
    Prog Run := do
  let _ ← .ofExcept (run.transition .failed)
  let payload := failurePayload code explanation
  dep.saveWithEvent (run.failedWith payload nextStep) run owner .runFailed payload "error"

def recordRun (run : Run) (eventType : EventType) (payload : Dict) (status : String) : Prog Unit :=
  record dep run.traceId eventType payload none status

/-- The first part of `execute`: put the run into `running`, or say it still is. -/
def beginExecution (run : Run) (owner : Uuid) : Prog Run :=
  if run.status = .queued ∨ run.status = .waitingApproval then do
    let _ ← .ofExcept (run.transition .running)
    dep.saveWithEvent run.started run owner .runRunning [("from_status", .str run.status.value)] "ok"
  else if run.status = .running then do
    dep.recordRun run .runRunning [("from_status", .str "running")] "ok"
    pure run
  else .ret run

/-- The stored pending action, or the policy's next one for a reserved call. -/
def chooseAction (run : Run) (scenario : Scenario) (policyName : String) (owner : Uuid) :
    Prog (Progress (Run × AgentAction)) :=
  match run.pendingAction with
  | some action => .ret (.continued (run, .callTool action))
  | none =>
    if run.budgetUsed ≥ dep.maxActionSteps then do
      let failed ← dep.terminalFailure run "action_budget_exhausted" none owner false
      pure (.stopped failed)
    else do
      let reserved ← save run.reserved run owner
      let chosen ← (nextAction policyName reserved scenario).attempt
      match chosen with
      | .ok action => pure (.continued (reserved, action))
      | .error .cancelled => .raise .cancelled
      | .error error => do
        let failed ← dep.terminalFailure reserved "policy_error" (some error.className) owner false
        pure (.stopped failed)

/-- The approval branch of `execute`: `none` lets the tool run. -/
def reviewAction (run : Run) (action : CallToolAction) (owner : Uuid) : Prog (Option Run) :=
  if dep.requiresApproval action then do
    let approval ← getApproval run.id run.currentStep
    match approval with
    | none => do
      let _ ← .ofExcept (run.transition .waitingApproval)
      let paused ← dep.saveWithEvent (run.pausedOn action (dep.actionFingerprint action)) run owner
        .runWaitingApproval
        [("tool_name", .str action.toolName), ("step", .int run.currentStep),
          ("action_fingerprint", .str (dep.actionFingerprint action))] "ok"
      pure (some paused)
    | some row =>
      if row.actionFingerprint ≠ dep.actionFingerprint action then do
        let failed ← dep.terminalFailure run "approval_mismatch" none owner false
        pure (some failed)
      else if row.allow ≠ true then do
        let failed ← dep.terminalFailure run "approval_denied" none owner false
        pure (some failed)
      else pure none
  else .ret none

/-- Store a gateway result: a terminal failure, or the checkpoint of its step. -/
def settleResult (run : Run) (owner : Uuid) : ToolCallResult → Prog (Progress Run)
  | .failed code _ _ => do
    let failed ← dep.terminalFailure run (orText code "tool_execution_failed") none owner false
    pure (.stopped failed)
  | .succeeded output attempts cached => do
    let outputDigest ← .ofExcept (canonicalJsonDigest dep.sha256 output)
    let contextDigest ← .ofExcept (canonicalJsonDigest dep.sha256 (.obj (run.contextWith output)))
    let saved ← dep.saveWithEvent (run.checkpointed output) run owner .runCheckpointed
      (checkpointPayload run attempts cached outputDigest contextDigest) "ok"
    pure (.continued saved)

/-- Everything `execute` does with a tool call after it was announced. -/
def executeTool (run : Run) (proposed : CallToolAction) (scenario : Scenario) (owner : Uuid) :
    Prog (Progress Run) := do
  let action := dep.stabilizeAction run proposed
  let plan := scenarioFaultPlan scenario
  let failure ← dep.preflight run action plan false
  match failure with
  | some (.failed code _ _) => do
    dep.recordRun run .toolPreflightFailed
      [("action_step", .int run.currentStep), ("tool_name", .str action.toolName),
        ("action_fingerprint", .str (dep.actionFingerprint action)),
        ("code", .str (orText code "tool_preflight_failed"))] "error"
    let failed ← dep.terminalFailure run (orText code "tool_preflight_failed") none owner false
    pure (.stopped failed)
  | some (.succeeded _ _ _) => .raise .assertion
  | none => do
    let reviewed ← dep.reviewAction run action owner
    match reviewed with
    | some stopped => pure (.stopped stopped)
    | none => do
      let result ← dep.call run action plan
      dep.settleResult run owner result

/-- Announce an action and carry it out. -/
def takeAction (run : Run) (action : AgentAction) (scenario : Scenario) (owner : Uuid) : Prog (Progress Run) := do
  dep.recordRun run .policyAction (Dict.set action.modelDump "action_step" (.int run.currentStep)) "ok"
  match action with
  | .finish action => do
    let _ ← .ofExcept (run.transition .succeeded)
    let saved ← dep.saveWithEvent (run.succeededWith action) run owner .runSucceeded (finishResult action) "ok"
    pure (.stopped saved)
  | .fail action => do
    let failed ← dep.terminalFailure run action.code (some action.explanation) owner true
    pure (.stopped failed)
  | .callTool action => dep.executeTool run action scenario owner

/-- The `while` of `execute`. Each turn but one uses up a policy call, so the
bound given below is never reached. -/
def executeLoop (scenario : Scenario) (policyName : String) (owner : Uuid) : Nat → Run → Prog Run
  | 0, run => if run.status = .running then .raise .loopBound else .ret run
  | turns + 1, run =>
    if run.status = .running then do
      let chosen ← dep.chooseAction run scenario policyName owner
      match chosen with
      | .stopped stopped => pure stopped
      | .continued (run, action) => do
        let progress ← dep.takeAction run action scenario owner
        match progress with
        | .stopped stopped => pure stopped
        | .continued run => executeLoop scenario policyName owner turns run
    else .ret run

/-- Advance an owned run to its next durable stop. -/
def execute (run : Run) (scenario : Scenario) (policyName : String) (owner : Uuid) : Prog Run := do
  let run ← dep.beginExecution run owner
  dep.executeLoop scenario policyName owner (dep.maxActionSteps + 2) run

end Deployment

end ReliabilityLab
