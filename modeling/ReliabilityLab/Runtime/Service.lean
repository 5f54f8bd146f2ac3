import ReliabilityLab.Runtime.Orchestrator

namespace ReliabilityLab

/-- The arguments of `RunService.approve`. -/
structure ApprovalRequest where
  runId : Uuid
  actor : String
  allow : Bool
  expectedActionStep : Nat
  expectedActionFingerprint : String
  reason : Option String

def denialResult (reason : Option String) : Dict :=
  [("code", .str "approval_denied"), ("reason", optionalStr reason)]

def Run.deniedWith (run : Run) (reason : Option String) : Run :=
  { run with
    status := .failed
    pendingApproval := false
    pendingAction := none
    pendingActionFingerprint := none
    result := some (denialResult reason) }

def deniedPayload (actor : String) (reason : Option String) (step : Nat) (fingerprint : String) : Dict :=
  [("actor", .str actor), ("reason", optionalStr reason), ("action_step", .int step),
    ("action_fingerprint", .str fingerprint)]

/-- `_required`. -/
def required (id : Uuid) : Prog Run := do
  let run ← getRun id
  match run with
  | some run => pure run
  | none => .raise .runNotFound

/-- `_await_approval_completion`, for as many polls as fit before its deadline. -/
def awaitApprovalCompletion (id : Uuid) (step : Nat) : Nat → Prog Run
  | 0 => .raise .runConflict
  | polls + 1 => do
    let current ← required id
    if current.status.terminal then pure current
    else if step < current.currentStep ∧ current.status = .waitingApproval then pure current
    else do
      sleep (1 / 100)
      awaitApprovalCompletion id step polls

/-- What comes out of the `finally` that releases a lease: the first error wins. -/
def afterRelease (outcome : Except Exn Run) (heartbeatError : Option Exn) (released : Except Exn Run) : Prog Run :=
  match outcome, heartbeatError with
  | .error error, _ => .raise error
  | .ok _, some error => .raise error
  | .ok _, none => .ofExcept released

namespace Deployment
variable (dep : Deployment)

def policy (name : String) : Prog Unit := if name ∈ dep.policies then .ret () else .raise .valueError

def rejected (run : Run) (eventType : EventType) (reason : String) : Prog Unit :=
  record dep run.traceId eventType [("reason", .str reason), ("status", .str run.status.value)] none "error"

/-- `_execute_owned`: the execution with its lease and heartbeat around it. -/
def executeOwned (run : Run) (scenario : Scenario) (policyName : String) : Prog Run := do
  let owner ← uuid4
  let claimed ← claimRunExecution run.id owner
  let _ ← Program.ask (Op.startHeartbeat run.id owner)
  let outcome ← (dep.execute claimed scenario policyName owner).attempt
  let heartbeatError ← Program.ask Op.stopHeartbeat
  let released ← (releaseRunExecution run.id owner).attempt
  afterRelease outcome heartbeatError released

def start (scenarioId : String) (mode : Mode) (policyName : String) : Prog Run := do
  let scenario ← .ofExcept (dep.loadScenario scenarioId)
  dep.policy policyName
  let id ← uuid4
  let traceId ← uuid4
  let run := { Run.new id traceId scenarioId mode with context := scenario.initialContext, policyName := policyName }
  let canonical ← saveRun run
  dep.executeOwned canonical scenario policyName

/-- A resume that finds a live owner is recorded as rejected. -/
def resumed (id : Uuid) : Except Exn Run → Prog Run
  | .ok released => pure released
  | .error .runExecutionConflict => do
    let current ← required id
    rejected dep current .runResumeRejected "live_owner"
    .raise .runConflict
  | .error error => .raise error

def resume (id : Uuid) : Prog Run := do
  let run ← required id
  if run.status.terminal then do
    dep.rejected run .runResumeRejected "terminal"
    .raise .runConflict
  else do
    let scenario ← .ofExcept (dep.loadScenario run.scenarioId)
    let outcome ← (do
      dep.policy run.policyName
      dep.executeOwned run scenario run.policyName : Prog Run).attempt
    dep.resumed id outcome

/-- The owned part of `_deny`. -/
def denyOwned (owned : Run) (owner : Uuid) (step : Nat) (fingerprint actor : String) (reason : Option String) :
    Prog Run :=
  if owned.status ≠ .waitingApproval then .raise .runExecutionConflict
  else do
    let _ ← .ofExcept (owned.transition .failed)
    let terminal := owned.deniedWith reason
    saveRunOwnedWithEvents terminal
      [buildEvent dep terminal.traceId .approvalDenied (.obj (deniedPayload actor reason step fingerprint)) none
          "error",
        buildEvent dep terminal.traceId .runFailed (.obj (denialResult reason)) none "error"]
      owner owned.version

/-- `_deny`. -/
def deny (run : Run) (actor : String) (reason : Option String) : Prog Run :=
  match run.pendingActionFingerprint with
  | none => .raise .runConflict
  | some fingerprint => do
    let owner ← uuid4
    let owned ← claimRunExecution run.id owner
    let outcome ← (dep.denyOwned owned owner run.currentStep fingerprint actor reason).attempt
    let released ← (releaseRunExecution run.id owner).attempt
    afterRelease outcome none released

/-- The part of `approve` that acts on the recorded decision. -/
def applyDecision (run : Run) (decision : ApprovalRow) (request : ApprovalRequest) : Prog Run :=
  if decision.allow ≠ true then dep.deny run request.actor request.reason
  else do
    let scenario ← .ofExcept (dep.loadScenario run.scenarioId)
    dep.policy run.policyName
    dep.executeOwned run scenario run.policyName

def approve (request : ApprovalRequest) (polls : Nat) : Prog Run := do
  let run ← required request.runId
  let recorded ← (recordPendingApproval request.runId request.expectedActionStep
    ⟨request.expectedActionFingerprint, request.actor, request.allow, request.reason⟩).attempt
  match recorded with
  | .error error =>
    if error.isValueError then do
      dep.rejected run .approvalRejected "decision_conflict"
      .raise .valueError
    else .raise error
  | .ok decision => do
    let run ← required request.runId
    if run.status.terminal then pure run
    else if run.currentStep ≠ request.expectedActionStep ∨
        run.pendingActionFingerprint ≠ some request.expectedActionFingerprint then
      if request.expectedActionStep < run.currentStep then
        awaitApprovalCompletion request.runId request.expectedActionStep polls
      else do
        dep.rejected run .approvalRejected "target_mismatch"
        .raise .valueError
    else if run.status ≠ .waitingApproval ∧ run.status ≠ .running then do
      dep.rejected run .approvalRejected "not_waiting"
      .raise .runConflict
    else do
      let applied ← (dep.applyDecision run decision request).attempt
      match applied with
      | .ok run => pure run
      | .error error =>
        if error = .concurrentUpdate ∨ error = .runExecutionConflict then
          awaitApprovalCompletion request.runId request.expectedActionStep polls
        else .raise error

end Deployment

/-- A request to the service. -/
inductive Request where
  | start (scenarioId : String) (mode : Mode) (policyName : String)
  | resume (id : Uuid)
  | approve (request : ApprovalRequest) (polls : Nat)

def Request.program (dep : Deployment) : Request → Prog Run
  | .start scenarioId mode policyName => dep.start scenarioId mode policyName
  | .resume id => dep.resume id
  | .approve request polls => dep.approve request polls

end ReliabilityLab
