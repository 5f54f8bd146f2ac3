import ReliabilityLab.Foundation.Timestamp
import ReliabilityLab.Mobile.Catalog
import ReliabilityLab.Tools.Contracts

namespace ReliabilityLab

inductive MobileStatus where
  | queued
  | running
  | waitingApproval
  | failed
  | succeeded
  deriving DecidableEq

def MobileStatus.value : MobileStatus → String
  | .queued => "queued"
  | .running => "running"
  | .waitingApproval => "waiting_approval"
  | .failed => "failed"
  | .succeeded => "succeeded"

def MobileStatus.terminal : MobileStatus → Bool
  | .failed => true
  | .succeeded => true
  | _ => false

inductive MobileEventType where
  | runCreated
  | runRunning
  | policyAction
  | toolPreflightFailed
  | runWaitingApproval
  | toolAttemptStarted
  | faultInjected
  | toolOutputValidationFailed
  | toolAttemptFailed
  | toolAttemptSucceeded
  | runCheckpointed
  | approvalRecorded
  | approvalDenied
  | runSucceeded
  | runFailed
  deriving DecidableEq

def MobileEventType.value : MobileEventType → String
  | .runCreated => "run.created"
  | .runRunning => "run.running"
  | .policyAction => "policy.action"
  | .toolPreflightFailed => "tool.preflight.failed"
  | .runWaitingApproval => "run.waiting_approval"
  | .toolAttemptStarted => "tool.attempt.started"
  | .faultInjected => "fault.injected"
  | .toolOutputValidationFailed => "tool.output.validation_failed"
  | .toolAttemptFailed => "tool.attempt.failed"
  | .toolAttemptSucceeded => "tool.attempt.succeeded"
  | .runCheckpointed => "run.checkpointed"
  | .approvalRecorded => "approval.recorded"
  | .approvalDenied => "approval.denied"
  | .runSucceeded => "run.succeeded"
  | .runFailed => "run.failed"

def optionalJson (value : Option Json) : Json := value.getD .null

structure PendingApproval where
  actionStep : Nat
  actionFingerprint : String
  toolName : Json
  arguments : Json

def PendingApproval.toJson (pending : PendingApproval) : Json :=
  .obj [("action_step", .int pending.actionStep), ("action_fingerprint", .str pending.actionFingerprint),
    ("tool_name", pending.toolName), ("arguments", pending.arguments)]

/-- The body of a row of `runs`; its id and its creation time are columns too. -/
structure MobileRun where
  id : Uuid
  traceId : Uuid
  scenarioId : Json
  scenarioHash : String
  engineVersion : String
  mode : Mode
  status : MobileStatus
  createdAt : DateTime
  updatedAt : DateTime
  currentStep : Nat
  nextAttempt : Nat
  lastAnnouncedStep : Int
  pendingApproval : Option PendingApproval
  result : Option Dict

def modeText : Mode → String
  | .fragile => "fragile"
  | .resilient => "resilient"

def MobileRun.toJson (run : MobileRun) : Json :=
  .obj [("id", .str (Uuid.text run.id)), ("trace_id", .str (Uuid.text run.traceId)), ("scenario_id", run.scenarioId),
    ("scenario_hash", .str run.scenarioHash), ("engine_version", .str run.engineVersion),
    ("mode", .str (modeText run.mode)), ("status", .str run.status.value),
    ("created_at", .str run.createdAt.isoformat), ("updated_at", .str run.updatedAt.isoformat),
    ("current_step", .int run.currentStep), ("next_attempt", .int run.nextAttempt),
    ("last_announced_step", .int run.lastAnnouncedStep),
    ("pending_approval", optionalJson (run.pendingApproval.map PendingApproval.toJson)),
    ("result", optionalJson (run.result.map .obj))]

/-- What an event takes from outside: its identifiers and its time. -/
structure Stamp where
  id : Uuid
  spanId : Uuid
  createdAt : DateTime

/-- The body of a row of `events`. Its duration is always null. -/
structure MobileEvent where
  stamp : Stamp
  traceId : Uuid
  sequence : Nat
  eventType : MobileEventType
  payload : Dict
  status : String

def MobileEvent.toJson (event : MobileEvent) : Json :=
  .obj [("id", .str (Uuid.text event.stamp.id)), ("trace_id", .str (Uuid.text event.traceId)),
    ("span_id", .str (Uuid.text event.stamp.spanId)), ("parent_span_id", .str (Uuid.text event.traceId)),
    ("sequence", .int event.sequence), ("event_type", .str event.eventType.value), ("payload", .obj event.payload),
    ("duration_ms", .null), ("status", .str event.status), ("created_at", .str event.stamp.createdAt.isoformat)]

/-- A normalized approval: the body of a row of `decisions`. -/
structure MobileDecision where
  actor : String
  allow : Bool
  actionStep : Nat
  actionFingerprint : String
  reason : Option String
  deriving DecidableEq

def MobileDecision.payload (decision : MobileDecision) : Dict :=
  [("actor", .str decision.actor), ("allow", .bool decision.allow), ("action_step", .int decision.actionStep),
    ("action_fingerprint", .str decision.actionFingerprint), ("reason", optionalStr decision.reason)]

structure MobileEffect where
  actionStep : Nat
  fingerprint : String
  body : Json

/-- All rows that belong to one run: its own, and those that refer to it. -/
structure RunRows where
  run : MobileRun
  events : List MobileEvent
  decisions : List MobileDecision
  effects : List MobileEffect

namespace RunRows
open Mobile

/-- The time of a transaction, and the stamps of the events it may write, by their sequence numbers. -/
structure Supply where
  now : DateTime
  stamps : Nat → Stamp

def decision? (rows : RunRows) (step : Nat) : Option MobileDecision := rows.decisions.find? (·.actionStep = step)

def effect? (rows : RunRows) (step : Nat) : Option MobileEffect := rows.effects.find? (·.actionStep = step)

/-- `COALESCE(MAX(sequence), 0)+1`. -/
def nextSequence (rows : RunRows) : Nat := (rows.events.map (·.sequence)).foldl max 0 + 1

section Transaction
variable (sha256 : Json → String) (app : MobileApp) (supply : Supply) (rows : RunRows)

/-- `_event`. -/
def emit (eventType : MobileEventType) (payload : Dict) (status : String) : RunRows :=
  { rows with events := rows.events ++
      [⟨supply.stamps rows.nextSequence, rows.run.traceId, rows.nextSequence, eventType, payload, status⟩] }

/-- `_save`. -/
def save : RunRows := { rows with run := { rows.run with updatedAt := supply.now } }

/-- `_fail`. -/
def fail (code : Json) (reason : Option String) : RunRows :=
  let result : Dict := ("code", code) :: (reason.map fun text => ("reason", Json.str text)).toList
  { rows with run := { rows.run with status := .failed, pendingApproval := none, result := some result } }.emit supply
    .runFailed result "error"

/-- `_assert_scenario_compatible`, with the scenario that it looked up. -/
def compatibleScenario : Except MobileError Dict := do
  let changed : MobileError := .api 409 "scenario_changed"
    "This run requires its original scenario and execution engine. Export its trace and start a new run."
  match app.scenario? rows.run.scenarioId with
  | none => .error changed
  | some scenario => do
    let hash ← digest sha256 (.obj scenario)
    if rows.run.scenarioHash = hash ∧ rows.run.engineVersion = "mobile/v1" then pure scenario else .error changed

/-- The first fault that is declared for this attempt of the tool. -/
def declaredFault (name : Json) (attempt : Nat) : List Json → Except MobileError (Option Json)
  | [] => .ok none
  | fault :: rest => do
    let tool ← item fault "tool_name"
    if tool == name then do
      let number ← item fault "attempt"
      if number == .int attempt then pure (some fault) else declaredFault name attempt rest
    else declaredFault name attempt rest

/-- The code of a transient kind of fault; a kind that cannot be hashed raises. -/
def transientCode (kind : Json) : Except MobileError (Option String) :=
  if kind.hashable then
    .ok (if named kind "timeout" then some "tool_timeout" else if named kind "rate_limit" then some "rate_limit"
      else if named kind "tool_error" then some "tool_error" else none)
  else typeError

/-- The identity of the attempt that is due. -/
def attemptContext (name : Json) : Dict :=
  [("tool_name", name), ("action_step", .int rows.run.currentStep), ("attempt", .int rows.run.nextAttempt)]

/-- The attempt failed: the next one is due, or the run fails. -/
def attemptFailed (context : Dict) (code : String) (transient : Bool) : RunRows :=
  let failed := rows.emit supply .toolAttemptFailed (context ++ [("code", .str code), ("transient", .bool transient)])
    "error"
  if transient && rows.run.mode = .resilient && rows.run.nextAttempt < 3 then
    { failed with run := { failed.run with nextAttempt := rows.run.nextAttempt + 1 } }
  else failed.fail supply (.str code) none

/-- The write of a rollback: the stored one, or a new row. -/
def writeEffect (name : Json) (fingerprint : String) (raw : Json) : Except MobileError (RunRows × Json) :=
  if isRollback name then
    match rows.effect? rows.run.currentStep with
    | some existing =>
      if existing.fingerprint = fingerprint then .ok (rows, existing.body)
      else .error (.api 409 "run_conflict" "The stored write belongs to a different action.")
    | none => .ok ({ rows with effects := rows.effects ++ [⟨rows.run.currentStep, fingerprint, raw⟩] }, raw)
  else .ok (rows, raw)

/-- The attempt succeeded: its output and the checkpoint. -/
def attemptSucceeded (context : Dict) (output : Json) : RunRows :=
  let done := rows.emit supply .toolAttemptSucceeded (context ++ [("output", output)]) "ok"
  let next := { done with
    run := { done.run with currentStep := rows.run.currentStep + 1, nextAttempt := 1, pendingApproval := none } }
  next.emit supply .runCheckpointed [("step", .int (rows.run.currentStep + 1))] "ok"

/-- `_attempt` from the start of the attempt on. -/
def performAttempt (scenario : Dict) (name arguments : Json) (fingerprint : String) : Except MobileError RunRows := do
  let context := rows.attemptContext name
  let started := rows.emit supply .toolAttemptStarted context "ok"
  let declared ← item (.obj scenario) "faults"
  let faults ← elements declared
  let fault ← declaredFault name rows.run.nextAttempt faults
  let kind ← match fault with
    | some fault => item fault "type"
    | none => .ok .null
  let injected := if fault.isSome then started.emit supply .faultInjected (context ++ [("kind", kind)]) "error"
    else started
  match ← transientCode kind with
  | some code => pure (injected.attemptFailed supply context code true)
  | none => do
    let raw := if named kind "malformed_output" then .obj [("__arl_malformed_output__", .bool true)]
      else toolOutput name arguments
    if validOutput name raw then do
      let (written, output) ← injected.writeEffect name fingerprint raw
      pure (written.attemptSucceeded supply context output)
    else
      let rejected := injected.emit supply .toolOutputValidationFailed
        (context ++ [("code", .str "invalid_output"), ("source", .str "output_model")]) "error"
      pure (rejected.attemptFailed supply context "invalid_output" false)

/-- The run pauses until somebody decides. -/
def awaitApproval (name arguments : Json) (fingerprint : String) : RunRows :=
  { rows with run := { rows.run with
      status := .waitingApproval
      pendingApproval := some ⟨rows.run.currentStep, fingerprint, name, arguments⟩ } }.emit supply .runWaitingApproval
    [("action_step", .int rows.run.currentStep), ("tool_name", name)] "ok"

/-- `_attempt`. -/
def attempt (scenario action : Dict) : Except MobileError RunRows := do
  let name ← item (.obj action) "tool_name"
  let arguments ← item (.obj action) "arguments"
  if ← toolInput name arguments then do
    let fingerprint ← digest sha256 (.obj action)
    if isRollback name then
      match rows.decision? rows.run.currentStep with
      | none => pure (rows.awaitApproval supply name arguments fingerprint)
      | some approval =>
        if approval.actionFingerprint = fingerprint ∧ approval.allow then
          rows.performAttempt supply scenario name arguments fingerprint
        else pure (rows.fail supply (.str "approval_mismatch") none)
    else rows.performAttempt supply scenario name arguments fingerprint
  else
    let refused := rows.emit supply .toolPreflightFailed
      [("tool_name", name), ("action_step", .int rows.run.currentStep), ("code", .str "invalid_input")] "error"
    pure (refused.fail supply (.str "invalid_input") none)

/-- The action is announced once. -/
def announce (action : Dict) : RunRows :=
  if rows.run.lastAnnouncedStep = rows.run.currentStep then rows
  else
    let announced := rows.emit supply .policyAction (action.set "action_step" (.int rows.run.currentStep)) "ok"
    { announced with run := { announced.run with lastAnnouncedStep := rows.run.currentStep } }

/-- A finish action ends the run with its result. -/
def finish (action : Dict) : Except MobileError RunRows := do
  let outcome ← item (.obj action) "outcome"
  let summary ← item (.obj action) "summary"
  let evidence ← item (.obj action) "evidence_refs"
  let result : Dict := [("outcome", outcome), ("summary", summary), ("evidence_refs", evidence)]
  pure ({ rows with run := { rows.run with status := .succeeded, result := some result } }.emit supply .runSucceeded
    result "ok")

/-- A queued run starts to run. -/
def activate : RunRows :=
  if rows.run.status = .queued then
    { rows with run := { rows.run with status := .running } }.emit supply .runRunning [] "ok"
  else rows

/-- What is due at the current step of a run that is not over. -/
def act (scenario : Dict) : Except MobileError RunRows := do
  let actions ← item (.obj scenario) "actions"
  match ← entry actions rows.run.currentStep with
  | none => pure (rows.fail supply (.str "scenario_exhausted") none)
  | some (.obj action) => do
    let announced := rows.announce supply action
    let type ← item (.obj action) "type"
    if named type "finish" then announced.finish supply action
    else if named type "fail" then do
      let code ← item (.obj action) "code"
      pure (announced.fail supply code none)
    else announced.attempt sha256 supply scenario action
  | some _ => typeError

/-- The run stays as it is until somebody decides, or for good. -/
def settled : Bool := rows.run.status.terminal || rows.run.status = .waitingApproval

/-- The transaction of one round of `_advance`. -/
def advance : Except MobileError RunRows :=
  if rows.settled then .ok rows
  else do
    let scenario ← rows.compatibleScenario sha256 app
    let acted ← (rows.activate supply).act sha256 supply scenario
    pure (acted.save supply)

/-- The decision is for the action that the run waits with. -/
def awaits (decision : MobileDecision) : Bool :=
  rows.run.status = .waitingApproval && rows.run.pendingApproval.any fun pending =>
    pending.actionStep = decision.actionStep && pending.actionFingerprint = decision.actionFingerprint

/-- The rows with a new decision. -/
def decided (decision : MobileDecision) : RunRows :=
  let recorded := { rows with decisions := rows.decisions ++ [decision] }.emit supply .approvalRecorded decision.payload
    "ok"
  let cleared := { recorded with run := { recorded.run with pendingApproval := none } }
  if decision.allow then { cleared with run := { cleared.run with status := .queued } }
  else (cleared.emit supply .approvalDenied decision.payload "error").fail supply (.str "approval_denied")
    decision.reason

/-- The transaction of `_approve`. -/
def decide (decision : MobileDecision) : Except MobileError RunRows := do
  let _ ← rows.compatibleScenario sha256 app
  match rows.decision? decision.actionStep with
  | some previous =>
    if previous = decision then pure rows
    else .error (.api 409 "run_conflict" "A different decision already exists for this action.")
  | none =>
    if rows.awaits decision then pure ((rows.decided supply decision).save supply)
    else .error (.api 409 "run_conflict" "The approval does not match the current pending action.")

end Transaction

/-- The rows of a run right after `_start` inserted it. -/
def created (supply : Supply) (run : MobileRun) : RunRows :=
  (⟨run, [], [], []⟩ : RunRows).emit supply .runCreated [("mode", .str (modeText run.mode))] "ok"

end RunRows

end ReliabilityLab
