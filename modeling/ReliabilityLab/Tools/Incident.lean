import ReliabilityLab.Tools.Contracts

namespace ReliabilityLab

/-- The validation library's reading of a value as a boolean. -/
def laxBool : Json → Option Bool
  | .bool value => some value
  | .int value => if value = 0 then some false else if value = 1 then some true else none
  | .float value => if value = .finite 0 then some false else if value = .finite 1 then some true else none
  | .str text =>
    if text.map Char.toLower ∈ ["0", "f", "n", "no", "off", "false"] then some false
    else if text.map Char.toLower ∈ ["1", "t", "y", "on", "yes", "true"] then some true else none
  | _ => none

/-- A model with `extra="forbid"`: all fields in order, and no other key. -/
def closedModel (fields : List (String × (Json → Option Json))) (value : Dict) : Option Dict :=
  if value.all fun item => fields.any fun field => field.1 = item.1 then
    fields.mapM fun field => ((value.lookup field.1).bind field.2).map (field.1, ·)
  else none

def strField (value : Json) : Option Json := value.str?.map .str

def boolField (value : Json) : Option Json := (laxBool value).map .bool

def boundedStrField (low high : Nat) (value : Json) : Option Json :=
  match value.str? with
  | some text => if low ≤ text.length ∧ text.length ≤ high then some (.str text) else none
  | none => none

def modelField (fields : List (String × (Json → Option Json))) (value : Json) : Option Json :=
  (value.obj?.bind (closedModel fields)).map .obj

def listField (field : Json → Option Json) : Json → Option Json
  | .arr items => (items.mapM field).map .arr
  | _ => none

def emptyInput : Dict → Option Dict := closedModel []

def prepareRollbackInput : Dict → Option Dict := closedModel [("deployment_id", boundedStrField 1 128)]

def serviceHealthOutput : List (String × (Json → Option Json)) := [("service", strField), ("status", strField)]

def logEntry : List (String × (Json → Option Json)) := [("level", strField), ("message", strField)]

def recentLogsOutput : List (String × (Json → Option Json)) := [("entries", listField (modelField logEntry))]

def deploymentOutput : List (String × (Json → Option Json)) := [("deployment_id", strField), ("version", strField)]

def prepareRollbackOutput : List (String × (Json → Option Json)) :=
  [("deployment_id", strField), ("prepared", boolField)]

def checkOutput (fields : List (String × (Json → Option Json))) (raw : Json) : OutputCheck :=
  match modelField fields raw with
  | some dumped => .accepted dumped
  | none => .rejected

/-- The float `0.1`. -/
def floatTenth : ℚ := 3602879701896397 / 36028797018963968

/-- A read-only incident tool: no input, default attempts, timeout and delay. -/
def incidentQuery (name : String) (output : List (String × (Json → Option Json)))
    (length : name ≠ "" ∧ name.length ≤ 128) : ToolDefinition where
  name := name
  inputModel := emptyInput
  outputModel := checkOutput output
  requiresApproval := false
  isWrite := false
  idempotent := false
  timeoutSeconds := 1
  maxAttempts := 2
  initialDelaySeconds := floatTenth
  name_length := length
  timeout_range := defaultTimeout_range
  attempts_range := defaultAttempts_range
  delay_range := by decide +kernel
  safe_idempotent := by decide

def getServiceHealth : ToolDefinition := incidentQuery "get_service_health" serviceHealthOutput (by decide)

def searchRecentLogs : ToolDefinition := incidentQuery "search_recent_logs" recentLogsOutput (by decide)

def getDeployment : ToolDefinition := incidentQuery "get_deployment" deploymentOutput (by decide)

def prepareRollback : ToolDefinition where
  name := "prepare_rollback"
  inputModel := prepareRollbackInput
  outputModel := checkOutput prepareRollbackOutput
  requiresApproval := true
  isWrite := true
  idempotent := true
  timeoutSeconds := 1
  maxAttempts := 2
  initialDelaySeconds := floatTenth
  name_length := by decide
  timeout_range := defaultTimeout_range
  attempts_range := defaultAttempts_range
  delay_range := by decide +kernel
  safe_idempotent _ := rfl

/-- The fixed, closed set of incident tools. -/
def incidentRegistry : ToolRegistry where
  definitions := [getServiceHealth, searchRecentLogs, getDeployment, prepareRollback]
  distinct := by decide

def healthFixture : Json := .obj [("service", .str "checkout"), ("status", .str "degraded")]

def logsFixture : Json :=
  .obj [("entries", .arr [.obj [("level", .str "ERROR"), ("message", .str "checkout timeout contacting ledger")]])]

def deploymentFixture : Json :=
  .obj [("deployment_id", .str "deploy-2026-09-04-001"), ("version", .str "2026.09.04.1")]

def rollbackFixture (deploymentId : Json) : Json := .obj [("deployment_id", deploymentId), ("prepared", .bool true)]

/-- `IncidentBackend`: what was prepared under which token, and how often. -/
structure IncidentBackend where
  rollbackPreparations : Nat
  rollbackByToken : List (String × Json)

def IncidentBackend.fresh : IncidentBackend := ⟨0, []⟩

/-- A token that was seen before gets what was prepared for it. -/
def IncidentBackend.prepareRollback (backend : IncidentBackend) (value : Dict) (token : String) :
    Json × IncidentBackend :=
  match backend.rollbackByToken.lookup token with
  | some existing => (existing, backend)
  | none =>
    let prepared := rollbackFixture ((value.lookup "deployment_id").getD .null)
    (prepared, ⟨backend.rollbackPreparations + 1, (token, prepared) :: backend.rollbackByToken⟩)

/-- The handler that is registered under a name. -/
def IncidentBackend.handler (backend : IncidentBackend) (toolName : String) (value : Dict) (token : String) :
    Except Exn Json × IncidentBackend :=
  if toolName = "get_service_health" then (.ok healthFixture, backend)
  else if toolName = "search_recent_logs" then (.ok logsFixture, backend)
  else if toolName = "get_deployment" then (.ok deploymentFixture, backend)
  else if toolName = "prepare_rollback" then
    ((backend.prepareRollback value token).map .ok id)
  else (.error .lookupError, backend)

/-- The immutable expected fixture output for one valid built-in call. -/
def deterministicIncidentOutput (toolName : String) (arguments : Dict) : Option Json :=
  if toolName = "get_service_health" && Json.obj arguments == .obj [] then some healthFixture
  else if toolName = "search_recent_logs" && Json.obj arguments == .obj [] then some logsFixture
  else if toolName = "get_deployment" && Json.obj arguments == .obj [] then some deploymentFixture
  else if toolName = "prepare_rollback" &&
      Json.obj arguments == .obj [("deployment_id", .str "deploy-2026-09-04-001")] then
    some (rollbackFixture (.str "deploy-2026-09-04-001"))
  else none

def callPayload (toolName : String) (arguments : Dict) (idempotencyKey : Option String) : Dict :=
  CallToolAction.modelDump ⟨toolName, arguments, idempotencyKey⟩

def finishPayload (summary : String) (evidenceRefs : List String) (outcome : String) : Dict :=
  FinishAction.modelDump ⟨summary, evidenceRefs, outcome⟩

/-- The golden actions of the built-in scenarios. -/
def frozenIncidentActions : List (String × List Dict) := [
  ("approval-reconstruction", [
    callPayload "get_deployment" [] none,
    callPayload "prepare_rollback" [("deployment_id", .str "deploy-2026-09-04-001")]
      (some "approval-reconstruction-v1"),
    finishPayload "Rollback was prepared after durable approval reconstruction." ["deployment", "approval"]
      "prepared"]),
  ("malformed-output-rejected", [
    callPayload "get_service_health" [] none,
    callPayload "get_deployment" [] none,
    finishPayload "This action is unreachable after safe schema rejection." [] "diagnosed"]),
  ("normal-success", [
    callPayload "get_service_health" [] none,
    callPayload "search_recent_logs" [] none,
    callPayload "get_deployment" [] none,
    finishPayload "Checkout degradation traced to the current deployment." ["health", "logs", "deployment"]
      "diagnosed"]),
  ("permanent-invalid-input", [
    callPayload "search_recent_logs" [("unsupported_filter", .bool true)] none,
    finishPayload "This action is unreachable after input rejection." [] "diagnosed"]),
  ("rate-limit-recovery", [
    callPayload "get_service_health" [] none,
    callPayload "get_deployment" [] none,
    finishPayload "Deployment evidence was collected after rate limiting cleared." ["health", "deployment"]
      "diagnosed"]),
  ("timeout-recovery", [
    callPayload "get_service_health" [] none,
    callPayload "search_recent_logs" [] none,
    callPayload "get_deployment" [] none,
    finishPayload "Investigation recovered after the transient timeout." ["health", "logs", "deployment"]
      "diagnosed"])]

def deterministicIncidentActions (scenarioId : String) : Option (List Dict) :=
  frozenIncidentActions.lookup scenarioId

def deterministicIncidentInitialContext (scenarioId : String) : Option Dict :=
  ([("approval-reconstruction", "rollback-candidate"), ("malformed-output-rejected", "malformed-deployment-response"),
      ("normal-success", "checkout-latency"), ("permanent-invalid-input", "invalid-query"),
      ("rate-limit-recovery", "deployment-rate-limit"), ("timeout-recovery", "checkout-timeout")] :
      List (String × String)).lookup scenarioId |>.map fun incident => [("incident", .str incident)]

end ReliabilityLab
