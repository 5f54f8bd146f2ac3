import ReliabilityLab.Foundation.Interleaving
import ReliabilityLab.Storage.Concealment
import ReliabilityLab.Storage.Transactions
import ReliabilityLab.Tools.Contracts

namespace ReliabilityLab

/-- A worker or a service request: whatever runs one program at a time. -/
abbrev Pid := Nat

/-- One call of a registered handler. The handler sees the input and the
context; the run, the action and the definition say on whose behalf. -/
structure Invocation where
  run : Run
  action : CallToolAction
  definition : ToolDefinition
  validatedInput : Dict
  context : ToolExecutionContext

/-- What a program does that others can see, in one transaction or at one await. -/
inductive Op where
  | uuid4
  | saveRun (run : Run)
  | getRun (id : Uuid)
  | claimRunExecution (id owner : Uuid)
  | releaseRunExecution (id owner : Uuid)
  | saveRunOwned (run : Run) (owner : Uuid) (expectedVersion : Nat)
  | saveRunOwnedWithEvents (run : Run) (events : List TraceEvent) (owner : Uuid) (expectedVersion : Nat)
  | appendEvent (event : TraceEvent)
  | getApproval (id : Uuid) (step : Nat)
  | recordPendingApproval (id : Uuid) (step : Nat) (row : ApprovalRow)
  | claimToolExecution (id : Uuid) (key : String) (owner : Uuid) (requestFingerprint : String) (allowReclaim : Bool)
  | completeToolResult (id : Uuid) (key : String) (payload : Json) (owner : Uuid)
  | failToolExecution (id : Uuid) (key : String) (owner : Uuid) (error : String)
      (disposition : ToolFailureDisposition)
  | nextAction (policyName : String) (run : Run) (scenario : Scenario)
  | invokeHandler (invocation : Invocation)
  | sleep (seconds : ℚ)
  | startHeartbeat (id owner : Uuid)
  | stopHeartbeat

abbrev Op.Answer : Op → Type
  | .uuid4 => Uuid
  | .saveRun _ => Except Exn Run
  | .getRun _ => Except Exn (Option Run)
  | .claimRunExecution _ _ => Except Exn Run
  | .releaseRunExecution _ _ => Except Exn Run
  | .saveRunOwned _ _ _ => Except Exn Run
  | .saveRunOwnedWithEvents _ _ _ _ => Except Exn Run
  | .appendEvent _ => Except Exn Unit
  | .getApproval _ _ => Except Exn (Option ApprovalRow)
  | .recordPendingApproval _ _ _ => Except Exn ApprovalRow
  | .claimToolExecution _ _ _ _ _ => Except Exn ToolClaim
  | .completeToolResult _ _ _ _ => Except Exn Unit
  | .failToolExecution _ _ _ _ _ => Except Exn Unit
  | .nextAction _ _ _ => Except Exn AgentAction
  | .invokeHandler _ => Except Exn Json
  | .sleep _ => Except Exn Unit
  | .startHeartbeat _ _ => Unit
  | .stopHeartbeat => Option Exn

abbrev Prog (α : Type) := Program Op Op.Answer Exn α

def maxActionStepsLimit : Nat := 1024

/-- The collaborators of one deployment that are fixed while it runs. Policies
and handlers are whatever may answer; `sha256` is applied to canonical values. -/
structure Deployment where
  store : StoreSettings
  recorderSecrets : List String
  registry : ToolRegistry
  loadScenario : String → Except Exn Scenario
  policies : List String
  maxActionSteps : Nat
  steps_range : 1 ≤ maxActionSteps ∧ maxActionSteps ≤ maxActionStepsLimit
  sha256 : Json → String
  policyAnswers : String → Run → Scenario → Except Exn AgentAction → Prop
  handlerAnswers : Invocation → Except Exn Json → Prop

def uuid4 : Prog Uuid := Program.ask Op.uuid4

def saveRun (run : Run) : Prog Run := (Program.ask (.saveRun run)).bind .ofExcept

def getRun (id : Uuid) : Prog (Option Run) := (Program.ask (.getRun id)).bind .ofExcept

def claimRunExecution (id owner : Uuid) : Prog Run :=
  (Program.ask (.claimRunExecution id owner)).bind .ofExcept

def releaseRunExecution (id owner : Uuid) : Prog Run :=
  (Program.ask (.releaseRunExecution id owner)).bind .ofExcept

def saveRunOwned (run : Run) (owner : Uuid) (expectedVersion : Nat) : Prog Run :=
  (Program.ask (.saveRunOwned run owner expectedVersion)).bind .ofExcept

def saveRunOwnedWithEvents (run : Run) (events : List TraceEvent) (owner : Uuid) (expectedVersion : Nat) : Prog Run :=
  (Program.ask (.saveRunOwnedWithEvents run events owner expectedVersion)).bind .ofExcept

def appendEvent (event : TraceEvent) : Prog Unit := (Program.ask (.appendEvent event)).bind .ofExcept

def getApproval (id : Uuid) (step : Nat) : Prog (Option ApprovalRow) :=
  (Program.ask (.getApproval id step)).bind .ofExcept

def recordPendingApproval (id : Uuid) (step : Nat) (row : ApprovalRow) : Prog ApprovalRow :=
  (Program.ask (.recordPendingApproval id step row)).bind .ofExcept

def claimToolExecution (id : Uuid) (key : String) (owner : Uuid) (requestFingerprint : String)
    (allowReclaim : Bool) : Prog ToolClaim :=
  (Program.ask (.claimToolExecution id key owner requestFingerprint allowReclaim)).bind .ofExcept

def failToolExecution (id : Uuid) (key : String) (owner : Uuid) (error : String)
    (disposition : ToolFailureDisposition) : Prog Unit :=
  (Program.ask (.failToolExecution id key owner error disposition)).bind .ofExcept

def nextAction (policyName : String) (run : Run) (scenario : Scenario) : Prog AgentAction :=
  (Program.ask (.nextAction policyName run scenario)).bind .ofExcept

def invokeHandler (invocation : Invocation) : Prog Json :=
  (Program.ask (.invokeHandler invocation)).bind .ofExcept

def sleep (seconds : ℚ) : Prog Unit := (Program.ask (.sleep seconds)).bind .ofExcept

/-- `complete_tool_result`: a result that cannot be rendered fails the claim
in a transaction of its own and is raised to the caller. -/
def completeToolResult (dep : Deployment) (id : Uuid) (key : String) (result : Json) (owner : Uuid)
    (failureDisposition : ToolFailureDisposition) : Prog Unit :=
  let payload := Store.sanitize dep.store result
  if payload.printable then (Program.ask (.completeToolResult id key payload owner)).bind .ofExcept
  else do
    failToolExecution id key owner "result serialization failed" failureDisposition
    .raise .valueError

/-- `TraceRecorder.build_event`. -/
def buildEvent (dep : Deployment) (traceId : Uuid) (eventType : EventType) (payload : Json)
    (spanId : Option Uuid) (status : String) : TraceEvent where
  traceId := traceId
  spanId := spanId
  parentSpanId := some traceId
  eventType := eventType
  payload := sanitizePayload dep.store.tables dep.recorderSecrets payload
  attributes := .obj []
  status := status

/-- `TraceRecorder.record`. -/
def record (dep : Deployment) (traceId : Uuid) (eventType : EventType) (payload : Dict)
    (spanId : Option Uuid) (status : String) : Prog Unit :=
  appendEvent (buildEvent dep traceId eventType (.obj payload) spanId status)

/-- An event with a printable payload can be stored. -/
theorem buildEvent_dumpable {dep : Deployment} {traceId : Uuid} {eventType : EventType} {payload : Dict}
    {span : Option Uuid} {status : String} (clean : Json.printableItems payload = true) :
    Store.dumpableEvent (Store.cleanEvent dep.store (buildEvent dep traceId eventType (.obj payload) span status)) = true := by
  have given : (Json.obj payload).printable = true := by rwa [Json.printable]
  have built := sanitizePayload_printable dep.store.tables dep.recorderSecrets given
  have stored := sanitizePayload_printable dep.store.tables dep.store.secretValues built
  exact Bool.and_eq_true_iff.mpr ⟨stored, rfl⟩

end ReliabilityLab
