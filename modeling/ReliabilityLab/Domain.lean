import ReliabilityLab.Foundation.Json

namespace ReliabilityLab

/-- A UUID, or an owner token made from one. -/
abbrev Uuid := Nat

def Uuid.digits (id : Uuid) : List Char := List.leftpad 32 '0' (Nat.toDigits 16 id)

def Uuid.hex (id : Uuid) : String := String.ofList (Uuid.digits id)

/-- `str(uuid)`: the digits in groups of 8, 4, 4, 4 and 12. -/
def Uuid.text (id : Uuid) : String :=
  let digits := Uuid.digits id
  String.ofList (digits.take 8 ++ '-' :: (digits.drop 8).take 4 ++ '-' :: (digits.drop 12).take 4 ++
    '-' :: (digits.drop 16).take 4 ++ '-' :: digits.drop 20)

/-- The exceptions that the runtime raises or handles by class. `loopBound` is
the model's own: it ends a loop that the source leaves unbounded. -/
inductive Exn where
  | cancelled
  | runExecutionConflict
  | concurrentUpdate
  | invalidTransition
  | valueError
  | lookupError
  | runNotFound
  | runConflict
  | overflow
  | database
  | timeout
  | toolError (code : String) (transient : Bool)
  | validationError
  | assertion
  | loopBound
  | other (name : String)
  deriving DecidableEq

/-- `type(error).__name__`. -/
def Exn.className : Exn → String
  | .cancelled => "CancelledError"
  | .runExecutionConflict => "RunExecutionConflictError"
  | .concurrentUpdate => "ConcurrentUpdateError"
  | .invalidTransition => "InvalidTransition"
  | .valueError => "ValueError"
  | .lookupError => "LookupError"
  | .runNotFound => "RunNotFoundError"
  | .runConflict => "RunConflictError"
  | .overflow => "OverflowError"
  | .database => "OperationalError"
  | .timeout => "TimeoutError"
  | .toolError _ true => "TransientToolError"
  | .toolError _ false => "PermanentToolError"
  | .validationError => "ValidationError"
  | .assertion => "AssertionError"
  | .loopBound => "AssertionError"
  | .other name => name

/-- What `except ValueError` catches. -/
def Exn.isValueError : Exn → Bool
  | .valueError => true
  | .invalidTransition => true
  | .validationError => true
  | _ => false

/-- `_canonical_json_digest`: canonical JSON, hashed. Rendering may refuse a number. -/
def canonicalJsonDigest (sha256 : Json → String) (value : Json) : Except Exn String :=
  if value.printable then .ok (sha256 value.canonical) else .error .valueError

section Digest
variable {sha256 : Json → String} {value : Json}

theorem canonicalJsonDigest_eq {digest : String} (computed : canonicalJsonDigest sha256 value = .ok digest) :
    digest = sha256 value.canonical := by
  unfold canonicalJsonDigest at computed
  split at computed <;> cases computed
  rfl

theorem canonicalJsonDigest_ok :
    (∃ digest, canonicalJsonDigest sha256 value = .ok digest) ↔ value.printable = true := by
  unfold canonicalJsonDigest
  split <;> simp_all

theorem canonicalJsonDigest_error :
    (∃ error, canonicalJsonDigest sha256 value = .error error) ↔ value.printable = false := by
  unfold canonicalJsonDigest
  split <;> simp_all

end Digest

structure CallToolAction where
  toolName : String
  arguments : Dict
  idempotencyKey : Option String

structure FinishAction where
  summary : String
  evidenceRefs : List String
  outcome : String

structure FailAction where
  code : String
  explanation : String

inductive AgentAction where
  | callTool (action : CallToolAction)
  | finish (action : FinishAction)
  | fail (action : FailAction)

def optionalStr : Option String → Json
  | none => .null
  | some text => .str text

theorem optionalStr_injective : Function.Injective optionalStr := by
  rintro (_ | a) (_ | b) same <;> simp_all [optionalStr]

theorem beq_optionalStr {text : Option String} {other : Json} :
    (optionalStr text == other) = true ↔ other = optionalStr text := by
  cases text with
  | none => cases other <;> simp [optionalStr, BEq.beq, Json.pyEq]
  | some text => exact Json.beq_str

def CallToolAction.modelDump (action : CallToolAction) : Dict :=
  [("type", .str "call_tool"), ("tool_name", .str action.toolName),
    ("arguments", .obj action.arguments), ("idempotency_key", optionalStr action.idempotencyKey)]

def FinishAction.modelDump (action : FinishAction) : Dict :=
  [("type", .str "finish"), ("summary", .str action.summary),
    ("evidence_refs", .arr (action.evidenceRefs.map .str)), ("outcome", .str action.outcome)]

def FailAction.modelDump (action : FailAction) : Dict :=
  [("type", .str "fail"), ("code", .str action.code), ("explanation", .str action.explanation)]

def AgentAction.modelDump : AgentAction → Dict
  | .callTool action => action.modelDump
  | .finish action => action.modelDump
  | .fail action => action.modelDump

inductive RunStatus where
  | queued
  | running
  | waitingApproval
  | succeeded
  | failed
  deriving DecidableEq

def RunStatus.value : RunStatus → String
  | .queued => "queued"
  | .running => "running"
  | .waitingApproval => "waiting_approval"
  | .succeeded => "succeeded"
  | .failed => "failed"

/-- `status in {SUCCEEDED, FAILED}`. -/
def RunStatus.terminal : RunStatus → Bool
  | .succeeded => true
  | .failed => true
  | _ => false

def allowedTransitions : RunStatus → List RunStatus
  | .queued => [.running]
  | .running => [.running, .waitingApproval, .succeeded, .failed]
  | .waitingApproval => [.running, .failed]
  | .succeeded => []
  | .failed => []

inductive Mode where
  | fragile
  | resilient
  deriving DecidableEq

/-- One durable run. Timestamps and the lease columns that reads overlay on it
are left out, no decision depends on them. -/
structure Run where
  id : Uuid
  scenarioId : String
  mode : Mode
  status : RunStatus
  currentStep : Nat
  traceId : Uuid
  policyName : String
  policyCallsStarted : Nat
  context : Dict
  pendingApproval : Bool
  pendingAction : Option CallToolAction
  pendingActionFingerprint : Option String
  result : Option Dict
  version : Nat

/-- `Run.new`, with the two identifiers it draws. -/
def Run.new (id traceId : Uuid) (scenarioId : String) (mode : Mode) : Run where
  id := id
  scenarioId := scenarioId
  mode := mode
  status := .queued
  currentStep := 0
  traceId := traceId
  policyName := "scripted"
  policyCallsStarted := 0
  context := []
  pendingApproval := false
  pendingAction := none
  pendingActionFingerprint := none
  result := none
  version := 0

def Run.transition (run : Run) (status : RunStatus) : Except Exn Run :=
  if status ∈ allowedTransitions run.status then .ok { run with status := status }
  else .error .invalidTransition

theorem Run.transition_ok {run changed : Run} {status : RunStatus}
    (moved : run.transition status = .ok changed) :
    status ∈ allowedTransitions run.status ∧ changed = { run with status := status } := by
  unfold Run.transition at moved
  split at moved
  · rename_i allowed
    exact ⟨allowed, (Except.ok.inj moved).symm⟩
  · cases moved

/-- The run row can be written: canonical JSON refuses non-finite numbers
and overlong integers. -/
def Run.dumpable (run : Run) : Bool :=
  Json.printableItems run.context &&
    (match run.pendingAction with
      | some action => Json.printableItems action.arguments
      | none => true) &&
    (match run.result with
      | some result => Json.printableItems result
      | none => true)

inductive FaultType where
  | timeout
  | rateLimit
  | toolError
  | malformedOutput
  deriving DecidableEq

def FaultType.value : FaultType → String
  | .timeout => "timeout"
  | .rateLimit => "rate_limit"
  | .toolError => "tool_error"
  | .malformedOutput => "malformed_output"

/-- A fault of a scenario: the named tool fails on that attempt. -/
structure ScenarioFault where
  toolName : String
  attempt : Nat
  type : FaultType
  deriving DecidableEq

structure Scenario where
  id : String
  version : Nat
  initialContext : Dict
  actions : List AgentAction
  expectedToolSequence : List String
  expectedOutcome : String
  faults : List ScenarioFault
  approvalSupplied : Bool

end ReliabilityLab
