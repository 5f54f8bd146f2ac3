import ReliabilityLab.Domain
import ReliabilityLab.Foundation.Timestamp

namespace ReliabilityLab

inductive EventType where
  | runRunning
  | policyAction
  | toolAttemptStarted
  | faultInjected
  | toolOutputValidationFailed
  | toolPreflightFailed
  | toolAttemptFailed
  | toolAttemptSucceeded
  | toolAttemptCancelled
  | runWaitingApproval
  | approvalRecorded
  | approvalDenied
  | runCheckpointed
  | toolRetryCancelled
  | runSucceeded
  | runFailed
  | runResumeRejected
  | approvalRejected
  deriving DecidableEq

/-- An event before it has a sequence number. A missing span means a new one. -/
structure TraceEvent where
  traceId : Uuid
  spanId : Option Uuid
  parentSpanId : Option Uuid
  eventType : EventType
  payload : Json
  attributes : Json
  status : String

structure EventRow where
  id : Uuid
  traceId : Uuid
  spanId : Uuid
  parentSpanId : Option Uuid
  sequence : Nat
  eventType : EventType
  payload : Json
  attributes : Json
  status : String

/-- What an event says, without the identifiers and numbers the store gives it. -/
structure EventContent where
  traceId : Uuid
  eventType : EventType
  payload : Json

def EventContent.field (content : EventContent) (key : String) : Option Json :=
  content.payload.obj?.bind (·.lookup key)

def TraceEvent.content (event : TraceEvent) : EventContent := ⟨event.traceId, event.eventType, event.payload⟩

def EventRow.content (row : EventRow) : EventContent := ⟨row.traceId, row.eventType, row.payload⟩

structure RunRow where
  traceId : Uuid
  version : Nat
  payload : Run

/-- The expiry is the text that SQL compares. -/
structure RunExecutionLeaseRow where
  ownerToken : Uuid
  leaseExpiresAt : String

structure ApprovalRow where
  actionFingerprint : String
  actor : String
  allow : Bool
  reason : Option String
  deriving DecidableEq

inductive ToolClaimState where
  | claimed
  | completed
  | failed
  deriving DecidableEq

inductive ToolFailureDisposition where
  | retryable
  | terminal
  | indeterminate
  deriving DecidableEq

/-- The expiry is parsed back before it is compared, so it is kept parsed. -/
structure ToolResultRow where
  state : ToolClaimState
  ownerToken : Uuid
  requestFingerprint : String
  payload : Option Json
  error : Option String
  failureDisposition : Option ToolFailureDisposition
  leaseExpiresAt : DateTime

/-- What `claim_tool_execution` answers; `absent` cannot happen there. -/
inductive ToolClaim where
  | conflict (requestFingerprint : String)
  | row (row : ToolResultRow)

/-- The tables of one database, and the supply that `uuid4` draws from. -/
structure Store where
  runs : Uuid → Option RunRow
  leases : Uuid → Option RunExecutionLeaseRow
  counters : Uuid → Option Nat
  events : List EventRow
  toolResults : Uuid → String → Option ToolResultRow
  approvals : Uuid → Nat → Option ApprovalRow
  nextUuid : Uuid

def Store.empty : Store where
  runs _ := none
  leases _ := none
  counters _ := none
  events := []
  toolResults _ _ := none
  approvals _ _ := none
  nextUuid := 0

namespace Store

def setRun (st : Store) (id : Uuid) (row : RunRow) : Store :=
  { st with runs := Function.update st.runs id (some row) }

def setLease (st : Store) (id : Uuid) (lease : Option RunExecutionLeaseRow) : Store :=
  { st with leases := Function.update st.leases id lease }

def setToolResult (st : Store) (id : Uuid) (key : String) (row : ToolResultRow) : Store :=
  { st with toolResults := Function.update st.toolResults id (Function.update (st.toolResults id) key (some row)) }

def setApproval (st : Store) (id : Uuid) (step : Nat) (row : ApprovalRow) : Store :=
  { st with approvals := Function.update st.approvals id (Function.update (st.approvals id) step (some row)) }

/-- The upsert of the trace counter, as the number it returns. -/
def nextSequence (st : Store) (trace : Uuid) : Nat :=
  match st.counters trace with
  | none => 1
  | some last => last + 1

/-- The next sequence number of the trace and the event row under it. -/
def insertEvent (st : Store) (event : TraceEvent) : Store :=
  { st with
    counters := Function.update st.counters event.traceId (some (st.nextSequence event.traceId))
    events := st.events ++ [{
      id := st.nextUuid
      traceId := event.traceId
      spanId := event.spanId.getD (st.nextUuid + 1)
      parentSpanId := event.parentSpanId
      sequence := st.nextSequence event.traceId
      eventType := event.eventType
      payload := event.payload
      attributes := event.attributes
      status := event.status }]
    nextUuid := st.nextUuid + 2 }

def insertEvents (st : Store) (events : List TraceEvent) : Store := events.foldl insertEvent st

/-- The stored events of one trace, in the order of `list_events`. -/
def trace (st : Store) (traceId : Uuid) : List EventRow := st.events.filter (·.traceId = traceId)

/-- What all stored events say, oldest first. -/
def contents (st : Store) : List EventContent := st.events.map EventRow.content

/-- What the events of one trace say. -/
def traceContents (st : Store) (traceId : Uuid) : List EventContent :=
  (st.trace traceId).map EventRow.content

theorem traceContents_eq (st : Store) (traceId : Uuid) :
    st.traceContents traceId = st.contents.filter (·.traceId = traceId) := by
  simp only [traceContents, trace, contents, List.filter_map]
  rfl

@[simp] theorem setRun_runs_self (st : Store) (id : Uuid) (row : RunRow) :
    (st.setRun id row).runs id = some row := Function.update_self ..
@[simp] theorem setRun_leases (st : Store) (id : Uuid) (row : RunRow) :
    (st.setRun id row).leases = st.leases := rfl
@[simp] theorem setRun_approvals (st : Store) (id : Uuid) (row : RunRow) :
    (st.setRun id row).approvals = st.approvals := rfl
@[simp] theorem setRun_events (st : Store) (id : Uuid) (row : RunRow) :
    (st.setRun id row).events = st.events := rfl
@[simp] theorem setRun_toolResults (st : Store) (id : Uuid) (row : RunRow) :
    (st.setRun id row).toolResults = st.toolResults := rfl
@[simp] theorem setRun_nextUuid (st : Store) (id : Uuid) (row : RunRow) :
    (st.setRun id row).nextUuid = st.nextUuid := rfl

@[simp] theorem setLease_leases_self (st : Store) (id : Uuid) (lease : Option RunExecutionLeaseRow) :
    (st.setLease id lease).leases id = lease := Function.update_self ..
@[simp] theorem setLease_runs (st : Store) (id : Uuid) (lease : Option RunExecutionLeaseRow) :
    (st.setLease id lease).runs = st.runs := rfl
@[simp] theorem setLease_approvals (st : Store) (id : Uuid) (lease : Option RunExecutionLeaseRow) :
    (st.setLease id lease).approvals = st.approvals := rfl
@[simp] theorem setLease_events (st : Store) (id : Uuid) (lease : Option RunExecutionLeaseRow) :
    (st.setLease id lease).events = st.events := rfl
@[simp] theorem setLease_toolResults (st : Store) (id : Uuid) (lease : Option RunExecutionLeaseRow) :
    (st.setLease id lease).toolResults = st.toolResults := rfl
@[simp] theorem setLease_nextUuid (st : Store) (id : Uuid) (lease : Option RunExecutionLeaseRow) :
    (st.setLease id lease).nextUuid = st.nextUuid := rfl

@[simp] theorem setToolResult_runs (st : Store) (id : Uuid) (key : String) (row : ToolResultRow) :
    (st.setToolResult id key row).runs = st.runs := rfl
@[simp] theorem setToolResult_leases (st : Store) (id : Uuid) (key : String) (row : ToolResultRow) :
    (st.setToolResult id key row).leases = st.leases := rfl
@[simp] theorem setToolResult_approvals (st : Store) (id : Uuid) (key : String) (row : ToolResultRow) :
    (st.setToolResult id key row).approvals = st.approvals := rfl
@[simp] theorem setToolResult_events (st : Store) (id : Uuid) (key : String) (row : ToolResultRow) :
    (st.setToolResult id key row).events = st.events := rfl
@[simp] theorem setToolResult_nextUuid (st : Store) (id : Uuid) (key : String) (row : ToolResultRow) :
    (st.setToolResult id key row).nextUuid = st.nextUuid := rfl
@[simp] theorem setToolResult_self (st : Store) (id : Uuid) (key : String) (row : ToolResultRow) :
    (st.setToolResult id key row).toolResults id key = some row := by
  simp [setToolResult]

theorem setToolResult_of_ne (st : Store) {id id' : Uuid} {key key' : String} (row : ToolResultRow)
    (other : id' ≠ id ∨ key' ≠ key) : (st.setToolResult id key row).toolResults id' key' = st.toolResults id' key' := by
  by_cases same : id' = id
  · subst same
    have unequal : key' ≠ key := other.resolve_left (fun ne => ne rfl)
    simp [setToolResult, Function.update_of_ne unequal]
  · simp [setToolResult, Function.update_of_ne same]

@[simp] theorem setApproval_runs (st : Store) (id : Uuid) (step : Nat) (row : ApprovalRow) :
    (st.setApproval id step row).runs = st.runs := rfl
@[simp] theorem setApproval_leases (st : Store) (id : Uuid) (step : Nat) (row : ApprovalRow) :
    (st.setApproval id step row).leases = st.leases := rfl
@[simp] theorem setApproval_events (st : Store) (id : Uuid) (step : Nat) (row : ApprovalRow) :
    (st.setApproval id step row).events = st.events := rfl
@[simp] theorem setApproval_toolResults (st : Store) (id : Uuid) (step : Nat) (row : ApprovalRow) :
    (st.setApproval id step row).toolResults = st.toolResults := rfl
@[simp] theorem setApproval_nextUuid (st : Store) (id : Uuid) (step : Nat) (row : ApprovalRow) :
    (st.setApproval id step row).nextUuid = st.nextUuid := rfl
@[simp] theorem setApproval_self (st : Store) (id : Uuid) (step : Nat) (row : ApprovalRow) :
    (st.setApproval id step row).approvals id step = some row := by
  simp [setApproval]

theorem setApproval_of_ne (st : Store) {id other : Uuid} {step : Nat} (row : ApprovalRow) (unequal : other ≠ id) :
    (st.setApproval id step row).approvals other = st.approvals other := by
  simp [setApproval, Function.update_of_ne unequal]

@[simp] theorem insertEvent_runs (st : Store) (event : TraceEvent) : (st.insertEvent event).runs = st.runs := rfl
@[simp] theorem insertEvent_leases (st : Store) (event : TraceEvent) :
    (st.insertEvent event).leases = st.leases := rfl
@[simp] theorem insertEvent_approvals (st : Store) (event : TraceEvent) :
    (st.insertEvent event).approvals = st.approvals := rfl
@[simp] theorem insertEvent_toolResults (st : Store) (event : TraceEvent) :
    (st.insertEvent event).toolResults = st.toolResults := rfl

theorem insertEvents_frame (st : Store) (events : List TraceEvent) :
    (st.insertEvents events).runs = st.runs ∧ (st.insertEvents events).leases = st.leases ∧
      (st.insertEvents events).approvals = st.approvals ∧
      (st.insertEvents events).toolResults = st.toolResults := by
  induction events generalizing st with
  | nil => exact ⟨rfl, rfl, rfl, rfl⟩
  | cons event rest ih => exact ih (st.insertEvent event)

@[simp] theorem insertEvents_runs (st : Store) (events : List TraceEvent) :
    (st.insertEvents events).runs = st.runs := (st.insertEvents_frame events).1
@[simp] theorem insertEvents_leases (st : Store) (events : List TraceEvent) :
    (st.insertEvents events).leases = st.leases := (st.insertEvents_frame events).2.1
@[simp] theorem insertEvents_approvals (st : Store) (events : List TraceEvent) :
    (st.insertEvents events).approvals = st.approvals := (st.insertEvents_frame events).2.2.1
@[simp] theorem insertEvents_toolResults (st : Store) (events : List TraceEvent) :
    (st.insertEvents events).toolResults = st.toolResults := (st.insertEvents_frame events).2.2.2

@[simp] theorem contents_setRun (st : Store) (id : Uuid) (row : RunRow) :
    (st.setRun id row).contents = st.contents := rfl
@[simp] theorem contents_setLease (st : Store) (id : Uuid) (lease : Option RunExecutionLeaseRow) :
    (st.setLease id lease).contents = st.contents := rfl
@[simp] theorem contents_setApproval (st : Store) (id : Uuid) (step : Nat) (row : ApprovalRow) :
    (st.setApproval id step row).contents = st.contents := rfl

@[simp] theorem contents_insertEvent (st : Store) (event : TraceEvent) :
    (st.insertEvent event).contents = st.contents ++ [event.content] := by
  simp [contents, insertEvent, EventRow.content, TraceEvent.content]

@[simp] theorem contents_insertEvents (st : Store) (events : List TraceEvent) :
    (st.insertEvents events).contents = st.contents ++ events.map TraceEvent.content := by
  induction events generalizing st with
  | nil => simp [insertEvents]
  | cons event rest ih =>
    show ((st.insertEvent event).insertEvents rest).contents = _
    rw [ih, contents_insertEvent, List.append_assoc]
    rfl

end Store

end ReliabilityLab
