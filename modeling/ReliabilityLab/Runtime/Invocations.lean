import ReliabilityLab.Runtime.Schedule
import ReliabilityLab.Storage.ClaimLifecycle

namespace ReliabilityLab

/-- One invocation of `ToolGateway.call`. -/
structure GatewayCall where
  run : Run
  proposed : CallToolAction
  plan : FaultPlan

namespace GatewayCall
variable (dep : Deployment) (call : GatewayCall)

def program : Prog ToolCallResult := dep.call call.run call.proposed call.plan

/-- The action with the key that the call goes by. -/
def action : CallToolAction := dep.stabilizeAction call.run call.proposed

end GatewayCall

/-- What a call asks for: the tool and its input, under a key of a run. -/
structure GatewayCall.Requests (dep : Deployment) (call : GatewayCall) (id : Uuid) (key toolName : String)
    (definition : ToolDefinition) (input : Dict) : Prop where
  run : call.run.id = id
  key : (call.action dep).idempotencyKey = some key
  tool : (call.action dep).toolName = toolName
  registered : dep.registry.get toolName = some definition
  validated : definition.inputModel (call.action dep).arguments = some input

/-- Whatever goes on besides the calls: nobody else writes the `tool_results`. -/
structure Elsewhere (s t : SystemState) : Prop where
  toolResults : t.store.toolResults = s.store.toolResults
  drawn : t.drawn = s.drawn
  supply : s.store.nextUuid ≤ t.store.nextUuid

/-- Any number of gateway calls on one database, one for each party, all of them given at the start. -/
def Deployment.gateway (dep : Deployment) : Machine Pid Op Op.Answer Exn ToolCallResult DateTime SystemState where
  init _ := False
  starts _ := False
  reads s reading := reading = s.clock
  perform := dep.perform
  ambient := Elsewhere
  crash _ s := s

abbrev GatewayWorld := World Pid Op Op.Answer Exn ToolCallResult DateTime SystemState

/-- Nobody has begun yet. -/
def opening (dep : Deployment) (calls : Pid → GatewayCall) (store : Store) (clock : DateTime) : GatewayWorld :=
  ⟨⟨store, clock, fun _ => none, fun _ => none⟩, fun p => .ready ((calls p).program dep)⟩

/-- The codes of a preflight or approval failure. -/
def refusalCodes : List String :=
  ["unknown_tool", "invalid_input", "invalid_fault_plan", "idempotency_key_required", "approval_required",
    "approval_mismatch", "approval_denied"]

/-- The call ended before it looked at the claim. -/
def ToolCallResult.refused (result : ToolCallResult) : Prop := ∃ code ∈ refusalCodes, result = .failed code 0 false

/-- The answer does not say that the party was cancelled. -/
def Op.uncancelled : (op : Op) → op.Answer → Prop
  | .appendEvent _, answer => answer ≠ .error .cancelled
  | .invokeHandler _, answer => answer ≠ .error .cancelled
  | .sleep _, answer => answer ≠ .error .cancelled
  | _, _ => True

/-- The operations that a call performs at all. -/
def Op.ofGateway : Op → Bool
  | .uuid4 | .appendEvent _ | .getApproval _ _ | .claimToolExecution _ _ _ _ _ | .completeToolResult _ _ _ _
  | .failToolExecution _ _ _ _ _ | .invokeHandler _ | .sleep _ => true
  | _ => false

/-- The operations of the retry loop. -/
inductive AttemptOp (invocation : Invocation) : Op → Prop
  | draw : AttemptOp invocation .uuid4
  | append (event : TraceEvent) : AttemptOp invocation (.appendEvent event)
  | handle : AttemptOp invocation (.invokeHandler invocation)
  | sleep (seconds : ℚ) : AttemptOp invocation (.sleep seconds)

theorem AttemptOp.ofGateway {invocation : Invocation} {op : Op} (kind : AttemptOp invocation op) :
    op.ofGateway = true := by
  cases kind <;> rfl

/-- What any number of transactions can make of the row under a key. -/
abbrev RowSteps : Option ToolResultRow → Option ToolResultRow → Prop := Relation.ReflTransGen RowStep

theorem RowSteps.fingerprint {row : ToolResultRow} {found : Option ToolResultRow} (steps : RowSteps (some row) found) :
    ∃ next, found = some next ∧ next.requestFingerprint = row.requestFingerprint := by
  induction steps with
  | refl => exact ⟨row, rfl, rfl⟩
  | tail _ step ih =>
    obtain ⟨middle, rfl, same⟩ := ih
    obtain ⟨next, found, kept⟩ := step.fingerprint
    exact ⟨next, found, kept.trans same⟩

theorem RowSteps.settled {row : ToolResultRow} {found : Option ToolResultRow} (steps : RowSteps (some row) found)
    (settled : row.settled = true) : found = some row := by
  induction steps with
  | refl => rfl
  | tail _ step ih =>
    subst ih
    exact step.settled settled

/-- No operation does more to a row than one step. -/
theorem perform_rowStep {dep : Deployment} {p : Pid} {op : Op} {now : DateTime} {s t : SystemState} {answer : op.Answer}
    (performed : dep.perform p op now s answer t) (id : Uuid) (key : String) :
    RowStep (s.store.toolResults id key) (t.store.toolResults id key) := by
  have kept : ∀ {after : Store}, after.toolResults = s.store.toolResults →
      RowStep (s.store.toolResults id key) (after.toolResults id key) := by
    intro after same
    rw [same]
    exact .stay _
  have committed : ∀ {α : Type} {tx : Tx α} {answer : Except Exn α}, s.Commits tx answer t →
      (∀ value after, tx s.store = .ok (value, after) →
        RowStep (s.store.toolResults id key) (after.toolResults id key)) →
      RowStep (s.store.toolResults id key) (t.store.toolResults id key) := by
    rintro α tx answer ⟨after, settled, rfl⟩ done
    exact settled.frame (R := fun after => RowStep _ (after.toolResults id key)) (.stay _) done
  cases op with
  | uuid4 => obtain ⟨-, rfl⟩ := performed; exact .stay _
  | nextAction | invokeHandler | sleep => obtain ⟨-, rfl⟩ := performed; exact .stay _
  | startHeartbeat | stopHeartbeat => cases performed; exact .stay _
  | getRun | getApproval =>
    refine committed performed fun value after done => kept ?_
    cases done
    rfl
  | saveRun =>
    refine committed performed fun value after done => kept ?_
    rw [(Store.saveRun_ok done).2.2, Store.setRun_toolResults]
  | claimRunExecution =>
    refine committed performed fun value after done => kept ?_
    obtain ⟨_, _, -, -, -, rfl, -⟩ := Store.claimRunExecution_ok done
    exact Store.setLease_toolResults ..
  | releaseRunExecution =>
    refine committed performed fun value after done => kept ?_
    obtain ⟨_, _, -, -, -, -, rfl⟩ := Store.releaseRunExecution_ok done
    exact Store.setLease_toolResults ..
  | saveRunOwned =>
    refine committed performed fun value after done => kept ?_
    obtain ⟨_, _, -, -, -, -, -, -, rfl⟩ := Store.updateOwned_ok done
    exact Store.setRun_toolResults ..
  | saveRunOwnedWithEvents =>
    refine committed performed fun value after done => kept ?_
    obtain ⟨_, updated, rfl⟩ := Store.saveRunOwnedWithEvents_ok done
    obtain ⟨_, _, -, -, -, -, -, -, rfl⟩ := Store.updateOwned_ok updated
    rw [Store.insertEvents_toolResults, Store.setRun_toolResults]
  | appendEvent =>
    refine committed performed fun value after done => kept ?_
    rw [Store.appendEvent_ok done, Store.insertEvent_toolResults]
  | recordPendingApproval =>
    refine committed performed fun value after done => kept ?_
    obtain ⟨-, ⟨-, rfl⟩ | ⟨-, _, -, -, rfl⟩⟩ := Store.recordPendingApproval_ok done
    · rfl
    · rw [Store.insertEvent_toolResults, Store.setApproval_toolResults]
  | claimToolExecution =>
    exact committed performed fun value after done => Store.claimToolExecution_steps done id key
  | completeToolResult =>
    refine committed performed fun value after done => ?_
    obtain ⟨row, present, claimed, -, rfl⟩ := Store.completeToolResult_ok done
    exact Store.setToolResult_steps (by rw [present]; exact .completed row _ claimed) id key
  | failToolExecution =>
    refine committed performed fun value after done => ?_
    obtain ⟨row, present, claimed, -, rfl⟩ := Store.failToolExecution_ok done
    exact Store.setToolResult_steps (by rw [present]; exact .failed row _ _ claimed) id key

section Within
variable {dep : Deployment} {run : Run} {action : CallToolAction} {plan : FaultPlan}

/-- The preflight only reads the decision. -/
theorem preflight_within {checkApproval : Bool} :
    (dep.preflight run action plan checkApproval).Within (· = .getApproval run.id run.currentStep) (fun _ _ => True)
      (fun failure => (∀ result, failure = some result → result.refused) ∧
        (failure = none → ∀ definition, dep.registry.get action.toolName = some definition →
          definition.isWrite = true → action.idempotencyKey ≠ none)) (fun _ => True) := by
  have refusing : ∀ code, code ∈ refusalCodes →
      (∀ result, some (.failed code 0 false) = some result → ToolCallResult.refused result) ∧
        (some (ToolCallResult.failed code 0 false) = none → ∀ definition,
          dep.registry.get action.toolName = some definition → definition.isWrite = true →
            action.idempotencyKey ≠ none) := by
    intro code listed
    exact ⟨fun result same => ⟨code, listed, (Option.some.inj same).symm⟩, nofun⟩
  unfold Deployment.preflight
  split
  · exact refusing _ (by decide)
  · rename_i definition registered
    split
    · exact refusing _ (by decide)
    · split
      · exact refusing _ (by decide)
      · split
        · exact refusing _ (by decide)
        · rename_i _ unkeyed
          have passing : (∀ result : ToolCallResult, none = some result → result.refused) ∧
              ((none : Option ToolCallResult) = none → ∀ other, dep.registry.get action.toolName = some other →
                other.isWrite = true → action.idempotencyKey ≠ none) := by
            refine ⟨nofun, fun _ other same write absent => unkeyed ?_⟩
            cases Option.some.inj (registered.symm.trans same)
            simp [write, absent]
          split
          · refine Program.obeys_bind.mpr (Program.obeys_bind.mpr fun _ _ _ => ⟨rfl, ?_⟩)
            intro answer _ _ _
            cases answer with
            | error error => trivial
            | ok approval =>
              cases approval with
              | none => exact refusing _ (by decide)
              | some row =>
                simp only [Program.ofExcept_ok, Program.obeys_ret]
                split
                · exact refusing _ (by decide)
                · split
                  · exact refusing _ (by decide)
                  · exact passing
          · exact passing

variable {definition : ToolDefinition} {input : Dict} {context : ToolExecutionContext} {calm : Prop}

/-- In a calm system no answer is a cancellation, and so no program raises one of its own. -/
abbrev CalmAnswer (calm : Prop) (op : Op) (answer : op.Answer) : Prop := calm → op.uncancelled answer

abbrev CalmError (calm : Prop) (error : Exn) : Prop := calm → error ≠ .cancelled

theorem calmError_of_answer {α : Type} {answer : Except Exn α} {error : Exn} (given : calm → answer ≠ .error .cancelled)
    (same : answer = .error error) : CalmError calm error := by
  rintro quiet rfl
  exact given quiet same

section Attempts
variable {K : Op → Prop}

theorem record_within {traceId : Uuid} {eventType : EventType} {payload : Dict} {span : Option Uuid} {status : String}
    (append : ∀ event : TraceEvent, event.eventType ≠ .runRunning → K (.appendEvent event))
    (kind : eventType ≠ .runRunning) :
    (record dep traceId eventType payload span status).Within K (CalmAnswer calm) (fun _ => True) (CalmError calm) := by
  refine Program.obeys_bind.mpr fun _ _ _ => ⟨append _ kind, fun answer _ given _ => ?_⟩
  exact Program.within_ofExcept (fun _ _ => trivial) fun error same => calmError_of_answer given same

theorem rawOutput_within {span number : Nat}
    (append : ∀ event : TraceEvent, event.eventType ≠ .runRunning → K (.appendEvent event))
    (handle : K (.invokeHandler ⟨run, action, definition, input, context⟩)) :
    (dep.rawOutput run action definition input context plan span number).Within K (CalmAnswer calm) (fun _ => True)
      (CalmError calm) := by
  unfold Deployment.rawOutput
  split
  · refine Program.obeys_bind.mpr ((record_within append (by nofun)).mono (fun _ _ _ => ?_) fun _ _ apart => apart)
    split
    · trivial
    · exact fun _ => Exn.noConfusion
  · refine Program.obeys_bind.mpr fun _ _ _ => ⟨handle, fun answer _ given _ => ?_⟩
    exact Program.within_ofExcept (fun _ _ => trivial) fun error same => calmError_of_answer given same

theorem attemptOutput_within {span number : Nat}
    (append : ∀ event : TraceEvent, event.eventType ≠ .runRunning → K (.appendEvent event))
    (handle : K (.invokeHandler ⟨run, action, definition, input, context⟩)) :
    (dep.attemptOutput run action definition input context plan span number).Within K (CalmAnswer calm)
      (fun _ => True) (CalmError calm) := by
  refine Program.obeys_bind.mpr ((rawOutput_within append handle).mono (fun raw _ _ => ?_) fun _ _ apart => apart)
  split
  · trivial
  · exact Program.obeys_bind.mpr ((record_within append (by nofun)).mono (fun _ _ _ _ => Exn.noConfusion)
      fun _ _ apart => apart)
  · exact fun _ => Exn.noConfusion

theorem backoff_within {toolName : String} {number : Nat} (draw : K .uuid4)
    (append : ∀ event : TraceEvent, event.eventType ≠ .runRunning → K (.appendEvent event)) (wait : ∀ seconds, K (.sleep seconds)) :
    (dep.backoff run toolName definition number).Within K (CalmAnswer calm) (fun _ => True) (CalmError calm) := by
  refine Program.obeys_bind.mpr (Program.obeys_attempt.mpr (Program.obeys_bind.mpr fun _ _ _ =>
    ⟨wait _, fun answer _ given _ => ?_⟩))
  cases answer with
  | ok => trivial
  | error error =>
    have apart : CalmError calm error := calmError_of_answer given rfl
    show Program.Within _ _ _ _ (ite _ _ _)
    split
    · refine Program.obeys_bind.mpr fun _ _ _ => ⟨draw, fun span _ _ _ => ?_⟩
      exact Program.obeys_bind.mpr ((record_within append (by nofun)).mono (fun _ _ _ => apart) fun _ _ apart => apart)
    · exact apart

/-- The retry loop draws spans, appends events, calls its handler and sleeps. -/
theorem attempts_within {left number : Nat} (draw : K .uuid4)
    (append : ∀ event : TraceEvent, event.eventType ≠ .runRunning → K (.appendEvent event))
    (handle : K (.invokeHandler ⟨run, action, definition, input, context⟩)) (wait : ∀ seconds, K (.sleep seconds)) :
    (dep.attempts run action definition input context plan left number).Within K (CalmAnswer calm) (fun _ => True)
      (CalmError calm) := by
  induction left generalizing number with
  | zero => exact fun _ => Exn.noConfusion
  | succ left ih =>
    refine Program.obeys_bind.mpr fun _ _ _ => ⟨draw, fun span _ _ _ => ?_⟩
    refine Program.obeys_bind.mpr ((record_within append (by nofun)).mono (fun _ _ _ => ?_) fun _ _ apart => apart)
    refine Program.obeys_bind.mpr (Program.obeys_attempt.mpr ((attemptOutput_within append handle).mono
      (fun output _ _ => ?_) fun error _ apart => ?_))
    · exact Program.obeys_bind.mpr ((record_within append (by nofun)).mono (fun _ _ _ => trivial) fun _ _ apart => apart)
    · dsimp only
      split
      · exact Program.obeys_bind.mpr ((record_within append (by nofun)).mono (fun _ _ _ => apart) fun _ _ apart => apart)
      · refine Program.obeys_bind.mpr ((record_within append (by nofun)).mono (fun _ _ _ => ?_) fun _ _ apart => apart)
        split
        · exact Program.obeys_bind.mpr ((backoff_within draw append wait).mono (fun _ _ _ => ih)
            fun _ _ apart => apart)
        · trivial

end Attempts

end Within

/-! One tool that answers a state, called by everybody under one key. -/

def demoStateTool (isWrite : Bool) (outputModel : Json → OutputCheck) : ToolDefinition where
  name := "state"
  inputModel arguments := some arguments
  outputModel := outputModel
  requiresApproval := false
  isWrite := isWrite
  idempotent := true
  timeoutSeconds := 1
  maxAttempts := 2
  initialDelaySeconds := 1 / 10
  name_length := by decide
  timeout_range := defaultTimeout_range
  attempts_range := defaultAttempts_range
  delay_range := demoDelay_range
  safe_idempotent _ := rfl

def demoState (text : String) : Json := .obj [("state", .str text)]

def demoStateResponder : Responder := { demoResponder with handler := fun _ => .ok (demoState "done") }

def demoStates (tool : ToolDefinition) (secrets : List String) : Deployment :=
  { demo with
    store := { demo.store with secretValues := secrets }
    registry := ⟨[tool], by simp⟩
    handlerAnswers := fun invocation answer => answer = demoStateResponder.handler invocation }

theorem demoStates_fits (tool : ToolDefinition) (secrets : List String) :
    demoStateResponder.Fits (demoStates tool secrets) := ⟨fun _ _ _ => rfl, fun _ => rfl⟩

def demoCalls : Pid → GatewayCall := fun _ => ⟨Run.new 0 1 "demo" .resilient, ⟨"state", [], some "key"⟩, []⟩

theorem demoCalls_request {isWrite : Bool} (outputModel : Json → OutputCheck) (secrets : List String) (p : Pid) :
    (demoCalls p).Requests (demoStates (demoStateTool isWrite outputModel) secrets) 0 "key" "state"
      (demoStateTool isWrite outputModel) [] := by
  cases isWrite <;> exact ⟨rfl, rfl, rfl, rfl, rfl⟩

end ReliabilityLab
