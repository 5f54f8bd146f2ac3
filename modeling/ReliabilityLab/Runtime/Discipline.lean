import ReliabilityLab.Runtime.System

namespace ReliabilityLab

/-- The events that `append_event` writes during an execution. -/
def EventType.appended : EventType → Bool
  | .runRunning | .policyAction | .toolAttemptStarted | .faultInjected | .toolOutputValidationFailed
  | .toolPreflightFailed | .toolAttemptFailed | .toolAttemptSucceeded | .toolAttemptCancelled
  | .toolRetryCancelled => true
  | _ => false

/-- The events about requests that were turned away. -/
def EventType.rejection : EventType → Bool
  | .runResumeRejected | .approvalRejected => true
  | _ => false

/-- A restriction on the operations of a run of the system. -/
abbrev Allowed := Pid → Op → DateTime → SystemState → Prop

/-- A decision that lets `action` run at the cursor of `run`. -/
def Approved (dep : Deployment) (run : Run) (action : CallToolAction) (s : SystemState) : Prop :=
  ∃ row, s.store.approvals run.id run.currentStep = some row ∧ row.allow = true ∧
    row.actionFingerprint = dep.actionFingerprint action

/-- The code comes out of a policy's fail action or of a handler's error. -/
def ForeignCode (dep : Deployment) (code : String) : Prop :=
  (∃ invocation transient, dep.handlerAnswers invocation (.error (.toolError code transient))) ∨
    ∃ policyName run scenarioId scenario explanation, dep.loadScenario scenarioId = .ok scenario ∧
      dep.policyAnswers policyName run scenario (.ok (.fail ⟨code, explanation⟩))

/-- Since `run` was read, its party read a denial at the run's cursor. -/
def ReadDenial (allowed : Allowed) (p : Pid) (run : Run) (s : SystemState) : Prop :=
  ∃ now s₀ row, allowed p (.getApproval run.id run.currentStep) now s₀ ∧
    s₀.store.approvals run.id run.currentStep = some row ∧ row.allow = false ∧ Rely p s₀ s

/-- Since `run` was read, its party met a claim of another token that had not expired. -/
def MetClaim (allowed : Allowed) (p : Pid) (run : Run) (s : SystemState) : Prop :=
  ∃ now s₀ key owner fingerprint allowReclaim row,
    allowed p (.claimToolExecution run.id key owner fingerprint allowReclaim) now s₀ ∧
    s₀.store.toolResults run.id key = some row ∧ row.requestFingerprint = fingerprint ∧ row.state = .claimed ∧
    row.ownerToken ≠ owner ∧ now.instant < row.leaseExpiresAt.instant ∧ Rely p s₀ s

/-- Where the two failure codes that concurrency can cause come from. -/
structure Cause (dep : Deployment) (allowed : Allowed) (p : Pid) (run : Run) (code : String)
    (s : SystemState) : Prop where
  denied : code = "approval_denied" → ForeignCode dep code ∨ ReadDenial allowed p run s
  blocked : code = "idempotency_in_progress" → ForeignCode dep code ∨ MetClaim allowed p run s

/-- The action a turn works on: the stored pending one, if there is one. -/
def Proposes (run : Run) (proposed : CallToolAction) : Prop :=
  ∀ pending, run.pendingAction = some pending → proposed = pending

section Advance
variable (dep : Deployment) (allowed : Allowed) (p : Pid) (s : SystemState) (run : Run)

/-- The changes of a stored run, each with the events of its transaction. -/
inductive Advance : Run → List TraceEvent → Prop
  | begin : run.status = .queued ∨ run.status = .waitingApproval →
      Advance run.started
        [buildEvent dep run.traceId .runRunning (.obj [("from_status", .str run.status.value)]) none "ok"]
  | reserve : run.status = .running → run.pendingAction = none → run.budgetUsed < dep.maxActionSteps →
      Advance run.reserved []
  | succeed (action : FinishAction) : run.status = .running →
      Advance (run.succeededWith action)
        [buildEvent dep run.traceId .runSucceeded (.obj (finishResult action)) none "ok"]
  | fail (code : String) (explanation : Option String) (nextStep : Bool) : run.status = .running →
      Cause dep allowed p run code s →
      Advance (run.failedWith (failurePayload code explanation) nextStep)
        [buildEvent dep run.traceId .runFailed (.obj (failurePayload code explanation)) none "error"]
  | pause (proposed : CallToolAction) : run.status = .running → Proposes run proposed →
      dep.requiresApproval (dep.stabilizeAction run proposed) = true →
      (Mine p run.id s → s.store.approvals run.id run.currentStep = none) →
      Advance (run.pausedOn (dep.stabilizeAction run proposed)
          (dep.actionFingerprint (dep.stabilizeAction run proposed)))
        [buildEvent dep run.traceId .runWaitingApproval
          (.obj [("tool_name", .str (dep.stabilizeAction run proposed).toolName), ("step", .int run.currentStep),
            ("action_fingerprint", .str (dep.actionFingerprint (dep.stabilizeAction run proposed)))]) none "ok"]
  | checkpoint (proposed : CallToolAction) (output : Json) (attempts : Nat) (cached : Bool)
      (outputDigest contextDigest : String) : run.status = .running → Proposes run proposed →
      (dep.requiresApproval (dep.stabilizeAction run proposed) = true →
        Approved dep run (dep.stabilizeAction run proposed) s) →
      Advance (run.checkpointed output)
        [buildEvent dep run.traceId .runCheckpointed
          (.obj (checkpointPayload run attempts cached outputDigest contextDigest)) none "ok"]
  | deny (actor : String) (reason : Option String) (step : Nat) (fingerprint : String) :
      run.status = .waitingApproval →
      s.store.approvals run.id step = some ⟨fingerprint, actor, false, reason⟩ →
      Advance (run.deniedWith reason)
        [buildEvent dep run.traceId .approvalDenied (.obj (deniedPayload actor reason step fingerprint)) none
            "error",
          buildEvent dep run.traceId .runFailed (.obj (denialResult reason)) none "error"]

end Advance

/-- An invocation for a tool behind approval has its recorded permission, and
the handler gets the validated arguments of the very action that was approved. -/
structure Entitled (dep : Deployment) (invocation : Invocation) (s : SystemState) : Prop where
  registered : dep.registry.get invocation.action.toolName = some invocation.definition
  stabilized : ∃ proposed, invocation.action = dep.stabilizeAction invocation.run proposed
  validated : invocation.definition.inputModel invocation.action.arguments = some invocation.validatedInput
  approved : invocation.definition.requiresApproval = true → Approved dep invocation.run invocation.action s

/-- A run as `start` creates it. -/
def Run.fresh (run : Run) : Prop :=
  ∃ id traceId scenarioId mode context policyName,
    run = { Run.new id traceId scenarioId mode with context := context, policyName := policyName }

section Pre
variable (dep : Deployment) (allowed : Allowed) (p : Pid)

/-- A save goes from a run the party holds to one of its successors. -/
def Advances (run : Run) (events : List TraceEvent) (version : Nat) (s : SystemState) : Prop :=
  ∃ prior, prior.version = version ∧ Holds p prior s ∧ Advance dep allowed p s prior run events

def Reported (event : TraceEvent) (s : SystemState) : Prop :=
  event.eventType.rejection = true ∧ TraceUsed event.traceId s ∨
    event.eventType.appended = true ∧ ∃ run, Holds p run s ∧ run.status = .running ∧ event.traceId = run.traceId

/-- What a party owes before each of its operations. -/
def Pre : Op → SystemState → Prop
  | .saveRun run, s => run.fresh ∧ s.drawn run.id = some p ∧ s.drawn run.traceId = some p ∧
      s.store.runs run.id = none ∧ ¬ TraceUsed run.traceId s
  | .claimRunExecution _ owner, s => s.drawn owner = some p
  | .saveRunOwned run owner version, s =>
      s.drawn owner = some p ∧ Advances dep allowed p run [] version s
  | .saveRunOwnedWithEvents run events owner version, s =>
      s.drawn owner = some p ∧ Advances dep allowed p run events version s
  | .appendEvent event, s => Reported p event s
  | .invokeHandler invocation, s => Entitled dep invocation s
  | _, _ => True

end Pre

/-- What holds of the shared state at all times. -/
structure Consistent (s : SystemState) : Prop where
  rows : ∀ id row, s.store.runs id = some row → row.payload.id = id ∧ row.payload.version = row.version ∧
    row.traceId = row.payload.traceId ∧ s.drawn id ≠ none ∧ s.drawn row.traceId ≠ none
  traces : ∀ id id' row row', s.store.runs id = some row → s.store.runs id' = some row' →
    row.payload.traceId = row'.payload.traceId → id = id'
  leases : ∀ id lease, s.store.leases id = some lease → s.drawn lease.ownerToken ≠ none ∧ s.store.runs id ≠ none
  supply : ∀ u, s.drawn u ≠ none → u < s.store.nextUuid

/-- The discipline of party `p` in the runs that meet `allowed`. -/
def discipline (dep : Deployment) (allowed : Allowed) (p : Pid) : Discipline Op Op.Answer SystemState where
  inv := Consistent
  rely := Rely p
  pre := Pre dep allowed p
  step op s answer t := ∃ now, dep.perform p op now s answer t ∧ allowed p op now s
  rely_refl := Rely.refl p
  rely_trans := Rely.trans

section Guarantee
variable {dep : Deployment} {allowed : Allowed} {p : Pid} {s t : SystemState}

/-- The tables that other parties rely on are the same. -/
structure Untouched (s t : SystemState) : Prop where
  runs : t.store.runs = s.store.runs
  leases : t.store.leases = s.store.leases
  approvals : t.store.approvals = s.store.approvals
  drawn : t.drawn = s.drawn
  supply : s.store.nextUuid ≤ t.store.nextUuid

theorem Untouched.consistent (untouched : Untouched s t) (valid : Consistent s) : Consistent t := by
  obtain ⟨runs, leases, approvals, drawn, supply⟩ := untouched
  constructor
  · rw [runs, drawn]; exact valid.rows
  · rw [runs]; exact valid.traces
  · rw [leases, runs, drawn]; exact valid.leases
  · rw [drawn]; exact fun u known => (valid.supply u known).trans_le supply

theorem Untouched.rely (untouched : Untouched s t) (q : Pid) : Rely q s t := by
  obtain ⟨runs, leases, approvals, drawn, -⟩ := untouched
  constructor
  · rw [drawn]; exact fun _ _ known => known
  · rw [approvals]; exact fun _ _ _ stored => stored
  · rw [runs]; exact fun _ row stored => ⟨row, stored, le_rfl, rfl, fun _ => rfl⟩
  · intro id mine
    simp only [Mine, leases, drawn] at mine ⊢
    exact ⟨mine, by rw [runs]⟩
  · intro _ _ _ _ _; rw [approvals]
  · intro u _
    simp only [TraceUsed, runs]
    exact ⟨fun used => used, fun unused => unused⟩

theorem insertEvents_nextUuid (st : Store) (events : List TraceEvent) :
    st.nextUuid ≤ (st.insertEvents events).nextUuid := by
  induction events generalizing st with
  | nil => exact le_rfl
  | cons event rest ih => exact (Nat.le_add_right _ 2).trans (ih (st.insertEvent event))

/-- Operations that leave runs, leases and approvals alone. -/
def Op.quiet : Op → Bool
  | .uuid4 | .saveRun _ | .claimRunExecution _ _ | .releaseRunExecution _ _ | .saveRunOwned _ _ _
  | .saveRunOwnedWithEvents _ _ _ _ | .recordPendingApproval _ _ _ => false
  | _ => true

theorem Untouched.of_store {st : Store} (runs : st.runs = s.store.runs) (leases : st.leases = s.store.leases)
    (approvals : st.approvals = s.store.approvals) (supply : s.store.nextUuid ≤ st.nextUuid) :
    Untouched s { s with store := st } := ⟨runs, leases, approvals, rfl, supply⟩

theorem Untouched.refl (s : SystemState) : Untouched s s := ⟨rfl, rfl, rfl, rfl, le_rfl⟩

theorem untouched_of_commits {α : Type} {tx : Tx α} {answer : Except Exn α} (commits : s.Commits tx answer t)
    (frame : ∀ value after, tx s.store = .ok (value, after) → after.runs = s.store.runs ∧
      after.leases = s.store.leases ∧ after.approvals = s.store.approvals ∧ s.store.nextUuid ≤ after.nextUuid) :
    Untouched s t := by
  obtain ⟨after, settled, rfl⟩ := commits
  cases settled with
  | @committed value after result =>
    obtain ⟨runs, leases, approvals, supply⟩ := frame value after result
    exact .of_store runs leases approvals supply
  | refused => exact .refl s
  | broken => exact .refl s

theorem Op.quiet.untouched {op : Op} (quiet : op.quiet = true) {now : DateTime} {answer : op.Answer}
    (performed : dep.perform p op now s answer t) : Untouched s t := by
  cases op with
  | uuid4 | saveRun | claimRunExecution | releaseRunExecution | saveRunOwned | saveRunOwnedWithEvents
  | recordPendingApproval => cases quiet
  | getRun id =>
    refine untouched_of_commits performed fun value after done => ?_
    cases done; exact ⟨rfl, rfl, rfl, le_rfl⟩
  | getApproval id step =>
    refine untouched_of_commits performed fun value after done => ?_
    cases done; exact ⟨rfl, rfl, rfl, le_rfl⟩
  | appendEvent event =>
    refine untouched_of_commits performed fun value after done => ?_
    rw [Store.appendEvent_ok done]
    exact ⟨rfl, rfl, rfl, Nat.le_add_right _ 2⟩
  | claimToolExecution =>
    refine untouched_of_commits performed fun value after done => ?_
    obtain ⟨_, rfl⟩ := Store.claimToolExecution_frame done
    exact ⟨rfl, rfl, rfl, le_rfl⟩
  | completeToolResult =>
    refine untouched_of_commits performed fun value after done => ?_
    obtain ⟨_, rfl⟩ := Store.completeToolResult_frame done
    exact ⟨rfl, rfl, rfl, le_rfl⟩
  | failToolExecution =>
    refine untouched_of_commits performed fun value after done => ?_
    obtain ⟨_, rfl⟩ := Store.failToolExecution_frame done
    exact ⟨rfl, rfl, rfl, le_rfl⟩
  | nextAction => obtain ⟨-, rfl⟩ := performed; exact .refl _
  | invokeHandler => obtain ⟨-, rfl⟩ := performed; exact .refl _
  | sleep => obtain ⟨-, rfl⟩ := performed; exact .refl _
  | startHeartbeat => cases performed; exact ⟨rfl, rfl, rfl, rfl, le_rfl⟩
  | stopHeartbeat => cases performed; exact ⟨rfl, rfl, rfl, rfl, le_rfl⟩

end Guarantee

end ReliabilityLab
