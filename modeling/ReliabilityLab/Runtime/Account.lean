import ReliabilityLab.Foundation.History
import ReliabilityLab.Runtime.Invocations

namespace ReliabilityLab

def AgentAction.declines : AgentAction → Bool
  | .fail _ => true
  | _ => false

/-- What a party knows of its own request: the run it claimed or stored last,
the run of a reservation that nothing has followed yet, whether the step it
works on has a reservation, and whether the last answer of the policy is a
fail action. -/
structure Account where
  held : Option Run
  reserved : Option Run
  slot : Bool
  declined : Bool

def Account.blank : Account := ⟨none, none, false, false⟩

def Account.asked (account : Account) : Account := { account with reserved := none }

def Account.hear (account : Account) : (op : Op) → op.Answer → Account
  | .claimRunExecution _ _, .ok run => { account.asked with held := some run, slot := false }
  | .saveRunOwned _ _ _, .ok run => { account with held := some run, reserved := some run, slot := true }
  | .saveRunOwnedWithEvents _ _ _ _, .ok run => { account.asked with held := some run, slot := false }
  | .nextAction _ _ _, .ok action => { account.asked with declined := action.declines }
  | .nextAction _ _ _, .error _ => { account.asked with declined := false }
  | _, _ => account.asked

/-- The event of an execution that finds its run `running` already. -/
def stillRunning (dep : Deployment) (traceId : Uuid) : TraceEvent :=
  buildEvent dep traceId .runRunning (.obj [("from_status", .str "running")]) none "ok"

/-- A step is counted, or an action set aside for it. -/
def Run.stepsTo (run next : Run) : Prop := run.currentStep < next.currentStep ∨ next.pendingAction.isSome = true

/-- What the account has to say before an operation: a policy call comes
directly after its reservation, a failure counts a step if and only if the
policy asked for it, and a step is one set aside before or has a reservation. -/
def Account.owes (dep : Deployment) : Op → Account → Prop
  | .nextAction _ run _, account => account.reserved = some run
  | .saveRunOwnedWithEvents run events _ version, account => account.reserved = none ∧
      ∃ prior, account.held = some prior ∧ prior.id = run.id ∧ prior.version = version ∧
        (∀ event ∈ events, event.eventType = .runFailed →
          run.currentStep = prior.currentStep + account.declined.toNat) ∧
        (prior.stepsTo run → prior.pendingAction.isSome = true ∨ account.slot = true)
  | .appendEvent event, account => account.reserved = none ∧
      (event.eventType = .runRunning → event = stillRunning dep event.traceId)
  | _, account => account.reserved = none

def accounts (dep : Deployment) : Protocol Op Op.Answer Account where
  start := .blank
  ask account _ := account.asked
  hear := Account.hear
  owes := Account.owes dep

/-- The operations that an account does not change by. -/
def Op.aside : Op → Prop
  | .claimRunExecution _ _ | .saveRunOwned _ _ _ | .saveRunOwnedWithEvents _ _ _ _ | .nextAction _ _ _ => False
  | .appendEvent event => event.eventType ≠ .runRunning
  | _ => True

variable {dep : Deployment} {account : Account} {run : Run} {owner : Uuid} {scenario : Scenario} {policyName : String}

theorem Op.aside.owes {op : Op} (aside : op.aside) (unreserved : account.reserved = none) : account.owes dep op := by
  cases op with
  | claimRunExecution | saveRunOwned | saveRunOwnedWithEvents | nextAction => exact aside.elim
  | appendEvent event => exact ⟨unreserved, fun running => absurd running aside⟩
  | _ => exact unreserved

theorem Op.aside.hear {op : Op} (aside : op.aside) (answer : op.Answer) : account.hear op answer = account.asked := by
  cases op with
  | claimRunExecution | saveRunOwned | saveRunOwnedWithEvents | nextAction => exact aside.elim
  | _ => rfl

/-- The program keeps to the protocol of accounts and returns in `Q`; no
reservation is open where it raises. -/
abbrev Accounted {α : Type} (dep : Deployment) (program : Prog α) (Q : α → Account → Prop) (account : Account) : Prop :=
  program.Obeys (accounts dep).discipline Q (fun _ after => after.reserved = none) account

/-- The run at hand, whether its step has a reservation, and whether the policy wants it to fail. -/
structure Account.Holds (account : Account) (run : Run) (slot declined : Bool) : Prop where
  held : account.held = some run
  reserved : account.reserved = none
  slot : account.slot = slot
  declined : account.declined = declined

theorem Account.Holds.asked {slot declined : Bool} (holds : account.Holds run slot declined) :
    account.asked.Holds run slot declined := ⟨holds.held, rfl, holds.slot, holds.declined⟩

section Aside
variable {α : Type} {K : Op → Prop} {Q : α → Prop} {E : Exn → Prop} {program : Prog α} {slot declined : Bool}

/-- Programs of operations that no account knows of keep it. -/
theorem aside_accounted (within : program.Within Op.aside (fun _ _ => True) Q E) (holds : account.Holds run slot declined) :
    Accounted dep program (fun value after => Q value ∧ after.Holds run slot declined) account := by
  refine ((accounts dep).admits_within within (R := fun after => after.Holds run slot declined)
    (fun op before kind here => kind.owes here.reserved) ?_ holds).mono (fun _ _ kept => kept)
    fun _ _ kept => kept.2.reserved
  intro op before answer kind here
  show (before.asked.hear op answer).Holds run slot declined
  rw [kind.hear]
  exact here.asked.asked

theorem aside_served (within : program.Within Op.aside (fun _ _ => True) Q E) (unreserved : account.reserved = none) :
    Accounted dep program (fun _ after => after.reserved = none) account := by
  refine ((accounts dep).admits_within within (R := fun after => after.reserved = none)
    (fun op before kind here => kind.owes here) ?_ unreserved).mono (fun _ _ kept => kept.2) fun _ _ kept => kept.2
  intro op before answer kind _
  show (before.asked.hear op answer).reserved = none
  rw [kind.hear]
  rfl

/-- One operation aside, whose exceptions are raised. -/
theorem aside_ask {op : Op} {read : op.Answer → Except Exn α} (kind : op.aside) :
    ((Program.ask op).bind fun answer => .ofExcept (read answer) : Prog α).Within Op.aside (fun _ _ => True)
      (fun _ => True) (fun _ => True) :=
  Program.within_ask kind (fun _ _ _ _ => trivial) fun _ _ _ _ => trivial

end Aside

section Call
variable {action : CallToolAction} {definition : ToolDefinition} {input : Dict} {plan : FaultPlan}

theorem attempts_aside {context : ToolExecutionContext} {left number : Nat} :
    (dep.attempts run action definition input context plan left number).Within Op.aside (fun _ _ => True)
      (fun _ => True) (fun _ => True) := by
  have calm : (dep.attempts run action definition input context plan left number).Within Op.aside (CalmAnswer False)
      (fun _ => True) (CalmError False) :=
    attempts_within trivial (fun _ other => other) trivial fun _ => trivial
  exact (calm.weaken (fun _ kind => kind) fun _ _ _ => False.elim).mono (fun _ _ _ => trivial) fun _ _ _ => trivial

theorem failToolExecution_aside {key error : String} {disposition : ToolFailureDisposition} {id : Uuid} :
    (failToolExecution id key owner error disposition).Within Op.aside (fun _ _ => True) (fun _ => True)
      (fun _ => True) := aside_ask trivial

theorem persistClaimResult_aside {key : String} {result : ToolCallResult} :
    (dep.persistClaimResult run key owner result definition).Within Op.aside (fun _ _ => True) (fun _ => True)
      (fun _ => True) := by
  cases result with
  | failed code count retryable => exact Program.within_bind failToolExecution_aside fun _ _ => trivial
  | succeeded output count cached =>
    have refusing : ∀ error : Exn, (if error.isValueError = true then .ret (.failed
          (if definition.isWrite = true then "idempotency_indeterminate" else "result_serialization_failed") count
          (!definition.isWrite)) else .raise error : Prog ToolCallResult).Within Op.aside (fun _ _ => True)
        (fun _ => True) (fun _ => True) := by
      intro error
      split <;> trivial
    refine Program.obeys_bind.mpr (Program.obeys_attempt.mpr ?_)
    simp only [completeToolResult]
    split
    · have completing : ((Program.ask (.completeToolResult run.id key (Store.sanitize dep.store output) owner)).bind
          .ofExcept : Prog Unit).Within Op.aside (fun _ _ => True) (fun _ => True) (fun _ => True) := aside_ask trivial
      exact completing.mono (fun _ _ _ => trivial) fun error _ _ => refusing error
    · exact Program.obeys_bind.mpr (failToolExecution_aside.mono (fun _ _ _ => refusing .valueError)
        fun error _ _ => refusing error)

theorem callClaimed_aside {fingerprint key : String} {claim : ToolClaim} :
    (dep.callClaimed run action definition input fingerprint plan key owner claim).Within Op.aside (fun _ _ => True)
      (fun _ => True) (fun _ => True) := by
  unfold Deployment.callClaimed
  cases claim with
  | conflict => trivial
  | row row =>
    dsimp only
    cases row.state with
    | completed => dsimp only; split <;> trivial
    | failed => trivial
    | claimed =>
      dsimp only
      split
      · trivial
      · refine Program.obeys_bind.mpr (Program.obeys_attempt.mpr (attempts_aside.mono
          (fun result _ _ => persistClaimResult_aside) fun error _ _ => ?_))
        cases error with
        | cancelled => exact Program.within_bind failToolExecution_aside fun _ _ => trivial
        | _ => trivial

theorem preflight_aside {checkApproval : Bool} :
    (dep.preflight run action plan checkApproval).Within Op.aside (fun _ _ => True) (fun _ => True)
      (fun _ => True) := by
  have reads : (dep.preflight run action plan checkApproval).Within Op.aside (fun _ _ => True) _ _ :=
    preflight_within.weaken (fun op same => by rw [same]; trivial) fun _ _ given => given
  exact reads.mono (fun _ _ _ => trivial) fun _ _ _ => trivial

/-- A gateway call is no business of the account. -/
theorem call_aside {proposed : CallToolAction} :
    (dep.call run proposed plan).Within Op.aside (fun _ _ => True) (fun _ => True) (fun _ => True) := by
  refine Program.within_bind preflight_aside fun failure _ => ?_
  cases failure with
  | some failure => trivial
  | none =>
    dsimp only
    split
    · trivial
    · rename_i definition registered
      split
      · trivial
      · split
        · refine Program.within_bind (P := Op.aside) (Q := fun _ => True) (fun _ _ _ => ⟨trivial, fun _ _ _ _ => trivial⟩)
            fun owner _ => ?_
          exact Program.within_bind (aside_ask trivial) fun claim _ => callClaimed_aside
        · refine Program.within_bind (P := Op.aside) (Q := fun _ => True) (fun _ _ _ => ⟨trivial, fun _ _ _ _ => trivial⟩)
            fun token _ => ?_
          exact attempts_aside

end Call

section Execute
variable {prior changed : Run} {slot declined : Bool}

theorem saveWithEvent_accounted {eventType : EventType} {payload : Dict} {status : String} {Q : Run → Account → Prop}
    (holds : account.Holds prior slot declined) (same : prior.id = changed.id)
    (fails : eventType = .runFailed → changed.currentStep = prior.currentStep + declined.toNat)
    (steps : prior.stepsTo changed → prior.pendingAction.isSome = true ∨ slot = true)
    (returns : ∀ saved after, after.Holds saved false declined → Q saved after) :
    Accounted dep (dep.saveWithEvent changed prior owner eventType payload status) Q account := by
  rintro _ rfl -
  refine ⟨⟨holds.reserved, prior, holds.held, same, rfl, ?_, ?_⟩, ?_⟩
  · intro event member failed
    cases List.mem_singleton.mp member
    rw [holds.declined]
    exact fails failed
  · rw [holds.slot]
    exact steps
  · rintro answer _ rfl -
    cases answer with
    | error error => exact rfl
    | ok saved => exact returns saved _ ⟨rfl, rfl, rfl, holds.declined⟩

theorem terminalFailure_accounted {code : String} {explanation : Option String} {Q : Run → Account → Prop}
    (holds : account.Holds run slot declined) (covered : declined = true → slot = true)
    (returns : ∀ failed after, after.reserved = none → Q failed after) :
    Accounted dep (dep.terminalFailure run code explanation owner declined) Q account := by
  unfold Deployment.terminalFailure
  cases run.transition .failed with
  | error error => exact holds.reserved
  | ok moved =>
    refine saveWithEvent_accounted holds rfl (fun _ => rfl) ?_ fun saved after kept => returns saved after kept.reserved
    rintro (further | impossible)
    · refine .inr (covered ?_)
      have counted : run.currentStep < run.currentStep + declined.toNat := further
      cases declined with
      | true => rfl
      | false => exact absurd counted (lt_irrefl _)
    · cases impossible

theorem recordRun_accounted {eventType : EventType} {payload : Dict} {status : String} {Q : Unit → Account → Prop}
    (holds : account.Holds prior slot declined) (other : eventType ≠ .runRunning)
    (returns : ∀ after, after.Holds prior slot declined → Q () after) :
    Accounted dep (dep.recordRun run eventType payload status) Q account := by
  have within : (dep.recordRun run eventType payload status).Within Op.aside (fun _ _ => True) (fun _ => True)
      (fun _ => True) := aside_ask other
  exact (aside_accounted within holds).mono (fun _ after kept => returns after kept.2) fun _ _ raised => raised

theorem beginExecution_accounted {Q : Run → Account → Prop} (holds : account.Holds run slot declined)
    (returns : ∀ next slot after, after.Holds next slot declined → Q next after) :
    Accounted dep (dep.beginExecution run owner) Q account := by
  unfold Deployment.beginExecution
  split
  · cases run.transition .running with
    | error error => exact holds.reserved
    | ok moved =>
      refine saveWithEvent_accounted holds rfl (by nofun) ?_ fun next after => returns next false after
      rintro (further | pending)
      · exact absurd further (lt_irrefl _)
      · exact .inl pending
  · split
    · refine Program.obeys_bind.mpr ?_
      rintro _ rfl -
      refine ⟨⟨holds.reserved, fun _ => rfl⟩, ?_⟩
      rintro answer _ rfl -
      cases answer with
      | error error => exact rfl
      | ok => exact returns run slot _ holds.asked.asked
    · exact returns run slot account holds

/-- A reservation is open for the run that it answers. -/
theorem save_accounted {Q : Run → Account → Prop} (holds : account.Holds prior slot declined)
    (returns : ∀ saved, Q saved ⟨some saved, some saved, true, account.declined⟩) :
    Accounted dep (save changed prior owner) Q account := by
  rintro _ rfl -
  refine ⟨holds.reserved, ?_⟩
  rintro answer _ rfl -
  cases answer with
  | error error => exact rfl
  | ok saved => exact returns saved

/-- The policy call closes it. -/
theorem nextAction_accounted {Q : Except Exn AgentAction → Account → Prop} (held : account.held = some run)
    (covered : account.reserved = some run)
    (answers : ∀ action after, after.Holds run account.slot action.declines → Q (.ok action) after)
    (raises : ∀ error after, after.Holds run account.slot false → Q (.error error) after) :
    Accounted dep (nextAction policyName run scenario).attempt Q account := by
  rintro _ rfl -
  refine ⟨covered, ?_⟩
  rintro answer _ rfl -
  cases answer with
  | error error => exact raises error _ ⟨held, rfl, rfl, rfl⟩
  | ok action => exact answers action _ ⟨held, rfl, rfl, rfl⟩

/-- A reservation is followed by the policy call that it was made for. -/
theorem chooseAction_accounted {Q : Progress (Run × AgentAction) → Account → Prop}
    (holds : account.Holds run slot false)
    (proceeds : ∀ pending, run.pendingAction = some pending → Q (.continued (run, .callTool pending)) account)
    (continues : ∀ next action after, after.Holds next true action.declines → Q (.continued (next, action)) after)
    (stops : ∀ stopped after, after.reserved = none → Q (.stopped stopped) after) :
    Accounted dep (dep.chooseAction run scenario policyName owner) Q account := by
  have failing : ∀ run slot code explanation after, after.Holds run slot false →
      Accounted dep ((dep.terminalFailure run code explanation owner false).bind fun failed => .ret (.stopped failed))
        Q after := fun _ _ _ _ _ holds =>
    Program.obeys_bind.mpr (terminalFailure_accounted holds nofun fun failed after unreserved => stops failed after unreserved)
  unfold Deployment.chooseAction
  split
  · rename_i pending stored
    exact proceeds pending stored
  · split
    · exact failing run slot _ _ account holds
    · refine Program.obeys_bind.mpr (save_accounted holds fun reserved => ?_)
      refine Program.obeys_bind.mpr (nextAction_accounted rfl rfl
        (fun action after holds => continues reserved action after holds) fun error after holds => ?_)
      cases error with
      | cancelled => exact holds.reserved
      | _ => exact failing reserved true _ _ after holds

theorem reviewAction_accounted {action : CallToolAction} {Q : Option Run → Account → Prop}
    (holds : account.Holds run slot false) (covered : run.pendingAction.isSome = true ∨ slot = true)
    (passes : ∀ after, after.Holds run slot false → Q none after) (stops : ∀ stopped after, after.reserved = none → Q (some stopped) after) :
    Accounted dep (dep.reviewAction run action owner) Q account := by
  have failing : ∀ code after, after.Holds run slot false →
      Accounted dep ((dep.terminalFailure run code none owner false).bind fun failed => .ret (some failed)) Q after :=
    fun _ _ holds =>
      Program.obeys_bind.mpr (terminalFailure_accounted holds nofun fun failed after unreserved => stops failed after unreserved)
  have reads : (getApproval run.id run.currentStep).Within Op.aside (fun _ _ => True) (fun _ => True)
      (fun _ => True) := aside_ask trivial
  unfold Deployment.reviewAction
  split
  · refine Program.obeys_bind.mpr ((aside_accounted reads holds).mono (fun approval after kept => ?_)
      fun _ _ raised => raised)
    replace holds := kept.2
    cases approval with
    | none =>
      dsimp only
      cases run.transition .waitingApproval with
      | error error => exact holds.reserved
      | ok moved =>
        simp only [Program.ofExcept_ok, Program.bind_eq, Program.ret_bind]
        exact Program.obeys_bind.mpr (saveWithEvent_accounted holds rfl (by nofun) (fun _ => covered)
          fun saved after kept => stops saved after kept.reserved)
    | some row =>
      dsimp only
      split
      · exact failing _ after holds
      · split
        · exact failing _ after holds
        · exact passes after holds
  · exact passes account holds

theorem settleResult_accounted {result : ToolCallResult} {Q : Progress Run → Account → Prop}
    (holds : account.Holds run slot false) (covered : run.pendingAction.isSome = true ∨ slot = true)
    (continues : ∀ next after, after.Holds next false false → Q (.continued next) after)
    (stops : ∀ stopped after, after.reserved = none → Q (.stopped stopped) after) :
    Accounted dep (dep.settleResult run owner result) Q account := by
  cases result with
  | failed code count retryable =>
    exact Program.obeys_bind.mpr (terminalFailure_accounted holds nofun fun failed after unreserved => stops failed after unreserved)
  | succeeded output count cached =>
    simp only [Deployment.settleResult, Program.bind_eq]
    cases canonicalJsonDigest dep.sha256 output with
    | error error => exact holds.reserved
    | ok outputDigest =>
      cases canonicalJsonDigest dep.sha256 (.obj (run.contextWith output)) with
      | error error => exact holds.reserved
      | ok contextDigest =>
        simp only [Program.ofExcept_ok, Program.ret_bind]
        exact Program.obeys_bind.mpr (saveWithEvent_accounted holds rfl (by nofun) (fun _ => covered) continues)

theorem executeTool_accounted {proposed : CallToolAction} {Q : Progress Run → Account → Prop}
    (holds : account.Holds run slot false) (covered : run.pendingAction.isSome = true ∨ slot = true)
    (continues : ∀ next after, after.Holds next false false → Q (.continued next) after)
    (stops : ∀ stopped after, after.reserved = none → Q (.stopped stopped) after) :
    Accounted dep (dep.executeTool run proposed scenario owner) Q account := by
  refine Program.obeys_bind.mpr ((aside_accounted preflight_aside holds).mono (fun failure after kept => ?_)
    fun _ _ raised => raised)
  replace holds := kept.2
  cases failure with
  | none =>
    refine Program.obeys_bind.mpr (reviewAction_accounted holds covered (fun after holds => ?_) stops)
    refine Program.obeys_bind.mpr ((aside_accounted call_aside holds).mono (fun result after kept => ?_)
      fun _ _ raised => raised)
    exact settleResult_accounted kept.2 covered continues stops
  | some result =>
    cases result with
    | succeeded => exact holds.reserved
    | failed code count retryable =>
      refine Program.obeys_bind.mpr (recordRun_accounted holds (by nofun) fun after holds => ?_)
      exact Program.obeys_bind.mpr (terminalFailure_accounted holds nofun fun failed after unreserved => stops failed after unreserved)

theorem takeAction_accounted {action : AgentAction} {Q : Progress Run → Account → Prop}
    (holds : account.Holds run slot action.declines)
    (covered : slot = true ∨ run.pendingAction.isSome = true ∧ ∃ call, action = .callTool call)
    (continues : ∀ next after, after.Holds next false false → Q (.continued next) after)
    (stops : ∀ stopped after, after.reserved = none → Q (.stopped stopped) after) :
    Accounted dep (dep.takeAction run action scenario owner) Q account := by
  have either : run.pendingAction.isSome = true ∨ slot = true := covered.symm.imp_left And.left
  refine Program.obeys_bind.mpr (recordRun_accounted holds (by nofun) fun after holds => ?_)
  cases action with
  | finish action =>
    dsimp only
    cases run.transition .succeeded with
    | error error => exact holds.reserved
    | ok moved =>
      simp only [Program.ofExcept_ok, Program.bind_eq, Program.ret_bind]
      exact Program.obeys_bind.mpr (saveWithEvent_accounted holds rfl (by nofun) (fun _ => either)
        fun saved after kept => stops saved after kept.reserved)
  | fail action =>
    refine Program.obeys_bind.mpr (terminalFailure_accounted holds (fun _ => ?_) fun failed after unreserved => stops failed after unreserved)
    rcases covered with slot | ⟨-, call, impossible⟩
    · exact slot
    · cases impossible
  | callTool action => exact executeTool_accounted holds either continues stops

theorem executeLoop_accounted {turns : Nat} (holds : account.Holds run slot false) :
    Accounted dep (dep.executeLoop scenario policyName owner turns run) (fun _ after => after.reserved = none)
      account := by
  induction turns generalizing run slot account with
  | zero =>
    unfold Deployment.executeLoop
    split <;> exact holds.reserved
  | succ turns ih =>
    unfold Deployment.executeLoop
    split
    · refine Program.obeys_bind.mpr (chooseAction_accounted holds (fun pending stored => ?_)
        (fun next action after holds => ?_) fun _ _ unreserved => unreserved)
      · exact Program.obeys_bind.mpr (takeAction_accounted holds (.inr ⟨by rw [stored]; rfl, pending, rfl⟩)
          (fun next after holds => ih holds) fun _ _ unreserved => unreserved)
      · exact Program.obeys_bind.mpr (takeAction_accounted holds (.inl rfl) (fun next after holds => ih holds)
          fun _ _ unreserved => unreserved)
    · exact holds.reserved

end Execute

section Serve
variable {id : Uuid}

theorem uuid4_aside : (uuid4 : Prog Uuid).Within Op.aside (fun _ _ => True) (fun _ => True) (fun _ => True) :=
  fun _ _ _ => ⟨trivial, fun _ _ _ _ => trivial⟩

theorem required_aside : (required id).Within Op.aside (fun _ _ => True) (fun _ => True) (fun _ => True) := by
  have reads : (getRun id).Within Op.aside (fun _ _ => True) (fun _ => True) (fun _ => True) := aside_ask trivial
  refine Program.within_bind reads fun found _ => ?_
  cases found <;> trivial

theorem rejected_aside {eventType : EventType} {reason : String} (other : eventType ≠ .runRunning) :
    (dep.rejected run eventType reason).Within Op.aside (fun _ _ => True) (fun _ => True) (fun _ => True) :=
  aside_ask other

theorem awaitApprovalCompletion_aside {step polls : Nat} :
    (awaitApprovalCompletion id step polls).Within Op.aside (fun _ _ => True) (fun _ => True) (fun _ => True) := by
  induction polls with
  | zero => trivial
  | succ polls ih =>
    refine Program.within_bind required_aside fun current _ => ?_
    split
    · trivial
    · split
      · trivial
      · have waits : (sleep (1 / 100)).Within Op.aside (fun _ _ => True) (fun _ => True) (fun _ => True) := aside_ask trivial
        exact Program.within_bind waits fun _ _ => ih

/-- What an execution leaves behind on its way out. -/
theorem releasing_aside {outcome : Except Exn Run} {heartbeatError : Option Exn} :
    ((releaseRunExecution id owner).attempt.bind fun released => afterRelease outcome heartbeatError released).Within
      Op.aside (fun _ _ => True) (fun _ => True) (fun _ => True) := by
  have ends : ∀ released, (afterRelease outcome heartbeatError released).Within Op.aside (fun _ _ => True)
      (fun _ => True) (fun _ => True) := by
    intro released
    rcases outcome with error | run
    · trivial
    · rcases heartbeatError with _ | error
      · exact Program.within_ofExcept (fun _ _ => trivial) fun _ _ => trivial
      · trivial
  have releases : (releaseRunExecution id owner).Within Op.aside (fun _ _ => True) (fun _ => True) (fun _ => True) :=
    aside_ask trivial
  refine Program.obeys_bind.mpr (Program.obeys_attempt.mpr ?_)
  exact releases.mono (fun _ _ _ => ends _) fun _ _ _ => ends _

/-- A party whose policy has not answered yet. -/
structure Account.Fresh (account : Account) : Prop where
  reserved : account.reserved = none
  declined : account.declined = false

/-- The program keeps to the protocol, and leaves no reservation open. -/
abbrev Served {α : Type} (dep : Deployment) (program : Prog α) (account : Account) : Prop :=
  Accounted dep program (fun _ after => after.reserved = none) account

/-- A claimed run is held from then on. -/
theorem claimRunExecution_accounted {Q : Run → Account → Prop} (fresh : account.Fresh)
    (returns : ∀ run after, after.Holds run false false → Q run after) :
    Accounted dep (claimRunExecution id owner) Q account := by
  rintro _ rfl -
  refine ⟨fresh.reserved, ?_⟩
  rintro answer _ rfl -
  cases answer with
  | error error => exact rfl
  | ok run => exact returns run _ ⟨rfl, rfl, rfl, fresh.declined⟩

theorem aside_fresh {α β : Type} {Q : α → Prop} {E : Exn → Prop} {program : Prog α} {f : α → Prog β}
    {R : β → Account → Prop} (within : program.Within Op.aside (fun _ _ => True) Q E) (fresh : account.Fresh)
    (later : ∀ value after, after.Fresh → Accounted dep (f value) R after) :
    Accounted dep (program.bind f) R account := by
  refine Program.obeys_bind.mpr (((accounts dep).admits_within within (R := Account.Fresh)
    (fun op before kind here => kind.owes here.reserved) ?_ fresh).mono
    (fun value after kept => later value after kept.2) fun _ _ kept => kept.2.reserved)
  intro op before answer kind here
  show (before.asked.hear op answer).Fresh
  rw [kind.hear]
  exact ⟨rfl, here.declined⟩

theorem executeOwned_accounted (fresh : account.Fresh) : Served dep (dep.executeOwned run scenario policyName) account := by
  refine aside_fresh uuid4_aside fresh fun owner after fresh => ?_
  refine Program.obeys_bind.mpr (claimRunExecution_accounted fresh fun claimed after holds => ?_)
  have begins : (Program.ask (Op.startHeartbeat run.id owner) : Prog Unit).Within Op.aside (fun _ _ => True)
      (fun _ => True) (fun _ => True) := fun _ _ _ => ⟨trivial, fun _ _ _ _ => trivial⟩
  refine Program.obeys_bind.mpr ((aside_accounted begins holds).mono (fun _ after kept => ?_) fun _ _ raised => raised)
  have finishing : ∀ outcome after, after.reserved = none →
      Served dep (Program.bind (Program.ask Op.stopHeartbeat) fun heartbeatError =>
        (releaseRunExecution run.id owner).attempt.bind fun released => afterRelease outcome heartbeatError released)
        after := by
    intro outcome after unreserved
    refine aside_served (Q := fun _ => True) (E := fun _ => True) ?_ unreserved
    refine Program.within_bind (P := Op.aside) (Q := fun _ => True) (fun _ _ _ => ⟨trivial, fun _ _ _ _ => trivial⟩)
      fun heartbeatError _ => releasing_aside
  have executes : Served dep (dep.execute claimed scenario policyName owner) after :=
    Program.obeys_bind.mpr (beginExecution_accounted kept.2 fun next slot after holds => executeLoop_accounted holds)
  exact Program.obeys_bind.mpr (Program.obeys_attempt.mpr (executes.mono
    (fun stopped => finishing (.ok stopped)) fun error => finishing (.error error)))

theorem start_accounted {scenarioId : String} {mode : Mode} :
    Served dep (dep.start scenarioId mode policyName) .blank := by
  have saves : ∀ run, (saveRun run).Within Op.aside (fun _ _ => True) (fun _ => True) (fun _ => True) :=
    fun run => aside_ask trivial
  unfold Deployment.start
  cases dep.loadScenario scenarioId with
  | error error => exact rfl
  | ok scenario =>
    simp only [Program.ofExcept_ok, Program.bind_eq, Program.ret_bind, Deployment.policy]
    split
    · rw [Program.ret_bind]
      refine aside_fresh uuid4_aside ⟨rfl, rfl⟩ fun id after fresh => ?_
      refine aside_fresh uuid4_aside fresh fun traceId after fresh => ?_
      exact aside_fresh (saves _) fresh fun canonical after fresh => executeOwned_accounted fresh
    · exact rfl

theorem resume_accounted : Served dep (dep.resume id) .blank := by
  refine aside_fresh required_aside ⟨rfl, rfl⟩ fun run after fresh => ?_
  split
  · exact aside_fresh (rejected_aside (by nofun)) fresh fun _ _ fresh => fresh.reserved
  · cases dep.loadScenario run.scenarioId with
    | error error => exact fresh.reserved
    | ok scenario =>
      have resumed : ∀ outcome after, after.reserved = none → Served dep (dep.resumed id outcome) after := by
        intro outcome after unreserved
        cases outcome with
        | ok released => exact unreserved
        | error error =>
          cases error with
          | runExecutionConflict =>
            refine aside_served (Q := fun _ => True) (E := fun _ => True) ?_ unreserved
            exact Program.within_bind required_aside fun current _ =>
              Program.within_bind (rejected_aside (by nofun)) fun _ _ => trivial
          | _ => exact unreserved
      simp only [Program.ofExcept_ok, Program.bind_eq, Program.ret_bind, Deployment.policy]
      refine Program.obeys_bind.mpr (Program.obeys_attempt.mpr ?_)
      split
      · exact (executeOwned_accounted fresh).mono (fun _ => resumed _) fun _ => resumed _
      · exact resumed _ after fresh.reserved

/-- A denial is not the policy's. -/
theorem deny_accounted {actor : String} {reason : Option String} (fresh : account.Fresh) :
    Served dep (dep.deny run actor reason) account := by
  unfold Deployment.deny
  split
  · exact fresh.reserved
  · refine aside_fresh uuid4_aside fresh fun owner after fresh => ?_
    refine Program.obeys_bind.mpr (claimRunExecution_accounted fresh fun owned after holds => ?_)
    have denies : ∀ step fingerprint, Served dep (dep.denyOwned owned owner step fingerprint actor reason) after := by
      intro step fingerprint
      unfold Deployment.denyOwned
      split
      · exact holds.reserved
      · cases owned.transition .failed with
        | error error => exact holds.reserved
        | ok moved =>
          rintro _ rfl -
          refine ⟨⟨holds.reserved, owned, holds.held, rfl, rfl, fun _ _ _ => ?_, ?_⟩, ?_⟩
          · rw [holds.declined]
            rfl
          · rintro (further | impossible)
            · exact absurd further (lt_irrefl _)
            · cases impossible
          · rintro answer _ rfl -
            cases answer <;> exact rfl
    exact Program.obeys_bind.mpr (Program.obeys_attempt.mpr ((denies _ _).mono
      (fun _ _ unreserved => aside_served releasing_aside unreserved)
      fun _ _ unreserved => aside_served releasing_aside unreserved))

theorem approve_accounted {request : ApprovalRequest} {polls : Nat} :
    Served dep (dep.approve request polls) .blank := by
  have records : (recordPendingApproval request.runId request.expectedActionStep
      ⟨request.expectedActionFingerprint, request.actor, request.allow, request.reason⟩).attempt.Within Op.aside
      (fun _ _ => True) (fun _ => True) (fun _ => True) := by
    have asks : (recordPendingApproval request.runId request.expectedActionStep
        ⟨request.expectedActionFingerprint, request.actor, request.allow, request.reason⟩).Within Op.aside
        (fun _ _ => True) (fun _ => True) (fun _ => True) := aside_ask trivial
    exact Program.obeys_attempt.mpr asks
  refine aside_fresh required_aside ⟨rfl, rfl⟩ fun run after fresh => ?_
  refine aside_fresh records fresh fun recorded after fresh => ?_
  cases recorded with
  | error error =>
    dsimp only
    split
    · exact aside_fresh (rejected_aside (by nofun)) fresh fun _ _ fresh => fresh.reserved
    · exact fresh.reserved
  | ok decision =>
    refine aside_fresh required_aside fresh fun run after fresh => ?_
    split
    · exact fresh.reserved
    · split
      · split
        · exact aside_served awaitApprovalCompletion_aside fresh.reserved
        · exact aside_fresh (rejected_aside (by nofun)) fresh fun _ _ fresh => fresh.reserved
      · split
        · exact aside_fresh (rejected_aside (by nofun)) fresh fun _ _ fresh => fresh.reserved
        · have converges : ∀ (error : Exn) after, after.reserved = none → Served dep
              (if error = Exn.concurrentUpdate ∨ error = Exn.runExecutionConflict then
                awaitApprovalCompletion request.runId request.expectedActionStep polls
                else Program.raise error : Prog Run) after := by
            intro error after unreserved
            split
            · exact aside_served awaitApprovalCompletion_aside unreserved
            · exact unreserved
          refine Program.obeys_bind.mpr (Program.obeys_attempt.mpr ?_)
          unfold Deployment.applyDecision
          split
          · exact (deny_accounted fresh).mono (fun _ _ unreserved => unreserved) converges
          · cases dep.loadScenario run.scenarioId with
            | error error => exact converges error after fresh.reserved
            | ok scenario =>
              simp only [Program.ofExcept_ok, Program.bind_eq, Program.ret_bind, Deployment.policy]
              split
              · exact (executeOwned_accounted fresh).mono (fun _ _ unreserved => unreserved) converges
              · exact converges _ after fresh.reserved

/-- All requests keep to the protocol of accounts. -/
theorem system_accounted (dep : Deployment) (program : Prog Run) (admitted : dep.system.starts program) :
    (accounts dep).Admits program (accounts dep).start := by
  obtain ⟨request, rfl⟩ := admitted
  have served : Served dep (request.program dep) .blank := by
    cases request with
    | start => exact start_accounted
    | resume => exact resume_accounted
    | approve => exact approve_accounted
  exact served.mono (fun _ _ _ => trivial) fun _ _ _ => trivial

end Serve

end ReliabilityLab
