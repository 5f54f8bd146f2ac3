import ReliabilityLab.Runtime.AttemptEvents
import ReliabilityLab.Storage.Concealment

namespace ReliabilityLab

/-- Parties that carry out tool actions of their runs, amid whatever else changes the database. -/
def Deployment.turns (dep : Deployment) : Machine Pid Op Op.Answer Exn (Progress Run) DateTime SystemState where
  init _ := False
  starts _ := False
  reads s reading := reading = s.clock
  perform := dep.perform
  ambient _ _ := True
  crash _ s := s

/-- The tool action of a run, as `execute` hands it to the gateway. -/
structure ToolTurn where
  run : Run
  proposed : CallToolAction
  scenario : Scenario
  owner : Uuid

namespace ToolTurn
variable (dep : Deployment) (turn : ToolTurn)

def program : Prog (Progress Run) := dep.executeTool turn.run turn.proposed turn.scenario turn.owner

def gatewayCall : GatewayCall := ⟨turn.run, dep.stabilizeAction turn.run turn.proposed, scenarioFaultPlan turn.scenario⟩

def call : Prog ToolCallResult := (turn.gatewayCall dep).program dep

/-- What `execute` does before it calls the gateway: `some` run when it stops there. -/
def beforeCall : Prog (Option Run) := do
  let action := dep.stabilizeAction turn.run turn.proposed
  let failure ← dep.preflight turn.run action (scenarioFaultPlan turn.scenario) false
  match failure with
  | some (.failed code _ _) => do
    dep.recordRun turn.run .toolPreflightFailed
      [("action_step", .int turn.run.currentStep), ("tool_name", .str action.toolName),
        ("action_fingerprint", .str (dep.actionFingerprint action)),
        ("code", .str (orText code "tool_preflight_failed"))] "error"
    let failed ← dep.terminalFailure turn.run (orText code "tool_preflight_failed") none turn.owner false
    pure (some failed)
  | some (.succeeded _ _ _) => .raise .assertion
  | none => dep.reviewAction turn.run action turn.owner

/-- The gateway was not called, or the call did not return. -/
inductive Uncalled : List OpMoment → Except Exn (Progress Run) → Prop
  | stopped {log run} : (turn.beforeCall dep).Ends log (.ok (some run)) → Uncalled log (.ok (.stopped run))
  | refused {log error} : (turn.beforeCall dep).Ends log (.error error) → Uncalled log (.error error)
  | raised {before calling error} : (turn.beforeCall dep).Ends before (.ok none) →
      (turn.call dep).Ends calling (.error error) → Uncalled (before ++ calling) (.error error)

/-- `gateway.call` returned the result, and `settling` is what `execute` did after that. -/
def Returned (log : List OpMoment) (result : ToolCallResult) (settling : List OpMoment)
    (outcome : Except Exn (Progress Run)) : Prop :=
  ∃ before calling, log = before ++ (calling ++ settling) ∧ (turn.beforeCall dep).Ends before (.ok none) ∧
    (turn.call dep).Ends calling (.ok result) ∧ (dep.settleResult turn.run turn.owner result).Ends settling outcome

/-- The two ways in which the step of a turn ends, with their events. -/
inductive Concluded (result : ToolCallResult) (next : Run) (event : TraceEvent) : Prop
  | failed {code attempts retryable} : result = .failed code attempts retryable → next.status = .failed →
      next.currentStep = turn.run.currentStep → event.eventType = .runFailed → Concluded result next event
  | checkpointed {output attempts cached} : result = .succeeded output attempts cached →
      next = turn.run.checkpointed output → event.eventType = .runCheckpointed → Concluded result next event

/-- The end of the step is stored with its event in one transaction, if the owner still has its lease. -/
def Stored (p : Pid) (result : ToolCallResult) (settling : List OpMoment) : Prop :=
  ∃ next event before answer after now,
    settling = [⟨.saveRunOwnedWithEvents next [event] turn.owner turn.run.version, before, answer, after⟩] ∧
    turn.Concluded result next event ∧
    dep.perform p (.saveRunOwnedWithEvents next [event] turn.owner turn.run.version) now before answer after ∧
    (Store.leaseIsOwned (before.store.leases turn.run.id) turn.owner now.isoformat = true →
      (∃ row, before.store.runs turn.run.id = some row ∧ row.version = turn.run.version) →
      (∃ saved, answer = .ok saved) ∨ answer = .error .database)

/-- A success is a stored one, or an output that its tool's output model accepted. -/
def Accepted (result : ToolCallResult) : Prop :=
  ∃ output attempts cached, result = .succeeded output attempts cached ∧ (cached = true ∨ ∃ definition raw,
    dep.registry.get ((turn.gatewayCall dep).action dep).toolName = some definition ∧
    definition.outputModel raw = .accepted output)

end ToolTurn

/-- Canonical JSON renders the output of a success. -/
def ToolCallResult.Renders (result : ToolCallResult) : Prop :=
  ∀ output attempts cached, result = .succeeded output attempts cached → output.printable = true

/-- The run was written to its row. -/
structure Run.Written (run : Run) : Prop where
  dumpable : run.dumpable = true
  step : (Json.int (run.currentStep + 1)).printable = true

variable {dep : Deployment} {turn : ToolTurn} {log : List OpMoment} {p : Pid}

/-- An owned save of what can be rendered goes through, unless the database fails. -/
theorem saveRunOwnedWithEvents_stores {next : Run} {event : TraceEvent} {owner version : Nat} {now : DateTime}
    {before after : SystemState} {answer : Except Exn Run}
    (performed : dep.perform p (.saveRunOwnedWithEvents next [event] owner version) now before answer after)
    (dumpable : next.dumpable = true) (own : event.traceId = next.traceId)
    (rendered : Store.dumpableEvent (Store.cleanEvent dep.store event) = true)
    (leased : Store.leaseIsOwned (before.store.leases next.id) owner now.isoformat = true)
    (current : ∃ row, before.store.runs next.id = some row ∧ row.version = version) :
    (∃ saved, answer = .ok saved) ∨ answer = .error .database := by
  obtain ⟨store, settled, -⟩ := performed
  obtain ⟨row, stored, same⟩ := current
  cases settled with
  | committed => exact .inl ⟨_, rfl⟩
  | broken => exact .inr rfl
  | refused failed =>
    have bumped : Run.dumpable { next with version := version + 1 } = true := dumpable
    simp [Store.saveRunOwnedWithEvents, Store.updateOwned, own, bumped, leased, stored, same, rendered] at failed

theorem Run.Written.context {run : Run} (written : run.Written) : Json.printableItems run.context = true := by
  have whole := written.dumpable
  simp only [Run.dumpable, Bool.and_eq_true] at whole
  exact whole.1.1

theorem Run.Written.current {run : Run} (written : run.Written) : (Json.int run.currentStep).printable = true := by
  have next := written.step
  have smaller : (run.currentStep : Int).natAbs ≤ ((run.currentStep : Int) + 1).natAbs := by omega
  unfold Json.printable at next ⊢
  exact decide_eq_true (lt_of_le_of_lt smaller (of_decide_eq_true next))

theorem printable_contextWith {run : Run} {output : Json} (written : run.Written) (clean : output.printable = true) :
    Json.printableItems (run.contextWith output) = true := by
  have results : Json.printableItems run.toolResults = true := by
    unfold Run.toolResults
    split
    · rename_i items found
      have inside := Json.printable_lookup written.context found
      rwa [Json.printable] at inside
    · rfl
  have added : (Json.obj (run.toolResults.set (toString run.currentStep) output)).printable = true := by
    rw [Json.printable]
    exact Json.printable_set results _ clean
  exact Json.printable_set written.context _ added

theorem checkpointed_dumpable {run : Run} {output : Json} (written : run.Written) (clean : output.printable = true) :
    (run.checkpointed output).dumpable = true := by
  have whole := written.dumpable
  simp only [Run.dumpable, Bool.and_eq_true] at whole ⊢
  exact ⟨⟨printable_contextWith written clean, rfl⟩, whole.2⟩

theorem failurePayload_printable (code : String) (explanation : Option String) :
    Json.printableItems (failurePayload code explanation) = true := by
  cases explanation <;> rfl

theorem failedWith_dumpable {run : Run} {code : String} {explanation : Option String} {nextStep : Bool}
    (written : run.Written) : (run.failedWith (failurePayload code explanation) nextStep).dumpable = true := by
  simp only [Run.dumpable, Bool.and_eq_true]
  exact ⟨⟨written.context, rfl⟩, failurePayload_printable code explanation⟩

/-- The output of a retry loop is one that the output model accepted. -/
theorem Protocol_accepted {loop : RetryLoop} {faulty : Prop} {number : Nat} {spans : List Uuid}
    {shown : List (Act AttemptRecord)} {result : Except Exn ToolCallResult}
    (protocol : loop.Protocol faulty number spans shown result) {output : Json} {attempts : Nat} {cached : Bool}
    (same : result = .ok (.succeeded output attempts cached)) :
    ∃ raw, loop.definition.outputModel raw = .accepted output := by
  induction protocol with
  | succeeded body =>
    cases same
    cases body with
    | @accepted _ raw _ _ accepts => exact ⟨raw, accepts⟩
  | retried _ _ _ _ ih => exact ih same
  | _ => cases same

/-- A call that succeeds had no more attempts than a definition may have, and its output is a stored one
or one that the output model accepted. -/
theorem call_succeeded {call : GatewayCall} {output : Json} {attempts : Nat} {cached : Bool}
    (ends : (call.program dep).Ends log (.ok (.succeeded output attempts cached))) (possible : Possible log) :
    attempts ≤ maxToolAttempts ∧ (cached = true ∨ ∃ definition raw,
      dep.registry.get (call.action dep).toolName = some definition ∧ definition.outputModel raw = .accepted output) := by
  have looped : ∀ {definition input context body}, (call.attemptsOf dep definition input context).Ends body
      (.ok (.succeeded output attempts cached)) → Possible body →
      attempts ≤ maxToolAttempts ∧ ∃ raw, definition.outputModel raw = .accepted output := by
    intro definition input context body attempting possible
    have named : (call.loop dep definition).toolName = (call.action dep).toolName := rfl
    have numbered : 1 + (call.loop dep definition).limit = (call.loop dep definition).limit + 1 := Nat.add_comm ..
    have positive := limit_pos (call.loop dep definition)
    obtain ⟨shown, -, protocol⟩ := attempts_ends named positive numbered attempting possible id
    obtain ⟨bound, counted⟩ := Protocol_attempts protocol (by omega)
    have last : attempts + 1 = 1 + startedCount shown := counted _ rfl
    have range := definition.attempts_range
    have limit : (call.loop dep definition).limit ≤ maxToolAttempts := by
      unfold RetryLoop.limit Deployment.maxAttempts
      split
      · decide
      · exact range.2
    exact ⟨by omega, Protocol_accepted protocol rfl⟩
  cases call_ends ends with
  | stopped _ quiet =>
    rcases quiet with ⟨_, same⟩ | ⟨_, same⟩ | ⟨_, same⟩ <;> cases same
    exact ⟨Nat.zero_le _, .inl rfl⟩
  | @keyless definition _ _ _ _ registered _ split _ attempting =>
    subst split
    obtain ⟨few, raw, accepts⟩ := looped attempting possible.right
    exact ⟨few, .inr ⟨definition, raw, registered, accepts⟩⟩
  | @keyed definition _ _ _ _ _ _ registered _ split _ executing =>
    subst split
    obtain ⟨context, body, settling, result, rfl, attempting, settles⟩ := executeClaimed_ends executing
    generalize same : (Except.ok (ToolCallResult.succeeded output attempts cached) : Except Exn ToolCallResult) = outcome
      at settles
    cases settles with
    | completed =>
      cases same
      obtain ⟨few, raw, accepts⟩ := looped attempting possible.right.left
      exact ⟨few, .inr ⟨definition, raw, registered, accepts⟩⟩
    | uncompleted => cases same
    | broken => cases same
    | failed => rename_i answer _; cases answer <;> cases same
    | cancelled => rename_i answer _; cases answer <;> cases same
    | escaped => cases same

/-- Numbers of up to four digits can be rendered. -/
theorem printable_number {number : Nat} (small : number < 10 ^ 4) : (Json.int number).printable = true := by
  have bound : ∀ digits, 4 ≤ digits → number < Nat.pow 10 digits := by
    intro digits long
    have least : 10 ^ 4 ≤ 10 ^ digits := Nat.pow_le_pow_right (by decide) long
    exact lt_of_lt_of_le small least
  unfold Json.printable
  exact decide_eq_true (bound 4300 (by decide))

theorem printable_small {number : Nat} (small : number ≤ maxToolAttempts) : (Json.int number).printable = true := by
  unfold maxToolAttempts at small
  exact printable_number (by omega)

theorem checkpointPayload_printable {run : Run} {attempts : Nat} {cached : Bool} {outputDigest contextDigest : String}
    (written : run.Written) (few : attempts ≤ maxToolAttempts) :
    Json.printableItems (checkpointPayload run attempts cached outputDigest contextDigest) = true := by
  simp only [checkpointPayload, Json.printableItems, written.current, written.step, printable_small few]
  rfl

theorem program_eq : turn.program dep = (turn.beforeCall dep).bind fun
    | some stopped => .ret (.stopped stopped)
    | none => (turn.call dep).bind (dep.settleResult turn.run turn.owner) := by
  unfold ToolTurn.program ToolTurn.beforeCall Deployment.executeTool
  simp only [Program.bind_eq, Program.bind_assoc]
  congr 1
  funext failure
  cases failure with
  | none => rfl
  | some result =>
    cases result with
    | failed code attempts retryable => simp [Program.bind_assoc]
    | succeeded output attempts cached => rfl

/-- Every tool action stops before its call returned, or goes on from what it returned. -/
theorem program_ends {outcome : Except Exn (Progress Run)} (ends : (turn.program dep).Ends log outcome) :
    turn.Uncalled dep log outcome ∨ ∃ result settling, turn.Returned dep log result settling outcome := by
  rw [program_eq] at ends
  rcases ends.of_bind with ⟨reviewed, before, later, preparing, going, rfl⟩ | ⟨error, preparing, rfl⟩
  · cases reviewed with
    | some stopped =>
      obtain ⟨rfl, rfl⟩ := going.of_ret
      rw [List.append_nil]
      exact .inl (.stopped preparing)
    | none =>
      rcases going.of_bind with ⟨result, calling, settling, called, ending, rfl⟩ | ⟨error, called, rfl⟩
      · exact .inr ⟨result, settling, before, calling, rfl, preparing, called, ending⟩
      · exact .inl (.raised preparing called)
  · exact .inl (.refused preparing)

/-- A save that can be rendered stores the end of its step. -/
theorem saveWithEvent_stored {result : ToolCallResult} {next : Run} {eventType : EventType} {payload : Dict}
    {status : String} {continued : Run → Progress Run} {settling : List OpMoment} {outcome : Except Exn (Progress Run)}
    (ends : ((dep.saveWithEvent next turn.run turn.owner eventType payload status).bind fun saved =>
      .ret (continued saved)).Ends settling outcome)
    (performed : ∀ moment ∈ settling, ∃ now, dep.perform p moment.op now moment.before moment.answer moment.after)
    (same : next.id = turn.run.id) (dumpable : next.dumpable = true) (clean : Json.printableItems payload = true)
    (concluded : turn.Concluded result next (buildEvent dep next.traceId eventType (.obj payload) none status)) :
    turn.Stored dep p result settling := by
  have one : ∃ before answer after, settling = [⟨.saveRunOwnedWithEvents next
      [buildEvent dep next.traceId eventType (.obj payload) none status] turn.owner turn.run.version, before, answer,
      after⟩] := by
    rcases ends.of_bind with ⟨saved, first, later, saving, rest, rfl⟩ | ⟨error, saving, -⟩
    · obtain ⟨before, answer, after, rfl, -⟩ := saving.of_ask
      obtain ⟨rfl, -⟩ := rest.of_ret
      exact ⟨before, answer, after, rfl⟩
    · obtain ⟨before, answer, after, rfl, -⟩ := saving.of_ask
      exact ⟨before, answer, after, rfl⟩
  obtain ⟨before, answer, after, rfl⟩ := one
  obtain ⟨now, settled⟩ := performed _ List.mem_cons_self
  refine ⟨next, _, before, answer, after, now, rfl, concluded, settled, fun leased current => ?_⟩
  rw [← same] at leased current
  exact saveRunOwnedWithEvents_stores settled dumpable rfl (buildEvent_dumpable clean) leased current

/-- A failed call ends the run, whatever its code is. -/
theorem settleResult_failed {code : String} {attempts : Nat} {retryable : Bool} {settling : List OpMoment}
    {outcome : Except Exn (Progress Run)} (running : turn.run.status = .running) (written : turn.run.Written)
    (ends : (dep.settleResult turn.run turn.owner (.failed code attempts retryable)).Ends settling outcome)
    (performed : ∀ moment ∈ settling, ∃ now, dep.perform p moment.op now moment.before moment.answer moment.after) :
    turn.Stored dep p (.failed code attempts retryable) settling := by
  have legal : turn.run.transition .failed = .ok { turn.run with status := .failed } := by
    simp [Run.transition, running, allowedTransitions]
  simp only [Deployment.settleResult, Deployment.terminalFailure, legal, Program.bind_eq, Program.ofExcept_ok,
    Program.ret_bind, Program.pure_eq] at ends
  exact saveWithEvent_stored ends performed rfl (failedWith_dumpable written) rfl
    (.failed rfl rfl (Nat.add_zero _) rfl)

/-- The checkpoint of a success is stored when its output can be rendered, and nothing is otherwise. -/
theorem settleResult_succeeded {output : Json} {attempts : Nat} {cached : Bool} {settling : List OpMoment}
    {outcome : Except Exn (Progress Run)} (written : turn.run.Written) (few : attempts ≤ maxToolAttempts)
    (ends : (dep.settleResult turn.run turn.owner (.succeeded output attempts cached)).Ends settling outcome)
    (performed : ∀ moment ∈ settling, ∃ now, dep.perform p moment.op now moment.before moment.answer moment.after) :
    output.printable = true ∧ turn.Stored dep p (.succeeded output attempts cached) settling ∨
      output.printable = false ∧ settling = [] ∧ outcome = .error .valueError := by
  simp only [Deployment.settleResult, Program.bind_eq, canonicalJsonDigest] at ends
  by_cases clean : output.printable = true
  · have inside : (Json.obj (turn.run.contextWith output)).printable = true := by
      rw [Json.printable]
      exact printable_contextWith written clean
    simp only [clean, inside, if_true, Program.ofExcept_ok, Program.ret_bind, Program.pure_eq] at ends
    exact .inl ⟨clean, saveWithEvent_stored ends performed rfl (checkpointed_dumpable written clean)
      (checkpointPayload_printable written few) (.checkpointed rfl rfl rfl)⟩
  · simp only [clean] at ends
    obtain ⟨rfl, rfl⟩ := ends.of_raise
    exact .inr ⟨Bool.eq_false_iff.mpr clean, rfl, rfl⟩

/-- A running run at its first tool action, which has no idempotency key. -/
def demoTurn : ToolTurn :=
  ⟨{ Run.new 0 1 "demo" .resilient with status := .running }, ⟨"state", [], none⟩, demoScenario, 7⟩

def demoHeld : Store :=
  (Store.empty.setRun 0 ⟨1, 0, demoTurn.run⟩).setLease 0 (some ⟨7, (demoClock 30 (by decide)).isoformat⟩)

/-- The action of the demo turn alone, to its end. -/
def demoOutcome (answer : Json) (count : Nat) : Option (List OpMoment × OpWorld (Progress Run)) :=
  logTurns (demoHandlers false) (demoAnswering (.ok answer)) 0 count
    ⟨⟨demoHeld, demoClock 0 demoStart_inside, fun _ => none, fun _ => none⟩,
      fun _ => .ready (demoTurn.program (demoHandlers false))⟩

theorem demoOutcome_follows {answer : Json} {count : Nat} {check : List OpMoment × OpWorld (Progress Run) → Bool}
    (ran : (demoOutcome answer count).any check = true) :
    ∃ (w : OpWorld (Progress Run)) (log : List OpMoment) (v : OpWorld (Progress Run)),
      (demoHandlers false).turns.Follows 0 w log v ∧ w.procs 0 = .ready (demoTurn.program (demoHandlers false)) ∧
      check (log, v) = true := by
  obtain ⟨⟨log, v⟩, taken, checked⟩ := (Option.any_eq_true _ _).mp ran
  exact ⟨_, log, v, logTurns_follows (fun _ => rfl) (fun p op s => (demoAnswering_fits false _).perform p s.clock s op)
    taken, rfl, checked⟩

/-- The stored run is the demo turn's own, under the lease of its owner. -/
def heldAtStep (w : OpWorld (Progress Run)) : Bool :=
  Store.leaseIsOwned (w.state.store.leases 0) 7 w.state.clock.isoformat &&
    (w.state.store.runs 0).any fun row => row.version = 0 && row.payload.status = .running && row.payload.currentStep = 0

def endOf (w : OpWorld (Progress Run)) : Option (Except Exn (Progress Run)) :=
  match w.procs 0 with
  | .ready (.ret progress) => some (.ok progress)
  | .ready (.raise error) => some (.error error)
  | _ => none

theorem endOf_some {w : OpWorld (Progress Run)} {outcome : Except Exn (Progress Run)} (same : endOf w = some outcome) :
    w.procs 0 = .ready (.ofExcept outcome) := by
  unfold endOf at same
  split at same
  · rename_i there
    rw [there, ← Option.some.inj same]
    rfl
  · rename_i there
    rw [there, ← Option.some.inj same]
    rfl
  · cases same

def steppedOn : Except Exn (Progress Run) → Bool
  | .ok (.continued next) => next.currentStep = 1
  | .ok (.stopped _) => false
  | .error _ => false

end ReliabilityLab
