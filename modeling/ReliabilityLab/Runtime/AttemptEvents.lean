import ReliabilityLab.Runtime.CallCourse
import ReliabilityLab.Runtime.Discipline

namespace ReliabilityLab

variable {dep : Deployment} {call : GatewayCall} {loop : RetryLoop} {log : List OpMoment} {p : Pid} {s t : SystemState}
  {w v : GatewayWorld}

theorem supply_of_commits {α : Type} {tx : Tx α} {answer : Except Exn α} (commits : s.Commits tx answer t)
    (committed : ∀ value after, tx s.store = .ok (value, after) → s.store.nextUuid ≤ after.nextUuid) :
    s.store.nextUuid ≤ t.store.nextUuid := by
  obtain ⟨after, settled, rfl⟩ := commits
  exact settled.frame (R := fun after => s.store.nextUuid ≤ after.nextUuid) le_rfl committed

/-- No identifier is drawn twice: no operation takes the supply back. -/
theorem perform_supply {op : Op} {now : DateTime} {answer : op.Answer} (performed : dep.perform p op now s answer t) :
    s.store.nextUuid ≤ t.store.nextUuid := by
  cases op with
  | uuid4 => obtain ⟨-, rfl⟩ := performed; exact Nat.le_succ _
  | saveRun run =>
    refine supply_of_commits performed fun saved after done => ?_
    obtain ⟨-, rfl, rfl⟩ := Store.saveRun_ok done
    exact le_rfl
  | claimRunExecution id owner =>
    refine supply_of_commits performed fun run after done => ?_
    obtain ⟨_, _, -, -, -, rfl, -⟩ := Store.claimRunExecution_ok done
    exact le_rfl
  | releaseRunExecution id owner =>
    refine supply_of_commits performed fun run after done => ?_
    obtain ⟨_, _, -, -, -, -, rfl⟩ := Store.releaseRunExecution_ok done
    exact le_rfl
  | saveRunOwned =>
    refine supply_of_commits performed fun saved after done => ?_
    obtain ⟨_, _, -, -, -, -, -, -, rfl⟩ := Store.updateOwned_ok done
    exact le_rfl
  | saveRunOwnedWithEvents run events =>
    refine supply_of_commits performed fun saved after done => ?_
    obtain ⟨updated, result, rfl⟩ := Store.saveRunOwnedWithEvents_ok done
    obtain ⟨_, _, -, -, -, -, -, -, rfl⟩ := Store.updateOwned_ok result
    exact insertEvents_nextUuid (s.store.setRun run.id _) _
  | recordPendingApproval =>
    refine supply_of_commits performed fun decision after done => ?_
    obtain ⟨-, ⟨-, rfl⟩ | ⟨-, _, -, -, rfl⟩⟩ := Store.recordPendingApproval_ok done
    · exact le_rfl
    · exact Nat.le_add_right _ 2
  | _ => exact (Op.quiet.untouched rfl performed).supply

theorem step_supply (move : Machine.Step dep.gateway w v) : w.state.store.nextUuid ≤ v.state.store.nextUuid := by
  cases move with
  | start | issue | finish | crash => exact le_rfl
  | commit _ performed => exact perform_supply performed
  | ambient moved => exact moved.supply

/-- The identifiers of a party come in a strict order. -/
theorem drawnUuids_pairwise (follows : dep.gateway.Follows p w log v) :
    (drawnUuids log).Pairwise (· < ·) ∧ ∀ u ∈ drawnUuids log, u < v.state.store.nextUuid := by
  induction follows with
  | refl => exact ⟨.nil, fun u member => absurd member List.not_mem_nil⟩
  | issue _ _ _ ih => exact ih
  | besides _ move _ ih => exact ⟨ih.1, fun u member => (ih.2 u member).trans_le (step_supply move)⟩
  | @commit log v op next reading answer t _ _ performed ih =>
    obtain ⟨ordered, below⟩ := ih
    have supply : v.state.store.nextUuid ≤ t.store.nextUuid := perform_supply performed
    rw [drawnUuids_append]
    by_cases draws : op = .uuid4
    · subst draws
      obtain ⟨rfl, rfl⟩ := performed
      refine ⟨List.pairwise_append.mpr ⟨ordered, List.pairwise_singleton .., fun u member other last => ?_⟩,
        fun u member => ?_⟩
      · rw [List.mem_singleton.mp last]
        exact below u member
      · rcases List.mem_append.mp member with member | member
        · exact (below u member).trans (Nat.lt_succ_self _)
        · rw [List.mem_singleton.mp member]
          exact Nat.lt_succ_self _
    · have none : drawnUuids [(⟨op, v.state, answer, t⟩ : OpMoment)] = [] := by
        cases op <;> first | rfl | exact absurd rfl draws
      rw [none, List.append_nil]
      exact ⟨ordered, fun u member => (below u member).trans_le supply⟩

/-- Sleeps and transactions end as the protocol expects them to. -/
theorem possible_of_performed
    (performed : ∀ moment ∈ log, ∃ now, dep.perform p moment.op now moment.before moment.answer moment.after) :
    Possible log := by
  intro moment member
  obtain ⟨now, performed⟩ := performed moment member
  obtain ⟨op, before, answer, after⟩ := moment
  cases op with
  | sleep => exact performed.1
  | appendEvent event =>
    obtain ⟨store, settled, -⟩ := performed
    rintro error rfl
    cases settled with
    | refused failed => exact .inl (Store.appendEvent_error failed)
    | broken => exact .inr rfl
  | _ => trivial

/-- How the result of a call comes from the result of its attempts: as it is, or after a keyed call has
settled its claim with its last operations. -/
def GatewayCall.Answers (dep : Deployment) (call : GatewayCall) (definition : ToolDefinition)
    (log : List OpMoment) (result outcome : Except Exn ToolCallResult) : Prop :=
  (call.action dep).idempotencyKey = none ∧ Unsettling log ∧ outcome = result ∨
    ∃ key owner earlier settling, (call.action dep).idempotencyKey = some key ∧ log = earlier ++ settling ∧
      Unsettling earlier ∧ call.Settles definition key owner result settling outcome

theorem settles_acts {definition : ToolDefinition} {key : String} {owner : Uuid} {result outcome : Except Exn ToolCallResult}
    (settles : call.Settles definition key owner result log outcome) : acts log = [] := by
  cases settles with
  | completed silent | uncompleted silent | broken silent => exact silent
  | failed | cancelled | escaped => rfl

theorem limit_pos (loop : RetryLoop) : loop.limit ≠ 0 := by
  unfold RetryLoop.limit Deployment.maxAttempts
  split
  · exact one_ne_zero
  · have range := loop.definition.attempts_range
    omega

/-- A call that ends stops before its attempts, or shows those of one retry loop, which it ran with a part of its
operations. -/
theorem ends_protocol {outcome : Except Exn ToolCallResult} {faulty : Prop} (ends : (call.program dep).Ends log outcome)
    (possible : Possible log) (failing : RecorderFailed log → faulty) :
    Preparing log ∧ unattempted outcome ∨ ∃ definition shown body result,
      dep.registry.get (call.action dep).toolName = some definition ∧ Shows dep call.run log shown ∧ body <:+: log ∧
      (call.loop dep definition).Protocol faulty 1 (drawnUuids body) shown result ∧
      call.Answers dep definition log result outcome := by
  have looped : ∀ {definition input context body result}, (call.attemptsOf dep definition input context).Ends body result →
      body <:+: log → ∃ shown, Shows dep call.run body shown ∧
        (call.loop dep definition).Protocol faulty 1 (drawnUuids body) shown result := by
    rintro definition input context body result attempting ⟨before, after, rfl⟩
    have named : (call.loop dep definition).toolName = (call.action dep).toolName := rfl
    have numbered : 1 + (call.loop dep definition).limit = (call.loop dep definition).limit + 1 := Nat.add_comm ..
    exact attempts_ends named (limit_pos _) numbered attempting possible.left.right fun lost =>
      failing ((lost.right before).left after)
  cases call_ends ends with
  | stopped preparing quiet => exact .inl ⟨preparing, quiet⟩
  | @keyless definition input context before rest registered unkeyed split preparing attempting =>
    have part : rest <:+: log := ⟨before, [], by rw [split, List.append_nil]⟩
    obtain ⟨shown, shows, protocol⟩ := looped attempting part
    refine .inr ⟨definition, shown, rest, outcome, registered, ?_, part, protocol, .inl ⟨unkeyed, ?_, rfl⟩⟩
    · rw [Shows, split, acts_append, preparing.acts]
      exact shows
    · rw [split]
      exact preparing.unsettling.append (attempts_unsettling attempting)
  | @keyed definition input fingerprint key owner before rest registered keyed split preparing executing =>
    obtain ⟨context, body, settling, result, rfl, attempting, settles⟩ := executeClaimed_ends executing
    have part : body <:+: log := ⟨before, settling, by rw [split, List.append_assoc]⟩
    obtain ⟨shown, shows, protocol⟩ := looped attempting part
    refine .inr ⟨definition, shown, body, result, registered, ?_, part, protocol, .inr ⟨key, owner, before ++ body, settling,
      keyed, by rw [split, List.append_assoc], preparing.unsettling.append (attempts_unsettling attempting), settles⟩⟩
    rw [Shows, split, acts_append, preparing.acts, acts_append, settles_acts settles, List.append_nil]
    exact shows

/-- Every call that was followed to its end stops before its attempts, or shows those of one retry loop. -/
theorem call_protocol {outcome : Except Exn ToolCallResult} {faulty : Prop} (follows : dep.gateway.Follows p w log v)
    (begun : w.procs p = .ready (call.program dep)) (ended : v.procs p = .ready (.ofExcept outcome))
    (failing : RecorderFailed log → faulty) :
    Preparing log ∧ unattempted outcome ∨ ∃ definition shown spans result,
      dep.registry.get (call.action dep).toolName = some definition ∧ Shows dep call.run log shown ∧ spans.Nodup ∧
      (call.loop dep definition).Protocol faulty 1 spans shown result ∧
      call.Answers dep definition log result outcome := by
  have ordered := (drawnUuids_pairwise follows).1
  rcases ends_protocol (follows.ends begun ended) (possible_of_performed follows.performed) failing with
    stopped | ⟨definition, shown, body, result, registered, shows, ⟨before, after, rfl⟩, protocol, answers⟩
  · exact .inl stopped
  · rw [drawnUuids_append, drawnUuids_append] at ordered
    have distinct := (List.pairwise_append.mp (List.pairwise_append.mp ordered).1).2.1
    exact .inr ⟨definition, shown, _, result, registered, shows, distinct.imp fun less => less.ne, protocol, answers⟩

def ToolCallResult.attempts : ToolCallResult → Nat
  | .succeeded _ attempts _ => attempts
  | .failed _ attempts _ => attempts

/-- The attempts that were begun. -/
def startedCount (shown : List (Act AttemptRecord)) : Nat :=
  shown.countP fun
    | .recorded record => record.eventType = .toolAttemptStarted
    | _ => false

theorem Body_started {faulty : Prop} {number : Nat} {span : Uuid} {middle : List (Act AttemptRecord)}
    {result : Except Exn Json} (body : loop.Body faulty number span middle result) : startedCount middle = 0 := by
  have raw : ∀ {middle result}, loop.Raw faulty number span middle result → startedCount middle = 0 := by
    intro middle result given
    cases given <;> rfl
  cases body with
  | raised given | accepted given | unserializable given | unrecorded given => exact raw given
  | rejected given =>
    have none := raw given
    simp only [startedCount, List.countP_append] at none ⊢
    rw [none]
    rfl

/-- The loop counts the attempts it began. -/
theorem Protocol_attempts {faulty : Prop} {number : Nat} {spans : List Uuid} {shown : List (Act AttemptRecord)}
    {result : Except Exn ToolCallResult} (protocol : loop.Protocol faulty number spans shown result)
    (within : number ≤ loop.limit) : number + startedCount shown ≤ loop.limit + 1 ∧
      ∀ value, result = .ok value → value.attempts + 1 = number + startedCount shown := by
  have begun : ∀ {number : Nat} {span : Uuid} {middle : List (Act AttemptRecord)} (rest : List (Act AttemptRecord)),
      startedCount middle = 0 →
      startedCount (.recorded (loop.started number span) :: middle ++ rest) = startedCount rest + 1 := by
    intro number span middle rest none
    simp only [startedCount] at none ⊢
    rw [List.cons_append, List.countP_cons_of_pos (by rfl), List.countP_append, none, Nat.zero_add]
  induction protocol with
  | succeeded body | failed body =>
    rw [begun _ (Body_started body)]
    refine ⟨Nat.add_le_add_right within 1, fun value same => ?_⟩
    cases same
    rfl
  | cancelled body | interrupted body =>
    rw [begun _ (Body_started body)]
    refine ⟨Nat.add_le_add_right within 1, fun value same => ?_⟩
    cases same
  | unreported _ body =>
    rw [begun _ (Body_started body)]
    refine ⟨Nat.add_le_add_right within 1, fun value same => ?_⟩
    cases same
  | @unended number span middle result error _ body =>
    have once : startedCount (.recorded (loop.started number span) :: middle ++ []) = 0 + 1 :=
      begun [] (Body_started body)
    rw [List.append_nil] at once
    rw [once]
    refine ⟨Nat.add_le_add_right within 1, fun value same => ?_⟩
    cases same
  | unstarted =>
    refine ⟨Nat.le_succ_of_le within, fun value same => ?_⟩
    cases same
  | @retried number span middle error spans rest outcome body _ again _ ih =>
    have more : number + 1 ≤ loop.limit := by
      simp only [RetryLoop.retries, Deployment.retried, Bool.and_eq_true, decide_eq_true_eq] at again
      omega
    obtain ⟨bound, counted⟩ := ih more
    have silent : startedCount ([.recorded (loop.failed number span error),
        .slept (loop.definition.delaySeconds number) (.ok ())] ++ rest) = startedCount rest := by
      simp only [startedCount, List.countP_append]
      rw [Nat.add_eq_right]
      rfl
    rw [List.append_assoc, begun _ (Body_started body), silent]
    refine ⟨by omega, fun value same => ?_⟩
    have last := counted value same
    omega

/-- A call stops before its attempts, or its acts are those of consecutive attempts with a span each, and
it answers with the end of the last one unless settling its claim fails. -/
def GatewayCall.KeepsProtocol (dep : Deployment) (call : GatewayCall) (log : List OpMoment)
    (outcome : Except Exn ToolCallResult) : Prop :=
  Preparing log ∧ unattempted outcome ∨ ∃ definition shown spans result,
    dep.registry.get (call.action dep).toolName = some definition ∧ Shows dep call.run log shown ∧ spans.Nodup ∧
    (call.loop dep definition).Protocol False 1 spans shown result ∧
    startedCount shown ≤ (call.loop dep definition).limit ∧
    (∀ value, result = .ok value → value.attempts = startedCount shown) ∧
    call.Answers dep definition log result outcome

/-- Every call whose recorder does not fail keeps to the protocol. -/
theorem attempt_protocol {outcome : Except Exn ToolCallResult} (follows : dep.gateway.Follows p w log v)
    (begun : w.procs p = .ready (call.program dep)) (ended : v.procs p = .ready (.ofExcept outcome))
    (recorded : ¬ RecorderFailed log) : call.KeepsProtocol dep log outcome := by
  rcases call_protocol follows begun ended recorded with quiet | ⟨definition, shown, spans, result, registered, shows,
    distinct, protocol, answers⟩
  · exact .inl quiet
  · have positive := limit_pos (call.loop dep definition)
    obtain ⟨bound, counted⟩ := Protocol_attempts protocol (by omega)
    refine .inr ⟨definition, shown, spans, result, registered, shows, distinct, protocol, by omega, fun value same => ?_,
      answers⟩
    have last := counted value same
    omega

section Turns
variable {α : Type} (env : Responder) (dep)

/-- So many operations of one party, with what they were. -/
def logTurns (p : Pid) : Nat → OpWorld α → Option (List OpMoment × OpWorld α)
  | 0, w => some ([], w)
  | count + 1, w =>
    match w.procs p with
    | .ready (.perform op next) =>
      let turn := env.act dep.store p w.state.clock w.state op
      (logTurns p count ⟨turn.2, Function.update w.procs p (.ready (next turn.1))⟩).map fun rest =>
        (⟨op, w.state, turn.1, turn.2⟩ :: rest.1, rest.2)
    | _ => none

theorem logTurns_follows {env : Responder} {dep : Deployment}
    {M : Machine Pid Op Op.Answer Exn α DateTime SystemState} (reads : ∀ s, M.reads s s.clock)
    (performs : ∀ p op s, M.perform p op s.clock s (env.act dep.store p s.clock s op).1
      (env.act dep.store p s.clock s op).2) {count : Nat} {u v : OpWorld α}
    (taken : logTurns dep env p count u = some (log, v)) : M.Follows p u log v := by
  induction count generalizing u log with
  | zero =>
    cases taken
    exact .refl
  | succ count ih =>
    unfold logTurns at taken
    split at taken
    · rename_i op next ready
      obtain ⟨⟨rest, last⟩, more, same⟩ := Option.map_eq_some_iff.mp taken
      cases same
      exact (Machine.follows_turn ready (reads _) (performs p op _)).trans (ih more)
    · cases taken

end Turns

def recorderWorks (log : List OpMoment) : Bool := log.all fun moment =>
  match moment.op, moment.answer with
  | .appendEvent _, .error _ => false
  | _, _ => true

theorem recorderWorks_sound (works : recorderWorks log = true) : ¬ RecorderFailed log := by
  rintro ⟨event, error, before, after, member⟩
  cases List.all_eq_true.mp works _ member

/-- One tool whose handler may answer anything. -/
def demoHandlers (isWrite : Bool) : Deployment :=
  { demoStates (demoStateTool isWrite .accepted) [] with handlerAnswers := fun _ _ => True }

def demoAnswering (answer : Except Exn Json) : Responder := { demoResponder with handler := fun _ => answer }

theorem demoAnswering_fits (isWrite : Bool) (answer : Except Exn Json) :
    (demoAnswering answer).Fits (demoHandlers isWrite) := ⟨fun _ _ _ => rfl, fun _ => trivial⟩

/-- One call alone, to its end. -/
def demoCall (isWrite : Bool) (answer : Except Exn Json) (call : GatewayCall) (count : Nat) :
    Option (List OpMoment × GatewayWorld) :=
  logTurns (demoHandlers isWrite) (demoAnswering answer) 0 count
    (opening (demoHandlers isWrite) (fun _ => call) Store.empty (demoClock 0 demoStart_inside))

/-- What a call alone comes to is what a followed call comes to. -/
theorem demoCall_follows (call : GatewayCall) (isWrite : Bool) (answer : Except Exn Json) (count : Nat)
    (check : List OpMoment × GatewayWorld → Bool) (ran : (demoCall isWrite answer call count).any check = true) :
    ∃ (w : GatewayWorld) (log : List OpMoment) (v : GatewayWorld), (demoHandlers isWrite).gateway.Follows 0 w log v ∧
      w.procs 0 = .ready (call.program (demoHandlers isWrite)) ∧ check (log, v) = true := by
  obtain ⟨⟨log, v⟩, taken, checked⟩ := (Option.any_eq_true _ _).mp ran
  exact ⟨_, log, v, logTurns_follows (fun _ => rfl) (fun p op s => (demoAnswering_fits isWrite answer).perform p s.clock s op)
    taken, rfl, checked⟩

def returned (w : GatewayWorld) : Option ToolCallResult :=
  match w.procs 0 with
  | .ready (.ret result) => some result
  | _ => none

theorem returned_some {result : ToolCallResult} (same : returned w = some result) :
    w.procs 0 = .ready (.ofExcept (.ok result)) := by
  unfold returned at same
  split at same
  · rename_i value there
    rw [there, Option.some.inj same]
    rfl
  · cases same

def demoRetry : GatewayCall := { demoCalls 0 with plan := [⟨"state", 1, .timeout⟩] }

/-- An injected timeout, a retry and a success. -/
theorem attempt_protocol_retry : ∃ (log : List OpMoment) (v : GatewayWorld) (result : ToolCallResult),
    v.procs 0 = .ready (.ofExcept (.ok result)) ∧ result.attempts = 2 ∧
      demoRetry.KeepsProtocol (demoHandlers true) log (.ok result) := by
  obtain ⟨w, log, v, follows, begun, checked⟩ := demoCall_follows demoRetry true (.ok (demoState "done")) 12
    (fun found => recorderWorks found.1 && (returned found.2).any fun result => result.attempts = 2) (by decide +kernel)
  obtain ⟨works, counted⟩ := Bool.and_eq_true_iff.mp checked
  obtain ⟨result, same, attempts⟩ := (Option.any_eq_true _ _).mp counted
  exact ⟨log, v, result, returned_some same, of_decide_eq_true attempts,
    attempt_protocol follows begun (returned_some same) (recorderWorks_sound works)⟩

def eventTypes (log : List OpMoment) : List EventType := (acts log).filterMap fun
  | .recorded event => some event.eventType
  | _ => none

def ToolCallResult.errorCode : ToolCallResult → Option String
  | .succeeded _ _ _ => none
  | .failed code _ _ => some code

/-- A keyed write answers with a number that canonical JSON refuses: its only attempt succeeds, and the
call returns a failure whose code no attempt had. -/
theorem unserializable_success : ∃ (w : GatewayWorld) (log : List OpMoment) (v : GatewayWorld) (result : ToolCallResult),
    (demoHandlers true).gateway.Follows 0 w log v ∧ w.procs 0 = .ready ((demoCalls 0).program (demoHandlers true)) ∧
      v.procs 0 = .ready (.ofExcept (.ok result)) ∧ ¬ RecorderFailed log ∧
      eventTypes log = [.toolAttemptStarted, .toolAttemptSucceeded] ∧
      result.errorCode = some "idempotency_indeterminate" := by
  obtain ⟨w, log, v, follows, begun, checked⟩ := demoCall_follows (demoCalls 0) true (.ok (.float .nan)) 7
    (fun found => recorderWorks found.1 && eventTypes found.1 = [.toolAttemptStarted, .toolAttemptSucceeded] &&
      (returned found.2).any fun result => result.errorCode = some "idempotency_indeterminate") (by decide +kernel)
  obtain ⟨first, coded⟩ := Bool.and_eq_true_iff.mp checked
  obtain ⟨works, events⟩ := Bool.and_eq_true_iff.mp first
  obtain ⟨result, same, code⟩ := (Option.any_eq_true _ _).mp coded
  exact ⟨w, log, v, result, follows, begun, returned_some same, recorderWorks_sound works, of_decide_eq_true events,
    of_decide_eq_true code⟩

end ReliabilityLab
