import ReliabilityLab.Runtime.AttemptEvents
import ReliabilityLab.Runtime.AuditTrail
import ReliabilityLab.Web.AttemptChains
import ReliabilityLab.Web.TraceDisplay

namespace ReliabilityLab

/-! What a call leaves in the trace, up to wherever it was cut off. -/

theorem Op.exists_possible (op : Op) : ∃ answer, op.possible answer := by
  cases op with
  | uuid4 => exact ⟨(0 : Nat), trivial⟩
  | startHeartbeat => exact ⟨(), trivial⟩
  | stopHeartbeat => exact ⟨none, trivial⟩
  | sleep => exact ⟨.ok (), .inl rfl⟩
  | appendEvent => exact ⟨.ok (), fun _ impossible => nomatch impossible⟩
  | _ => exact ⟨.error .database, trivial⟩

/-- Every program can come to an end. -/
theorem exists_ends {α : Type} (s : SystemState) (program : Prog α) :
    ∃ (log : List OpMoment) (outcome : Except Exn α), program.Ends log outcome ∧ Possible log := by
  induction program with
  | ret value => exact ⟨[], .ok value, .ret value, fun _ member => absurd member List.not_mem_nil⟩
  | raise error => exact ⟨[], .error error, .raise error, fun _ member => absurd member List.not_mem_nil⟩
  | perform op next ih =>
    obtain ⟨answer, possible⟩ := op.exists_possible
    obtain ⟨log, outcome, ends, onward⟩ := ih answer
    refine ⟨⟨op, s, answer, s⟩ :: log, outcome, .perform ends, fun moment member => ?_⟩
    rcases List.mem_cons.mp member with rfl | later
    · exact possible
    · exact onward moment later

/-- The row that an operation appended. -/
def appendedRow (moment : OpMoment) : Option EventRow :=
  match moment.op, moment.answer with
  | .appendEvent _, .ok _ => moment.after.store.events.getLast?
  | _, _ => none

def appendedRows (log : List OpMoment) : List EventRow := log.filterMap appendedRow

def Act.record? {ρ : Type} : Act ρ → Option ρ
  | .recorded record => some record
  | _ => none

/-- A row and the event it was stored for. -/
structure StoredFor (dep : Deployment) (event : TraceEvent) (row : EventRow) : Prop where
  content : row.content = dep.stored event
  status : row.status = event.status
  span : ∀ span, event.spanId = some span → row.spanId = span

variable {dep : Deployment} {call : GatewayCall} {log : List OpMoment} {p : Pid}

theorem appendedRows_stored
    (performed : ∀ moment ∈ log, ∃ now, dep.perform p moment.op now moment.before moment.answer moment.after) :
    List.Forall₂ (StoredFor dep) ((acts log).filterMap Act.record?) (appendedRows log) := by
  induction log with
  | nil => exact .nil
  | cons moment rest ih =>
    have later := ih fun other member => performed other (List.mem_cons_of_mem _ member)
    obtain ⟨now, done⟩ := performed moment List.mem_cons_self
    obtain ⟨op, before, answer, after⟩ := moment
    cases op with
    | appendEvent event =>
      cases answer with
      | error error => exact later
      | ok value =>
        obtain ⟨store, settled, left⟩ := done
        have inserted : store = before.store.insertEvent (Store.cleanEvent dep.store event) :=
          Store.appendEvent_ok settled.ok
        obtain ⟨row, stored, appended⟩ : ∃ row, StoredFor dep event row ∧ after.store.events.getLast? = some row := by
          rw [show after = _ from left, inserted]
          refine ⟨_, ⟨rfl, rfl, fun span given => ?_⟩, List.getLast?_concat⟩
          have kept : (Store.cleanEvent dep.store event).spanId = some span := given
          simp only [kept, Option.getD_some]
        have rows : appendedRows (⟨.appendEvent event, before, .ok value, after⟩ :: rest) = row :: appendedRows rest :=
          List.filterMap_cons_some appended
        rw [rows]
        exact .cons stored later
    | _ => exact later

/-- The events that the dashboard counts as attempts. -/
def EventType.attempted : EventType → Bool
  | .toolAttemptFailed | .toolAttemptStarted | .toolAttemptSucceeded => true
  | _ => false

theorem attempted_iff (eventType : EventType) : eventType.attempted = true ↔ eventType.value ∈ Web.attemptKinds := by
  cases eventType <;> decide

def attemptsShown (shown : List (Act AttemptRecord)) : List AttemptRecord :=
  (shown.filterMap Act.record?).filter (·.eventType.attempted)

theorem attemptsShown_append (first later : List (Act AttemptRecord)) :
    attemptsShown (first ++ later) = attemptsShown first ++ attemptsShown later := by
  rw [attemptsShown, List.filterMap_append, List.filter_append]
  rfl

namespace RetryLoop

/-- The attempt events of a loop from `number` on, cut off anywhere. -/
inductive AttemptRecords (loop : RetryLoop) : Nat → List AttemptRecord → Prop
  | none {number} : AttemptRecords loop number []
  | begun {number span} : AttemptRecords loop number [loop.started number span]
  | succeeded {number span output} :
      AttemptRecords loop number [loop.started number span, loop.succeeded number span output]
  | failed {number span error} : AttemptRecords loop number [loop.started number span, loop.failed number span error]
  | retried {number span error rest} : loop.retries number error = true → AttemptRecords loop (number + 1) rest →
      AttemptRecords loop number (loop.started number span :: loop.failed number span error :: rest)

variable {loop : RetryLoop} {number : Nat} {faulty : Prop}

theorem Raw.unattempted {span : Uuid} {middle : List (Act AttemptRecord)} {answer : Except Exn Json}
    (raw : loop.Raw faulty number span middle answer) : attemptsShown middle = [] := by
  cases raw <;> rfl

theorem Body.unattempted {span : Uuid} {middle : List (Act AttemptRecord)} {answer : Except Exn Json}
    (body : loop.Body faulty number span middle answer) : attemptsShown middle = [] := by
  cases body with
  | rejected raw =>
    rw [attemptsShown_append, raw.unattempted]
    rfl
  | raised raw | accepted raw | unserializable raw | unrecorded raw => exact raw.unattempted

theorem Protocol.attemptRecords {spans : List Uuid} {shown : List (Act AttemptRecord)}
    {result : Except Exn ToolCallResult} (protocol : loop.Protocol faulty number spans shown result) :
    loop.AttemptRecords number (attemptsShown shown) := by
  have between : ∀ {number span middle answer} (last : List (Act AttemptRecord)),
      loop.Body faulty number span middle answer →
      attemptsShown (.recorded (loop.started number span) :: middle ++ last) =
        loop.started number span :: attemptsShown last := by
    intro number span middle answer last body
    rw [attemptsShown_append]
    have first := attemptsShown_append [.recorded (loop.started number span)] middle
    rw [body.unattempted, List.append_nil] at first
    exact congrArg (· ++ _) first
  induction protocol with
  | succeeded body =>
    rw [between _ body]
    exact .succeeded
  | cancelled body =>
    rw [between _ body]
    exact .begun
  | failed body =>
    rw [between _ body]
    exact .failed
  | @retried number span middle error spans rest outcome body uncancelled again _ ih =>
    have first := between [.recorded (loop.failed number span error), .slept (loop.definition.delaySeconds number) (.ok ())] body
    rw [attemptsShown_append, first]
    exact .retried again ih
  | interrupted body =>
    rw [between _ body]
    exact .failed
  | unstarted => exact .none
  | unended _ body =>
    have whole := between [] body
    rw [List.append_nil] at whole
    rw [whole]
    exact .begun
  | unreported _ body =>
    rw [between _ body]
    exact .failed

/-- What was cut off from such events is such events. -/
theorem AttemptRecords.cut {records part : List AttemptRecord} (attempts : loop.AttemptRecords number records)
    (cut : part <+: records) : loop.AttemptRecords number part := by
  have two : ∀ {number span last part}, loop.AttemptRecords number [loop.started number span, last] →
      part <+: [loop.started number span, last] → loop.AttemptRecords number part := by
    intro number span last part whole cut
    rcases List.prefix_cons_iff.mp cut with rfl | ⟨rest, rfl, later⟩
    · exact .none
    · rcases List.prefix_cons_iff.mp later with rfl | ⟨ending, rfl, ends⟩
      · exact .begun
      · rwa [List.prefix_nil.mp ends]
  induction attempts generalizing part with
  | none =>
    rw [List.prefix_nil.mp cut]
    exact .none
  | begun =>
    rcases List.prefix_cons_iff.mp cut with rfl | ⟨rest, rfl, ends⟩
    · exact .none
    · rw [List.prefix_nil.mp ends]
      exact .begun
  | succeeded => exact two .succeeded cut
  | failed => exact two .failed cut
  | retried again _ ih =>
    rcases List.prefix_cons_iff.mp cut with rfl | ⟨rest, rfl, later⟩
    · exact .none
    · rcases List.prefix_cons_iff.mp later with rfl | ⟨ending, rfl, onward⟩
      · exact .begun
      · exact .retried again (ih onward)

end RetryLoop

/-- An event of the dashboard for a record of the gateway. -/
def Rendered (dep : Deployment) (run : Run) (record : AttemptRecord) (event : Web.TraceEvent Uuid) : Prop :=
  ∃ row, StoredFor dep (record.event dep run) row ∧ Displays row event

/-- The step of the run as a number of JavaScript. -/
def StepNumber (run : Run) (step : Nat) : Prop := double.round (run.currentStep : ℚ≥0) = some (step : ℚ≥0)

section Rendering
variable {run : Run} {record : AttemptRecord} {event : Web.TraceEvent Uuid} {tool : String} {number step : Nat}

theorem jsNumber_natCast {value number : Nat} (rounds : double.round (value : ℚ≥0) = some (number : ℚ≥0)) :
    jsNumber (.int value) = some (.finite (number : ℚ)) := by
  have nonneg : ¬ (value : Int) < 0 := by omega
  have size : floatOfInt value = .ok (.finite ((number : ℚ≥0) : ℚ)) := by
    rw [floatOfInt, Int.natAbs_natCast, rounds]
    simp only [if_neg nonneg]
  rw [jsNumber, size]
  simp

/-- A field of a record that is no text comes through unchanged. -/
theorem Rendered.attempt (rendered : Rendered dep run record event) {status : String} (named : tool ≠ "")
    (toolName : record.payload.lookup "tool_name" = some (.str tool))
    (attempt : record.payload.lookup "attempt" = some (.int number))
    (actionStep : record.payload.lookup "action_step" = some (.int run.currentStep)) (same : record.status = status)
    (stepNumber : StepNumber run step) (positive : 0 < number) (small : number + 1 < 2 ^ 53) :
    Web.IsAttempt record.eventType.value status ((step : Int), dep.redact tool) number event := by
  obtain ⟨row, stored, displays⟩ := rendered
  have field : ∀ key, isSensitiveKey dep.store.tables key = false → row.content.field key =
      (record.payload.lookup key).map fun item => sanitizePayload dep.store.tables dep.store.secretValues
        (sanitizePayload dep.store.tables dep.recorderSecrets item) := by
    intro key plain
    rw [stored.content]
    exact field_stored plain
  have kind : row.eventType = record.eventType := congrArg EventContent.eventType stored.content
  have unredacted : dep.redact tool ≠ "" := by
    rcases dep.redact_marked tool with unchanged | marked
    · rwa [unchanged]
    · intro empty
      rw [empty] at marked
      cases marked
  have shownTool : event.payload.toolName = some (dep.redact tool) := by
    rw [displays.toolName, field _ rfl, toolName]
    simp [sanitizePayload, Json.str?, Deployment.redact]
  have shownStep : event.payload.actionStep = some (.finite (step : ℚ)) := by
    rw [displays.actionStep run.currentStep (by rw [field _ rfl, actionStep]; simp [sanitizePayload])]
    exact jsNumber_natCast stepNumber
  have shownAttempt : event.payload.attempt = some (.finite (number : ℚ)) := by
    rw [displays.attempt number (by rw [field _ rfl, attempt]; simp [sanitizePayload])]
    exact jsNumber_natCast (double_natCast (by omega))
  refine ⟨by rw [displays.eventType, kind], ?_, ?_, ?_, small⟩
  · rw [displays.status, stored.status]
    exact same
  · simp [Web.logicalAction, shownTool, shownStep, unredacted]
  · simp [Web.attemptNumber, shownAttempt, positive]

theorem Rendered.spanId (rendered : Rendered dep run record event) : event.spanId = record.span := by
  obtain ⟨row, stored, displays⟩ := rendered
  rw [displays.spanId, stored.span record.span rfl]

theorem Rendered.schedules {delay : ℚ} (rendered : Rendered dep run record event) (status : record.status = "error")
    (transient : record.payload.lookup "transient" = some (.bool true))
    (delayed : record.payload.lookup "retry_delay_seconds" = some (.float (.finite delay))) (nonneg : 0 ≤ delay) :
    Web.schedules event = true := by
  obtain ⟨row, stored, displays⟩ := rendered
  have field : ∀ key, isSensitiveKey dep.store.tables key = false → row.content.field key =
      (record.payload.lookup key).map fun item => sanitizePayload dep.store.tables dep.store.secretValues
        (sanitizePayload dep.store.tables dep.recorderSecrets item) := by
    intro key plain
    rw [stored.content]
    exact field_stored plain
  refine Web.schedules_iff.mpr ⟨?_, ?_, delay, ?_, nonneg⟩
  · rw [displays.status, stored.status]
    exact status
  · rw [displays.transient, field _ rfl, transient]
    simp [sanitizePayload, Json.bool?]
  · exact displays.delay _ (by rw [field _ rfl, delayed]; simp [sanitizePayload])

end Rendering

namespace RetryLoop
variable {loop : RetryLoop} {number step : Nat} {records : List AttemptRecord} {events : List (Web.TraceEvent Uuid)}

/-- The action as the dashboard knows it. -/
def action (dep : Deployment) (loop : RetryLoop) (step : Nat) : Web.Action := ((step : Int), dep.redact loop.toolName)

theorem limit_le (loop : RetryLoop) : loop.limit ≤ maxToolAttempts := by
  unfold RetryLoop.limit Deployment.maxAttempts
  split
  · decide
  · exact loop.definition.attempts_range.2

/-- The attempt events of a loop reach the dashboard as such a chain of attempts. -/
theorem AttemptRecords.chain (attempts : loop.AttemptRecords number records)
    (rendered : List.Forall₂ (Rendered dep loop.run) records events) (named : loop.toolName ≠ "")
    (stepNumber : StepNumber loop.run step) (positive : 0 < number) (within : number ≤ loop.limit) :
    Web.AttemptChain (loop.action dep step) number events := by
  have few : maxToolAttempts + 1 < 2 ^ 53 := by decide
  have limit := loop.limit_le
  have starts : ∀ {number span event}, 0 < number → number ≤ loop.limit →
      Rendered dep loop.run (loop.started number span) event →
      Web.IsAttempt "tool.attempt.started" "ok" (loop.action dep step) number event :=
    fun positive within shown => shown.attempt named rfl rfl rfl rfl stepNumber positive (by omega)
  have fails : ∀ {number span error event}, 0 < number → number ≤ loop.limit →
      Rendered dep loop.run (loop.failed number span error) event →
      Web.IsAttempt "tool.attempt.failed" "error" (loop.action dep step) number event :=
    fun positive within shown => shown.attempt named rfl rfl rfl rfl stepNumber positive (by omega)
  induction attempts generalizing events with
  | none =>
    cases rendered
    exact .none
  | begun =>
    obtain _ | ⟨first, _ | _⟩ := rendered
    exact .begun (starts positive within first)
  | succeeded =>
    obtain _ | ⟨first, _ | ⟨second, _ | _⟩⟩ := rendered
    refine .succeeded (starts positive within first) ?_ ?_
    · exact second.attempt named rfl rfl rfl rfl stepNumber positive (by omega)
    · rw [first.spanId, second.spanId]
      rfl
  | failed =>
    obtain _ | ⟨first, _ | ⟨second, _ | _⟩⟩ := rendered
    exact .failed (starts positive within first) (fails positive within second)
  | @retried number span error rest again _ ih =>
    obtain _ | ⟨first, _ | ⟨second, others⟩⟩ := rendered
    have transient : (Deployment.attemptError error).2 = true := (Bool.and_eq_true_iff.mp again).1
    have left : loop.limit - number ≠ 0 := of_decide_eq_true (Bool.and_eq_true_iff.mp again).2
    have payload : (loop.failed number span error).payload = loop.payload number ++
        [("code", .str (Deployment.attemptError error).1), ("transient", .bool true),
          ("retry_delay_seconds", .float (.finite (loop.definition.delaySeconds number)))] := by
      have repeats : Deployment.retried error (loop.limit - number) = true := again
      simp [RetryLoop.failed, Deployment.failedAttemptPayload, repeats, transient, RetryLoop.payload]
    have nonneg : 0 ≤ loop.definition.delaySeconds number :=
      mul_nonneg loop.definition.delay_range.1 (pow_nonneg (by decide) _)
    refine .retried (starts positive within first) (fails positive within second) ?_
      (ih others (by omega) (by omega))
    exact second.schedules rfl (by rw [payload]; rfl) (by rw [payload]; rfl) nonneg

end RetryLoop

/-- A call of the gateway as far as one party got with it: to its end, or to wherever it was cut off. The step of
its run is within the range of a float. -/
structure CallRun (dep : Deployment) where
  party : Pid
  call : GatewayCall
  log : List OpMoment
  before : GatewayWorld
  after : GatewayWorld
  follows : dep.gateway.Follows party before log after
  begun : before.procs party = .ready (call.program dep)
  inRange : (double.round (call.run.currentStep : ℚ≥0)).isSome = true

def CallRun.attempts (made : CallRun dep) : List EventRow := (appendedRows made.log).filter (·.eventType.attempted)

/-- The attempts among the rows are those that the calls appended, one call after another. -/
def AppendedBy (calls : List (CallRun dep)) (rows : List EventRow) : Prop :=
  rows.filter (·.eventType.attempted) = calls.flatMap CallRun.attempts

theorem forall₂_trans {α β γ : Type} {R : α → β → Prop} {S : β → γ → Prop} {first : List α} {second : List β}
    {third : List γ} (left : List.Forall₂ R first second) (right : List.Forall₂ S second third) :
    List.Forall₂ (fun a c => ∃ b, R a b ∧ S b c) first third := by
  induction left generalizing third with
  | nil =>
    cases right
    exact .nil
  | cons related _ ih =>
    obtain _ | ⟨next, others⟩ := right
    exact .cons ⟨_, related, next⟩ (ih others)

/-- The attempts of one call reach the dashboard as a chain that begins with the first attempt. -/
theorem CallRun.chain (made : CallRun dep) {events : List (Web.TraceEvent Uuid)}
    (displayed : List.Forall₂ Displays made.attempts events) : ∃ action, Web.AttemptChain action 1 events := by
  have stored := appendedRows_stored made.follows.performed
  obtain ⟨rest, -, onward⟩ := made.follows.rest (congrArg Process.rest made.begun)
  obtain ⟨more, outcome, ends, possibleMore⟩ := exists_ends made.after.state rest
  have possible : Possible (made.log ++ more) := fun moment member =>
    (List.mem_append.mp member).elim (possible_of_performed made.follows.performed moment) (possibleMore moment)
  have lossy : RecorderFailed (made.log ++ more) → True := fun _ => trivial
  rcases ends_protocol (onward more outcome ends) possible lossy with
    ⟨preparing, -⟩ | ⟨definition, shown, body, result, registered, shows, -, protocol, -⟩
  · have silent : acts made.log = [] := by
      have none := preparing.acts
      rw [acts_append] at none
      exact (List.append_eq_nil_iff.mp none).1
    rw [silent] at stored
    have empty : appendedRows made.log = [] := List.forall₂_nil_left_iff.mp stored
    rw [CallRun.attempts, empty] at displayed
    cases displayed
    exact ⟨(0, ""), .none⟩
  · have whole : (acts (made.log ++ more)).filterMap Act.record? =
        (shown.filterMap Act.record?).map (AttemptRecord.event dep made.call.run) := by
      rw [show acts _ = _ from shows, List.filterMap_map, List.map_filterMap]
      refine List.filterMap_congr fun act _ => ?_
      cases act <;> rfl
    have cut : (acts made.log).filterMap Act.record? <+:
        (shown.filterMap Act.record?).map (AttemptRecord.event dep made.call.run) := by
      rw [← whole, acts_append, List.filterMap_append]
      exact List.prefix_append _ _
    obtain ⟨count, taken⟩ : ∃ count, (acts made.log).filterMap Act.record? =
        ((shown.filterMap Act.record?).take count).map (AttemptRecord.event dep made.call.run) :=
      ⟨_, by rw [List.map_take]; exact List.prefix_iff_eq_take.mp cut⟩
    rw [taken, List.forall₂_map_left_iff] at stored
    have attempted := List.rel_filter (p := fun record => record.eventType.attempted)
      (q := fun row => row.eventType.attempted) (fun record row related => by
        have kind : row.eventType = record.eventType := congrArg EventContent.eventType related.content
        exact iff_of_eq (congrArg (fun eventType => EventType.attempted eventType = true) kind.symm)) stored
    have attempts : (made.call.loop dep definition).AttemptRecords 1
        (((shown.filterMap Act.record?).take count).filter fun record => record.eventType.attempted) :=
      protocol.attemptRecords.cut ((List.take_prefix count _).filter _)
    have named : (made.call.loop dep definition).toolName ≠ "" := by
      have name : definition.name = (made.call.loop dep definition).toolName := ToolRegistry.get_name registered
      exact name ▸ definition.name_length.1
    obtain ⟨size, rounds⟩ := Option.isSome_iff_exists.mp made.inRange
    obtain ⟨step, rfl⟩ := FloatFormat.round_natCast_whole (by decide) (by decide) (by decide) rounds
    exact ⟨_, attempts.chain (forall₂_trans attempted displayed) named rounds one_pos
      (Nat.one_le_iff_ne_zero.mpr (limit_pos _))⟩

theorem chains_of_calls {calls : List (CallRun dep)} {events : List (Web.TraceEvent Uuid)}
    (displayed : List.Forall₂ Displays (calls.flatMap CallRun.attempts) events) :
    ∃ chains : List (List (Web.TraceEvent Uuid)), events = chains.flatten ∧
      ∀ chain ∈ chains, ∃ action, Web.AttemptChain action 1 chain := by
  induction calls generalizing events with
  | nil =>
    cases displayed
    exact ⟨[], rfl, fun _ member => absurd member List.not_mem_nil⟩
  | cons made rest ih =>
    rw [List.flatMap_cons] at displayed
    obtain ⟨action, chain⟩ := made.chain (List.forall₂_take_append events _ _ displayed.flip).flip
    obtain ⟨chains, split, each⟩ := ih (List.forall₂_drop_append events _ _ displayed.flip).flip
    refine ⟨events.take made.attempts.length :: chains, ?_, List.forall_mem_cons.mpr ⟨⟨action, chain⟩, each⟩⟩
    rw [List.flatten_cons, ← split, List.take_append_drop]

/-- The marks of a trace that gateway calls wrote one after another are exactly its later attempts. -/
theorem gateway_marks_exact {calls : List (CallRun dep)} {rows : List EventRow} {responses : List TraceEventResponse}
    (appended : AppendedBy calls rows) (shown : Shown rows responses) :
    (Web.attemptSemantics (responses.map displayed)).Exact (responses.map displayed) := by
  have displaying : List.Forall₂ Displays rows (responses.map displayed) :=
    List.forall₂_map_right_iff.mpr (shown.imp fun _ _ done => displays done)
  have attempted := List.rel_filter (p := fun row => row.eventType.attempted) (q := Web.isAttempt)
    (fun row event related => by
      have kind := attempted_iff row.eventType
      rw [← related.eventType] at kind
      exact kind.trans decide_eq_true_iff.symm) displaying
  rw [appended] at attempted
  obtain ⟨chains, split, each⟩ := chains_of_calls attempted
  exact Web.attemptSemantics_exact split each

/-- A recovery is marked for a retry that was scheduled, began and succeeded only, and what calls of the gateway
wrote one after another is marked exactly. -/
theorem attempt_marks_faithful {calls : List (CallRun dep)} {rows : List EventRow} {responses : List TraceEventResponse}
    (appended : AppendedBy calls rows) (shown : Shown rows responses) :
    (∀ (ι : Type) [DecidableEq ι] (events : List (Web.TraceEvent ι)), ∀ id ∈ (Web.attemptSemantics events).recoveries,
        Web.RecoveredIn (Web.attemptSemantics events).retries events id) ∧
      (∀ prior attempt : Nat, prior + 1 < 2 ^ 53 → (Web.follows prior attempt = true ↔ attempt = prior + 1)) ∧
      (∀ id, id ∈ (Web.attemptSemantics (responses.map displayed)).retries ↔
        Web.LaterAttempt "tool.attempt.started" (responses.map displayed) id) ∧
      ∀ id, id ∈ (Web.attemptSemantics (responses.map displayed)).recoveries ↔
        Web.LaterAttempt "tool.attempt.succeeded" (responses.map displayed) id := by
  have exact := gateway_marks_exact appended shown
  exact ⟨fun ι _ events => (Web.attemptSemantics_sound events).recoveries, fun prior attempt => Web.follows_iff,
    exact.retries, exact.recoveries⟩

def shownRows (rows : List EventRow) : Option (List TraceEventResponse) :=
  match rows.mapM traceResponse with
  | .ok responses => some responses
  | .error _ => none

theorem shownRows_shown {rows : List EventRow} {responses : List TraceEventResponse}
    (done : shownRows rows = some responses) : Shown rows responses := by
  have whole : rows.mapM traceResponse = .ok responses := by
    unfold shownRows at done
    split at done
    · rename_i other same
      rw [same, Option.some.inj done]
    · cases done
  clear done
  induction rows generalizing responses with
  | nil =>
    cases whole
    exact .nil
  | cons row rest ih =>
    rw [List.mapM_cons] at whole
    cases first : traceResponse row with
    | error error =>
      rw [first] at whole
      cases whole
    | ok response =>
      cases later : rest.mapM traceResponse with
      | error error =>
        rw [first, later] at whole
        cases whole
      | ok others =>
        rw [first, later] at whole
        cases whole
        exact .cons first (ih later)

/-- An injected timeout, a retry and its recovery. -/
theorem attempt_marks_faithful_retry : ∃ (made : CallRun (demoHandlers true)) (responses : List TraceEventResponse),
    Shown (appendedRows made.log) responses ∧
      (Web.attemptSemantics (responses.map displayed)).recoveries.length = 1 ∧
      ∀ id, id ∈ (Web.attemptSemantics (responses.map displayed)).recoveries ↔
        Web.LaterAttempt "tool.attempt.succeeded" (responses.map displayed) id := by
  obtain ⟨w, log, v, follows, begun, checked⟩ := demoCall_follows demoRetry true (.ok (demoState "done")) 12
    (fun found => (shownRows (appendedRows found.1)).any fun responses =>
      (Web.attemptSemantics (responses.map displayed)).recoveries.length = 1) (by decide +kernel)
  obtain ⟨responses, done, one⟩ := (Option.any_eq_true _ _).mp checked
  have shown := shownRows_shown done
  let made : CallRun (demoHandlers true) := ⟨0, demoRetry, log, w, v, follows, begun, by decide +kernel⟩
  have appended : AppendedBy [made] (appendedRows log) := (List.append_nil _).symm
  exact ⟨made, responses, shown, of_decide_eq_true one, (attempt_marks_faithful appended shown).2.2.2⟩

/-- A failure without an attempt number stands between a retry and its success. -/
def unnumberedTrace : List (Web.TraceEvent Nat) :=
  [⟨0, 10, "tool.attempt.failed", "error", ⟨some "search", some (.finite 1), some (.finite 0), some true, some (.finite 0)⟩⟩,
    ⟨1, 11, "tool.attempt.started", "ok", ⟨some "search", some (.finite 2), some (.finite 0), none, none⟩⟩,
    ⟨2, 12, "tool.attempt.failed", "error", ⟨some "search", none, some (.finite 0), some false, none⟩⟩,
    ⟨3, 11, "tool.attempt.succeeded", "ok", ⟨some "search", some (.finite 2), some (.finite 0), none, none⟩⟩]

/-- The loop passes over it, so the success is marked although it is of the same step and tool. -/
theorem recovery_across_unnumbered : 3 ∈ (Web.attemptSemantics unnumberedTrace).recoveries ∧
    ¬ ∃ before started between succeeded after, unnumberedTrace = before ++ started :: between ++ succeeded :: after ∧
      started.eventType = "tool.attempt.started" ∧ succeeded.id = 3 ∧
      ∀ event ∈ between, Web.logicalAction event = Web.logicalAction succeeded → event.eventType ∉ Web.attemptKinds := by
  refine ⟨by decide +kernel, ?_⟩
  rintro ⟨before, started, between, succeeded, after, split, starts, third, silent⟩
  rw [List.append_assoc] at split
  unfold unnumberedTrace at split
  rcases before with _ | ⟨a, before⟩
  · cases (List.cons.inj split).1
    simp at starts
  · have tail := (List.cons.inj split).2
    rcases before with _ | ⟨b, before⟩
    · have rest := (List.cons.inj tail).2
      rcases between with _ | ⟨c, between⟩
      · cases (List.cons.inj rest).1
        simp at third
      · obtain ⟨rfl, last⟩ := List.cons.inj rest
        have quiet := silent _ List.mem_cons_self
        rcases between with _ | ⟨d, between⟩
        · cases (List.cons.inj last).1
          exact quiet (by decide +kernel) (by decide)
        · have impossible := congrArg List.length (List.cons.inj last).2
          simp at impossible
    · have rest := (List.cons.inj tail).2
      have kinds : ∀ event ∈ (unnumberedTrace.drop 2), event.eventType ≠ "tool.attempt.started" := by decide
      have member : started ∈ unnumberedTrace.drop 2 := by
        rw [show unnumberedTrace.drop 2 = _ from rest]
        simp
      exact kinds started member starts

end ReliabilityLab
