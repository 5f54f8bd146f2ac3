import ReliabilityLab.Foundation.Dialogue
import ReliabilityLab.Runtime.Invocations

namespace ReliabilityLab

/-- An event as the gateway hands it to its recorder, before the sanitizer. -/
structure AttemptRecord where
  eventType : EventType
  payload : Dict
  span : Uuid
  status : String

def AttemptRecord.event (dep : Deployment) (run : Run) (record : AttemptRecord) : TraceEvent :=
  buildEvent dep run.traceId record.eventType (.obj record.payload) (some record.span) record.status

/-- What a call does that its trace, its handler or its clock can tell. -/
inductive Act (ρ : Type) where
  | recorded (record : ρ)
  | handled (answer : Except Exn Json)
  | slept (seconds : ℚ) (answer : Except Exn Unit)

def Act.map {ρ σ : Type} (f : ρ → σ) : Act ρ → Act σ
  | .recorded record => .recorded (f record)
  | .handled answer => .handled answer
  | .slept seconds answer => .slept seconds answer

/-- An event counts when the recorder took it. -/
def Op.act : (op : Op) → op.Answer → Option (Act TraceEvent)
  | .appendEvent event, .ok () => some (.recorded event)
  | .invokeHandler _, answer => some (.handled answer)
  | .sleep seconds, answer => some (.slept seconds answer)
  | _, _ => none

def Op.drawnUuid : (op : Op) → op.Answer → Option Uuid
  | .uuid4, answer => some answer
  | _, _ => none

abbrev OpMoment := Moment Op Op.Answer SystemState

def acts (log : List OpMoment) : List (Act TraceEvent) := log.filterMap fun moment => moment.op.act moment.answer

def drawnUuids (log : List OpMoment) : List Uuid := log.filterMap fun moment => moment.op.drawnUuid moment.answer

/-- The recorder failed at some event. -/
def RecorderFailed (log : List OpMoment) : Prop :=
  ∃ event error before after, (⟨.appendEvent event, before, .error error, after⟩ : OpMoment) ∈ log

/-- A sleep ends or is cancelled, and a transaction is never cancelled. -/
def Op.possible : (op : Op) → op.Answer → Prop
  | .sleep _, answer => answer = .ok () ∨ answer = .error .cancelled
  | .appendEvent _, answer => ∀ error, answer = .error error → error = .valueError ∨ error = .database
  | _, _ => True

def Possible (log : List OpMoment) : Prop := ∀ moment ∈ log, moment.op.possible moment.answer

@[simp] theorem acts_append (first later : List OpMoment) : acts (first ++ later) = acts first ++ acts later :=
  List.filterMap_append

@[simp] theorem drawnUuids_append (first later : List OpMoment) :
    drawnUuids (first ++ later) = drawnUuids first ++ drawnUuids later := List.filterMap_append

theorem Possible.left {first later : List OpMoment} (possible : Possible (first ++ later)) : Possible first :=
  fun moment member => possible moment (List.mem_append_left later member)

theorem Possible.right {first later : List OpMoment} (possible : Possible (first ++ later)) : Possible later :=
  fun moment member => possible moment (List.mem_append_right first member)

theorem RecorderFailed.left {first : List OpMoment} (failed : RecorderFailed first) (later : List OpMoment) :
    RecorderFailed (first ++ later) := by
  obtain ⟨event, error, before, after, member⟩ := failed
  exact ⟨event, error, before, after, List.mem_append_left later member⟩

theorem RecorderFailed.right {later : List OpMoment} (failed : RecorderFailed later) (first : List OpMoment) :
    RecorderFailed (first ++ later) := by
  obtain ⟨event, error, before, after, member⟩ := failed
  exact ⟨event, error, before, after, List.mem_append_right first member⟩

/-- What the attempts of one retry loop are about. -/
structure RetryLoop where
  run : Run
  toolName : String
  definition : ToolDefinition
  plan : FaultPlan

namespace RetryLoop
variable (loop : RetryLoop)

def payload (number : Nat) : Dict := Deployment.attemptPayload loop.run loop.toolName number

def limit : Nat := Deployment.maxAttempts loop.run loop.definition

def started (number : Nat) (span : Uuid) : AttemptRecord := ⟨.toolAttemptStarted, loop.payload number, span, "ok"⟩

def faultInjected (fault : FaultEvent) (span : Uuid) : AttemptRecord :=
  ⟨.faultInjected, Dict.set fault.modelDump "action_step" (.int loop.run.currentStep), span, "error"⟩

def validationFailed (number : Nat) (span : Uuid) : AttemptRecord :=
  ⟨.toolOutputValidationFailed, loop.payload number ++ [("code", .str "invalid_output"), ("source", .str "output_model")],
    span, "error"⟩

def succeeded (number : Nat) (span : Uuid) (output : Json) : AttemptRecord :=
  ⟨.toolAttemptSucceeded, loop.payload number ++ [("output", Deployment.traceableOutput output)], span, "ok"⟩

def cancelled (number : Nat) (span : Uuid) : AttemptRecord := ⟨.toolAttemptCancelled, loop.payload number, span, "error"⟩

/-- A failed attempt is tried again while attempts are left and the error is transient. -/
def retries (number : Nat) (error : Exn) : Bool := Deployment.retried error (loop.limit - number)

def failed (number : Nat) (span : Uuid) (error : Exn) : AttemptRecord :=
  ⟨.toolAttemptFailed, Deployment.failedAttemptPayload loop.run loop.toolName loop.definition number error
    (loop.limit - number), span, "error"⟩

def retryCancelled (number : Nat) (span : Uuid) : AttemptRecord :=
  ⟨.toolRetryCancelled, [("tool_name", .str loop.toolName), ("after_attempt", .int number)], span, "error"⟩

/-- What an attempt gets to validate: a planned fault, or the answer of the handler. -/
inductive Raw (faulty : Prop) (number : Nat) (span : Uuid) : List (Act AttemptRecord) → Except Exn Json → Prop
  | injected {fault} : loop.plan.faultFor loop.toolName number = some fault → fault.kind ≠ .malformedOutput →
      Raw faulty number span [.recorded (loop.faultInjected fault span)] (.error (.toolError (faultCode fault.kind) true))
  | malformed {fault} : loop.plan.faultFor loop.toolName number = some fault → fault.kind = .malformedOutput →
      Raw faulty number span [.recorded (loop.faultInjected fault span)] (.ok Deployment.malformedOutput)
  | handled (answer : Except Exn Json) : loop.plan.faultFor loop.toolName number = none →
      Raw faulty number span [.handled answer] answer
  | unrecorded {error : Exn} : faulty → error = .valueError ∨ error = .database → Raw faulty number span [] (.error error)

/-- One attempt between its first and its last event. -/
inductive Body (faulty : Prop) (number : Nat) (span : Uuid) : List (Act AttemptRecord) → Except Exn Json → Prop
  | raised {middle error} : loop.Raw faulty number span middle (.error error) →
      Body faulty number span middle (.error error)
  | accepted {middle raw output} : loop.Raw faulty number span middle (.ok raw) →
      loop.definition.outputModel raw = .accepted output → Body faulty number span middle (.ok output)
  | rejected {middle raw} : loop.Raw faulty number span middle (.ok raw) →
      loop.definition.outputModel raw = .rejected →
      Body faulty number span (middle ++ [.recorded (loop.validationFailed number span)])
        (.error (.toolError "invalid_output" false))
  | unserializable {middle raw} : loop.Raw faulty number span middle (.ok raw) →
      loop.definition.outputModel raw = .unserializable →
      Body faulty number span middle (.error (.other "PydanticSerializationError"))
  | unrecorded {middle raw error} : loop.Raw faulty number span middle (.ok raw) →
      loop.definition.outputModel raw = .rejected → faulty → error = .valueError ∨ error = .database →
      Body faulty number span middle (.error error)

/-- The attempts from `number` on, with their spans and with the result of the loop. The last three
rules are for a recorder that failed. -/
inductive Protocol (faulty : Prop) : Nat → List Uuid → List (Act AttemptRecord) → Except Exn ToolCallResult → Prop
  | succeeded {number span middle output} : loop.Body faulty number span middle (.ok output) →
      Protocol faulty number [span] (.recorded (loop.started number span) :: middle ++
        [.recorded (loop.succeeded number span output)]) (.ok (.succeeded output number false))
  | cancelled {number span middle} : loop.Body faulty number span middle (.error .cancelled) →
      Protocol faulty number [span] (.recorded (loop.started number span) :: middle ++
        [.recorded (loop.cancelled number span)]) (.error .cancelled)
  | failed {number span middle error} : loop.Body faulty number span middle (.error error) → error ≠ .cancelled →
      loop.retries number error = false →
      Protocol faulty number [span] (.recorded (loop.started number span) :: middle ++
        [.recorded (loop.failed number span error)])
        (.ok (.failed (Deployment.attemptError error).1 number (Deployment.attemptError error).2))
  | retried {number span middle error spans rest outcome} : loop.Body faulty number span middle (.error error) →
      error ≠ .cancelled → loop.retries number error = true → Protocol faulty (number + 1) spans rest outcome →
      Protocol faulty number (span :: spans) (.recorded (loop.started number span) :: middle ++
        [.recorded (loop.failed number span error), .slept (loop.definition.delaySeconds number) (.ok ())] ++ rest) outcome
  | interrupted {number span middle error other} : loop.Body faulty number span middle (.error error) →
      error ≠ .cancelled → loop.retries number error = true →
      Protocol faulty number [span, other] (.recorded (loop.started number span) :: middle ++
        [.recorded (loop.failed number span error), .slept (loop.definition.delaySeconds number) (.error .cancelled),
          .recorded (loop.retryCancelled number other)]) (.error .cancelled)
  | unstarted {number span error} : faulty → Protocol faulty number [span] [] (.error error)
  | unended {number span middle result error} : faulty → loop.Body faulty number span middle result →
      Protocol faulty number [span] (.recorded (loop.started number span) :: middle) (.error error)
  | unreported {number span middle error other late} : faulty → loop.Body faulty number span middle (.error error) →
      error ≠ .cancelled → loop.retries number error = true →
      Protocol faulty number [span, other] (.recorded (loop.started number span) :: middle ++
        [.recorded (loop.failed number span error), .slept (loop.definition.delaySeconds number) (.error .cancelled)]) (.error late)

end RetryLoop

variable {dep : Deployment} {loop : RetryLoop} {log : List OpMoment} {faulty : Prop} {number span : Nat}

/-- These acts, with their events built for the trace. -/
abbrev Shows (dep : Deployment) (run : Run) (log : List OpMoment) (shown : List (Act AttemptRecord)) : Prop :=
  acts log = shown.map (Act.map (AttemptRecord.event dep run))

/-- One event, taken by the recorder or lost with an exception. -/
theorem recordAttempt_ends {run : Run} {outcome : Except Exn Unit} (record : AttemptRecord)
    (ends : (dep.recordAttempt run record.eventType record.payload record.span record.status).Ends log outcome)
    (possible : Possible log) : drawnUuids log = [] ∧
      ((outcome = .ok () ∧ Shows dep run log [.recorded record]) ∨ ∃ error, outcome = .error error ∧
        Shows dep run log [] ∧ RecorderFailed log ∧ (error = .valueError ∨ error = .database)) := by
  obtain ⟨before, answer, after, rfl, rfl⟩ := ends.of_ask
  have given := possible _ List.mem_cons_self
  refine ⟨rfl, ?_⟩
  cases outcome with
  | ok value => exact .inl ⟨rfl, rfl⟩
  | error error => exact .inr ⟨error, rfl, rfl, ⟨_, error, before, after, List.mem_cons_self⟩, given error rfl⟩

/-- An event, and what follows when the recorder took it. -/
theorem recordAttempt_then {β : Type} {run : Run} {k : Unit → Prog β} {outcome : Except Exn β} (record : AttemptRecord)
    (ends : ((dep.recordAttempt run record.eventType record.payload record.span record.status).bind k).Ends log outcome)
    (possible : Possible log) :
    (∃ first later, log = first ++ later ∧ drawnUuids first = [] ∧ Shows dep run first [.recorded record] ∧
        (k ()).Ends later outcome) ∨
      ∃ error, outcome = .error error ∧ drawnUuids log = [] ∧ Shows dep run log [] ∧ RecorderFailed log ∧
        (error = .valueError ∨ error = .database) := by
  rcases ends.of_bind with ⟨value, first, later, recording, rest, rfl⟩ | ⟨error, recording, rfl⟩
  · obtain ⟨undrawn, ⟨-, shows⟩ | ⟨error, same, -⟩⟩ := recordAttempt_ends record recording possible.left
    · exact .inl ⟨first, later, rfl, undrawn, shows, rest⟩
    · cases same
  · obtain ⟨undrawn, ⟨same, -⟩ | ⟨error, same, shows, lost, kind⟩⟩ := recordAttempt_ends record recording possible
    · cases same
    · cases same
      exact .inr ⟨error, rfl, undrawn, shows, lost, kind⟩

theorem Shows.append {run : Run} {first later : List OpMoment} {shown more : List (Act AttemptRecord)}
    (left : Shows dep run first shown) (right : Shows dep run later more) :
    Shows dep run (first ++ later) (shown ++ more) := by
  simp only [Shows, acts_append, List.map_append] at left right ⊢
  rw [left, right]

theorem rawOutput_ends {action : CallToolAction} {input : Dict} {context : ToolExecutionContext}
    {outcome : Except Exn Json} (tool : loop.toolName = action.toolName)
    (ends : (dep.rawOutput loop.run action loop.definition input context loop.plan span number).Ends log outcome)
    (possible : Possible log) (failing : RecorderFailed log → faulty) :
    drawnUuids log = [] ∧ ∃ middle, Shows dep loop.run log middle ∧ loop.Raw faulty number span middle outcome := by
  unfold Deployment.rawOutput at ends
  rw [← tool] at ends
  split at ends
  · rename_i fault planned
    rcases recordAttempt_then (loop.faultInjected fault span) ends possible with
      ⟨first, later, rfl, undrawn, shows, rest⟩ | ⟨error, rfl, undrawn, shows, lost, kind⟩
    · split at rest
      · rename_i malformed
        obtain ⟨rfl, rfl⟩ := rest.of_ret
        exact ⟨by simpa using undrawn, _, by simpa using shows, .malformed planned malformed⟩
      · rename_i genuine
        obtain ⟨rfl, rfl⟩ := rest.of_raise
        exact ⟨by simpa using undrawn, _, by simpa using shows, .injected planned genuine⟩
    · exact ⟨undrawn, _, shows, .unrecorded (failing lost) kind⟩
  · rename_i unplanned
    obtain ⟨before, answer, after, rfl, rfl⟩ := ends.of_ask
    exact ⟨rfl, [.handled outcome], rfl, .handled outcome unplanned⟩

theorem attemptOutput_ends {action : CallToolAction} {input : Dict} {context : ToolExecutionContext}
    {outcome : Except Exn Json} (tool : loop.toolName = action.toolName)
    (ends : (dep.attemptOutput loop.run action loop.definition input context loop.plan span number).Ends log outcome)
    (possible : Possible log) (failing : RecorderFailed log → faulty) :
    drawnUuids log = [] ∧ ∃ middle, Shows dep loop.run log middle ∧ loop.Body faulty number span middle outcome := by
  rcases ends.of_bind with ⟨raw, first, later, getting, rest, rfl⟩ | ⟨error, getting, rfl⟩
  · obtain ⟨undrawn, middle, shows, given⟩ := rawOutput_ends tool getting possible.left fun lost =>
      failing (lost.left later)
    split at rest
    · rename_i output accepted
      obtain ⟨rfl, rfl⟩ := rest.of_ret
      exact ⟨by simpa using undrawn, middle, by simpa using shows, .accepted given accepted⟩
    · rename_i rejected
      rw [← tool] at rest
      rcases recordAttempt_then (loop.validationFailed number span) rest possible.right with
        ⟨second, last, rfl, none, reports, raising⟩ | ⟨error, rfl, none, silent, lost, kind⟩
      · obtain ⟨rfl, rfl⟩ := raising.of_raise
        exact ⟨by simp [undrawn, none], _, shows.append (by simpa using reports), .rejected given rejected⟩
      · refine ⟨by simp [undrawn, none], middle, ?_, .unrecorded given rejected (failing (lost.right first)) kind⟩
        simpa using shows.append silent
    · rename_i unserializable
      obtain ⟨rfl, rfl⟩ := rest.of_raise
      exact ⟨by simpa using undrawn, middle, by simpa using shows, .unserializable given unserializable⟩
  · obtain ⟨undrawn, middle, shows, given⟩ := rawOutput_ends tool getting possible failing
    exact ⟨undrawn, middle, shows, .raised given⟩

/-- How the wait before the next attempt ends. -/
theorem backoff_ends {outcome : Except Exn Unit}
    (ends : (dep.backoff loop.run loop.toolName loop.definition number).Ends log outcome) (possible : Possible log) :
    outcome = .ok () ∧ drawnUuids log = [] ∧
        Shows dep loop.run log [.slept (loop.definition.delaySeconds number) (.ok ())] ∨
      ∃ other error, outcome = .error error ∧ drawnUuids log = [other] ∧
        (error = .cancelled ∧ Shows dep loop.run log [.slept (loop.definition.delaySeconds number) (.error .cancelled),
            .recorded (loop.retryCancelled number other)] ∨
          RecorderFailed log ∧ Shows dep loop.run log [.slept (loop.definition.delaySeconds number) (.error .cancelled)]) := by
  obtain ⟨slept, first, later, sleeping, rest, rfl⟩ := ends.of_attempt_bind
  obtain ⟨before, answer, after, rfl, rfl⟩ := sleeping.of_ask
  rcases possible _ List.mem_cons_self with done | stopped
  · cases done
    obtain ⟨rfl, rfl⟩ := rest.of_ret
    exact .inl ⟨rfl, rfl, rfl⟩
  · cases stopped
    obtain ⟨here, other, there, last, rfl, further⟩ := rest.of_perform
    have possibleWoken : Possible (_ :: last) := possible.right
    have possibleLast : Possible last := fun moment member => possibleWoken moment (List.mem_cons_of_mem _ member)
    refine .inr ⟨other, ?_⟩
    rcases recordAttempt_then (loop.retryCancelled number other) further possibleLast with
      ⟨second, final, rfl, none, reports, raising⟩ | ⟨error, rfl, none, silent, lost, -⟩
    · obtain ⟨rfl, rfl⟩ := raising.of_raise
      rw [List.append_nil]
      exact ⟨_, rfl, congrArg (other :: ·) none, .inl ⟨rfl, congrArg (_ :: ·) reports⟩⟩
    · exact ⟨_, rfl, congrArg (other :: ·) none, .inr ⟨lost.right [_, _], congrArg (_ :: ·) silent⟩⟩

/-- The retry loop keeps to the protocol, whatever its handler, its clock and its recorder do. -/
theorem attempts_ends {action : CallToolAction} {input : Dict} {context : ToolExecutionContext} {left : Nat}
    {outcome : Except Exn ToolCallResult} (tool : loop.toolName = action.toolName) (some_left : left ≠ 0)
    (limit : number + left = loop.limit + 1)
    (ends : (dep.attempts loop.run action loop.definition input context loop.plan left number).Ends log outcome)
    (possible : Possible log) (failing : RecorderFailed log → faulty) :
    ∃ shown, Shows dep loop.run log shown ∧ loop.Protocol faulty number (drawnUuids log) shown outcome := by
  induction left generalizing number log with
  | zero => exact absurd rfl some_left
  | succ left ih =>
    have remaining : loop.limit - number = left := by omega
    unfold Deployment.attempts at ends
    rw [← tool] at ends
    obtain ⟨here, span, there, drawnLog, rfl, starting⟩ := ends.of_perform
    have possibleDrawn : Possible drawnLog := fun moment member => possible moment (List.mem_cons_of_mem _ member)
    have failingDrawn : RecorderFailed drawnLog → faulty := fun lost => failing (lost.right [_])
    suffices protocol : ∃ shown spans, Shows dep loop.run drawnLog shown ∧ drawnUuids drawnLog = spans ∧
        loop.Protocol faulty number (span :: spans) shown outcome by
      obtain ⟨shown, spans, shows, rfl, protocol⟩ := protocol
      exact ⟨shown, shows, protocol⟩
    rcases recordAttempt_then (loop.started number span) starting possibleDrawn with
      ⟨first, later, rfl, undrawn, begins, trying⟩ | ⟨error, rfl, undrawn, silent, lost, -⟩
    · obtain ⟨result, body, closing, attempted, ending, rfl⟩ := trying.of_attempt_bind
      have possibleBody : Possible body := possibleDrawn.right.left
      have possibleEnd : Possible closing := possibleDrawn.right.right
      obtain ⟨none, middle, shows, given⟩ := attemptOutput_ends tool attempted possibleBody fun lost =>
        failingDrawn ((lost.left closing).right first)
      have unended : ∀ error, outcome = .error error → drawnUuids closing = [] → Shows dep loop.run closing [] →
          RecorderFailed closing → ∃ shown spans, Shows dep loop.run (first ++ (body ++ closing)) shown ∧
            drawnUuids (first ++ (body ++ closing)) = spans ∧ loop.Protocol faulty number (span :: spans) shown outcome := by
        rintro error rfl undrawnEnd silent lost
        refine ⟨_, [], begins.append (shows.append silent), by simp [undrawn, none, undrawnEnd], ?_⟩
        rw [List.append_nil]
        exact .unended (failingDrawn ((lost.right body).right first)) given
      cases result with
      | ok output =>
        rcases recordAttempt_then (loop.succeeded number span output) ending possibleEnd with
          ⟨last, rest, rfl, undrawnEnd, reports, returning⟩ | ⟨error, same, undrawnEnd, silent, lost, -⟩
        · obtain ⟨rfl, rfl⟩ := returning.of_ret
          rw [List.append_nil]
          exact ⟨_, [], begins.append (shows.append reports), by simp [undrawn, none, undrawnEnd], .succeeded given⟩
        · exact unended error same undrawnEnd silent lost
      | error error =>
        dsimp only at ending
        split at ending
        · rename_i cancelled
          subst cancelled
          rcases recordAttempt_then (loop.cancelled number span) ending possibleEnd with
            ⟨last, rest, rfl, undrawnEnd, reports, raising⟩ | ⟨error, same, undrawnEnd, silent, lost, -⟩
          · obtain ⟨rfl, rfl⟩ := raising.of_raise
            rw [List.append_nil]
            exact ⟨_, [], begins.append (shows.append reports), by simp [undrawn, none, undrawnEnd], .cancelled given⟩
          · exact unended error same undrawnEnd silent lost
        · rename_i uncancelled
          rw [← remaining] at ending
          rcases recordAttempt_then (loop.failed number span error) ending possibleEnd with
            ⟨last, rest, rfl, undrawnEnd, reports, deciding⟩ | ⟨late, same, undrawnEnd, silent, lost, -⟩
          · have before := begins.append (shows.append reports)
            split at deciding
            · rename_i again
              rw [remaining] at deciding
              rw [← List.append_assoc body last rest, ← List.append_assoc first]
              have possibleRest : Possible rest := possibleEnd.right
              have failingRest : RecorderFailed rest → faulty := fun lost =>
                failingDrawn (((lost.right last).right body).right first)
              rcases deciding.of_bind with ⟨value, pause, more, waiting, going, rfl⟩ | ⟨late, waiting, rfl⟩
              · rcases backoff_ends waiting possibleRest.left with ⟨-, undrawnWait, waits⟩ | ⟨_, _, same, -⟩
                · have some_more : left ≠ 0 := by
                    intro none_left
                    simp [Deployment.retried, remaining, none_left] at again
                  obtain ⟨shown, onward, protocol⟩ := ih some_more (by omega) going possibleRest.right fun lost =>
                    failingRest (lost.right pause)
                  refine ⟨_, drawnUuids more, before.append (waits.append onward),
                    by simp [undrawn, none, undrawnEnd, undrawnWait], ?_⟩
                  have whole := RetryLoop.Protocol.retried given uncancelled again protocol
                  simpa using whole
                · cases same
              · rcases backoff_ends waiting possibleRest with ⟨same, -⟩ | ⟨other, stop, same, drew, stopping⟩
                · cases same
                · cases same
                  have drawn : drawnUuids (first ++ (body ++ last) ++ rest) = [other] := by
                    simp [undrawn, none, undrawnEnd, drew]
                  rcases stopping with ⟨rfl, reported⟩ | ⟨lost, silent⟩
                  · refine ⟨_, [other], before.append reported, drawn, ?_⟩
                    have whole : loop.Protocol faulty number [span, other] _ _ := .interrupted given uncancelled again
                    simpa using whole
                  · refine ⟨_, [other], before.append silent, drawn, ?_⟩
                    have whole : loop.Protocol faulty number [span, other] _ (.error late) :=
                      .unreported (failingRest lost) given uncancelled again
                    simpa using whole
            · rename_i final
              obtain ⟨rfl, rfl⟩ := deciding.of_ret
              rw [List.append_nil]
              exact ⟨_, [], before, by simp [undrawn, none, undrawnEnd],
                .failed given uncancelled (Bool.eq_false_iff.mpr final)⟩
          · exact unended late same undrawnEnd silent lost
    · exact ⟨[], [], silent, undrawn, .unstarted (failingDrawn lost)⟩

end ReliabilityLab
