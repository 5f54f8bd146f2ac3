import ReliabilityLab.Runtime.AloneOperations
import ReliabilityLab.Runtime.ToolOutcome

namespace ReliabilityLab

def attemptMark (eventType : EventType) (step : Nat) (tool : String) (number : Nat) : TraceMark :=
  ⟨eventType, some (.int step), some (.str tool), some (.int number), none⟩

def faultMark (step : Nat) (fault : FaultEvent) : TraceMark :=
  ⟨.faultInjected, some (.int step), some (.str fault.toolName), some (.int fault.attempt), some (.str fault.kind.value)⟩

/-- The events of a failed attempt. -/
def failedMarks (step : Nat) (tool : String) (number : Nat) (fault : FaultEvent) : List TraceMark :=
  [attemptMark .toolAttemptStarted step tool number, faultMark step fault,
    attemptMark .toolAttemptFailed step tool number]

/-- What a call leaves in the trace and what it comes to, where its handler answers with `output`:
with `left` attempts to go. -/
def scriptedAttempts (plan : FaultPlan) (step : Nat) (tool : String) (output : Json) :
    Nat → Nat → List TraceMark × ToolCallResult
  | 0, number => ([], .failed "" number false)
  | left + 1, number =>
    match plan.faultFor tool number with
    | none =>
      ([attemptMark .toolAttemptStarted step tool number, attemptMark .toolAttemptSucceeded step tool number],
        .succeeded output number false)
    | some fault =>
      if fault.transient && left ≠ 0 then
        let later := scriptedAttempts plan step tool output left (number + 1)
        (failedMarks step tool number fault ++ later.1, later.2)
      else (failedMarks step tool number fault, .failed fault.code number fault.transient)

section Script
variable {plan : FaultPlan} {step number left : Nat} {tool : String} {output : Json} {fault : FaultEvent}

theorem scriptedAttempts_free (free : plan.faultFor tool number = none) :
    scriptedAttempts plan step tool output (left + 1) number =
      ([attemptMark .toolAttemptStarted step tool number, attemptMark .toolAttemptSucceeded step tool number],
        .succeeded output number false) := by
  rw [scriptedAttempts, free]

theorem scriptedAttempts_retried (chosen : plan.faultFor tool number = some fault)
    (again : (fault.transient && left ≠ 0) = true) : scriptedAttempts plan step tool output (left + 1) number =
      (failedMarks step tool number fault ++ (scriptedAttempts plan step tool output left (number + 1)).1,
        (scriptedAttempts plan step tool output left (number + 1)).2) := by
  rw [scriptedAttempts, chosen]
  exact if_pos again

theorem scriptedAttempts_failed (chosen : plan.faultFor tool number = some fault)
    (spent : ¬ (fault.transient && left ≠ 0) = true) : scriptedAttempts plan step tool output (left + 1) number =
      (failedMarks step tool number fault, .failed fault.code number fault.transient) := by
  rw [scriptedAttempts, chosen]
  exact if_neg spent

theorem scriptedAttempts_succeeded {marks : List TraceMark} {returned : Json} {count : Nat} {cached : Bool}
    (script : scriptedAttempts plan step tool output left number = (marks, .succeeded returned count cached)) :
    returned = output ∧ count < number + left := by
  induction left generalizing number marks with
  | zero => simp [scriptedAttempts] at script
  | succ left ih =>
    cases chosen : plan.faultFor tool number with
    | none =>
      rw [scriptedAttempts_free chosen] at script
      cases script
      exact ⟨rfl, by omega⟩
    | some fault =>
      by_cases again : (fault.transient && left ≠ 0) = true
      · rw [scriptedAttempts_retried chosen again] at script
        obtain ⟨-, last⟩ := Prod.mk.inj script
        obtain ⟨same, bound⟩ := ih (Prod.ext rfl last)
        exact ⟨same, by omega⟩
      · rw [scriptedAttempts_failed chosen again] at script
        cases script

end Script

/-- The handler answers a call with this output and leaves its process like that; a malformed output is no output. -/
structure Answers (backend : IncidentBackend) (invocation : Invocation) (output : Json) (after : IncidentBackend) : Prop where
  handled : ∃ raw, backend.answer invocation = (.ok raw, after) ∧ invocation.definition.outputModel raw = .accepted output
  malformed : invocation.definition.outputModel Deployment.malformedOutput = .rejected

/-- What a registered incident tool returns for a valid input. -/
def incidentOutput (toolName : String) (input : Dict) : Json :=
  if toolName = "get_service_health" then healthFixture
  else if toolName = "search_recent_logs" then logsFixture
  else if toolName = "get_deployment" then deploymentFixture
  else rollbackFixture ((input.lookup "deployment_id").getD .null)

theorem incidentRegistry_get {name : String} {definition : ToolDefinition} (found : incidentRegistry.get name = some definition) :
    definition.name = name ∧ (definition = getServiceHealth ∨ definition = searchRecentLogs ∨ definition = getDeployment ∨
      definition = prepareRollback) := by
  have member := List.mem_of_find?_eq_some found
  simp only [incidentRegistry, List.mem_cons, List.not_mem_nil, or_false] at member
  exact ⟨ToolRegistry.get_name found, member⟩

theorem prepareRollbackInput_some {arguments input : Dict} (read : prepareRollbackInput arguments = some input) :
    ∃ text, input = [("deployment_id", .str text)] := by
  unfold prepareRollbackInput closedModel at read
  split at read
  · cases found : arguments.lookup "deployment_id" with
    | none => simp [found] at read
    | some value =>
      cases value with
      | str text =>
        by_cases bounded : 1 ≤ text.length ∧ text.length ≤ 128
        · simp [found, boundedStrField, Json.str?, bounded] at read
          exact ⟨text, read.symm⟩
        · simp [found, boundedStrField, Json.str?, bounded] at read
      | _ => simp [found, boundedStrField, Json.str?] at read
  · cases read

section Incidents
variable {backend : IncidentBackend} {run : Run} {action : CallToolAction} {definition : ToolDefinition} {input : Dict}
  {context : ToolExecutionContext}

theorem query_answers (fixture : Json) (output : incidentOutput action.toolName input = fixture)
    (answered : backend.answer ⟨run, action, definition, input, context⟩ = (.ok fixture, backend))
    (accepted : definition.outputModel fixture = .accepted fixture)
    (rejected : definition.outputModel Deployment.malformedOutput = .rejected) (clean : fixture.printable = true) :
    Answers backend ⟨run, action, definition, input, context⟩ (incidentOutput action.toolName input)
        (backend.answer ⟨run, action, definition, input, context⟩).2 ∧
      (incidentOutput action.toolName input).printable = true := by
  rw [output, answered]
  exact ⟨⟨⟨_, answered, accepted⟩, rejected⟩, clean⟩

/-- The handlers of the incident tools answer whatever the input model lets through, a rollback under a new token. -/
theorem incident_answers (run : Run) (context : ToolExecutionContext)
    (found : incidentRegistry.get action.toolName = some definition)
    (valid : definition.inputModel action.arguments = some input)
    (unseen : action.toolName = "prepare_rollback" → backend.rollbackByToken.lookup context.idempotencyToken = none) :
    Answers backend ⟨run, action, definition, input, context⟩ (incidentOutput action.toolName input)
        (backend.answer ⟨run, action, definition, input, context⟩).2 ∧
      (incidentOutput action.toolName input).printable = true := by
  obtain ⟨named, rfl | rfl | rfl | rfl⟩ := incidentRegistry_get found
  · have health : action.toolName = "get_service_health" := named.symm
    exact query_answers healthFixture (by simp [incidentOutput, health])
      (by simp [IncidentBackend.answer, IncidentBackend.handler, health]) rfl rfl rfl
  · have logs : action.toolName = "search_recent_logs" := named.symm
    exact query_answers logsFixture (by simp [incidentOutput, logs])
      (by simp [IncidentBackend.answer, IncidentBackend.handler, logs]) rfl rfl rfl
  · have deployment : action.toolName = "get_deployment" := named.symm
    exact query_answers deploymentFixture (by simp [incidentOutput, deployment])
      (by simp [IncidentBackend.answer, IncidentBackend.handler, deployment]) rfl rfl rfl
  · have rollback : action.toolName = "prepare_rollback" := named.symm
    obtain ⟨text, rfl⟩ := prepareRollbackInput_some valid
    have output : incidentOutput action.toolName [("deployment_id", .str text)] = rollbackFixture (.str text) := by
      simp [incidentOutput, rollback]
    have answered : (backend.answer ⟨run, action, prepareRollback, [("deployment_id", .str text)], context⟩).1 =
        .ok (rollbackFixture (.str text)) := by
      simp [IncidentBackend.answer, IncidentBackend.handler, rollback, IncidentBackend.prepareRollback,
        unseen rollback]
    rw [output]
    exact ⟨⟨⟨_, Prod.ext answered rfl, rfl⟩, rfl⟩, rfl⟩

theorem incidentOutput_printable (found : incidentRegistry.get action.toolName = some definition)
    (valid : definition.inputModel action.arguments = some input) :
    (incidentOutput action.toolName input).printable = true := by
  have unseen : action.toolName = "prepare_rollback" → IncidentBackend.fresh.rollbackByToken.lookup "" = none := fun _ => rfl
  exact (incident_answers (Run.new 0 0 "" .fragile) ⟨0, "", "", ""⟩ found valid unseen).2

end Incidents

/-- The process after a call: the handler is reached by the last attempt only. -/
def ToolCallResult.backend (before after : IncidentBackend) : ToolCallResult → IncidentBackend
  | .succeeded _ _ _ => after
  | .failed _ _ _ => before

variable {dep : Deployment} {id : Uuid} {p : Pid} {slate : Slate} {s : Site} {tenure : Tenure}

theorem redactText_nil (text : String) : redactText [] text = text := rfl

theorem Deployment.Incident.field (incident : dep.Incident) {traceId : Uuid} {eventType : EventType} {payload : Dict}
    {span : Option Uuid} {status key : String} (plain : isSensitiveKey dep.store.tables key = false) :
    (dep.stored (buildEvent dep traceId eventType (.obj payload) span status)).field key =
      (payload.lookup key).map fun item => sanitizePayload dep.store.tables [] (sanitizePayload dep.store.tables [] item) := by
  rw [field_stored plain, incident.storeSecrets, incident.recorderSecrets]

/-- The mark of an attempt, whatever else its event says. -/
theorem Deployment.Incident.mark_attempt (incident : dep.Incident) {run : Run} {eventType : EventType} {tool : String}
    {number : Nat} {more : Dict} {span : Option Uuid} {status : String} (shown : eventType.marks = true)
    (plain : more.lookup "kind" = none) :
    (dep.stored (buildEvent dep run.traceId eventType (.obj (Deployment.attemptPayload run tool number ++ more)) span
      status)).mark = some (attemptMark eventType run.currentStep tool number) := by
  have step : (Deployment.attemptPayload run tool number ++ more).lookup "action_step" = some (.int run.currentStep) := rfl
  have name : (Deployment.attemptPayload run tool number ++ more).lookup "tool_name" = some (.str tool) := rfl
  have attempt : (Deployment.attemptPayload run tool number ++ more).lookup "attempt" = some (.int number) := rfl
  have kind : (Deployment.attemptPayload run tool number ++ more).lookup "kind" = none := plain
  unfold EventContent.mark
  rw [stored_eventType, buildEvent_eventType, if_pos shown, incident.field rfl, incident.field rfl, incident.field rfl,
    incident.field rfl, step, name, attempt, kind]
  simp [attemptMark, sanitizePayload, redactText_nil]

theorem Deployment.Incident.mark_fault (incident : dep.Incident) {run : Run} {fault : FaultEvent} {span : Option Uuid}
    {status : String} :
    (dep.stored (buildEvent dep run.traceId .faultInjected
      (.obj (Dict.set fault.modelDump "action_step" (.int run.currentStep))) span status)).mark =
      some (faultMark run.currentStep fault) := by
  have step : (Dict.set fault.modelDump "action_step" (.int run.currentStep)).lookup "action_step" =
      some (.int run.currentStep) := rfl
  have name : (Dict.set fault.modelDump "action_step" (.int run.currentStep)).lookup "tool_name" =
      some (.str fault.toolName) := rfl
  have attempt : (Dict.set fault.modelDump "action_step" (.int run.currentStep)).lookup "attempt" =
      some (.int fault.attempt) := rfl
  have kind : (Dict.set fault.modelDump "action_step" (.int run.currentStep)).lookup "kind" =
      some (.str fault.kind.value) := rfl
  have shown : EventType.faultInjected.marks = true := rfl
  unfold EventContent.mark
  rw [stored_eventType, buildEvent_eventType, if_pos shown, incident.field rfl, incident.field rfl, incident.field rfl,
    incident.field rfl, step, name, attempt, kind]
  simp [faultMark, sanitizePayload, redactText_nil]

theorem printable_attemptPayload {run : Run} {tool : String} {number : Nat} {more : Dict} (written : run.Written)
    (few : number ≤ maxToolAttempts) (clean : Json.printableItems more = true) :
    Json.printableItems (Deployment.attemptPayload run tool number ++ more) = true := by
  have name : (Json.str tool).printable = true := rfl
  simp only [Deployment.attemptPayload, List.cons_append, List.nil_append, Json.printableItems, name, printable_small few,
    written.current, clean, Bool.and_self]

theorem printable_traceableOutput (output : Json) : (Deployment.traceableOutput output).printable = true := by
  unfold Deployment.traceableOutput
  split
  · assumption
  · rfl

theorem failedAttemptPayload_spelled (run : Run) (tool : String) (definition : ToolDefinition) (number : Nat) (error : Exn)
    (left : Nat) : ∃ more, Deployment.failedAttemptPayload run tool definition number error left =
      Deployment.attemptPayload run tool number ++ more ∧ more.lookup "kind" = none ∧ Json.printableItems more = true := by
  unfold Deployment.failedAttemptPayload
  split
  · exact ⟨_, List.append_assoc .., rfl, rfl⟩
  · exact ⟨_, List.append_assoc .., rfl, rfl⟩

section Calls
variable {J : Site → Prop} {E : Exn → Site → Prop} {run : Run} {action : CallToolAction}
  {definition : ToolDefinition} {input : Dict} {context : ToolExecutionContext} {plan : FaultPlan} {output : Json}
  {after : IncidentBackend}

/-- An event of an attempt, with its mark. -/
theorem recovers_recordAttempt {Q : Unit → Site → Prop} {eventType : EventType} {payload : Dict} {span : Uuid}
    {status : String} {mark : TraceMark} (safe : ∀ t, Stands dep p id slate t → J t)
    (live : Live dep p id tenure slate s) (own : run.traceId = slate.run.traceId)
    (shown : (dep.stored (buildEvent dep run.traceId eventType (.obj payload) (some span) status)).mark = some mark)
    (clean : Json.printableItems payload = true) (done : ∀ t, Live dep p id tenure (slate.marked [mark]) t → Q () t) :
    Recovers dep p id J (dep.recordAttempt run eventType payload span status) Q E s := by
  refine recovers_appendEvent safe live own (buildEvent_dumpable clean) fun t here => ?_
  rw [shown] at here
  exact done t here

theorem recovers_attemptEvent (incident : dep.Incident) {Q : Unit → Site → Prop} {eventType : EventType} {tool : String}
    {number : Nat} {span : Uuid} {status : String} {payload : Dict} (safe : ∀ t, Stands dep p id slate t → J t)
    (live : Live dep p id tenure slate s) (own : run.traceId = slate.run.traceId) (written : run.Written)
    (few : number ≤ maxToolAttempts) (more : Dict) (spelled : payload = Deployment.attemptPayload run tool number ++ more)
    (shown : eventType.marks = true) (plain : more.lookup "kind" = none) (clean : Json.printableItems more = true)
    (done : ∀ t, Live dep p id tenure (slate.marked [attemptMark eventType run.currentStep tool number]) t → Q () t) :
    Recovers dep p id J (dep.recordAttempt run eventType payload span status) Q E s := by
  subst spelled
  exact recovers_recordAttempt safe live own (incident.mark_attempt shown plain)
    (printable_attemptPayload written few clean) done

/-- One attempt, up to what it comes to. -/
theorem recovers_attemptOutput (incident : dep.Incident) {Q : Except Exn Json → Site → Prop} {span : Uuid} {number : Nat}
    (safe : ∀ marks t, Stands dep p id (slate.marked marks) t → J t) (live : Live dep p id tenure slate s)
    (own : run.traceId = slate.run.traceId) (written : run.Written) (few : number ≤ maxToolAttempts)
    (answers : Answers slate.backend ⟨run, action, definition, input, context⟩ output after)
    (handled : plan.faultFor action.toolName number = none →
      ∀ t, Live dep p id tenure (slate.handled after) t → Q (.ok output) t)
    (injected : ∀ fault, plan.faultFor action.toolName number = some fault → ∀ t,
      Live dep p id tenure (slate.marked [faultMark run.currentStep fault]) t →
        Q (.error (.toolError fault.code fault.transient)) t) :
    Recovers dep p id J (dep.attemptOutput run action definition input context plan span number).attempt Q E s := by
  obtain ⟨⟨raw, answered, accepts⟩, rejects⟩ := answers
  have accepted : definition.outputModel raw = .accepted output := accepts
  have rejected : definition.outputModel Deployment.malformedOutput = .rejected := rejects
  have here := safe []
  rw [Slate.marked_nil] at here
  unfold Deployment.attemptOutput
  simp only [Program.bind_eq]
  refine Program.obeys_attempt.mpr (Program.obeys_bind.mpr ?_)
  unfold Deployment.rawOutput
  cases chosen : plan.faultFor action.toolName number with
  | none =>
    refine recovers_invokeHandler here live (congrArg Prod.fst answered) fun t reached => ?_
    have output := handled chosen t (by rw [answered] at reached; exact reached)
    simp only [accepted]
    exact output
  | some fault =>
    obtain ⟨rule, -, -, -, shape⟩ := FaultPlan.faultFor_some chosen
    have attempt : fault.attempt = number := by rw [shape]
    have code : fault.code = faultCode fault.kind := by rw [shape]
    have transient : fault.transient = decide (fault.kind ≠ .malformedOutput) := by rw [shape]
    have clean : Json.printableItems (Dict.set fault.modelDump "action_step" (.int run.currentStep)) = true := by
      have name : ∀ text, (Json.str text).printable = true := fun _ => rfl
      have flag : (Json.bool fault.transient).printable = true := rfl
      refine Json.printable_set ?_ _ written.current
      simp only [FaultEvent.modelDump, Json.printableItems, name, flag, attempt, printable_small few, Bool.and_self]
    simp only [Program.bind_eq]
    refine Program.obeys_bind.mpr (recovers_recordAttempt here live own incident.mark_fault clean fun t marked => ?_)
    by_cases malformed : fault.kind = .malformedOutput
    · simp only [malformed, if_true, Program.pure_eq, Program.obeys_ret, rejected]
      refine Program.obeys_bind.mpr (recovers_record (safe _) marked own rfl (printable_attemptPayload written few rfl)
        fun t recorded => ?_)
      have failure := injected fault chosen t recorded
      simpa [code, transient, malformed, faultCode] using failure
    · have failure := injected fault chosen t marked
      simp only [if_neg malformed, Program.obeys_raise]
      simpa [code, transient, malformed] using failure

/-- One turn of the retry loop. -/
theorem recovers_turn (incident : dep.Incident) {Q : ToolCallResult → Site → Prop} {left number : Nat}
    (safe : ∀ marks backend t, Stands dep p id ((slate.marked marks).handled backend) t → J t)
    (live : Live dep p id tenure slate s) (own : run.traceId = slate.run.traceId) (written : run.Written)
    (few : number ≤ maxToolAttempts)
    (answers : Answers slate.backend ⟨run, action, definition, input, context⟩ output after)
    (succeeded : plan.faultFor action.toolName number = none → ∀ t, Live dep p id tenure
      ((slate.marked [attemptMark .toolAttemptStarted run.currentStep action.toolName number,
        attemptMark .toolAttemptSucceeded run.currentStep action.toolName number]).handled after) t →
      Q (.succeeded output number false) t)
    (failed : ∀ fault, plan.faultFor action.toolName number = some fault → ∀ t,
      Live dep p id tenure (slate.marked (failedMarks run.currentStep action.toolName number fault)) t →
        if fault.transient && left ≠ 0 then
          Recovers dep p id J (dep.attempts run action definition input context plan left (number + 1)) Q E t
        else Q (.failed fault.code number fault.transient) t) :
    Recovers dep p id J (dep.attempts run action definition input context plan (left + 1) number) Q E s := by
  have marked : ∀ marks t, Stands dep p id (slate.marked marks) t → J t := fun marks t => safe marks slate.backend t
  have here := marked []
  rw [Slate.marked_nil] at here
  rw [Deployment.attempts]
  simp only [Program.bind_eq]
  refine Program.obeys_bind.mpr (recovers_uuid4 here live fun span t drawn => ?_)
  refine Program.obeys_bind.mpr (recovers_attemptEvent incident here drawn own written few [] rfl rfl rfl rfl
    fun t started => ?_)
  have again : ∀ more t, Stands dep p id ((slate.marked
      [attemptMark .toolAttemptStarted run.currentStep action.toolName number]).marked more) t → J t := by
    intro more t stands
    rw [Slate.marked_marked] at stands
    exact marked _ t stands
  refine Program.obeys_bind.mpr (recovers_attemptOutput incident again started own written few answers ?_ ?_)
  · intro free t handled
    have safeHere : ∀ t, Stands dep p id ((slate.marked
        [attemptMark .toolAttemptStarted run.currentStep action.toolName number]).handled after) t → J t :=
      safe [attemptMark .toolAttemptStarted run.currentStep action.toolName number] after
    refine Program.obeys_bind.mpr (recovers_attemptEvent incident safeHere handled own written few _ rfl rfl rfl ?_
      fun t finished => ?_)
    · simp only [Json.printableItems, printable_traceableOutput, Bool.and_self]
    · rw [Slate.handled_marked, Slate.marked_marked] at finished
      exact succeeded free t finished
  · intro fault chosen t injected
    rw [Slate.marked_marked] at injected
    have error : Deployment.attemptError (.toolError fault.code fault.transient) = (fault.code, fault.transient) := rfl
    have uncancelled : Exn.toolError fault.code fault.transient ≠ .cancelled := by
      intro same
      cases same
    obtain ⟨more, spelled, unkinded, clean⟩ := failedAttemptPayload_spelled run action.toolName definition number
      (.toolError fault.code fault.transient) left
    simp only [if_neg uncancelled]
    refine Program.obeys_bind.mpr (recovers_attemptEvent incident (marked _) injected own written few more spelled rfl
      unkinded clean fun t ended => ?_)
    rw [Slate.marked_marked] at ended
    by_cases again : (fault.transient && left ≠ 0) = true
    · have retried : Deployment.retried (.toolError fault.code fault.transient) left = true := again
      simp only [retried, if_true]
      unfold Deployment.backoff
      simp only [Program.bind_eq]
      refine Program.obeys_bind.mpr (Program.obeys_bind.mpr (Program.obeys_attempt.mpr ?_))
      refine recovers_sleep (marked _) ended fun t waited => ?_
      have next := failed fault chosen t waited
      rw [if_pos again] at next
      exact next
    · have settled : Deployment.retried (.toolError fault.code fault.transient) left = false := Bool.eq_false_iff.mpr again
      have next := failed fault chosen t ended
      rw [if_neg again] at next
      simp only [settled, error]
      exact next

/-- The retry loop of a call leaves what its script says. -/
theorem recovers_attempts (incident : dep.Incident) {Q : ToolCallResult → Site → Prop} (left number : Nat)
    (safe : ∀ marks backend t, Stands dep p id ((slate.marked marks).handled backend) t → J t)
    (live : Live dep p id tenure slate s) (own : run.traceId = slate.run.traceId) (written : run.Written)
    (few : number + left ≤ maxToolAttempts)
    (answers : Answers slate.backend ⟨run, action, definition, input, context⟩ output after)
    (done : ∀ marks result, scriptedAttempts plan run.currentStep action.toolName output (left + 1) number = (marks, result) →
      ∀ t, Live dep p id tenure ((slate.marked marks).handled (result.backend slate.backend after)) t → Q result t) :
    Recovers dep p id J (dep.attempts run action definition input context plan (left + 1) number) Q E s := by
  induction left generalizing number slate s with
  | zero =>
    refine recovers_turn incident safe live own written (by omega) answers ?_ ?_
    · intro free t ended
      exact done _ _ (scriptedAttempts_free free) t ended
    · intro fault chosen t ended
      have spent : ¬ (fault.transient && 0 ≠ 0) = true := by simp
      rw [if_neg spent]
      exact done _ _ (scriptedAttempts_failed chosen spent) t ended
  | succ left ih =>
    refine recovers_turn incident safe live own written (by omega) answers ?_ ?_
    · intro free t ended
      exact done _ _ (scriptedAttempts_free free) t ended
    · intro fault chosen t ended
      by_cases again : (fault.transient && left + 1 ≠ 0) = true
      · rw [if_pos again]
        refine ih (number + 1) ?_ ended own (by omega) answers ?_
        · intro marks backend t stands
          rw [Slate.marked_marked] at stands
          exact safe _ _ t stands
        · intro marks result later t reached
          rw [Slate.marked_marked] at reached
          exact done _ _ (by rw [scriptedAttempts_retried chosen again, later]) t reached
      · rw [if_neg again]
        exact done _ _ (scriptedAttempts_failed chosen again) t ended

theorem maxAttempts_succ (run : Run) (definition : ToolDefinition) :
    ∃ left, Deployment.maxAttempts run definition = left + 1 ∧ 1 + left ≤ maxToolAttempts := by
  obtain ⟨least, most⟩ := definition.attempts_range
  have bound : 1 ≤ maxToolAttempts := by decide
  unfold Deployment.maxAttempts
  cases run.mode with
  | fragile => exact ⟨0, rfl, bound⟩
  | resilient => exact ⟨definition.maxAttempts - 1, by simp only; omega, by omega⟩

/-- What a result makes of the claim it was executed under. -/
def ToolResultRow.settledBy (dep : Deployment) (definition : ToolDefinition) (row : ToolResultRow) :
    ToolCallResult → ToolResultRow
  | .succeeded output _ _ => { row with state := .completed, payload := some (Store.sanitize dep.store output) }
  | .failed code _ retryable =>
    { row with
      state := .failed
      error := some (orText code "tool_execution_failed")
      failureDisposition := some (if definition.isWrite then .indeterminate else if retryable then .retryable
        else .terminal) }

/-- A call with its claim, settled by what its attempts come to. -/
theorem recovers_executeClaimed (incident : dep.Incident) {Q : ToolCallResult → Site → Prop} {key fingerprint : String}
    {row : ToolResultRow} (safe : ∀ marks backend t, Stands dep p id ((slate.marked marks).handled backend) t → J t)
    (live : Live dep p id tenure slate s) (same : run.id = id) (own : run.traceId = slate.run.traceId)
    (written : run.Written) (held : slate.claims key = some row) (claimed : row.state = .claimed)
    (answers : Answers slate.backend ⟨run, action, definition, input, ⟨run.id, action.toolName, key, fingerprint⟩⟩ output
      after) (clean : output.printable = true)
    (done : ∀ marks result, scriptedAttempts plan run.currentStep action.toolName output
        (Deployment.maxAttempts run definition) 1 = (marks, result) →
      ∀ t, Live dep p id tenure (((slate.marked marks).handled (result.backend slate.backend after)).withClaim key
        (row.settledBy dep definition result)) t → Q result t) :
    Recovers dep p id J (dep.executeClaimed run action definition input fingerprint plan key row.ownerToken) Q E s := by
  subst same
  obtain ⟨left, limit, few⟩ := maxAttempts_succ run definition
  unfold Deployment.executeClaimed
  simp only [Program.bind_eq]
  rw [limit] at done ⊢
  refine Program.obeys_bind.mpr (Program.obeys_attempt.mpr (recovers_attempts incident left 1 safe live own written few answers
    fun marks result script t reached => ?_))
  have settled := done marks result script
  cases result with
  | succeeded output number cached =>
    have printed : (Store.sanitize dep.store output).printable = true :=
      sanitizePayload_printable dep.store.tables dep.store.secretValues ((scriptedAttempts_succeeded script).1 ▸ clean)
    unfold Deployment.persistClaimResult completeToolResult
    simp only [Program.bind_eq, printed, if_true]
    refine Program.obeys_bind.mpr (Program.obeys_attempt.mpr ?_)
    exact recovers_completeToolResult (safe _ _) reached held claimed settled
  | failed code number retryable =>
    unfold Deployment.persistClaimResult
    simp only [Program.bind_eq]
    exact Program.obeys_bind.mpr (recovers_failToolExecution (safe _ _) reached held claimed settled)

end Calls

/-- The failure of a preflight that leaves the approval out. -/
def Deployment.refusal (dep : Deployment) (action : CallToolAction) (plan : FaultPlan) : Option ToolCallResult :=
  match dep.registry.get action.toolName with
  | none => some (.failed "unknown_tool" 0 false)
  | some definition =>
    match definition.inputModel action.arguments with
    | none => some (.failed "invalid_input" 0 false)
    | some _ =>
      if plan.any fun rule => (dep.registry.get rule.toolName).isNone then some (.failed "invalid_fault_plan" 0 false)
      else if (definition.isWrite || definition.requiresApproval) && action.idempotencyKey.isNone then
        some (.failed "idempotency_key_required" 0 false)
      else none

theorem preflight_unchecked (run : Run) (action : CallToolAction) (plan : FaultPlan) :
    dep.preflight run action plan false = .ret (dep.refusal action plan) := by
  unfold Deployment.preflight Deployment.refusal
  cases dep.registry.get action.toolName with
  | none => rfl
  | some definition =>
    simp only
    cases definition.inputModel action.arguments with
    | none => rfl
    | some input =>
      simp only [Bool.and_false, Bool.false_eq_true, if_false]
      split_ifs <;> rfl

/-- What a call takes that is let through. -/
theorem refusal_none {action : CallToolAction} {plan : FaultPlan} (passed : dep.refusal action plan = none) :
    ∃ definition input, dep.registry.get action.toolName = some definition ∧
      definition.inputModel action.arguments = some input ∧
      (definition.isWrite = true ∨ definition.requiresApproval = true → action.idempotencyKey.isSome) := by
  unfold Deployment.refusal at passed
  split at passed
  · cases passed
  · rename_i definition found
    split at passed
    · cases passed
    · rename_i input valid
      split_ifs at passed with unknown keyed
      refine ⟨definition, input, found, valid, fun effects => ?_⟩
      cases key : action.idempotencyKey with
      | none => exact absurd (by simpa [key] using effects) (by simpa [key] using keyed)
      | some text => rfl

/-- The action of the run's step is approved, as far as its tool asks for it. -/
def Deployment.Approved (dep : Deployment) (slate : Slate) (action : CallToolAction) : Prop :=
  dep.requiresApproval action = true → ∃ row, slate.approvals slate.run.currentStep = some row ∧
    row.actionFingerprint = dep.actionFingerprint action ∧ row.allow = true

/-- What a call changes of the slate: its marks are added, and only its key is claimed and seen. -/
structure Slate.Called (slate : Slate) (action : CallToolAction) (marks : List TraceMark) (called : Slate) : Prop where
  run : called.run = slate.run
  approvals : called.approvals = slate.approvals
  marks : called.marks = slate.marks ++ marks
  claims : ∀ key, action.idempotencyKey ≠ some key → called.claims key = slate.claims key
  tokens : ∀ token, action.idempotencyKey ≠ some token →
    called.backend.rollbackByToken.lookup token = slate.backend.rollbackByToken.lookup token

/-- The key of the action is new: it was never claimed in this run, nor seen by the handlers of this process. -/
def Slate.Unused (slate : Slate) (key : String) : Prop :=
  slate.claims key = none ∧ slate.backend.rollbackByToken.lookup key = none

/-- What a call that is let through comes to. -/
def scriptedCall (mode : Mode) (plan : FaultPlan) (step : Nat) (definition : ToolDefinition) (toolName : String)
    (input : Dict) : List TraceMark × ToolCallResult :=
  scriptedAttempts plan step toolName (incidentOutput toolName input)
    (match mode with
      | .fragile => 1
      | .resilient => definition.maxAttempts) 1

/-- Only a rollback leaves something behind, under its own token. -/
theorem lookup_answered {backend : IncidentBackend} {invocation : Invocation} {token : String} (result : ToolCallResult)
    (apart : invocation.action.toolName = "prepare_rollback" → token ≠ invocation.context.idempotencyToken) :
    (result.backend backend (backend.answer invocation).2).rollbackByToken.lookup token =
      backend.rollbackByToken.lookup token := by
  cases result with
  | failed => rfl
  | succeeded =>
    unfold ToolCallResult.backend IncidentBackend.answer IncidentBackend.handler
    split_ifs with health logs deployment rollback
    · rfl
    · rfl
    · rfl
    · unfold IncidentBackend.prepareRollback
      cases seen : backend.rollbackByToken.lookup invocation.context.idempotencyToken with
      | some existing => rfl
      | none => simp [List.lookup_cons, beq_false_of_ne (apart rollback)]
    · rfl

/-- A call that succeeds returns what the tool returns, after no more attempts than a definition may have. -/
theorem scriptedCall_succeeded {mode : Mode} {plan : FaultPlan} {step : Nat} {definition : ToolDefinition}
    {toolName : String} {input : Dict} {marks : List TraceMark} {output : Json} {attempts : Nat} {cached : Bool}
    (script : scriptedCall mode plan step definition toolName input = (marks, .succeeded output attempts cached)) :
    output = incidentOutput toolName input ∧ attempts ≤ maxToolAttempts := by
  have range := definition.attempts_range
  obtain ⟨same, bound⟩ := scriptedAttempts_succeeded script
  refine ⟨same, ?_⟩
  cases mode with
  | fragile =>
    simp only at bound
    omega
  | resilient =>
    simp only at bound
    omega

section Gateway
variable {J : Site → Prop} {E : Exn → Site → Prop} {action : CallToolAction} {plan : FaultPlan}

theorem recovers_preflight {Q : Option ToolCallResult → Site → Prop} (safe : ∀ t, Stands dep p id slate t → J t)
    (live : Live dep p id tenure slate s) (same : slate.run.id = id) (approved : dep.Approved slate action)
    (passed : dep.refusal action plan = none) (done : ∀ t, Live dep p id tenure slate t → Q none t) :
    Recovers dep p id J (dep.preflight slate.run action plan true) Q E s := by
  unfold Deployment.refusal at passed
  unfold Deployment.preflight
  unfold Deployment.Approved Deployment.requiresApproval at approved
  cases found : dep.registry.get action.toolName with
  | none => simp [found] at passed
  | some definition =>
    rw [found] at passed approved
    simp only at passed approved ⊢
    cases valid : definition.inputModel action.arguments with
    | none => simp [valid] at passed
    | some input =>
      rw [valid] at passed
      simp only at passed ⊢
      split_ifs at passed with unknown keyed
      rw [if_neg unknown, if_neg keyed]
      by_cases asked : definition.requiresApproval = true
      · obtain ⟨row, stored, named, allowed⟩ := approved asked
        simp only [asked, Bool.and_self, if_true, Program.bind_eq, same]
        refine Program.obeys_bind.mpr (recovers_getApproval safe live fun t here => ?_)
        rw [stored]
        simp only [named, allowed, ne_eq, not_true_eq_false, if_false]
        exact done t here
      · rw [if_neg (by simp [asked])]
        exact done s live

theorem recovers_call (incident : dep.Incident) {Q : ToolCallResult → Site → Prop} {definition : ToolDefinition}
    {input : Dict}
    (safe : ∀ called t, Stands dep p id called t → called.run = slate.run → called.approvals = slate.approvals →
      (∀ key, action.idempotencyKey ≠ some key → called.claims key = slate.claims key) →
      (∀ key row, action.idempotencyKey = some key → called.claims key = some row → row.state = .claimed ∧
        row.requestFingerprint = dep.requestFingerprint action.toolName input) → J t)
    (live : Live dep p id tenure slate s) (same : slate.run.id = id) (written : slate.run.Written)
    (stable : dep.stabilizeAction slate.run action = action) (approved : dep.Approved slate action)
    (passed : dep.refusal action plan = none) (found : dep.registry.get action.toolName = some definition)
    (valid : definition.inputModel action.arguments = some input)
    (unused : ∀ key, action.idempotencyKey = some key → slate.Unused key)
    (done : ∀ marks result, scriptedCall slate.run.mode plan slate.run.currentStep definition action.toolName input =
      (marks, result) → ∀ called t, Live dep p id tenure called t → slate.Called action marks called → Q result t) :
    Recovers dep p id J (dep.call slate.run action plan) Q E s := by
  have registered : incidentRegistry.get action.toolName = some definition := by rw [← incident.registry]; exact found
  have nonempty : dep.requestFingerprint action.toolName input ≠ "" := by
    intro empty
    have canonical := incident.digests (Json.canonical (.obj [("tool_name", .str action.toolName), ("arguments", .obj input)]))
    rw [show dep.sha256 _ = "" from empty] at canonical
    simp [Store.canonicalFingerprint] at canonical
  have start : ∀ t, Stands dep p id slate t → J t := by
    intro t stands
    refine safe slate t stands rfl rfl (fun _ _ => rfl) fun key row own claimed => ?_
    rw [(unused key own).1] at claimed
    cases claimed
  unfold Deployment.call
  simp only [stable, Program.bind_eq]
  refine Program.obeys_bind.mpr (recovers_preflight start live same approved passed fun t here => ?_)
  simp only [found, valid]
  cases keyed : action.idempotencyKey with
  | some key =>
    obtain ⟨unclaimed, unseen⟩ := unused key keyed
    obtain ⟨answers, clean⟩ := incident_answers slate.run ⟨slate.run.id, action.toolName, key,
      dep.requestFingerprint action.toolName input⟩ registered valid fun _ => unseen
    simp only [same]
    refine Program.obeys_bind.mpr (recovers_uuid4 start here fun owner t drawn => ?_)
    refine Program.obeys_bind.mpr (recovers_claimToolExecution start drawn unclaimed nonempty fun expires t claimed => ?_)
    simp only [Deployment.callClaimed, ne_eq, not_true_eq_false, if_false]
    refine recovers_executeClaimed incident ?_ claimed same rfl written (Function.update_self ..) rfl answers clean ?_
    · intro marks backend t stands
      refine safe _ t stands rfl rfl (fun other different => ?_) (fun other row own held => ?_)
      · exact Function.update_of_ne (fun equal => different (by rw [keyed, equal])) _ _
      · cases keyed.symm.trans own
        cases (Function.update_self ..).symm.trans held
        exact ⟨rfl, rfl⟩
    · intro marks result script t reached
      refine done marks result script _ t reached ⟨rfl, rfl, rfl, fun other different => ?_, fun token different => ?_⟩
      · have apart : other ≠ key := fun equal => different (by rw [keyed, equal])
        exact (Function.update_of_ne apart _ _).trans (Function.update_of_ne apart _ _)
      · exact lookup_answered result fun _ => fun equal => different (by rw [keyed, equal])
  | none =>
    have query : action.toolName ≠ "prepare_rollback" := by
      intro named
      obtain ⟨_, _, again, -, needed⟩ := refusal_none passed
      rw [found] at again
      cases again
      rw [named] at registered
      cases registered
      exact absurd (needed (.inl rfl)) (by simp [keyed])
    refine Program.obeys_bind.mpr (recovers_uuid4 start here fun token t drawn => ?_)
    obtain ⟨answers, clean⟩ := incident_answers slate.run ⟨slate.run.id, action.toolName, Uuid.hex token,
      dep.requestFingerprint action.toolName input⟩ registered valid fun named => absurd named query
    obtain ⟨left, limit, few⟩ := maxAttempts_succ slate.run definition
    have script : ∀ marks result, scriptedAttempts plan slate.run.currentStep action.toolName
        (incidentOutput action.toolName input) (left + 1) 1 = (marks, result) →
        scriptedCall slate.run.mode plan slate.run.currentStep definition action.toolName input = (marks, result) := by
      intro marks result attempted
      rw [← limit] at attempted
      exact attempted
    rw [limit]
    refine recovers_attempts incident left 1 (fun marks backend t stands => ?_) drawn rfl written few answers
      fun marks result attempted t reached => ?_
    · exact safe _ t stands rfl rfl (fun _ _ => rfl) fun key row own => by rw [keyed] at own; cases own
    · exact done marks result (script marks result attempted) _ t reached
        ⟨rfl, rfl, rfl, fun _ _ => rfl, fun other _ => lookup_answered result fun named => absurd named query⟩

end Gateway

end ReliabilityLab
