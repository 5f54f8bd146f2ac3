import ReliabilityLab.Runtime.Invocations

namespace ReliabilityLab

/-- What the cached branch of `call` returns for a stored completion, if it returns. -/
def ToolDefinition.replay (definition : ToolDefinition) (payload : Json) : Option ToolCallResult :=
  match definition.outputModel payload with
  | .accepted output => some (.succeeded output 0 true)
  | .rejected => some (.failed "invalid_cached_output" 0 false)
  | .unserializable => none

/-- The completion of this request is stored with this payload. -/
def Completed (id : Uuid) (key fingerprint : String) (payload : Json) (s : SystemState) : Prop :=
  ∃ row, s.store.toolResults id key = some row ∧ row.state = .completed ∧ row.payload = some payload ∧
    row.requestFingerprint = fingerprint

/-- The row under the key belongs to this request. -/
def RequestedBy (id : Uuid) (key fingerprint : String) (s : SystemState) : Prop :=
  ∃ row, s.store.toolResults id key = some row ∧ row.requestFingerprint = fingerprint

/-- Parties that rely on nothing but the steps of the rows. -/
def rowDiscipline (dep : Deployment) (pre : Op → Prop) : Discipline Op Op.Answer SystemState where
  inv _ := True
  rely s t := ∀ id key, RowSteps (s.store.toolResults id key) (t.store.toolResults id key)
  pre op _ := pre op
  step op s answer t := ∃ p now, dep.perform p op now s answer t
  rely_refl _ _ _ := .refl
  rely_trans first second id key := (first id key).trans (second id key)

section Stable
variable {dep : Deployment} {pre : Op → Prop} {id : Uuid} {key fingerprint : String} {payload : Json}

theorem Completed.stable : (rowDiscipline dep pre).Stable (Completed id key fingerprint payload) := by
  rintro s t others ⟨row, stored, completed, paid, request⟩
  have steps := others id key
  rw [stored] at steps
  exact ⟨row, steps.settled (by simp [ToolResultRow.settled, completed]), completed, paid, request⟩

theorem RequestedBy.stable : (rowDiscipline dep pre).Stable (RequestedBy id key fingerprint) := by
  rintro s t others ⟨row, stored, request⟩
  have steps := others id key
  rw [stored] at steps
  obtain ⟨next, found, same⟩ := steps.fingerprint
  exact ⟨next, found, same.trans request⟩

/-- What the steps of the rows keep, every operation keeps. -/
theorem rowDiscipline_step {op : Op} {s t : SystemState} {answer : op.Answer} {R : SystemState → Prop}
    (stable : (rowDiscipline dep pre).Stable R) (step : (rowDiscipline dep pre).step op s answer t) (holds : R s) :
    R t := by
  obtain ⟨p, now, performed⟩ := step
  exact stable s t (fun id key => .single (perform_rowStep performed id key)) holds

/-- Programs of one kind of operations keep what the steps of the rows keep. -/
theorem rowDiscipline_within {α : Type} {P : Op → Prop} {A : (op : Op) → op.Answer → Prop} {Q : α → Prop}
    {E : Exn → Prop} {program : Prog α} {R : SystemState → Prop} {s : SystemState} (within : program.Within P A Q E)
    (any : ∀ op answer, A op answer) (owed : ∀ op, P op → pre op) (stable : (rowDiscipline dep pre).Stable R) (holds : R s) :
    program.Obeys (rowDiscipline dep pre) (fun value t => Q value ∧ R t) (fun error t => E error ∧ R t) s :=
  within.obeys stable (fun op _ kind _ _ => owed op kind)
    (fun _ _ _ _ _ _ before step => ⟨any _ _, rowDiscipline_step stable step before⟩) holds

end Stable

section Call
variable {dep : Deployment} {pre : Op → Prop} {call : GatewayCall} {id : Uuid} {key toolName : String}
  {definition : ToolDefinition} {input : Dict} {s : SystemState}

/-- The part of `call` that comes before its claim. -/
theorem call_obeys_rows (request : call.Requests dep id key toolName definition input) (free : ∀ op, op.ofGateway = true → pre op)
    {R : SystemState → Prop} (stable : (rowDiscipline dep pre).Stable R) (holds : R s)
    {Q : ToolCallResult → SystemState → Prop} (refuses : ∀ result t, result.refused → R t → Q result t)
    (claims : ∀ owner claim t, R t →
      (∀ row, claim = .row row → t.store.toolResults id key = some row ∧
        row.requestFingerprint = dep.requestFingerprint toolName input) →
      (∀ fingerprint, claim = .conflict fingerprint → ∃ row, t.store.toolResults id key = some row ∧
        row.requestFingerprint ≠ dep.requestFingerprint toolName input) →
      (dep.callClaimed call.run (call.action dep) definition input (dep.requestFingerprint toolName input) call.plan key
        owner claim).Obeys (rowDiscipline dep pre) Q (fun _ _ => True) t) :
    (call.program dep).Obeys (rowDiscipline dep pre) Q (fun _ _ => True) s := by
  refine Program.obeys_bind.mpr ((rowDiscipline_within preflight_within (fun _ _ => trivial)
    (fun op same => free op (same ▸ rfl)) stable holds).mono ?_ fun _ _ _ => trivial)
  rintro failure t ⟨⟨refused, -⟩, before⟩
  cases failure with
  | some result => exact refuses result t (refused result rfl) before
  | none =>
    have validated : definition.inputModel (dep.stabilizeAction call.run call.proposed).arguments = some input :=
      request.validated
    have keyed : (dep.stabilizeAction call.run call.proposed).idempotencyKey = some key := request.key
    have tool : (dep.stabilizeAction call.run call.proposed).toolName = toolName := request.tool
    simp only [tool, request.registered, validated, keyed]
    refine Program.obeys_bind.mpr fun u others _ => ⟨free _ rfl, fun owner v step _ => ?_⟩
    have drawn := rowDiscipline_step stable step (stable t u others before)
    refine Program.obeys_bind.mpr (Program.obeys_bind.mpr fun u' others' _ => ⟨free _ rfl, fun answer v' step' _ => ?_⟩)
    have later := rowDiscipline_step stable step' (stable v u' others' drawn)
    cases answer with
    | error error => trivial
    | ok claim =>
      obtain ⟨p, now, after, settled, rfl⟩ := step'
      have done := settled.ok
      rw [request.run] at done
      refine claims owner claim _ later (fun row same => ?_) fun fingerprint same => ?_
      · subst same
        exact Store.claimToolExecution_row done
      · subst same
        obtain ⟨expires, -, impossible, -⟩ | ⟨found, present, ⟨other, -, rfl⟩ | ⟨-, cases⟩⟩ :=
          Store.claimToolExecution_cases done
        · cases impossible
        · exact ⟨found, present, other⟩
        · obtain ⟨_, -, -, -, impossible, -⟩ | ⟨-, _, -, impossible, -⟩ | ⟨_, -, -, -, impossible, -⟩ | ⟨impossible, -⟩ :=
            cases <;> cases impossible

/-- Only a stored completion comes back as a success of this call's own. -/
def Settled (dep : Deployment) (id : Uuid) (key fingerprint : String) (result : ToolCallResult) (s : SystemState) :
    Prop :=
  ∀ output count, result = .succeeded output count false →
    Completed id key fingerprint (Store.sanitize dep.store output) s

theorem failToolExecution_rows {owner : Uuid} {error : String} {disposition : ToolFailureDisposition}
    (free : ∀ op, op.ofGateway = true → pre op) {Q : Unit → SystemState → Prop} {E : Exn → SystemState → Prop} (returns : ∀ t, Q () t)
    (raises : ∀ error t, E error t) :
    (failToolExecution id key owner error disposition).Obeys (rowDiscipline dep pre) Q E s := by
  refine Program.obeys_bind.mpr fun _ _ _ => ⟨free _ rfl, fun answer t _ _ => ?_⟩
  cases answer with
  | ok => exact returns t
  | error error => exact raises error t

theorem attempts_rows {run : Run} {action : CallToolAction} {context : ToolExecutionContext} {plan : FaultPlan}
    {left number : Nat} {R : SystemState → Prop} (free : ∀ op, op.ofGateway = true → pre op) (stable : (rowDiscipline dep pre).Stable R)
    (holds : R s) : (dep.attempts run action definition input context plan left number).Obeys (rowDiscipline dep pre)
      (fun _ => R) (fun _ => R) s := by
  have within : (dep.attempts run action definition input context plan left number).Within
      (AttemptOp ⟨run, action, definition, input, context⟩) (CalmAnswer False) (fun _ => True) (CalmError False) :=
    attempts_within .draw (fun event _ => .append event) .handle .sleep
  exact (rowDiscipline_within within (fun _ _ => False.elim) (fun op kind => free op kind.ofGateway) stable holds).mono
    (fun _ _ kept => kept.2) fun _ _ kept => kept.2

theorem persistClaimResult_stores {run : Run} {owner : Uuid} {fingerprint : String} {result : ToolCallResult}
    (free : ∀ op, op.ofGateway = true → pre op) (requested : RequestedBy run.id key fingerprint s) :
    (dep.persistClaimResult run key owner result definition).Obeys (rowDiscipline dep pre)
      (Settled dep run.id key fingerprint) (fun _ _ => True) s := by
  cases result with
  | failed code count retryable =>
    exact Program.obeys_bind.mpr (failToolExecution_rows free (fun _ _ _ impossible => by cases impossible)
      fun _ _ => trivial)
  | succeeded output count cached =>
    have refusing : ∀ error t, Program.Obeys (rowDiscipline dep pre)
        (if Exn.isValueError error = true then .ret (.failed
            (if definition.isWrite = true then "idempotency_indeterminate" else "result_serialization_failed") count
            (!definition.isWrite))
          else .raise error : Prog ToolCallResult) (Settled dep run.id key fingerprint) (fun _ _ => True) t := by
      intro error t
      split
      · exact fun _ _ impossible => by cases impossible
      · trivial
    refine Program.obeys_bind.mpr (Program.obeys_attempt.mpr ?_)
    simp only [completeToolResult]
    split
    · refine Program.obeys_bind.mpr ?_
      intro t others _
      refine ⟨free _ rfl, fun answer u step _ => ?_⟩
      have there := RequestedBy.stable s t others requested
      cases answer with
      | error error => exact refusing error u
      | ok =>
        obtain ⟨p, now, after, settled, rfl⟩ := step
        obtain ⟨row, present, -, -, rfl⟩ := Store.completeToolResult_ok settled.ok
        obtain ⟨found, stored, request⟩ := there
        cases Option.some.inj (present.symm.trans stored)
        rintro output' count' same
        cases same
        exact ⟨_, Store.setToolResult_self .., rfl, rfl, request⟩
    · exact Program.obeys_bind.mpr (failToolExecution_rows free (fun t => refusing .valueError t) refusing)

/-- A call that returns its own success has stored it, redacted. -/
theorem call_stores (request : call.Requests dep id key toolName definition input) (free : ∀ op, op.ofGateway = true → pre op) :
    (call.program dep).Obeys (rowDiscipline dep pre)
      (Settled dep id key (dep.requestFingerprint toolName input)) (fun _ _ => True) s := by
  refine call_obeys_rows request free (R := fun _ => True) (fun _ _ _ _ => trivial) trivial ?_ ?_
  · rintro result t ⟨code, -, rfl⟩ - output count impossible
    cases impossible
  · intro owner claim t _ atRow _
    cases claim with
    | conflict => exact fun _ _ impossible => by cases impossible
    | row row =>
      obtain ⟨present, requested⟩ := atRow row rfl
      simp only [Deployment.callClaimed]
      cases row.state with
      | completed =>
        cases definition.outputModel (row.payload.getD .null) with
        | accepted output => exact fun _ _ impossible => by cases impossible
        | rejected => exact fun _ _ impossible => by cases impossible
        | unserializable => trivial
      | failed => exact fun _ _ impossible => by cases impossible
      | claimed =>
        simp only
        split
        · exact fun _ _ impossible => by cases impossible
        · refine Program.obeys_bind.mpr (Program.obeys_attempt.mpr ((attempts_rows free
            RequestedBy.stable ⟨row, present, requested⟩).mono ?_ ?_))
          · intro result u kept
            rw [← request.run] at kept ⊢
            exact persistClaimResult_stores free kept
          · intro error u _
            split
            · trivial
            · exact Program.obeys_bind.mpr (failToolExecution_rows free (fun _ => trivial) fun _ _ => trivial)
            · trivial

/-- A call that begins behind a stored completion of its request replays it. -/
theorem call_replays (request : call.Requests dep id key toolName definition input) (free : ∀ op, op.ofGateway = true → pre op)
    {payload : Json} (completed : Completed id key (dep.requestFingerprint toolName input) payload s) :
    (call.program dep).Obeys (rowDiscipline dep pre)
      (fun result _ => result.refused ∨ definition.replay payload = some result) (fun _ _ => True) s := by
  refine call_obeys_rows request free Completed.stable completed (fun _ _ refused _ => .inl refused) ?_
  rintro owner claim t ⟨stored, present, state, paid, requested⟩ atRow atConflict
  cases claim with
  | conflict fingerprint =>
    obtain ⟨found, there, other⟩ := atConflict fingerprint rfl
    cases Option.some.inj (present.symm.trans there)
    exact absurd requested other
  | row row =>
    obtain ⟨there, -⟩ := atRow row rfl
    cases Option.some.inj (present.symm.trans there)
    simp only [Deployment.callClaimed, state, paid, Option.getD_some, ToolDefinition.replay]
    cases definition.outputModel payload with
    | accepted output => exact .inr rfl
    | rejected => exact .inr rfl
    | unserializable => trivial

end Call

/-- The operation stores no checkpoint but one of the accepted outputs. -/
def RecordsOnly (run : Run) (accepted : Json → Prop) : Op → Prop
  | .saveRunOwnedWithEvents changed events _ _ => (∃ event ∈ events, event.eventType = .runCheckpointed) →
      ∃ output, accepted output ∧ changed = run.checkpointed output
  | _ => True

section Checkpoint
variable {dep : Deployment} {run : Run} {accepted : Json → Prop} {owner : Uuid}

theorem recordsOnly_gateway {op : Op} (gateway : op.ofGateway = true) : RecordsOnly run accepted op := by
  cases op with
  | saveRunOwnedWithEvents => cases gateway
  | _ => trivial

theorem saveWithEvent_within {changed previous : Run} {eventType : EventType} {payload : Dict} {status : String}
    (records : eventType = .runCheckpointed → ∃ output, accepted output ∧ changed = run.checkpointed output) :
    (dep.saveWithEvent changed previous owner eventType payload status).Within (RecordsOnly run accepted)
      (fun _ _ => True) (fun _ => True) (fun _ => True) := by
  refine Program.within_ask (fun found => ?_) (fun _ _ _ _ => trivial) fun _ _ _ _ => trivial
  obtain ⟨event, member, same⟩ := found
  cases List.mem_singleton.mp member
  exact records same

theorem recordRun_within {subject : Run} {eventType : EventType} {payload : Dict} {status : String} :
    (dep.recordRun subject eventType payload status).Within (RecordsOnly run accepted)
      (fun _ _ => True) (fun _ => True) (fun _ => True) :=
  Program.within_ask trivial (fun _ _ _ _ => trivial) fun _ _ _ _ => trivial

theorem terminalFailure_within {subject : Run} {code : String} {explanation : Option String} {nextStep : Bool} :
    (dep.terminalFailure subject code explanation owner nextStep).Within (RecordsOnly run accepted)
      (fun _ _ => True) (fun _ => True) (fun _ => True) := by
  refine Program.within_bind (Program.within_ofExcept (fun _ _ => trivial) fun _ _ => trivial) fun _ _ => ?_
  exact saveWithEvent_within nofun

theorem reviewAction_within {subject : Run} {action : CallToolAction} :
    (dep.reviewAction subject action owner).Within (RecordsOnly run accepted)
      (fun _ _ => True) (fun _ => True) (fun _ => True) := by
  have failing : ∀ code, ((dep.terminalFailure subject code none owner false).bind fun failed =>
      .ret (some failed)).Within (RecordsOnly run accepted) (fun _ _ => True) (fun _ => True) (fun _ => True) :=
    fun code => Program.within_bind terminalFailure_within fun _ _ => trivial
  unfold Deployment.reviewAction
  split
  · refine Program.within_bind (Program.within_ask trivial (fun _ _ _ _ => trivial) fun _ _ _ _ => trivial)
      fun approval _ => ?_
    cases approval with
    | none =>
      refine Program.within_bind (Program.within_ofExcept (fun _ _ => trivial) fun _ _ => trivial) fun _ _ => ?_
      exact Program.within_bind (saveWithEvent_within nofun) fun _ _ => trivial
    | some row =>
      simp only
      split
      · exact failing _
      · split
        · exact failing _
        · trivial
  · trivial

theorem settleResult_within {result : ToolCallResult}
    (allowed : ∀ output count cached, result = .succeeded output count cached → accepted output) :
    (dep.settleResult run owner result).Within (RecordsOnly run accepted)
      (fun _ _ => True) (fun _ => True) (fun _ => True) := by
  have free : ∀ {α : Type} {outcome : Except Exn α}, (.ofExcept outcome : Prog α).Within (RecordsOnly run accepted)
      (fun _ _ => True) (fun _ => True) (fun _ => True) :=
    Program.within_ofExcept (fun _ _ => trivial) fun _ _ => trivial
  cases result with
  | failed code count retryable => exact Program.within_bind terminalFailure_within fun _ _ => trivial
  | succeeded output count cached =>
    refine Program.within_bind free fun outputDigest _ => Program.within_bind free fun contextDigest _ => ?_
    refine Program.within_bind (saveWithEvent_within fun _ => ?_) fun _ _ => trivial
    exact ⟨output, allowed output count cached rfl, rfl⟩

/-- The rule for a part of `executeTool` that stands before or behind the call. -/
theorem records_bind {α β : Type} {program : Prog α} {f : α → Prog β} {id : Uuid} {key fingerprint : String}
    {payload : Json} {s : SystemState}
    (within : program.Within (RecordsOnly run accepted) (fun _ _ => True) (fun _ => True) (fun _ => True))
    (completed : Completed id key fingerprint payload s)
    (later : ∀ value t, Completed id key fingerprint payload t →
      (f value).Obeys (rowDiscipline dep (RecordsOnly run accepted)) (fun _ _ => True) (fun _ _ => True) t) :
    (program.bind f).Obeys (rowDiscipline dep (RecordsOnly run accepted)) (fun _ _ => True) (fun _ _ => True) s :=
  Program.obeys_bind.mpr ((rowDiscipline_within within (fun _ _ => trivial) (fun _ kind => kind) Completed.stable
    completed).mono (fun value t kept => later value t kept.2) fun _ _ _ => trivial)

/-- Whoever executes the step of a stored completion checkpoints what the output model makes of it. -/
theorem executeTool_records {proposed : CallToolAction} {scenario : Scenario} {id : Uuid} {key toolName : String}
    {definition : ToolDefinition} {input : Dict} {payload : Json} {s : SystemState}
    (request : GatewayCall.Requests dep ⟨run, proposed, scenarioFaultPlan scenario⟩ id key toolName definition input)
    (completed : Completed id key (dep.requestFingerprint toolName input) payload s) :
    (dep.executeTool run proposed scenario owner).Obeys
      (rowDiscipline dep (RecordsOnly run fun output => definition.outputModel payload = .accepted output))
      (fun _ _ => True) (fun _ _ => True) s := by
  refine Program.obeys_bind.mpr ((rowDiscipline_within preflight_within (fun _ _ => trivial)
    (fun op same => by rw [same]; trivial) Completed.stable completed).mono ?_ fun _ _ _ => trivial)
  rintro failure t ⟨⟨refused, -⟩, kept⟩
  cases failure with
  | some result =>
    obtain ⟨code, -, rfl⟩ := refused result rfl
    refine records_bind recordRun_within kept fun _ u kept => ?_
    exact records_bind terminalFailure_within kept fun _ _ _ => trivial
  | none =>
    refine records_bind reviewAction_within kept fun reviewed u kept => ?_
    cases reviewed with
    | some stopped => trivial
    | none =>
      have again : GatewayCall.Requests dep ⟨run, dep.stabilizeAction run proposed, scenarioFaultPlan scenario⟩ id key
          toolName definition input := by
        obtain ⟨sameRun, keyed, tool, registered, validated⟩ := request
        have stable : GatewayCall.action dep ⟨run, dep.stabilizeAction run proposed, scenarioFaultPlan scenario⟩ =
            GatewayCall.action dep ⟨run, proposed, scenarioFaultPlan scenario⟩ := stabilizeAction_stable run proposed
        exact ⟨sameRun, stable ▸ keyed, stable ▸ tool, registered, stable ▸ validated⟩
      refine Program.obeys_bind.mpr ((call_replays again (fun _ gateway => recordsOnly_gateway gateway) kept).mono
        (fun result v replayed => ?_) fun _ _ _ => trivial)
      have allowed : ∀ output count cached, result = .succeeded output count cached →
          definition.outputModel payload = .accepted output := by
        rintro output count cached rfl
        rcases replayed with ⟨code, -, impossible⟩ | replayed
        · cases impossible
        · unfold ToolDefinition.replay at replayed
          split at replayed
          · rename_i found accepted
            cases replayed
            exact accepted
          · cases replayed
          · cases replayed
      exact (rowDiscipline_within (R := fun _ => True) (settleResult_within allowed) (fun _ _ => trivial)
        (fun _ kind => kind) (fun _ _ _ _ => trivial) trivial).mono (fun _ _ _ => trivial) fun _ _ _ => trivial

end Checkpoint

theorem gateway_rows (dep : Deployment) :
    dep.gateway.Disciplined (fun _ => rowDiscipline dep fun _ => True) (fun _ => True) where
  same _ := rfl
  init _ impossible := impossible.elim
  start _ _ _ impossible := impossible.elim
  own p op now s answer t _ _ performed := ⟨trivial, p, now, performed⟩
  others p q op now s answer t _ _ _ performed id key := .single (perform_rowStep performed id key)
  ambient s t _ moved := by
    refine ⟨trivial, fun p id key => ?_⟩
    rw [moved.toolResults]
  crash _ _ _ := ⟨trivial, fun _ _ _ => .refl⟩

/-- Behind a call that returned its own success, every call of the same request that
has not begun yet replays what was stored, and so does the execution of its step. -/
theorem cached_replay {dep : Deployment} {calls : Pid → GatewayCall} {store : Store} {clock : DateTime}
    {w : GatewayWorld} (before : Machine.Leads dep.gateway (opening dep calls store clock) w) {p : Pid} {id : Uuid}
    {key toolName : String} {definition : ToolDefinition} {input : Dict} {output : Json} {count : Nat}
    (original : (calls p).Requests dep id key toolName definition input)
    (returned : (w.procs p).rest = some (.ret (.succeeded output count false))) :
    (∀ q, (calls q).Requests dep id key toolName definition input → w.procs q = .ready ((calls q).program dep) →
      ∀ v result, Machine.Leads dep.gateway w v → (v.procs q).rest = some (.ret result) →
        result.refused ∨ definition.replay (Store.sanitize dep.store output) = some result) ∧
    (∀ run proposed scenario owner,
      GatewayCall.Requests dep ⟨run, proposed, scenarioFaultPlan scenario⟩ id key toolName definition input →
      (dep.executeTool run proposed scenario owner).Obeys
        (rowDiscipline dep (RecordsOnly run fun recorded =>
          definition.outputModel (Store.sanitize dep.store output) = .accepted recorded))
        (fun _ _ => True) (fun _ _ => True) w.state) ∧
    (Store.sanitize dep.store output = output → definition.outputModel output = .accepted output →
      definition.replay (Store.sanitize dep.store output) = some (.succeeded output 0 true)) := by
  have stableTrue : ∀ (r : Pid) (error : Exn), (rowDiscipline dep fun _ => True).Stable fun _ => True :=
    fun _ _ _ _ _ _ => trivial
  have noStart : ∀ {Q : Pid → ToolCallResult → SystemState → Prop} (r : Pid) (program : Prog ToolCallResult)
      (s : SystemState), dep.gateway.starts program → True →
        program.Obeys (rowDiscipline dep fun _ => True) (Q r) (fun _ _ => True) s := fun _ _ _ impossible => impossible.elim
  have free : ∀ {α : Type} (program : Prog α) (s : SystemState), program.Obeys (rowDiscipline dep fun _ => True)
      (fun _ _ => True) (fun _ _ => True) s := Program.obeys_free fun _ _ => trivial
  -- up to `w`: whatever `p` returns as its own success is stored
  have stored : Completed id key (dep.requestFingerprint toolName input) (Store.sanitize dep.store output) w.state := by
    have opened : Machine.Keeps (fun _ => rowDiscipline dep fun _ => True)
        (fun r result s => r = p → Settled dep id key (dep.requestFingerprint toolName input) result s)
        (fun _ _ _ => True) (opening dep calls store clock) := by
      intro r program rest
      cases Option.some.inj rest
      by_cases same : r = p
      · subst same
        exact (call_stores original fun _ _ => trivial).mono (fun _ _ settled _ => settled) fun _ _ _ => trivial
      · exact (free _ _).mono (fun _ _ _ impossible => absurd impossible same) fun _ _ _ => trivial
    have stable : ∀ (r : Pid) (result : ToolCallResult), (rowDiscipline dep fun _ => True).Stable fun s =>
        r = p → Settled dep id key (dep.requestFingerprint toolName input) result s :=
      fun r result s t others settled same output count success =>
        Completed.stable s t others (settled same output count success)
    exact (before.keeps (gateway_rows dep) stable stableTrue noStart trivial opened).2 p _ returned rfl output count rfl
  refine ⟨fun q later waiting v result after answered => ?_, fun run proposed scenario owner request =>
    executeTool_records request stored, fun clean whole => ?_⟩
  · -- from `w` on: whatever `q` returns is the replay
    have standing : Machine.Keeps (fun _ => rowDiscipline dep fun _ => True)
        (fun r result _ => r = q → result.refused ∨ definition.replay (Store.sanitize dep.store output) = some result)
        (fun _ _ _ => True) w := by
      intro r program rest
      by_cases same : r = q
      · subst same
        rw [waiting] at rest
        cases Option.some.inj rest
        exact (call_replays later (fun _ _ => trivial) stored).mono (fun _ _ replayed _ => replayed)
          fun _ _ _ => trivial
      · exact (free _ _).mono (fun _ _ _ impossible => absurd impossible same) fun _ _ _ => trivial
    have stable : ∀ (r : Pid) (result : ToolCallResult), (rowDiscipline dep fun _ => True).Stable fun _ =>
        r = q → result.refused ∨ definition.replay (Store.sanitize dep.store output) = some result :=
      fun _ _ _ _ _ replayed => replayed
    exact (after.keeps (gateway_rows dep) stable stableTrue noStart trivial standing).2 q _ answered rfl
  · rw [clean]
    simp [ToolDefinition.replay, whole]

def returnsState (p : Pid) (text : String) (cached : Bool) (w : GatewayWorld) : Bool :=
  match w.procs p with
  | .ready (.ret (.succeeded (.obj [("state", .str found)]) _ flag)) => found = text && flag = cached
  | _ => false

theorem returnsState_sound {p : Pid} {text : String} {cached : Bool} {w : GatewayWorld}
    (returned : returnsState p text cached w = true) :
    ∃ count, (w.procs p).rest = some (.ret (.succeeded (demoState text) count cached)) := by
  unfold returnsState at returned
  split at returned
  · rename_i found count flag ready
    simp only [Bool.and_eq_true, decide_eq_true_eq] at returned
    obtain ⟨rfl, rfl⟩ := returned
    exact ⟨count, by rw [ready]; rfl⟩
  · cases returned

/-- A deployment whose tool reads a state, with these secrets configured. -/
abbrev demoReading (secrets : List String) : Deployment := demoStates (demoStateTool false .accepted) secrets

def readOpening (secrets : List String) : GatewayWorld :=
  opening (demoReading secrets) demoCalls Store.empty (demoClock 0 demoStart_inside)

/-- One party carries its call out, and then another one. -/
theorem read_twice {secrets : List String} {text : String}
    (ran : ((takeTurns demoStateResponder (demoReading secrets) (fun _ _ _ _ => true) 0 7 (readOpening secrets)).bind
      fun w => if returnsState 0 "done" false w then
        takeTurns demoStateResponder (demoReading secrets) (fun _ _ _ _ => true) 1 2 w else none).any
      (returnsState 1 text true) = true) :
    ∃ (w v : GatewayWorld) (count : Nat), Machine.Leads (demoReading secrets).gateway (readOpening secrets) w ∧
      (w.procs 0).rest = some (.ret (.succeeded (demoState "done") count false)) ∧
      w.procs 1 = .ready ((demoCalls 1).program (demoReading secrets)) ∧
      Machine.Leads (demoReading secrets).gateway w v ∧
      ∃ count', (v.procs 1).rest = some (.ret (.succeeded (demoState text) count' true)) := by
  have reads : ∀ s, (demoReading secrets).gateway.reads s s.clock := fun _ => rfl
  have performs : ∀ p op (s : SystemState), true = true → (demoReading secrets).gateway.perform p op s.clock s
      (demoStateResponder.act (demoReading secrets).store p s.clock s op).1
      (demoStateResponder.act (demoReading secrets).store p s.clock s op).2 :=
    fun p op s _ => (demoStates_fits _ secrets).perform p s.clock s op
  obtain ⟨v, second, returned⟩ := (Option.any_eq_true _ _).mp ran
  obtain ⟨w, first, rest⟩ := Option.bind_eq_some_iff.mp second
  split at rest
  · rename_i own
    obtain ⟨count, settled⟩ := returnsState_sound own
    exact ⟨w, v, count, takeTurns_leads reads performs first, settled, takeTurns_others (by decide) first,
      takeTurns_leads reads performs rest, returnsState_sound returned⟩
  · cases rest

/-- The second call of two without a secret returns what the first one did. -/
theorem cached_replay_demo : ∃ (w v : GatewayWorld) (count : Nat) (result : ToolCallResult),
    (w.procs 0).rest = some (.ret (.succeeded (demoState "done") count false)) ∧
    Machine.Leads (demoReading []).gateway w v ∧ (v.procs 1).rest = some (.ret result) ∧
    (result.refused ∨
      (demoStateTool false .accepted).replay (Store.sanitize (demoReading []).store (demoState "done")) = some result) := by
  obtain ⟨w, v, count, before, returned, waiting, after, _, answered⟩ := @read_twice [] "done" (by decide +kernel)
  have replayed := (cached_replay before (demoCalls_request _ [] 0) returned).1 1 (demoCalls_request _ [] 1) waiting v _
    after answered
  exact ⟨w, v, count, _, returned, after, answered, replayed⟩

/-- With its text configured as a secret, the replay of the state is another state. -/
theorem replay_redacted : ∃ (w v : GatewayWorld) (count count' : Nat),
    Machine.Leads (demoReading ["done"]).gateway (readOpening ["done"]) w ∧
    (∀ p, (demoCalls p).Requests (demoReading ["done"]) 0 "key" "state" (demoStateTool false .accepted) []) ∧
    (w.procs 0).rest = some (.ret (.succeeded (demoState "done") count false)) ∧
    w.procs 1 = .ready ((demoCalls 1).program (demoReading ["done"])) ∧
    Machine.Leads (demoReading ["done"]).gateway w v ∧
    (v.procs 1).rest = some (.ret (.succeeded (demoState "[REDACTED]") count' true)) := by
  obtain ⟨w, v, count, before, returned, waiting, after, count', answered⟩ :=
    @read_twice ["done"] "[REDACTED]" (by decide +kernel)
  exact ⟨w, v, count, count', before, demoCalls_request _ ["done"], returned, waiting, after, answered⟩

end ReliabilityLab
