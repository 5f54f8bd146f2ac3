import ReliabilityLab.Evaluation.TraceClaims

namespace ReliabilityLab

def AttemptStatus.eventType : AttemptStatus → EventType
  | .succeeded => .toolAttemptSucceeded
  | .failed => .toolAttemptFailed
  | .cancelled => .toolAttemptCancelled

def FinalStatus.eventType : FinalStatus → EventType
  | .succeeded => .runSucceeded
  | _ => .runFailed

/-- The variables after the end of an attempt. -/
def TraceState.attemptOver (st : TraceState) (identity : AttemptIdentity) (attempt : AttemptEvidence)
    (pending : Option (AttemptIdentity × Json)) : TraceState :=
  { st with
    started := st.started.filter fun entry => entry.1 ≠ identity
    attempts := st.attempts ++ [attempt]
    lastAttemptByAction := putEntry st.lastAttemptByAction identity.action attempt
    pendingSuccess := pending }

/-- The variables after the checkpoint of `output`. -/
def TraceState.checkpoint (st : TraceState) (identity : AttemptIdentity) (output : Json) : TraceState :=
  let contextOutputs := st.contextOutputs.set (toString identity.actionStep) output
  { st with
    contextOutputs := contextOutputs
    reconstructedContext := st.reconstructedContext.set "tool_results" (.obj contextOutputs)
    acceptedOutputs := st.acceptedOutputs ++ [⟨identity.actionStep, identity.toolName, output⟩]
    pendingSuccess := none
    activeCall := none }

/-- What an accepted event does to the variables of the loop, and what it must have been for that. -/
inductive TraceEffect (sha256 : Json → String) (mode : Mode) (frozen : SuiteManifestEntry) (st : TraceState)
    (item : OrderedTraceEvidence) : TraceState → Prop
  | announced (action : LogicalActionProjection) : item.eventType = .policyAction →
      payloadInt item.payload "action_step" = some action.actionStep →
      frozen.frozenByStep action.actionStep = some action →
      (∃ kind, item.payload.lookup "type" = some kind ∧ (Json.str action.kind.value == kind) = true) →
      (optionalStr action.toolName == payloadGet item.payload "tool_name") = true →
      (Json.obj (item.payload.erase "action_step") == .obj action.actionPayload) = true →
      st.lastPolicyStep ≤ action.actionStep → mayAnnounce st action = true →
      TraceEffect sha256 mode frozen st item (st.announced item action (item.payload.erase "action_step"))
  | started (identity : AttemptIdentity) : item.eventType = .toolAttemptStarted →
      attemptIdentity st.activeCall item.payload = some identity → st.started.lookup identity = none →
      mayStart st identity = true → identity.attempt ≤ attemptLimit mode →
      TraceEffect sha256 mode frozen st item { st with
        started := (identity, item.spanId) :: st.started
        attemptStartPositions := putEntry st.attemptStartPositions identity item.sequence }
  | unsuccessful (identity : AttemptIdentity) (status : AttemptStatus) (attempt : AttemptEvidence) :
      status ≠ .succeeded → item.eventType = status.eventType →
      attemptIdentity st.activeCall item.payload = some identity → st.started.lookup identity = some item.spanId →
      AttemptEvidence.make identity status item.payload = .ok attempt →
      TraceEffect sha256 mode frozen st item (st.attemptOver identity attempt st.pendingSuccess)
  | successful (identity : AttemptIdentity) (attempt : AttemptEvidence) (output : Json)
      (action : LogicalActionProjection) : item.eventType = .toolAttemptSucceeded →
      attemptIdentity st.activeCall item.payload = some identity → st.started.lookup identity = some item.spanId →
      AttemptEvidence.make identity .succeeded item.payload = .ok attempt →
      item.payload.lookup "output" = some output → frozen.frozenByStep identity.actionStep = some action →
      (∃ digest, canonicalJsonDigest sha256 output = .ok digest ∧ action.expectedOutputDigest = some digest) →
      TraceEffect sha256 mode frozen st item (st.attemptOver identity attempt (some (identity, output)))
  | faultInjected (fault : FaultEvidence) : item.eventType = .faultInjected →
      TraceEffect sha256 mode frozen st item { st with faults := st.faults ++ [fault] }
  | validationFailed (validation : OutputValidationEvidence) : item.eventType = .toolOutputValidationFailed →
      TraceEffect sha256 mode frozen st item { st with validations := st.validations ++ [validation] }
  | checkpointed (identity : AttemptIdentity) (output : Json) : item.eventType = .runCheckpointed →
      st.pendingSuccess = some (identity, output) →
      (Json.int identity.actionStep == payloadGet item.payload "action_step") = true →
      TraceEffect sha256 mode frozen st item (st.checkpoint identity output)
  | preflightFailed (code : String) : item.eventType = .toolPreflightFailed → st.activeCall.isSome →
      TraceEffect sha256 mode frozen st item
        { st with preflightFailure := some code, mustFailPreflight := some code }
  | waiting (wait : ApprovalWait) : item.eventType = .runWaitingApproval →
      TraceEffect sha256 mode frozen st item { st with waits := st.waits ++ [wait] }
  | recorded (decision : ApprovalDecision) (mustRecordDenial : Option DeniedAction) :
      item.eventType = .approvalRecorded →
      TraceEffect sha256 mode frozen st item
        { st with mustRecordDenial := mustRecordDenial, approvals := st.approvals ++ [decision] }
  | denied (action : DeniedAction) (reason : Json) (mustFail : Option Json) : item.eventType = .approvalDenied →
      TraceEffect sha256 mode frozen st item
        { st with denied := some (action, reason), mustRecordDenial := none, mustFailApprovalDenied := mustFail }
  | running (resumes : List Nat) : item.eventType = .runRunning →
      TraceEffect sha256 mode frozen st item { st with resumes := resumes }
  | terminal (status : FinalStatus) (mustFailPreflight : Option String) (mustFail : Option Json) :
      item.eventType = status.eventType → status ≠ .waitingApproval → mayEnd st status →
      (terminalPayload st).all (Json.obj · == .obj item.payload) = true →
      TraceEffect sha256 mode frozen st item
        { st with
          mustFailApprovalDenied := mustFail, mustFailPreflight := mustFailPreflight
          final := some (status, item.payload) }

/-! Entries of dicts that are kept as lists. -/

section Entries
variable {κ β : Type} [DecidableEq κ] [BEq κ] [LawfulBEq κ] {entries : List (κ × β)} {key other : κ} {value : β}

theorem lookup_filter_self : (entries.filter fun entry => entry.1 ≠ key).lookup key = none := by
  rw [List.lookup_eq_none_iff]
  intro entry member
  have unequal : entry.1 ≠ key := by simpa using (List.mem_filter.mp member).2
  simpa using unequal.symm

theorem lookup_filter_of_ne (unequal : other ≠ key) :
    (entries.filter fun entry => entry.1 ≠ key).lookup other = entries.lookup other := by
  induction entries with
  | nil => rfl
  | cons entry rest ih =>
    obtain ⟨k, v⟩ := entry
    by_cases same : k = key
    · subst same
      simpa [List.lookup_cons, beq_false_of_ne unequal] using ih
    · simp only [List.filter_cons, ne_eq, same, not_false_eq_true, decide_true, if_true, List.lookup_cons]
      rw [← ih]

@[simp] theorem lookup_putEntry_self : (putEntry entries key value).lookup key = some value := by
  simp [putEntry]

theorem lookup_putEntry_of_ne (unequal : other ≠ key) :
    (putEntry entries key value).lookup other = entries.lookup other := by
  rw [putEntry, List.lookup_cons, beq_false_of_ne unequal]
  exact lookup_filter_of_ne unequal

end Entries

section Inversion
variable {sha256 : Json → String} {mode : Mode} {frozen : SuiteManifestEntry} {st next : TraceState}
  {item : OrderedTraceEvidence}

theorem frozenByStep_step {step : Int} {action : LogicalActionProjection}
    (found : frozen.frozenByStep step = some action) : (action.actionStep : Int) = step := by
  simpa using List.find?_some found

theorem policyAction_effect (event : item.eventType = .policyAction)
    (accepted : policyAction sha256 frozen st item = .ok next) : TraceEffect sha256 mode frozen st item next := by
  simp only [policyAction, Check.bind_ok, Check.some?_ok, Check.require_ok, Check.lift_ok, exists_const] at accepted
  obtain ⟨step, found, kind, type, action, frozenAction, ⟨sameKind, sameTool, samePayload⟩, fingerprint, -, ⟨-, order⟩,
    admitted, done⟩ := accepted
  cases frozenByStep_step frozenAction
  cases done
  rw [Dict.lookup_erase_of_ne _ (by decide)] at type
  rw [payloadGet, Dict.lookup_erase_of_ne _ (by decide)] at sameTool
  exact .announced action event found frozenAction ⟨kind, type, sameKind⟩ sameTool samePayload order admitted

theorem attemptStarted_effect (event : item.eventType = .toolAttemptStarted)
    (accepted : attemptStarted mode st item = .ok next) : TraceEffect sha256 mode frozen st item next := by
  simp only [attemptStarted, Check.bind_ok, Check.some?_ok, Check.require_ok, exists_const] at accepted
  obtain ⟨identity, found, ⟨-, -, fresh⟩, ⟨admitted, limited⟩, done⟩ := accepted
  cases done
  exact .started identity event found (by simpa using fresh) admitted limited

theorem attemptEnded_effect {status : AttemptStatus} (event : item.eventType = status.eventType)
    (accepted : attemptEnded sha256 frozen st item status = .ok next) : TraceEffect sha256 mode frozen st item next := by
  simp only [attemptEnded, Check.bind_ok, Check.some?_ok, Check.require_ok, Check.lift_ok, exists_const] at accepted
  obtain ⟨identity, found, ⟨-, live, -⟩, attempt, made, shown⟩ := accepted
  by_cases success : status = .succeeded
  · subst success
    simp only [if_true, attemptOutputShown, Check.bind_ok, Check.some?_ok, Check.require_ok, Check.lift_ok,
      exists_const] at shown
    obtain ⟨output, there, action, frozenAction, expected, known, digest, computed, same, done⟩ := shown
    cases done
    exact .successful identity attempt output action event found live made there frozenAction
      ⟨digest, computed, by rw [known, same]⟩
  · rw [if_neg success] at shown
    cases shown
    exact .unsuccessful identity status attempt success event found live made

theorem checkpointed_effect (event : item.eventType = .runCheckpointed)
    (accepted : checkpointed sha256 st item = .ok next) : TraceEffect sha256 mode frozen st item next := by
  simp only [checkpointed, Check.bind_ok, Check.some?_ok, Check.require_ok, Check.lift_ok, exists_const] at accepted
  obtain ⟨⟨identity, output⟩, pending, -, _, -, _, -, ⟨step, -⟩, _, -, -, _, -, -, done⟩ := accepted
  cases done
  exact .checkpointed identity output event pending step

theorem preflightFailed_effect (event : item.eventType = .toolPreflightFailed)
    (accepted : preflightFailed frozen st item = .ok next) : TraceEffect sha256 mode frozen st item next := by
  simp only [preflightFailed, Check.bind_ok, Check.some?_ok, Check.require_ok, exists_const] at accepted
  obtain ⟨⟨active, -⟩, _, -, _, -, _, -, _, -, -, _, -, -, known⟩ := accepted
  split at known
  · obtain ⟨code, -, done⟩ := Check.some?_bind_ok.mp known
    cases done
    exact .preflightFailed code event active
  · cases known

theorem terminal_effect {status : FinalStatus} (event : item.eventType = status.eventType)
    (ended : status ≠ .waitingApproval) (accepted : terminal st item status = .ok next) :
    TraceEffect sha256 mode frozen st item next := by
  simp only [terminal, Check.require_bind_ok] at accepted
  obtain ⟨-, ⟨allowed, payload⟩, done⟩ := accepted
  cases done
  exact .terminal status _ _ event ended allowed payload

/-- The inversion of one round: the event was expected, and had one of the effects. -/
theorem traceStep_effect (accepted : traceStep sha256 mode frozen st item = .ok next) :
    st.expects item ∧ TraceEffect sha256 mode frozen st item next := by
  obtain ⟨expected, dispatched⟩ := Check.require_bind_ok.mp accepted
  refine ⟨expected, ?_⟩
  split at dispatched
  case h_1 event => exact policyAction_effect event dispatched
  case h_2 event => exact attemptStarted_effect event dispatched
  case h_3 event => exact @attemptEnded_effect _ _ _ _ _ _ .succeeded event dispatched
  case h_4 event => exact @attemptEnded_effect _ _ _ _ _ _ .failed event dispatched
  case h_5 event => exact @attemptEnded_effect _ _ _ _ _ _ .cancelled event dispatched
  case h_6 event =>
    obtain ⟨_, -, rest⟩ := Check.bind_ok.mp dispatched
    split at rest
    · cases rest
    · obtain ⟨fault, -, done⟩ := Check.some?_bind_ok.mp rest
      cases done
      exact .faultInjected fault event
  case h_7 event =>
    obtain ⟨_, -, rest⟩ := Check.bind_ok.mp dispatched
    obtain ⟨validation, -, done⟩ := Check.some?_bind_ok.mp rest
    cases done
    exact .validationFailed validation event
  case h_8 event => exact checkpointed_effect event dispatched
  case h_9 event => exact preflightFailed_effect event dispatched
  case h_10 event =>
    simp only [waitingApproval, Check.bind_ok, Check.some?_ok, Check.require_ok, exists_const] at dispatched
    obtain ⟨_, -, _, -, _, -, _, -, -, done⟩ := dispatched
    cases done
    exact .waiting _ event
  case h_11 event =>
    simp only [approvalRecorded, Check.bind_ok, Check.some?_ok, Check.require_ok, exists_const] at dispatched
    obtain ⟨_, -, _, -, _, -, -, done⟩ := dispatched
    cases done
    exact .recorded _ _ event
  case h_12 event =>
    simp only [approvalDenied, Check.bind_ok, Check.some?_ok, Check.require_ok, exists_const] at dispatched
    obtain ⟨_, -, _, -, -, done⟩ := dispatched
    cases done
    exact .denied _ _ _ event
  case h_13 event =>
    obtain ⟨-, done⟩ := Check.require_bind_ok.mp dispatched
    split at done <;> cases done
    · exact .running _ event
    · exact .running st.resumes event
  case h_14 event => exact @terminal_effect _ _ _ _ _ _ .succeeded event (by decide) dispatched
  case h_15 event => exact @terminal_effect _ _ _ _ _ _ .failed event (by decide) dispatched
  all_goals cases dispatched

end Inversion

end ReliabilityLab
