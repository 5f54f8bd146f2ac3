import Mathlib.Data.List.Dedup
import ReliabilityLab.Evaluation.Successes

namespace ReliabilityLab

namespace OrderedTraceEvidence
variable (item : OrderedTraceEvidence)

def starts (step : Int) (toolName : String) : Prop :=
  item.eventType = .toolAttemptStarted ∧ payloadInt item.payload "action_step" = some step ∧
    payloadGet item.payload "tool_name" = .str toolName

instance (step : Int) : Decidable (item.announces step) := by
  unfold announces
  infer_instance

/-- The run waits for a decision on the action with this fingerprint. -/
def waitsFor (step : Int) (fingerprint : String) : Prop :=
  item.eventType = .runWaitingApproval ∧ payloadInt item.payload "step" = some step ∧
    payloadGet item.payload "action_fingerprint" = .str fingerprint

def approves (step : Int) (fingerprint : String) : Prop :=
  item.eventType = .approvalRecorded ∧ payloadInt item.payload "action_step" = some step ∧
    payloadGet item.payload "action_fingerprint" = .str fingerprint ∧ payloadGet item.payload "allow" = .bool true

def resumesWaiting : Prop :=
  item.eventType = .runRunning ∧ payloadGet item.payload "from_status" = .str "waiting_approval"

instance : Decidable item.resumesWaiting :=
  decidable_of_iff (item.eventType = .runRunning ∧
    (Json.str "waiting_approval" == payloadGet item.payload "from_status") = true) (and_congr_right' Json.beq_str)

end OrderedTraceEvidence

/-- An approval of the call of a step: five events, each after the one before it. -/
structure ApprovalCycle (step : Int) (fingerprint : String) where
  announced : OrderedTraceEvidence
  waiting : OrderedTraceEvidence
  approved : OrderedTraceEvidence
  resumed : OrderedTraceEvidence
  repeated : OrderedTraceEvidence
  announces : announced.announces step
  waits : waiting.waitsFor step fingerprint
  approves : approved.approves step fingerprint
  resumes : resumed.resumesWaiting
  announcesAgain : repeated.announces step
  waiting_later : announced.sequence < waiting.sequence
  approved_later : waiting.sequence < approved.sequence
  resumed_later : approved.sequence < resumed.sequence
  repeated_later : resumed.sequence < repeated.sequence

namespace ApprovalCycle
variable {step : Int} {fingerprint : String} (cycle : ApprovalCycle step fingerprint)
  (evidence : List OrderedTraceEvidence)

def events : List OrderedTraceEvidence :=
  [cycle.announced, cycle.waiting, cycle.approved, cycle.resumed, cycle.repeated]

/-- No event of the trace other than those of the cycle is of their kinds. -/
def only : Prop :=
  (∀ item ∈ evidence, item.announces step → item = cycle.announced ∨ item = cycle.repeated) ∧
  (∀ item ∈ evidence, item.eventType = .runWaitingApproval → item = cycle.waiting) ∧
  (∀ item ∈ evidence, item.eventType = .approvalRecorded → item = cycle.approved) ∧
  ∀ item ∈ evidence, item.resumesWaiting → item = cycle.resumed

end ApprovalCycle

/-- The frozen action of the manifest is one of those that its scenario is built from. -/
def builtInAction (scenarioId : String) (action : LogicalActionProjection) : Prop :=
  ∃ actions, deterministicIncidentActions scenarioId = some actions ∧
    ∃ payload ∈ actions, (Json.obj action.actionPayload == .obj payload) = true

/-- The step was executed after the only approval cycle of the trace, which is for
the built-in action that the manifest has for the step; nothing was denied. -/
def CaseResult.approvedOnce (sha256 : Json → String) (manifest : List SuiteManifestEntry) (case : CaseResult)
    (step : Int) : Prop :=
  ∃ frozen action fingerprint, manifestById manifest case.scenarioId = some frozen ∧
    frozen.frozenByStep step = some action ∧ builtInAction frozen.scenarioId action ∧
    canonicalActionFingerprint sha256 action.actionPayload = .ok fingerprint ∧
    ∃ cycle : ApprovalCycle step fingerprint, cycle.events ⊆ case.traceEvidence ∧
      (∀ item ∈ case.traceEvidence, ∀ toolName, item.starts step toolName → cycle.repeated.sequence < item.sequence) ∧
      cycle.only case.traceEvidence ∧ ∀ item ∈ case.traceEvidence, item.eventType ≠ .approvalDenied

section Collected
variable {sha256 : Json → String} {mode : Mode} {frozen : SuiteManifestEntry} {st next : TraceState}
  {item : OrderedTraceEvidence} {events : List OrderedTraceEvidence} {final : TraceState}

def OrderedTraceEvidence.announcesAt (item : OrderedTraceEvidence) (position : Nat × Nat) : Prop :=
  item.announces position.1 ∧ item.sequence = position.2

/-- The event that the loop took this wait from. -/
def OrderedTraceEvidence.waitsAs (item : OrderedTraceEvidence) (wait : ApprovalWait) : Prop :=
  item.eventType = .runWaitingApproval ∧ item.sequence = wait.sequence ∧
    payloadInt item.payload "step" = some (wait.step : Int) ∧
    payloadGet item.payload "action_fingerprint" = wait.fingerprint

/-- The event that the loop took this decision from, on the frozen action of its step. -/
def OrderedTraceEvidence.decidesAs (frozen : SuiteManifestEntry) (item : OrderedTraceEvidence)
    (decision : ApprovalDecision) : Prop :=
  item.eventType = .approvalRecorded ∧ item.sequence = decision.sequence ∧
    payloadInt item.payload "action_step" = some (decision.step : Int) ∧
    payloadGet item.payload "action_fingerprint" = .str decision.fingerprint ∧
    payloadGet item.payload "allow" = .bool decision.allow ∧
    ∃ action, frozen.frozenByStep decision.step = some action ∧ action.actionFingerprint = decision.fingerprint

theorem payloadGet_of_lookup {payload : Dict} {key : String} {value : Json} (found : payload.lookup key = some value) :
    payloadGet payload key = value := by
  rw [payloadGet, found]
  rfl

theorem waitingApproval_ok (event : item.eventType = .runWaitingApproval)
    (accepted : waitingApproval st item = .ok next) :
    ∃ wait, item.waitsAs wait ∧ next = { st with waits := st.waits ++ [wait] } := by
  simp only [waitingApproval, Check.bind_ok, Check.some?_ok, Check.require_ok, exists_const] at accepted
  obtain ⟨step, named, tool, -, fingerprint, shown, ⟨activeStep, activeTool⟩, active, ⟨called, -⟩, done⟩ := accepted
  cases done
  rw [active] at called
  simp only [callIs, Bool.and_eq_true, decide_eq_true_eq] at called
  exact ⟨_, ⟨event, rfl, by rw [named, called.1], payloadGet_of_lookup shown⟩, rfl⟩

theorem approvalRecorded_ok (event : item.eventType = .approvalRecorded)
    (accepted : approvalRecorded frozen st item = .ok next) :
    ∃ decision mustRecordDenial, item.decidesAs frozen decision ∧
      (decision.allow = true → mustRecordDenial = st.mustRecordDenial) ∧
      next = { st with mustRecordDenial, approvals := st.approvals ++ [decision] } := by
  simp only [approvalRecorded, decidedAction, Check.bind_ok, Check.some?_ok, Check.require_ok, exists_const] at accepted
  obtain ⟨action, ⟨step, named, fingerprint, shown, frozenAction, found, ⟨same, -⟩, chosen⟩, actor, -, allow, said, -,
    done⟩ := accepted
  cases done
  cases chosen
  cases frozenByStep_step found
  refine ⟨_, _, ⟨event, rfl, named, ?_, ?_, _, found, rfl⟩, ?_, rfl⟩
  · rw [payloadGet_of_lookup shown]
    exact Json.beq_str.mp same
  · exact Json.bool?_some said
  · intro allows
    exact if_pos allows

/-- Each list that the approval check reads changes on events of one type only. -/
theorem lists_kept (accepted : traceStep sha256 mode frozen st item = .ok next) :
    (item.eventType ≠ .policyAction → next.policyPositions = st.policyPositions) ∧
    (item.eventType ≠ .runWaitingApproval → next.waits = st.waits) ∧
    (item.eventType ≠ .approvalRecorded → next.approvals = st.approvals) ∧
    (item.eventType ≠ .runRunning → next.resumes = st.resumes) ∧
    (item.eventType ≠ .toolAttemptStarted → next.attemptStartPositions = st.attemptStartPositions) := by
  obtain ⟨-, effect⟩ := traceStep_effect accepted
  cases effect with
  | announced _ event | started _ event | waiting _ event | recorded _ _ event | running _ event =>
    simp [event, TraceState.announced]
  | unsuccessful | successful | faultInjected | validationFailed | checkpointed | preflightFailed | denied | terminal =>
    exact ⟨fun _ => rfl, fun _ => rfl, fun _ => rfl, fun _ => rfl, fun _ => rfl⟩

theorem announced_collected
    (ran : Check.run (traceStep sha256 mode frozen) (.initial frozen) events = .ok final) :
    List.Forall₂ OrderedTraceEvidence.announcesAt (events.filter (·.eventType = .policyAction)) final.policyPositions := by
  refine Check.run_collects (fun st item next accepted => ?_) rfl ran
  by_cases event : item.eventType = .policyAction
  · obtain ⟨-, effect⟩ := traceStep_effect accepted
    rw [Check.Adds, if_pos (by simp [event])]
    cases effect with
    | announced action event step => exact ⟨(action.actionStep, item.sequence), ⟨⟨event, step⟩, rfl⟩, rfl⟩
    | unsuccessful _ status _ _ other => cases status <;> exact absurd (event.symm.trans other) (by decide)
    | terminal status _ _ other => cases status <;> exact absurd (event.symm.trans other) (by decide)
    | _ => simp_all
  · rw [Check.Adds, if_neg (by simp [event])]
    exact (lists_kept accepted).1 event

theorem waits_collected
    (ran : Check.run (traceStep sha256 mode frozen) (.initial frozen) events = .ok final) :
    List.Forall₂ OrderedTraceEvidence.waitsAs (events.filter (·.eventType = .runWaitingApproval)) final.waits := by
  refine Check.run_collects (fun st item next accepted => ?_) rfl ran
  by_cases event : item.eventType = .runWaitingApproval
  · obtain ⟨-, dispatched⟩ := Check.require_bind_ok.mp accepted
    rw [event] at dispatched
    rw [Check.Adds, if_pos (by simp [event])]
    obtain ⟨wait, waits, done⟩ := waitingApproval_ok event dispatched
    exact ⟨wait, waits, congrArg TraceState.waits done⟩
  · rw [Check.Adds, if_neg (by simp [event])]
    exact (lists_kept accepted).2.1 event

theorem approvals_collected
    (ran : Check.run (traceStep sha256 mode frozen) (.initial frozen) events = .ok final) :
    List.Forall₂ (OrderedTraceEvidence.decidesAs frozen) (events.filter (·.eventType = .approvalRecorded))
      final.approvals := by
  refine Check.run_collects (fun st item next accepted => ?_) rfl ran
  by_cases event : item.eventType = .approvalRecorded
  · obtain ⟨-, dispatched⟩ := Check.require_bind_ok.mp accepted
    rw [event] at dispatched
    rw [Check.Adds, if_pos (by simp [event])]
    obtain ⟨decision, _, decides, -, done⟩ := approvalRecorded_ok event dispatched
    exact ⟨decision, decides, congrArg TraceState.approvals done⟩
  · rw [Check.Adds, if_neg (by simp [event])]
    exact (lists_kept accepted).2.2.1 event

theorem resumes_collected
    (ran : Check.run (traceStep sha256 mode frozen) (.initial frozen) events = .ok final) :
    List.Forall₂ (fun item sequence => item.resumesWaiting ∧ item.sequence = sequence)
      (events.filter (·.resumesWaiting)) final.resumes := by
  refine Check.run_collects (fun st item next accepted => ?_) rfl ran
  by_cases event : item.eventType = .runRunning
  · obtain ⟨-, dispatched⟩ := Check.require_bind_ok.mp accepted
    rw [event] at dispatched
    obtain ⟨-, done⟩ := Check.require_bind_ok.mp dispatched
    cases done
    by_cases origin : payloadGet item.payload "from_status" = .str "waiting_approval"
    · rw [Check.Adds, if_pos (by simp [OrderedTraceEvidence.resumesWaiting, event, origin]), if_pos (Json.beq_str.mpr origin)]
      exact ⟨item.sequence, ⟨⟨event, origin⟩, rfl⟩, rfl⟩
    · rw [Check.Adds, if_neg (by simp [OrderedTraceEvidence.resumesWaiting, origin]),
        if_neg fun same => origin (Json.beq_str.mp same)]
  · rw [Check.Adds, if_neg (by simp [OrderedTraceEvidence.resumesWaiting, event])]
    exact (lists_kept accepted).2.2.2.1 event

/-- A denial comes after a decision against the action. -/
def denialsDecided (seen : List OrderedTraceEvidence) (st : TraceState) : Prop :=
  (st.mustRecordDenial.isSome ∨ ∃ item ∈ seen, item.eventType = .approvalDenied) →
    ∃ decision ∈ st.approvals, decision.allow = false

theorem approvalDenied_ok (accepted : approvalDenied frozen st item = .ok next) :
    st.mustRecordDenial.isSome ∧ next.approvals = st.approvals := by
  simp only [approvalDenied, Check.bind_ok, Check.some?_ok, Check.require_ok, exists_const] at accepted
  obtain ⟨_, -, _, -, ⟨-, must, -⟩, done⟩ := accepted
  cases done
  exact ⟨by rw [must]; rfl, rfl⟩

theorem denialsDecided_step {seen : List OrderedTraceEvidence} (decided : denialsDecided seen st)
    (accepted : traceStep sha256 mode frozen st item = .ok next) : denialsDecided (seen ++ [item]) next := by
  obtain ⟨-, dispatched⟩ := Check.require_bind_ok.mp accepted
  obtain ⟨-, effect⟩ := traceStep_effect accepted
  by_cases recorded : item.eventType = .approvalRecorded
  · rw [recorded] at dispatched
    obtain ⟨decision, must, -, allows, rfl⟩ := approvalRecorded_ok recorded dispatched
    intro denied
    by_cases allow : decision.allow = true
    · have before : st.mustRecordDenial.isSome ∨ ∃ item ∈ seen, item.eventType = .approvalDenied := by
        simpa [allows allow, or_imp, recorded, or_and_right, exists_or] using denied
      obtain ⟨other, old, against⟩ := decided before
      exact ⟨other, List.mem_append_left _ old, against⟩
    · exact ⟨decision, by simp, by simpa using allow⟩
  · have kept := (lists_kept accepted).2.2.1 recorded
    intro denied
    rw [kept]
    refine decided ?_
    by_cases refused : item.eventType = .approvalDenied
    · rw [refused] at dispatched
      exact .inl (approvalDenied_ok dispatched).1
    · have must : next.mustRecordDenial = st.mustRecordDenial := by
        cases effect with
        | recorded _ _ event => exact absurd event recorded
        | denied _ _ _ event => exact absurd event refused
        | _ => rfl
      simpa [must, refused, or_and_right, exists_or] using denied

theorem denialsDecided_run
    (ran : Check.run (traceStep sha256 mode frozen) (.initial frozen) events = .ok final) :
    denialsDecided events final := by
  have initial : denialsDecided [] (.initial frozen) := by simp [denialsDecided, TraceState.initial]
  simpa using Check.run_invariant (fun _ _ _ _ => denialsDecided_step) initial ran

/-- Every started attempt has its place among the positions, and keeps it: an
attempt that is over is not started again. -/
structure Starts (seen : List OrderedTraceEvidence) (st : TraceState) : Prop where
  placed : ∀ item ∈ seen, ∀ step tool, item.starts step tool →
    ∃ identity : AttemptIdentity, (identity.actionStep : Int) = step ∧
      (identity, item.sequence) ∈ st.attemptStartPositions
  passed : ∀ identity position, (identity, position) ∈ st.attemptStartPositions →
    (st.started.lookup identity).isSome ∨
      ∃ last, st.lastAttemptByAction.lookup identity.action = some last ∧ identity.attempt ≤ last.attempt

theorem mem_putEntry {κ β : Type} [DecidableEq κ] {entries : List (κ × β)} {key other : κ} {value found : β} :
    (other, found) ∈ putEntry entries key value ↔
      other = key ∧ found = value ∨ (other, found) ∈ entries ∧ other ≠ key := by
  simp [putEntry]

theorem AttemptEvidence.make_attempt {identity : AttemptIdentity} {status : AttemptStatus} {payload : Dict}
    {attempt : AttemptEvidence} (made : AttemptEvidence.make identity status payload = .ok attempt) :
    attempt.attempt = identity.attempt.toNat := by
  unfold AttemptEvidence.make at made
  split at made
  · split at made <;> cases made
    rfl
  · cases made

/-- An attempt that may start is the one after the last of its action. -/
theorem mayStart_next {identity : AttemptIdentity} {last : AttemptEvidence} (admitted : mayStart st identity = true)
    (found : st.lastAttemptByAction.lookup identity.action = some last) : identity.attempt = last.attempt + 1 := by
  simp only [mayStart, found, Bool.and_eq_true, decide_eq_true_eq] at admitted
  exact admitted.1.1.2

theorem starts_quiet {seen : List OrderedTraceEvidence} (starts : Starts seen st)
    (quiet : item.eventType ≠ .toolAttemptStarted) (positions : next.attemptStartPositions = st.attemptStartPositions)
    (passed : ∀ identity position, (identity, position) ∈ st.attemptStartPositions →
      (next.started.lookup identity).isSome ∨
        ∃ last, next.lastAttemptByAction.lookup identity.action = some last ∧ identity.attempt ≤ last.attempt) :
    Starts (seen ++ [item]) next where
  placed other member step tool begins := by
    rw [positions]
    rcases List.mem_append.mp member with old | new
    · exact starts.placed other old step tool begins
    · rw [List.mem_singleton.mp new] at begins
      exact absurd begins.1 quiet
  passed := by
    rw [positions]
    exact passed

/-- The end of a live attempt: the other attempts of its action are over already. -/
theorem passed_over {seen : List OrderedTraceEvidence} (starts : Starts seen st) (attempts : Attempts seen st)
    {identity : AttemptIdentity} {attempt : AttemptEvidence} {pending : Option (AttemptIdentity × Json)}
    (live : (st.started.lookup identity).isSome) (number : attempt.attempt = identity.attempt.toNat)
    (other : AttemptIdentity) (position : Nat) (placed : (other, position) ∈ st.attemptStartPositions) :
    ((st.attemptOver identity attempt pending).started.lookup other).isSome ∨
      ∃ last, (st.attemptOver identity attempt pending).lastAttemptByAction.lookup other.action = some last ∧
        other.attempt ≤ last.attempt := by
  have admitted := attempts.live identity live
  simp only [TraceState.attemptOver]
  by_cases same : other = identity
  · subst same
    exact .inr ⟨attempt, lookup_putEntry_self, by omega⟩
  rcases starts.passed other position placed with running | ⟨last, found, earlier⟩
  · rw [lookup_filter_of_ne same]
    exact .inl running
  · by_cases action : other.action = identity.action
    · rw [action] at found
      have next := mayStart_next admitted found
      rw [action]
      exact .inr ⟨attempt, lookup_putEntry_self, by omega⟩
    · rw [lookup_putEntry_of_ne action]
      exact .inr ⟨last, found, earlier⟩

theorem starts_step {seen : List OrderedTraceEvidence} (starts : Starts seen st) (attempts : Attempts seen st)
    (effect : TraceEffect sha256 mode frozen st item next) : Starts (seen ++ [item]) next := by
  cases effect with
  | started identity event found fresh admitted limited =>
    obtain ⟨-, step, -⟩ := attemptIdentity_some found
    -- an attempt with a place was started before: it is live, or over
    have unplaced : ∀ position, (identity, position) ∉ st.attemptStartPositions := by
      intro position placed
      rcases starts.passed identity position placed with running | ⟨last, known, earlier⟩
      · simp [fresh] at running
      · have next := mayStart_next admitted known
        omega
    constructor
    · intro other member wanted tool begins
      rcases List.mem_append.mp member with old | new
      · obtain ⟨known, same, placed⟩ := starts.placed other old wanted tool begins
        refine ⟨known, same, mem_putEntry.mpr (.inr ⟨placed, fun again => ?_⟩)⟩
        exact unplaced _ (again ▸ placed)
      · rw [List.mem_singleton.mp new] at begins ⊢
        exact ⟨identity, Option.some.inj (step.symm.trans begins.2.1), mem_putEntry.mpr (.inl ⟨rfl, rfl⟩)⟩
    · intro other position placed
      rcases mem_putEntry.mp placed with ⟨rfl, -⟩ | ⟨old, different⟩
      · simp
      · rw [List.lookup_cons, beq_false_of_ne different]
        exact starts.passed other position old
  | unsuccessful identity status attempt failed event found live made =>
    refine starts_quiet starts ?_ rfl (passed_over starts attempts (by simp [live]) (AttemptEvidence.make_attempt made))
    rw [event]
    cases status <;> decide
  | successful identity attempt output action event found live made =>
    exact starts_quiet starts (by simp [event]) rfl
      (passed_over starts attempts (by simp [live]) (AttemptEvidence.make_attempt made))
  | terminal status _ _ event =>
    refine starts_quiet starts ?_ rfl starts.passed
    rw [event]
    cases status <;> decide
  | announced _ event | checkpointed _ _ event | faultInjected _ event | validationFailed _ event
    | preflightFailed _ event | waiting _ event | recorded _ _ event | denied _ _ _ event | running _ event =>
    exact starts_quiet starts (by simp [event]) rfl starts.passed

theorem starts_run
    (ran : Check.run (traceStep sha256 mode frozen) (.initial frozen) events = .ok final) : Starts events final := by
  have initial : Starts [] (.initial frozen) := ⟨by simp, by simp [TraceState.initial]⟩
  have keeps : ∀ seen st item next, Attempts seen st ∧ Starts seen st → traceStep sha256 mode frozen st item = .ok next →
      Attempts (seen ++ [item]) next ∧ Starts (seen ++ [item]) next := by
    intro seen st item next before accepted
    obtain ⟨-, effect⟩ := traceStep_effect accepted
    exact ⟨attempts_step before.1 (attempt_effect effect), starts_step before.2 before.1 effect⟩
  have all := Check.run_invariant keeps ⟨attempts_initial, initial⟩ ran
  exact all.2

/-- An attempt belongs to the call that the manifest has for its step. -/
theorem started_call {step : Int} {toolName : String}
    (ran : Check.run (traceStep sha256 mode frozen) (.initial frozen) events = .ok final) (there : item ∈ events)
    (begins : item.starts step toolName) : ∃ action, frozen.frozenByStep step = some action ∧
      (action.actionStep : Int) = step ∧ action.kind = .callTool ∧ action.toolName = some toolName := by
  obtain ⟨before, after, rfl⟩ := List.append_of_mem there
  obtain ⟨st, read, rest⟩ := Check.run_split.mp ran
  obtain ⟨next, accepted, -⟩ := Check.run_cons_ok.mp rest
  have cursor := cursor_run read
  obtain ⟨-, effect⟩ := traceStep_effect accepted
  cases effect with
  | started identity event found =>
    obtain ⟨active, named, tool⟩ := attemptIdentity_some found
    obtain ⟨-, call, old, calls⟩ := cursor.active _ _ active
    obtain ⟨action, frozenAction, number, shown⟩ := cursor.known call old _ calls.1
    have same : (identity.actionStep : Int) = step := Option.some.inj (named.symm.trans begins.2.1)
    have name : identity.toolName = toolName := Json.str.inj (tool.symm.trans begins.2.2)
    rw [← same, ← name]
    exact ⟨action, frozenAction, number, (shows_call shown calls.1).mp calls⟩
  | unsuccessful _ status _ _ event => cases status <;> exact absurd (event.symm.trans begins.1) (by decide)
  | terminal status _ _ event => cases status <;> exact absurd (event.symm.trans begins.1) (by decide)
  | _ =>
    have event := begins.1
    simp_all

/-- A step with two positions was announced by two events of the trace. -/
theorem announced_twice {step first second : Nat}
    (ran : Check.run (traceStep sha256 mode frozen) (.initial frozen) events = .ok final)
    (positions : positionsOf final step = [first, second]) : ∃ a ∈ events, ∃ b ∈ events,
      (a.announces step ∧ a.sequence = first) ∧ (b.announces step ∧ b.sequence = second) ∧
        ∀ item ∈ events, item.announces step → item = a ∨ item = b := by
  have same : ∀ ⦃item : OrderedTraceEvidence⦄ ⦃position : Nat × Nat⦄, item.announcesAt position →
      (decide (item.announces step) = true ↔ decide (position.1 = step) = true) := by
    intro item position announced
    have number := announced.1.2
    simp only [decide_eq_true_eq]
    constructor
    · intro again
      exact Int.ofNat.inj (Option.some.inj (number.symm.trans again.2))
    · rintro rfl
      exact announced.1
  have pairs := List.rel_filter same (announced_collected ran)
  obtain ⟨p, rest, found, rfl, more⟩ := List.map_eq_cons_iff.mp positions
  obtain ⟨q, none, rfl, rfl, nothing⟩ := List.map_eq_cons_iff.mp more
  rw [List.map_eq_nil_iff.mp nothing] at found
  rw [found] at pairs
  obtain ⟨a, others, announced, single, listed⟩ := List.forall₂_cons_right_iff.mp pairs
  obtain ⟨b, empty, repeated, done, rfl⟩ := List.forall₂_cons_right_iff.mp single
  rw [List.forall₂_nil_right_iff.mp done, List.filter_filter] at listed
  have entries : ∀ position ∈ [p, q], position.1 = step := by
    rw [← found]
    intro position member
    simpa using (List.mem_filter.mp member).2
  have members : ∀ item, item ∈ [a, b] ↔ item ∈ events ∧ item.announces step := by
    intro item
    rw [← listed, List.mem_filter]
    simp only [Bool.and_eq_true, decide_eq_true_eq, and_congr_right_iff, and_iff_left_iff_imp]
    exact fun _ announced => announced.1
  obtain ⟨inA, firstA⟩ := (members a).mp (by simp)
  obtain ⟨inB, secondB⟩ := (members b).mp (by simp)
  refine ⟨a, inA, b, inB, ⟨firstA, announced.2⟩, ⟨secondB, repeated.2⟩, fun item there again => ?_⟩
  simpa using (members item).mpr ⟨there, again⟩

end Collected

section Report
variable {sha256 : Json → String} {case : CaseResult} {frozen : SuiteManifestEntry} {claims : TraceClaims}
  {final : TraceState}

theorem IntactCase.cycles (intact : IntactCase sha256 case frozen claims final) :
    ∃ reconstructed, approvalCyclesAreValid case frozen final = some reconstructed := by
  have verdict := intact.verdict
  simp only [traceVerdict, Check.bind_ok, Check.require_ok, exists_const, Check.some?_ok] at verdict
  obtain ⟨-, -, -, -, -, reconstructed, valid, -⟩ := verdict
  exact ⟨reconstructed, valid⟩

/-- Where a step behind approval was executed, the cycle check went through for it. -/
theorem IntactCase.cycle_valid (intact : IntactCase sha256 case frozen claims final) {step : Nat}
    (executed : step ∈ approvalSteps frozen final) : ∃ action ∈ frozen.logicalActions, action.actionStep = step ∧
      approvalCycleIsValid case final action = true := by
  obtain ⟨reconstructed, valid⟩ := intact.cycles
  unfold approvalCyclesAreValid at valid
  split at valid
  · rename_i none
    rw [none] at executed
    cases executed
  · rename_i only single
    rw [single, List.mem_singleton] at executed
    subst executed
    split at valid
    · rename_i action found
      split at valid
      · rename_i supplied
        exact ⟨action, List.mem_of_find?_eq_some found, by simpa using List.find?_some found,
          (Bool.and_eq_true_iff.mp supplied).2⟩
      · cases valid
    · cases valid
  · cases valid

/-- What the cycle check looked at, as far as the trace is concerned. -/
theorem approvalCycleIsValid_iff {action : LogicalActionProjection} (valid : approvalCycleIsValid case final action = true) :
    ∃ wait approval resumed first second, final.waits = [wait] ∧ final.approvals = [approval] ∧
      final.resumes = [resumed] ∧ positionsOf final action.actionStep = [first, second] ∧
      (wait.step = action.actionStep ∧ approval.step = action.actionStep ∧
        wait.fingerprint = .str approval.fingerprint ∧ approval.allow = true) ∧
      (first < wait.sequence ∧ wait.sequence < approval.sequence ∧ approval.sequence < resumed ∧ resumed < second) ∧
      ∀ start ∈ startsOf final action.actionStep, second < start := by
  unfold approvalCycleIsValid at valid
  split at valid
  · rename_i wait approval resumed first second waits approvals resumes positions
    simp only [Bool.and_eq_true, decide_eq_true_eq, List.all_eq_true, Json.beq_str, and_assoc] at valid
    obtain ⟨waitStep, approvalStep, -, shown, same, -, allow, waiting, approved, resuming, repeated, -, starting, -⟩ := valid
    exact ⟨wait, approval, resumed, first, second, waits, approvals, resumes, positions,
      ⟨waitStep, approvalStep, by rw [shown, same], allow⟩, ⟨waiting, approved, resuming, repeated⟩, starting⟩
  · cases valid

theorem builtInAction_of_builtIn (known : builtIn frozen = true) {action : LogicalActionProjection}
    (member : action ∈ frozen.logicalActions) : builtInAction frozen.scenarioId action := by
  unfold builtIn at known
  split at known
  · rename_i actions context found _
    obtain ⟨same, -⟩ := Bool.and_eq_true_iff.mp known
    obtain ⟨other, there, equal⟩ := exists_related (forall₂_of_beq same) _ (List.mem_map_of_mem member)
    obtain ⟨payload, listed, rfl⟩ := List.mem_map.mp there
    exact ⟨actions, found, payload, listed, equal⟩
  · cases known

theorem IntactCase.fingerprint (intact : IntactCase sha256 case frozen claims final) {action : LogicalActionProjection}
    (member : action ∈ frozen.logicalActions) :
    canonicalActionFingerprint sha256 action.actionPayload = .ok action.actionFingerprint := by
  have agreed := Check.forM_ok intact.agreed action member
  simp only [frozenActionAgrees, Check.bind_ok, Check.require_ok, Check.lift_ok, exists_const] at agreed
  obtain ⟨-, -, fingerprint, computed, same, -⟩ := agreed
  rw [computed, same]

end Report

/-! The same scenario with its rollback approved and executed. -/

def rollbackCall : Dict :=
  callPayload "prepare_rollback" [("deployment_id", .str "deploy-2026-09-04-001")] (some "approval-reconstruction-v1")

def rollbackOutput : Json := rollbackFixture (.str "deploy-2026-09-04-001")

def rollbackAttempt : Dict := [("action_step", .int 1), ("tool_name", .str "prepare_rollback"), ("attempt", .int 1)]

def approvedEvidence (trace : Uuid) : List OrderedTraceEvidence :=
  let attempted (sequence : Nat) (eventType : EventType) (payload : Dict)
      (admitted : eventType.evidence = true) : OrderedTraceEvidence :=
    { forgedEvent trace sequence "ok" eventType (rollbackAttempt ++ payload) admitted with spanId := trace }
  [forgedAnnouncement trace 0 (callPayload "get_deployment" [] none),
    forgedEvent trace 1 "ok" .policyAction (rollbackCall ++ [("action_step", .int 1)]) policyAction_admitted,
    forgedEvent trace 2 "ok" .runWaitingApproval [("step", .int 1), ("tool_name", .str "prepare_rollback"),
      ("action_fingerprint", .str blankDigest)] rfl,
    forgedEvent trace 3 "ok" .approvalRecorded [("action_step", .int 1), ("action_fingerprint", .str blankDigest),
      ("actor", .str "evaluation-reviewer"), ("allow", .bool true)] rfl,
    forgedEvent trace 4 "ok" .runRunning [("from_status", .str "waiting_approval")] rfl,
    forgedEvent trace 5 "ok" .policyAction (rollbackCall ++ [("action_step", .int 1)]) policyAction_admitted,
    attempted 6 .toolAttemptStarted [] attemptStarted_admitted,
    attempted 7 .toolAttemptSucceeded [("output", rollbackOutput)] rfl,
    forgedEvent trace 8 "ok" .runCheckpointed (rollbackAttempt ++ [("current_step", .int 2), ("cached", .bool false),
      ("output_digest", .str blankDigest), ("context_digest", .str blankDigest)]) rfl,
    forgedEvent trace 9 "ok" .policyAction (finishPayload "Rollback was prepared after durable approval reconstruction."
      ["deployment", "approval"] "prepared" ++ [("action_step", .int 2)]) policyAction_admitted,
    forgedEvent trace 10 "ok" .runSucceeded skippedResult runSucceeded_admitted]

def approvedCase (sha256 : Json → String) (mode : Mode) : CaseResult :=
  { forgedCase sha256 (skippedEntry sha256) .succeeded skippedResult approvedEvidence mode with
    attemptEvidence := [⟨1, "prepare_rollback", 1, .succeeded, none, none, by decide, Nat.one_pos⟩]
    attemptCount := 1
    acceptedOutputs := [⟨1, "prepare_rollback", rollbackOutput⟩]
    acceptedOutputCount := 1
    approvalReconstructed := true
    writeExecutionCount := 1 }

def approvedReport (sha256 : Json → String) : EvaluationReport :=
  forgedReport sha256 (skippedEntry sha256) (approvedCase sha256)
    { blankMetrics with
      caseCorrectCount := 1
      caseCount := 1
      taskCorrectnessRate := wholeRate
      terminalSuccessCount := 1
      toolSequenceAccuracy := wholeRate
      toolSequenceCaseCount := 1
      acceptedOutputCount := 1 }

theorem approvedReport_intact :
    integrityErrors (fun _ => blankDigest) (approvedReport fun _ => blankDigest) "report" = .ok [] :=
  ok_of_toOption (by decide +kernel)

end ReliabilityLab
