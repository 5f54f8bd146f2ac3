import ReliabilityLab.Evaluation.Intact
import ReliabilityLab.Evaluation.TraceEffect

namespace ReliabilityLab

namespace OrderedTraceEvidence
variable (item : OrderedTraceEvidence)

/-- A `policy.action` for the step. -/
def announces (step : Int) : Prop :=
  item.eventType = .policyAction ∧ payloadInt item.payload "action_step" = some step

def announcesCall (step : Nat) (toolName : String) : Prop :=
  item.announces step ∧ payloadGet item.payload "type" = .str "call_tool" ∧
    payloadGet item.payload "tool_name" = .str toolName

def succeeds (step : Nat) (toolName : String) : Prop :=
  item.eventType = .toolAttemptSucceeded ∧ payloadInt item.payload "action_step" = some (step : Int) ∧
    payloadGet item.payload "tool_name" = .str toolName

def checkpoints (step : Nat) : Prop :=
  item.eventType = .runCheckpointed ∧ (Json.int step == payloadGet item.payload "action_step") = true

end OrderedTraceEvidence

/-- One succeeded attempt of the announced call, its checkpoint right after it,
and no announcement of a later step before them. -/
def executedOnce (evidence : List OrderedTraceEvidence) (step : Nat) (toolName : String) : Prop :=
  ∃ before success checkpoint after, evidence = before ++ success :: checkpoint :: after ∧
    success.succeeds step toolName ∧ checkpoint.checkpoints step ∧
    (∃ call ∈ before, call.announcesCall step toolName) ∧
    (∀ other ∈ before ++ checkpoint :: after, ¬ other.succeeds step toolName) ∧
    ∀ other ∈ before, ∀ later : Int, step < later → ¬ other.announces later

/-- Every announced call of the trace was executed once, and its output is among the accepted ones. -/
def CaseResult.callsExecuted (case : CaseResult) : Prop :=
  ∀ item ∈ case.traceEvidence, ∀ step toolName, item.announcesCall step toolName →
    executedOnce case.traceEvidence step toolName ∧
      ∃ output ∈ case.acceptedOutputs, output.actionStep = step ∧ output.toolName = toolName

/-- Between the first announcement of a call and that of another step lies a checkpoint. -/
def callsSeparated (evidence : List OrderedTraceEvidence) : Prop :=
  ∀ before call middle next after (step : Nat) toolName (other : Int),
    evidence = before ++ call :: (middle ++ next :: after) → call.announcesCall step toolName →
    (∀ item ∈ before, ¬ item.announces step) → next.announces other → other ≠ step →
    ∃ item ∈ middle, item.eventType = .runCheckpointed

section Effects
variable {sha256 : Json → String} {mode : Mode} {frozen : SuiteManifestEntry} {st next : TraceState}
  {item : OrderedTraceEvidence}

/-- The item is a `policy.action` for this action of the manifest. -/
def OrderedTraceEvidence.shows (item : OrderedTraceEvidence) (action : LogicalActionProjection) : Prop :=
  payloadGet item.payload "type" = .str action.kind.value ∧
    payloadGet item.payload "tool_name" = optionalStr action.toolName

theorem ActionKind.value_injective {a b : ActionKind} (same : a.value = b.value) : a = b := by
  cases a <;> cases b <;> first | rfl | exact absurd same (by decide)

theorem shows_call {action : LogicalActionProjection} {step : Nat} {toolName : String} (shown : item.shows action)
    (announced : item.announces step) :
    item.announcesCall step toolName ↔ action.kind = .callTool ∧ action.toolName = some toolName := by
  obtain ⟨type, tool⟩ := shown
  simp only [OrderedTraceEvidence.announcesCall, announced, true_and, type, tool]
  constructor
  · rintro ⟨kind, name⟩
    exact ⟨ActionKind.value_injective (Json.str.inj kind), optionalStr_injective name⟩
  · rintro ⟨kind, name⟩
    rw [kind, name]
    exact ⟨rfl, rfl⟩

theorem attemptIdentity_some {activeCall : Option (Nat × String)} {payload : Dict} {identity : AttemptIdentity}
    (found : attemptIdentity activeCall payload = some identity) : activeCall = some identity.action ∧
      payloadInt payload "action_step" = some (identity.actionStep : Int) ∧
      payloadGet payload "tool_name" = .str identity.toolName := by
  simp only [attemptIdentity, Option.bind_eq_bind, Option.bind_eq_some_iff] at found
  obtain ⟨step, named, tool, called, attempt, -, ⟨activeStep, activeTool⟩, active, same⟩ := found
  split at same
  · rename_i calls
    cases same
    simp only [active, callIs, Bool.and_eq_true, decide_eq_true_eq, Json.beq_str] at calls
    obtain ⟨rfl, rfl⟩ := calls
    exact ⟨active, named, by rw [payloadGet, called]; rfl⟩
  · cases same

/-- What an event does to the cursor over the calls: it announces an action, it
closes the active call, or it leaves the cursor where it is. -/
inductive CursorEffect (frozen : SuiteManifestEntry) (st : TraceState) (item : OrderedTraceEvidence)
    (next : TraceState) : Prop
  | announced (action : LogicalActionProjection) : item.announces action.actionStep → item.shows action →
      frozen.frozenByStep action.actionStep = some action → st.lastPolicyStep ≤ action.actionStep →
      next.lastPolicyStep = action.actionStep → next.acceptedOutputs = st.acceptedOutputs →
      next.pendingSuccess = none →
      next.activeCall = (if action.kind = .callTool then action.toolName.map (action.actionStep, ·) else none) →
      (next.terminalAction.isSome → action.kind ≠ .callTool) → CursorEffect frozen st item next
  | closed (identity : AttemptIdentity) (output : Json) : item.checkpoints identity.actionStep →
      st.pendingSuccess = some (identity, output) → next = st.checkpoint identity output →
      CursorEffect frozen st item next
  | kept : item.eventType ≠ .policyAction → item.eventType ≠ .runCheckpointed → next.activeCall = st.activeCall →
      next.terminalAction = st.terminalAction → next.lastPolicyStep = st.lastPolicyStep →
      next.acceptedOutputs = st.acceptedOutputs →
      (∀ identity output, next.pendingSuccess = some (identity, output) →
        st.activeCall = some identity.action ∧ item.succeeds identity.actionStep identity.toolName) →
      CursorEffect frozen st item next

theorem cursor_effect (accepted : traceStep sha256 mode frozen st item = .ok next) :
    CursorEffect frozen st item next := by
  obtain ⟨⟨expected, -⟩, effect⟩ := traceStep_effect accepted
  have idle : item.eventType ≠ .runCheckpointed → st.pendingSuccess = none := fun other => by
    by_contra pending
    exact other (expected (Option.isSome_iff_ne_none.mpr pending))
  cases effect with
  | announced action event step frozenAction type tool payload order admitted =>
    obtain ⟨kind, read, same⟩ := type
    have shown : item.shows action :=
      ⟨by rw [payloadGet, read]; exact Json.beq_str.mp same, beq_optionalStr.mp tool⟩
    refine .announced action ⟨event, step⟩ shown frozenAction order ?_ rfl (idle (by simp [event])) rfl ?_
    · exact max_eq_right order
    · intro terminal call
      simp [TraceState.announced, call] at terminal
  | checkpointed identity output event pending step => exact .closed identity output ⟨event, step⟩ pending rfl
  | successful identity attempt output action event found live made shown frozenAction digest =>
    obtain ⟨active, step, tool⟩ := attemptIdentity_some found
    refine .kept (by simp [event]) (by simp [event]) rfl rfl rfl rfl ?_
    rintro _ _ ⟨⟩
    exact ⟨active, event, step, tool⟩
  | unsuccessful identity status attempt failed event found live made =>
    have other : item.eventType ≠ .policyAction ∧ item.eventType ≠ .runCheckpointed := by
      rw [event]
      cases status <;> decide
    exact .kept other.1 other.2 rfl rfl rfl rfl fun _ _ pending => by simp [TraceState.attemptOver, idle other.2] at pending
  | terminal status _ _ event ended _ _ =>
    have other : item.eventType ≠ .policyAction ∧ item.eventType ≠ .runCheckpointed := by
      rw [event]
      cases status <;> decide
    exact .kept other.1 other.2 rfl rfl rfl rfl fun _ _ pending => by simp [idle other.2] at pending
  | started _ event | faultInjected _ event | validationFailed _ event | preflightFailed _ event | waiting _ event
    | recorded _ _ event | denied _ _ _ event | running _ event =>
    exact .kept (by simp [event]) (by simp [event]) rfl rfl rfl rfl
      fun _ _ pending => by simp [idle (by simp [event])] at pending

end Effects

/-- Where the loop stands after the events it has read. -/
structure Cursor (frozen : SuiteManifestEntry) (seen : List OrderedTraceEvidence) (st : TraceState) : Prop where
  ended : st.terminalAction.isSome → st.activeCall = none
  latest : ∀ item ∈ seen, ∀ step, item.announces step → step ≤ st.lastPolicyStep
  active : ∀ step tool, st.activeCall = some (step, tool) →
    st.lastPolicyStep = step ∧ ∃ call ∈ seen, call.announcesCall step tool
  known : ∀ item ∈ seen, ∀ step, item.announces step →
    ∃ action, frozen.frozenByStep step = some action ∧ (action.actionStep : Int) = step ∧ item.shows action
  pending : ∀ identity output, st.pendingSuccess = some (identity, output) → st.activeCall = some identity.action ∧
    ∃ before success, seen = before ++ [success] ∧ success.succeeds identity.actionStep identity.toolName

/-- The call was executed: a success, its checkpoint right after it, and no later step announced before. -/
def executed (seen : List OrderedTraceEvidence) (outputs : List AcceptedOutputEvidence) (step : Nat)
    (toolName : String) : Prop :=
  (∃ output ∈ outputs, output.actionStep = step ∧ output.toolName = toolName) ∧
    ∃ before success checkpoint after, seen = before ++ success :: checkpoint :: after ∧
      success.succeeds step toolName ∧ checkpoint.checkpoints step ∧
      (∃ call ∈ before, call.announcesCall step toolName) ∧
      ∀ other ∈ before, ∀ later : Int, step < later → ¬ other.announces later

/-- The call is active, and nothing was checkpointed since its first announcement. -/
def inProgress (seen : List OrderedTraceEvidence) (st : TraceState) (step : Nat) (toolName : String) : Prop :=
  st.activeCall = some (step, toolName) ∧ ∃ before call after, seen = before ++ call :: after ∧
    call.announcesCall step toolName ∧ (∀ item ∈ before, ¬ item.announces step) ∧
    ∀ item ∈ after, item.eventType ≠ .runCheckpointed

section Runs
variable {sha256 : Json → String} {mode : Mode} {frozen : SuiteManifestEntry} {st next : TraceState}
  {item : OrderedTraceEvidence} {seen : List OrderedTraceEvidence}

theorem announced_before {other : OrderedTraceEvidence} {step : Int} (quiet : item.eventType ≠ .policyAction)
    (member : other ∈ seen ++ [item]) (announced : other.announces step) : other ∈ seen := by
  rcases List.mem_append.mp member with old | new
  · exact old
  · rw [List.mem_singleton.mp new] at announced
    exact absurd announced.1 quiet

theorem cursor_initial : Cursor frozen [] (.initial frozen) where
  ended _ := rfl
  latest := by simp
  active _ _ call := by cases call
  known := by simp
  pending _ _ waiting := by cases waiting

theorem cursor_step (cursor : Cursor frozen seen st) (accepted : traceStep sha256 mode frozen st item = .ok next) :
    Cursor frozen (seen ++ [item]) next := by
  cases cursor_effect accepted with
  | announced action announced shown frozenAction order last _ pending active terminal =>
    have same : ∀ step, item.announces step → (action.actionStep : Int) = step :=
      fun step other => Option.some.inj (announced.2.symm.trans other.2)
    constructor
    · intro final
      rw [active, if_neg (terminal final)]
    · intro other member step names
      rw [last]
      rcases List.mem_append.mp member with old | new
      · exact (cursor.latest other old step names).trans order
      · rw [List.mem_singleton.mp new] at names
        exact (same step names).ge
    · intro step tool call
      rw [active] at call
      split at call
      · rename_i kind
        obtain ⟨name, named, same⟩ := Option.map_eq_some_iff.mp call
        obtain ⟨rfl, rfl⟩ := Prod.mk.inj same
        exact ⟨last, item, by simp, (shows_call shown announced).mpr ⟨kind, named⟩⟩
      · cases call
    · intro other member step names
      rcases List.mem_append.mp member with old | new
      · exact cursor.known other old step names
      · rw [List.mem_singleton.mp new] at names ⊢
        exact ⟨action, by rw [← same step names, frozenAction], same step names, shown⟩
    · intro identity output waiting
      rw [pending] at waiting
      cases waiting
  | closed identity output checkpoint pending done =>
    subst done
    have old : ∀ other ∈ seen ++ [item], ∀ step, other.announces step → other ∈ seen :=
      fun _ member _ => announced_before (by simp [checkpoint.1]) member
    refine ⟨fun _ => rfl, fun other member step names => cursor.latest other (old _ member step names) step names,
      fun _ _ call => (by cases call), fun other member step names =>
        cursor.known other (old _ member step names) step names, fun _ _ waiting => (by cases waiting)⟩
  | kept policy checkpoint active terminal last outputs pending =>
    have old : ∀ other ∈ seen ++ [item], ∀ step, other.announces step → other ∈ seen :=
      fun _ member _ => announced_before policy member
    refine ⟨fun final => ?_, fun other member step names => ?_, fun step tool call => ?_, fun other member step names =>
      cursor.known other (old _ member step names) step names, fun identity output waiting => ?_⟩
    · rw [active]
      exact cursor.ended (by rwa [terminal] at final)
    · rw [last]
      exact cursor.latest other (old _ member step names) step names
    · obtain ⟨same, other, old, names⟩ := cursor.active step tool (by rwa [active] at call)
      exact ⟨by rw [last, same], other, List.mem_append_left _ old, names⟩
    · obtain ⟨call, success⟩ := pending identity output waiting
      exact ⟨by rwa [active], seen, item, rfl, success⟩

theorem executed_append {outputs more : List AcceptedOutputEvidence} {step : Nat} {tool : String}
    (done : executed seen outputs step tool) (kept : ∀ output ∈ outputs, output ∈ more) :
    executed (seen ++ [item]) more step tool := by
  obtain ⟨⟨output, accepted, matched⟩, before, success, checkpoint, after, rfl, rest⟩ := done
  exact ⟨⟨output, kept output accepted, matched⟩, before, success, checkpoint, after ++ [item], by simp, rest⟩

theorem inProgress_append {step : Nat} {tool : String} (progress : inProgress seen st step tool)
    (active : next.activeCall = some (step, tool)) (other : item.eventType ≠ .runCheckpointed) :
    inProgress (seen ++ [item]) next step tool := by
  obtain ⟨-, before, call, after, rfl, announced, first, quiet⟩ := progress
  refine ⟨active, before, call, after ++ [item], by simp, announced, first, ?_⟩
  simpa [or_imp, forall_and] using ⟨quiet, other⟩

theorem callsSeparated_of_append {more : List OrderedTraceEvidence} (separated : callsSeparated (seen ++ more)) :
    callsSeparated seen := by
  intro before call middle next after step tool other split announced first later different
  refine separated before call middle next (after ++ more) step tool other ?_ announced first later different
  simp [split]

/-- Where a checkpoint lies between calls, every announced call is executed or in progress. -/
theorem executed_step (cursor : Cursor frozen seen st) (separated : callsSeparated (seen ++ [item]))
    (settled : ∀ call ∈ seen, ∀ step tool, call.announcesCall step tool →
      executed seen st.acceptedOutputs step tool ∨ inProgress seen st step tool)
    (accepted : traceStep sha256 mode frozen st item = .ok next) :
    ∀ call ∈ seen ++ [item], ∀ step tool, call.announcesCall step tool →
      executed (seen ++ [item]) next.acceptedOutputs step tool ∨ inProgress (seen ++ [item]) next step tool := by
  intro call member step tool calls
  cases cursor_effect accepted with
  | announced action announced shown frozenAction order last outputs pending active terminal =>
    -- the frozen action of a step is one, so a step announced again is the same call
    have again : ∀ other ∈ seen, other.announces action.actionStep → other.shows action := by
      intro other old names
      obtain ⟨frozenOther, found, -, shows⟩ := cursor.known other old _ names
      rw [frozenAction] at found
      cases found
      exact shows
    have active' : action.kind = .callTool ∧ action.toolName = some tool →
        next.activeCall = some (action.actionStep, tool) := by
      rintro ⟨kind, name⟩
      rw [active, if_pos kind, name]
      rfl
    have kept : ∀ other ∈ seen, other.announcesCall step tool →
        executed (seen ++ [item]) next.acceptedOutputs step tool ∨ inProgress (seen ++ [item]) next step tool := by
      intro other old names
      rcases settled other old step tool names with done | progress
      · exact .inl (executed_append done (by simp [outputs]))
      · by_cases same : action.actionStep = step
        · subst same
          have again := (shows_call (again other old names.1) names.1).mp names
          exact .inr (inProgress_append progress (active' again) (by simp [announced.1]))
        · obtain ⟨-, before, first, after, rfl, announcedFirst, noneBefore, quiet⟩ := progress
          obtain ⟨closing, there, closes⟩ := separated before first after item [] step tool action.actionStep (by simp)
            announcedFirst noneBefore announced (by simpa using same)
          exact absurd closes (quiet closing there)
    rcases List.mem_append.mp member with old | new
    · exact kept call old calls
    · rw [List.mem_singleton.mp new] at calls
      obtain rfl : action.actionStep = step := by
        simpa using announced.2.symm.trans calls.1.2
      by_cases before : ∃ other ∈ seen, other.announces action.actionStep
      · obtain ⟨other, old, names⟩ := before
        exact kept other old ((shows_call (again other old names) names).mpr ((shows_call shown announced).mp calls))
      · push Not at before
        exact .inr ⟨active' ((shows_call shown announced).mp calls), seen, item, [], rfl, calls, before, by simp⟩
  | closed identity output checkpoint pending done =>
    subst done
    have old := announced_before (by simp [checkpoint.1]) member calls.1
    rcases settled call old step tool calls with done | progress
    · exact .inl (executed_append done (by simp +contextual [TraceState.checkpoint]))
    · obtain ⟨active, before, success, rfl, succeeds⟩ := cursor.pending identity output pending
      have same := Option.some.inj (active.symm.trans progress.1)
      obtain ⟨rfl, rfl⟩ := Prod.mk.inj same
      obtain ⟨last, other, there, names⟩ := cursor.active _ _ active
      refine .inl ⟨⟨_, List.mem_append_right _ (List.mem_singleton_self _), rfl, rfl⟩, before, success, item,
        [], by simp, succeeds, checkpoint, ⟨other, announced_before (by simp [succeeds.1]) there names.1, names⟩, ?_⟩
      intro other earlier later above names
      have bound := cursor.latest other (List.mem_append_left _ earlier) later names
      omega
  | kept policy checkpoint active terminal last outputs pending =>
    rcases settled call (announced_before policy member calls.1) step tool calls with done | progress
    · exact .inl (executed_append done (by simp [outputs]))
    · exact .inr (inProgress_append progress (by rw [active, progress.1]) checkpoint)

theorem AttemptEvidence.make_status {identity : AttemptIdentity} {status : AttemptStatus} {payload : Dict}
    {attempt : AttemptEvidence} (made : AttemptEvidence.make identity status payload = .ok attempt) :
    attempt.status = status := by
  unfold AttemptEvidence.make at made
  split at made
  · split at made <;> cases made
    rfl
  · cases made

/-- What an event does to the attempts: it starts one, it ends a live one, or it touches none. -/
inductive AttemptEffect (st : TraceState) (item : OrderedTraceEvidence) (next : TraceState) : Prop
  | started (identity : AttemptIdentity) : item.eventType = .toolAttemptStarted → mayStart st identity = true →
      next.started = (identity, item.spanId) :: st.started → next.lastAttemptByAction = st.lastAttemptByAction →
      AttemptEffect st item next
  | ended (identity : AttemptIdentity) (attempt : AttemptEvidence) : (st.started.lookup identity).isSome →
      (item.eventType = .toolAttemptSucceeded → attempt.status = .succeeded) →
      payloadInt item.payload "action_step" = some (identity.actionStep : Int) →
      payloadGet item.payload "tool_name" = .str identity.toolName →
      next.started = (st.started.filter fun entry => entry.1 ≠ identity) →
      next.lastAttemptByAction = putEntry st.lastAttemptByAction identity.action attempt →
      AttemptEffect st item next
  | kept : item.eventType ≠ .toolAttemptSucceeded → next.started = st.started →
      next.lastAttemptByAction = st.lastAttemptByAction → AttemptEffect st item next

theorem attempt_effect (effect : TraceEffect sha256 mode frozen st item next) : AttemptEffect st item next := by
  cases effect with
  | started identity event found fresh admitted limited => exact .started identity event admitted rfl rfl
  | unsuccessful identity status attempt failed event found live made =>
    obtain ⟨-, step, tool⟩ := attemptIdentity_some found
    refine .ended identity attempt (by simp [live]) (fun success => ?_) step tool rfl rfl
    rw [event] at success
    cases status with
    | succeeded => exact AttemptEvidence.make_status made
    | failed => cases success
    | cancelled => cases success
  | successful identity attempt output action event found live made shown frozenAction digest =>
    obtain ⟨-, step, tool⟩ := attemptIdentity_some found
    exact .ended identity attempt (by simp [live]) (fun _ => AttemptEvidence.make_status made) step tool rfl rfl
  | terminal status _ _ event =>
    refine .kept ?_ rfl rfl
    rw [event]
    cases status <;> decide
  | announced _ event | checkpointed _ _ event | faultInjected _ event | validationFailed _ event
    | preflightFailed _ event | waiting _ event | recorded _ _ event | denied _ _ _ event | running _ event =>
    exact .kept (by simp [event]) rfl rfl

/-- The attempts after the events read so far: a live one is the next of its
action, and an action that succeeded once is over. -/
structure Attempts (seen : List OrderedTraceEvidence) (st : TraceState) : Prop where
  live : ∀ identity, (st.started.lookup identity).isSome → mayStart st identity = true
  settled : ∀ item ∈ seen, ∀ step tool, item.succeeds step tool →
    ∃ attempt, st.lastAttemptByAction.lookup (step, tool) = some attempt ∧ attempt.status = .succeeded
  once : seen.Pairwise fun earlier later => ∀ step tool, earlier.succeeds step tool → ¬ later.succeeds step tool

theorem attempts_initial : Attempts [] (.initial frozen) where
  live _ running := by cases running
  settled := by simp
  once := .nil

theorem mayStart_congr {identity : AttemptIdentity} (same : next.lastAttemptByAction.lookup identity.action =
    st.lastAttemptByAction.lookup identity.action) : mayStart next identity = mayStart st identity := by
  unfold mayStart
  rw [same]

/-- At most one identity of an action can be next. -/
theorem mayStart_unique {a b : AttemptIdentity} (first : mayStart st a = true) (second : mayStart st b = true)
    (same : a.action = b.action) : a = b := by
  have number : a.attempt = b.attempt := by
    unfold mayStart at first second
    rw [same] at first
    cases found : st.lastAttemptByAction.lookup b.action with
    | none => simp_all
    | some previous =>
      simp only [found, Bool.and_eq_true, decide_eq_true_eq] at first second
      rw [first.1.1.2, second.1.1.2]
  obtain ⟨step, tool⟩ := Prod.mk.inj same
  cases a
  cases b
  simp_all

theorem mayStart_over {identity : AttemptIdentity} {attempt : AttemptEvidence}
    (found : st.lastAttemptByAction.lookup identity.action = some attempt) (settled : attempt.status = .succeeded) :
    mayStart st identity = false := by
  simp [mayStart, found, settled]

theorem attempts_quiet (attempts : Attempts seen st) (quiet : item.eventType ≠ .toolAttemptSucceeded)
    (same : next.lastAttemptByAction = st.lastAttemptByAction)
    (live : ∀ identity, (next.started.lookup identity).isSome → mayStart st identity = true) :
    Attempts (seen ++ [item]) next where
  live identity running := by
    rw [@mayStart_congr st next identity (by rw [same])]
    exact live identity running
  settled other member step tool succeeds := by
    rw [same]
    rcases List.mem_append.mp member with old | new
    · exact attempts.settled other old step tool succeeds
    · rw [List.mem_singleton.mp new] at succeeds
      exact absurd succeeds.1 quiet
  once := by
    rw [List.pairwise_append]
    refine ⟨attempts.once, List.pairwise_singleton _ _, fun _ _ later new step tool _ succeeds => ?_⟩
    rw [List.mem_singleton.mp new] at succeeds
    exact quiet succeeds.1

theorem attempts_step (attempts : Attempts seen st) (effect : AttemptEffect st item next) :
    Attempts (seen ++ [item]) next := by
  cases effect with
  | started identity event admitted started last =>
    refine attempts_quiet attempts (by simp [event]) last fun other running => ?_
    by_cases same : other = identity
    · rw [same]
      exact admitted
    · rw [started, List.lookup_cons, beq_false_of_ne same] at running
      exact attempts.live other running
  | kept quiet started last =>
    exact attempts_quiet attempts quiet last fun other running => attempts.live other (by rwa [started] at running)
  | ended identity attempt live status step tool started last =>
    have admitted := attempts.live identity live
    -- an action with a success behind it has no live attempt
    have fresh : ∀ other ∈ seen, ¬ other.succeeds identity.actionStep identity.toolName := by
      intro other old succeeds
      obtain ⟨previous, found, settled⟩ := attempts.settled other old _ _ succeeds
      have stopped : mayStart st identity = false := mayStart_over found settled
      simp [stopped] at admitted
    have own : ∀ s t, item.succeeds s t → (s, t) = identity.action := by
      intro s t succeeds
      have first := Option.some.inj (succeeds.2.1.symm.trans step)
      have second := Json.str.inj (succeeds.2.2.symm.trans tool)
      rw [AttemptIdentity.action, second, Int.ofNat.inj first]
    constructor
    · intro other running
      rw [started] at running
      by_cases same : other = identity
      · rw [same, lookup_filter_self] at running
        cases running
      · rw [lookup_filter_of_ne same] at running
        have alive := attempts.live other running
        have unequal : other.action ≠ identity.action := fun action => same (mayStart_unique alive admitted action)
        rw [@mayStart_congr st next other (by rw [last, lookup_putEntry_of_ne unequal])]
        exact alive
    · intro other member s t succeeds
      rw [last]
      rcases List.mem_append.mp member with old | new
      · have unequal : (s, t) ≠ identity.action := by
          rintro ⟨⟩
          exact fresh other old succeeds
        rw [lookup_putEntry_of_ne unequal]
        exact attempts.settled other old s t succeeds
      · rw [List.mem_singleton.mp new] at succeeds
        rw [own s t succeeds]
        exact ⟨attempt, lookup_putEntry_self, status succeeds.1⟩
    · rw [List.pairwise_append]
      refine ⟨attempts.once, List.pairwise_singleton _ _, fun earlier old later new s t first second => ?_⟩
      rw [List.mem_singleton.mp new] at second
      cases own s t second
      exact fresh earlier old first

variable {events : List OrderedTraceEvidence} {final : TraceState}

theorem cursor_run (ran : Check.run (traceStep sha256 mode frozen) (.initial frozen) events = .ok final) :
    Cursor frozen events final := by
  simpa using Check.run_invariant (fun _ _ _ _ => cursor_step) cursor_initial ran

theorem attempts_run (ran : Check.run (traceStep sha256 mode frozen) (.initial frozen) events = .ok final) :
    Attempts events final := by
  have keeps : ∀ seen st item next, Attempts seen st → traceStep sha256 mode frozen st item = .ok next →
      Attempts (seen ++ [item]) next :=
    fun _ _ _ _ attempts accepted => attempts_step attempts (attempt_effect (traceStep_effect accepted).2)
  simpa using Check.run_invariant keeps attempts_initial ran

theorem executed_run (separated : callsSeparated events)
    (ran : Check.run (traceStep sha256 mode frozen) (.initial frozen) events = .ok final) :
    ∀ call ∈ events, ∀ step tool, call.announcesCall step tool →
      executed events final.acceptedOutputs step tool ∨ inProgress events final step tool := by
  let settled (seen : List OrderedTraceEvidence) (st : TraceState) : Prop := callsSeparated seen → ∀ call ∈ seen,
    ∀ step tool, call.announcesCall step tool →
      executed seen st.acceptedOutputs step tool ∨ inProgress seen st step tool
  have keeps : ∀ seen st item next, Cursor frozen seen st ∧ settled seen st →
      traceStep sha256 mode frozen st item = .ok next →
      Cursor frozen (seen ++ [item]) next ∧ settled (seen ++ [item]) next :=
    fun seen st item next before accepted => ⟨cursor_step before.1 accepted, fun separated =>
      executed_step before.1 separated (before.2 (callsSeparated_of_append separated)) accepted⟩
  have all := Check.run_invariant keeps ⟨cursor_initial, by simp [settled]⟩ ran
  exact all.2 separated

/-- Steps are announced in rising order. -/
theorem announced_later {before after : List OrderedTraceEvidence} {call : OrderedTraceEvidence} {step other : Int}
    (ran : Check.run (traceStep sha256 mode frozen) (.initial frozen) (before ++ item :: after) = .ok final)
    (earlier : call ∈ before) (first : call.announces step) (second : item.announces other) : step ≤ other := by
  obtain ⟨st, read, rest⟩ := Check.run_split.mp ran
  obtain ⟨next, accepted, -⟩ := Check.run_cons_ok.mp rest
  have bound := (cursor_run read).latest call earlier step first
  cases cursor_effect accepted with
  | announced action announced _ _ order =>
    have same := Option.some.inj (announced.2.symm.trans second.2)
    omega
  | closed _ _ checkpoint => exact absurd (checkpoint.1.symm.trans second.1) (by decide)
  | kept policy => exact absurd second.1 policy

/-- A checkpoint behind a call and before the next one is between both. -/
theorem separated_of_executed {before middle after : List OrderedTraceEvidence} {call : OrderedTraceEvidence}
    {step : Nat} {tool : String} {other : Int}
    (ran : Check.run (traceStep sha256 mode frozen) (.initial frozen)
      (before ++ call :: (middle ++ item :: after)) = .ok final)
    (calls : call.announcesCall step tool) (first : ∀ item ∈ before, ¬ item.announces step)
    (announced : item.announces other) (different : other ≠ step)
    (done : executedOnce (before ++ call :: (middle ++ item :: after)) step tool) :
    ∃ item ∈ middle, item.eventType = .runCheckpointed := by
  obtain ⟨earlier, success, checkpoint, later, split, succeeds, closes, ⟨announcement, there, names⟩, -, order⟩ := done
  have whole : before ++ call :: (middle ++ item :: after) = (before ++ call :: middle) ++ item :: after := by simp
  have above : (step : Int) < other := by
    have bound := announced_later (whole ▸ ran) (by simp) calls.1 announced
    omega
  have place : (before ++ call :: middle) ++ item :: after = (earlier ++ [success]) ++ checkpoint :: later := by
    rw [← whole, split, List.append_assoc, List.singleton_append]
  -- the checkpoint is before the next announcement
  rcases split_order place with ⟨between, front, -⟩ | same | ⟨between, front, -⟩
  · have member : item ∈ earlier ++ [success] := by simp [front]
    exact absurd announced (order item (announced_before (by simp [succeeds.1]) member announced) other above)
  · exact absurd (announced.1.symm.trans (same ▸ closes.1)) (by decide)
  -- and behind the call
  · rcases split_order front with ⟨inside, -, back⟩ | same | ⟨inside, back, -⟩
    · exact ⟨checkpoint, by simp [back], closes.1⟩
    · exact absurd (calls.1.1.symm.trans (same ▸ closes.1)) (by decide)
    · exact absurd names.1 (first announcement (by simp [back, there]))

theorem executedOnce_of_executed {outputs : List AcceptedOutputEvidence} {step : Nat} {tool : String}
    (ran : Check.run (traceStep sha256 mode frozen) (.initial frozen) events = .ok final)
    (done : executed events outputs step tool) : executedOnce events step tool := by
  obtain ⟨-, before, success, checkpoint, after, rfl, succeeds, closes, called, order⟩ := done
  refine ⟨before, success, checkpoint, after, rfl, succeeds, closes, called, ?_, order⟩
  have once := (attempts_run ran).once
  rw [List.pairwise_append, List.pairwise_cons] at once
  obtain ⟨-, ⟨behind, -⟩, ahead⟩ := once
  intro other member
  rcases List.mem_append.mp member with old | new
  · exact fun again => ahead other old success (by simp) step tool again succeeds
  · exact behind other new step tool succeeds

end Runs

section Report
variable {sha256 : Json → String} {case : CaseResult} {frozen : SuiteManifestEntry} {claims : TraceClaims}
  {final : TraceState}

/-- A trace that ends in success has no active call left. -/
theorem succeeded_idle {events : List OrderedTraceEvidence} {mode : Mode}
    (ran : Check.run (traceStep sha256 mode frozen) (.initial frozen) events = .ok final)
    (ended : events.getLast?.map (·.eventType) = some .runSucceeded) : final.activeCall = none := by
  obtain ⟨last, found, event⟩ := Option.map_eq_some_iff.mp ended
  obtain ⟨before, rfl⟩ := List.getLast?_eq_some_iff.mp found
  obtain ⟨st, read, rest⟩ := Check.run_split.mp ran
  obtain ⟨next, accepted, done⟩ := Check.run_cons_ok.mp rest
  cases done
  refine (cursor_run ran).ended ?_
  obtain ⟨-, effect⟩ := traceStep_effect accepted
  cases effect with
  | terminal status _ _ is _ allowed _ =>
    cases status with
    | succeeded =>
      show st.terminalAction.isSome
      unfold mayEnd at allowed
      cases terminal : st.terminalAction with
      | none => simp [terminal] at allowed
      | some action => rfl
    | failed => simp [event, FinalStatus.eventType] at is
    | waitingApproval => simp [event, FinalStatus.eventType] at is
  | unsuccessful _ status _ _ is => cases status <;> simp [event, AttemptStatus.eventType] at is
  | _ => simp_all

theorem acceptedOutputs_cover {outputs traced : List AcceptedOutputEvidence} (same : (outputs == traced) = true) :
    ∀ output ∈ traced, ∃ other ∈ outputs, other.actionStep = output.actionStep ∧ other.toolName = output.toolName := by
  intro output member
  obtain ⟨other, there, equal⟩ := exists_related (forall₂_of_beq same).flip output member
  simp only [BEq.beq, Bool.and_eq_true, decide_eq_true_eq] at equal
  exact ⟨other, there, equal.1.1, equal.1.2⟩

/-- In an intact report the calls of a succeeded trace were executed if and only if
a checkpoint separates each of them from what was announced next. -/
theorem succeeded_calls_executed (sha256 : Json → String) (report : EvaluationReport) (source : String)
    (intact : integrityErrors sha256 report source = .ok []) (case : CaseResult) (member : case ∈ report.cases)
    (ended : case.traceEvidence.getLast?.map (·.eventType) = some .runSucceeded) :
    case.callsExecuted ↔ callsSeparated case.traceEvidence := by
  obtain ⟨frozen, -, claims, final, passed⟩ := intact_case intact case member
  constructor
  · intro executed before call middle next after step tool other split calls first announced different
    obtain ⟨done, -⟩ := executed call (by simp [split]) step tool calls
    rw [split] at done
    exact separated_of_executed (split ▸ passed.ran) calls first announced different done
  · intro separated item there step tool calls
    rcases executed_run separated passed.ran item there step tool calls with done | progress
    · obtain ⟨output, accepted, rfl, rfl⟩ := done.1
      exact ⟨executedOnce_of_executed passed.ran done, acceptedOutputs_cover passed.recorded.2.2.2 output accepted⟩
    · exact absurd (succeeded_idle passed.ran ended) (by simp [progress.1])

end Report

/-! The approval-gated scenario, announced to its end and never executed. -/

def skippedEntry (sha256 : Json → String) : SuiteManifestEntry :=
  builtInEntry sha256 "approval-reconstruction" ["get_deployment", "prepare_rollback"] "prepared" []

def skippedResult : Dict :=
  [("outcome", .str "prepared"), ("summary", .str "Rollback was prepared after durable approval reconstruction."),
    ("evidence_refs", .arr [.str "deployment", .str "approval"])]

/-- Three announcements and the end of the run. -/
def skippedEvidence (trace : Uuid) : List OrderedTraceEvidence :=
  (((deterministicIncidentActions "approval-reconstruction").getD []).mapIdx (forgedAnnouncement trace)) ++
  [forgedEvent trace 3 "ok" .runSucceeded skippedResult rfl]

def skippedCase (sha256 : Json → String) : Mode → CaseResult :=
  forgedCase sha256 (skippedEntry sha256) .succeeded skippedResult skippedEvidence

def skippedReport (sha256 : Json → String) : EvaluationReport :=
  forgedReport sha256 (skippedEntry sha256) (skippedCase sha256)
    { blankMetrics with
      caseCorrectCount := 1
      caseCount := 1
      taskCorrectnessRate := wholeRate
      terminalSuccessCount := 1
      toolSequenceAccuracy := wholeRate
      toolSequenceCaseCount := 1 }

theorem skippedReport_intact :
    integrityErrors (fun _ => blankDigest) (skippedReport fun _ => blankDigest) "report" = .ok [] :=
  ok_of_toOption (by decide +kernel)

/-- A report without integrity errors counts the announced rollback as a success. -/
theorem skipped_call_accepted :
    integrityErrors (fun _ => blankDigest) (skippedReport fun _ => blankDigest) "report" = .ok [] ∧
      skippedCase (fun _ => blankDigest) .resilient ∈ (skippedReport fun _ => blankDigest).cases ∧
      (skippedCase (fun _ => blankDigest) .resilient).traceEvidence.getLast?.map (·.eventType) = some .runSucceeded ∧
      ¬ (skippedCase (fun _ => blankDigest) .resilient).callsExecuted := by
  refine ⟨skippedReport_intact, by simp [EvaluationReport.cases, skippedReport, forgedReport], rfl, fun executed => ?_⟩
  obtain ⟨_, output, accepted, -⟩ := executed (skippedEvidence 200)[1] (List.getElem_mem _) 1 "prepare_rollback"
    ⟨⟨rfl, rfl⟩, rfl, rfl⟩
  cases accepted

/-- The equivalence at the forged report: no checkpoint, and no execution. -/
theorem succeeded_calls_executed_demo : (skippedCase (fun _ => blankDigest) .resilient).callsExecuted ↔
    callsSeparated (skippedCase (fun _ => blankDigest) .resilient).traceEvidence :=
  succeeded_calls_executed (fun _ => blankDigest) (skippedReport fun _ => blankDigest) "report" skippedReport_intact _
    (by simp [EvaluationReport.cases, skippedReport, forgedReport]) rfl

end ReliabilityLab
