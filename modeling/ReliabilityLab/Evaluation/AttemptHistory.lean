import ReliabilityLab.Evaluation.ApprovalCycle
import ReliabilityLab.Evaluation.Failures

namespace ReliabilityLab

namespace OrderedTraceEvidence
variable (item : OrderedTraceEvidence)

/-- The event names this call. -/
def names (step : Nat) (toolName : String) : Bool :=
  payloadInt item.payload "action_step" = some (step : Int) && Json.str toolName == payloadGet item.payload "tool_name"

def numbered (number : Nat) : Prop := payloadInt item.payload "attempt" = some (number : Int)

/-- Start or end of an attempt of this call. -/
def attempts (step : Nat) (toolName : String) : Bool :=
  (item.eventType = .toolAttemptStarted || item.eventType.endsAttempt) && item.names step toolName

def tells (eventType : EventType) (step : Nat) (toolName : String) (number : Nat) : Bool :=
  item.eventType = eventType && item.names step toolName && payloadInt item.payload "attempt" = some (number : Int)

/-- What the loop takes from the end of an attempt. -/
def endsAs (attempt : AttemptEvidence) : Prop :=
  item.tells attempt.status.eventType attempt.actionStep attempt.toolName attempt.attempt = true ∧
    payloadGet item.payload "code" = optionalStr attempt.errorCode ∧
    optionalBool (payloadGet item.payload "transient") = some attempt.transient

def injects (fault : FaultEvidence) : Prop :=
  item.tells .faultInjected fault.actionStep fault.toolName fault.attempt = true ∧
    payloadGet item.payload "kind" = .str fault.kind.value

def rejects (failure : OutputValidationEvidence) : Prop :=
  item.tells .toolOutputValidationFailed failure.actionStep failure.toolName failure.attempt = true

/-- A failure that may be tried again. -/
def retryable : Prop :=
  item.eventType = .toolAttemptFailed ∧ optionalBool (payloadGet item.payload "transient") = some (some true)

end OrderedTraceEvidence

/-- So many attempts, in the order of the trace: their numbers have no gap, each was started once and ended
once in the same span, and each but the first comes after a failure that may be tried again. -/
inductive AttemptHistory : Nat → List OrderedTraceEvidence → Prop
  | none : AttemptHistory 0 []
  | attempted {count events begun ended} : AttemptHistory count events →
      (∀ last, events.getLast? = some last → last.retryable) →
      begun.eventType = .toolAttemptStarted → begun.numbered (count + 1) →
      ended.eventType.endsAttempt = true → ended.numbered (count + 1) → ended.spanId = begun.spanId →
      AttemptHistory (count + 1) (events ++ [begun, ended])

section Runs
variable {sha256 : Json → String} {mode : Mode} {frozen : SuiteManifestEntry} {st next : TraceState}
  {item : OrderedTraceEvidence} {seen events : List OrderedTraceEvidence} {step : Nat} {toolName : String} {count : Nat}

/-- What the loop keeps of the last attempt of a call. -/
def lastIs (count : Nat) (events : List OrderedTraceEvidence) (kept : Option AttemptEvidence) : Prop :=
  match kept with
  | none => count = 0 ∧ events = []
  | some last => last.attempt = count ∧ (last.status = .failed → last.transient = some true →
      ∃ event, events.getLast? = some event ∧ event.retryable)

/-- The attempts of one call in the trace, and the variables of the loop about them. -/
inductive CallState (mode : Mode) (step : Nat) (toolName : String) (st : TraceState) : List OrderedTraceEvidence → Prop
  | idle {count : Nat} {events : List OrderedTraceEvidence} : AttemptHistory count events → (count : Int) ≤ attemptLimit mode →
      lastIs count events (st.lastAttemptByAction.lookup (step, toolName)) →
      (∀ number, st.started.lookup ⟨step, toolName, number⟩ = none) → CallState mode step toolName st events
  | running {count : Nat} {events : List OrderedTraceEvidence} {begun : OrderedTraceEvidence} :
      AttemptHistory count events → (count + 1 : Int) ≤ attemptLimit mode →
      (∀ last, events.getLast? = some last → last.retryable) →
      begun.eventType = .toolAttemptStarted → begun.numbered (count + 1) →
      lastIs count events (st.lastAttemptByAction.lookup (step, toolName)) →
      (∀ number span, st.started.lookup ⟨step, toolName, number⟩ = some span ↔
        number = count + 1 ∧ span = begun.spanId) → CallState mode step toolName st (events ++ [begun])

/-- What an event does to one call: it starts an attempt of it, it ends one, or it is about something else. -/
inductive CallEffect (mode : Mode) (step : Nat) (toolName : String) (st : TraceState) (item : OrderedTraceEvidence)
    (next : TraceState) : Prop
  | started (number : Int) : item.eventType = .toolAttemptStarted → item.attempts step toolName = true →
      payloadInt item.payload "attempt" = some number → st.started.lookup ⟨step, toolName, number⟩ = none →
      mayStart st ⟨step, toolName, number⟩ = true → number ≤ attemptLimit mode →
      next.started = (⟨step, toolName, number⟩, item.spanId) :: st.started →
      next.lastAttemptByAction = st.lastAttemptByAction → CallEffect mode step toolName st item next
  | ended (number : Int) (attempt : AttemptEvidence) : item.eventType.endsAttempt = true →
      item.attempts step toolName = true → payloadInt item.payload "attempt" = some number →
      st.started.lookup ⟨step, toolName, number⟩ = some item.spanId → attempt.attempt = number.toNat →
      (attempt.status = .failed → attempt.transient = some true → item.retryable) →
      next.started = (st.started.filter fun entry => entry.1 ≠ ⟨step, toolName, number⟩) →
      next.lastAttemptByAction = putEntry st.lastAttemptByAction (step, toolName) attempt →
      CallEffect mode step toolName st item next
  | elsewhere : item.attempts step toolName = false →
      (∀ number, next.started.lookup ⟨step, toolName, number⟩ = st.started.lookup ⟨step, toolName, number⟩) →
      next.lastAttemptByAction.lookup (step, toolName) = st.lastAttemptByAction.lookup (step, toolName) →
      CallEffect mode step toolName st item next

theorem attemptIdentity_number {activeCall : Option (Nat × String)} {payload : Dict} {identity : AttemptIdentity}
    (found : attemptIdentity activeCall payload = some identity) :
    payloadInt payload "attempt" = some identity.attempt := by
  simp only [attemptIdentity, Option.bind_eq_bind, Option.bind_eq_some_iff] at found
  obtain ⟨step, -, tool, -, attempt, number, ⟨activeStep, activeTool⟩, -, same⟩ := found
  split at same
  · cases same
    exact number
  · cases same

theorem names_identity {identity : AttemptIdentity} {activeCall : Option (Nat × String)}
    (found : attemptIdentity activeCall item.payload = some identity) :
    item.names step toolName = true ↔ identity.action = (step, toolName) := by
  obtain ⟨-, named, tool⟩ := attemptIdentity_some found
  simp only [OrderedTraceEvidence.names, named, tool, Bool.and_eq_true, decide_eq_true_eq, Option.some.injEq, Json.beq_str,
    AttemptIdentity.action, Prod.mk.injEq, Json.str.injEq, Nat.cast_inj]

theorem AttemptEvidence.make_transient {identity : AttemptIdentity} {status : AttemptStatus} {payload : Dict}
    {attempt : AttemptEvidence} (made : AttemptEvidence.make identity status payload = .ok attempt) :
    optionalBool (payloadGet payload "transient") = some attempt.transient := by
  unfold AttemptEvidence.make at made
  split at made
  · rename_i errorCode transient code flag
    split at made <;> cases made
    exact flag
  · cases made

theorem AttemptStatus.endsAttempt (status : AttemptStatus) : status.eventType.endsAttempt = true := by
  cases status <;> rfl

theorem ended_effect {identity : AttemptIdentity} {status : AttemptStatus} {attempt : AttemptEvidence}
    {pending : Option (AttemptIdentity × Json)} (event : item.eventType = status.eventType)
    (found : attemptIdentity st.activeCall item.payload = some identity)
    (live : st.started.lookup identity = some item.spanId)
    (made : AttemptEvidence.make identity status item.payload = .ok attempt) :
    CallEffect mode step toolName st item (st.attemptOver identity attempt pending) := by
  have ends : item.eventType.endsAttempt = true := by
    rw [event]
    exact status.endsAttempt
  by_cases own : identity.action = (step, toolName)
  · obtain ⟨known, tool, number⟩ := identity
    obtain ⟨rfl, rfl⟩ := Prod.mk.inj own
    refine .ended number attempt ends ?_ (attemptIdentity_number found) live (AttemptEvidence.make_attempt made)
      (fun failed transient => ⟨?_, ?_⟩) rfl rfl
    · simp [OrderedTraceEvidence.attempts, ends, (names_identity found).mpr rfl]
    · rw [event, ← AttemptEvidence.make_status made, failed]
      rfl
    · rw [AttemptEvidence.make_transient made, transient]
  · refine .elsewhere ?_ (fun number => lookup_filter_of_ne ?_) (lookup_putEntry_of_ne (Ne.symm own))
    · have unnamed : item.names step toolName = false := by
        simpa using mt (names_identity found).mp own
      simp [OrderedTraceEvidence.attempts, unnamed]
    · rintro rfl
      exact own rfl

theorem call_effect (effect : TraceEffect sha256 mode frozen st item next) : CallEffect mode step toolName st item next := by
  cases effect with
  | started identity event found fresh admitted limited =>
    by_cases own : identity.action = (step, toolName)
    · obtain ⟨known, tool, number⟩ := identity
      obtain ⟨rfl, rfl⟩ := Prod.mk.inj own
      refine .started number event ?_ (attemptIdentity_number found) fresh admitted limited rfl rfl
      simp [OrderedTraceEvidence.attempts, event, (names_identity found).mpr rfl]
    · refine .elsewhere ?_ (fun number => ?_) rfl
      · have unnamed : item.names step toolName = false := by
          simpa using mt (names_identity found).mp own
        simp [OrderedTraceEvidence.attempts, unnamed]
      · rw [List.lookup_cons, beq_false_of_ne]
        rintro rfl
        exact own rfl
  | unsuccessful identity status attempt _ event found live made => exact ended_effect event found live made
  | successful identity attempt _ _ event found live made =>
    have ends : item.eventType = AttemptStatus.succeeded.eventType := event
    exact ended_effect ends found live made
  | terminal status _ _ event =>
    refine .elsewhere ?_ (fun _ => rfl) rfl
    rw [OrderedTraceEvidence.attempts, event]
    cases status <;> rfl
  | announced _ event | faultInjected _ event | validationFailed _ event | checkpointed _ _ event
    | preflightFailed _ event | waiting _ event | recorded _ _ event | denied _ _ _ event | running _ event =>
    exact .elsewhere (by simp [OrderedTraceEvidence.attempts, event, EventType.endsAttempt]) (fun _ => rfl) rfl

/-- An attempt that may start is the next of its call, after a failure that may be tried again. -/
theorem next_attempt {number : Int} (kept : lastIs count events (st.lastAttemptByAction.lookup (step, toolName)))
    (admitted : mayStart st ⟨step, toolName, number⟩ = true) :
    number = count + 1 ∧ ∀ last, events.getLast? = some last → last.retryable := by
  have next := @mayStart_next st ⟨step, toolName, number⟩
  unfold mayStart AttemptIdentity.action at admitted
  unfold AttemptIdentity.action at next
  cases found : st.lastAttemptByAction.lookup (step, toolName) with
  | none =>
    rw [found] at kept admitted
    obtain ⟨rfl, rfl⟩ := kept
    exact ⟨by simpa using admitted, by simp⟩
  | some previous =>
    rw [found] at kept admitted
    simp only [Bool.and_eq_true, decide_eq_true_eq] at admitted
    obtain ⟨⟨⟨-, number⟩, failed⟩, transient⟩ := admitted
    obtain ⟨event, last, retryable⟩ := kept.2 failed transient
    refine ⟨by rw [number, kept.1], fun other same => ?_⟩
    rw [last] at same
    exact Option.some.inj same ▸ retryable

theorem callState_step (state : CallState mode step toolName st (seen.filter (·.attempts step toolName)))
    (effect : CallEffect mode step toolName st item next) :
    CallState mode step toolName next ((seen ++ [item]).filter (·.attempts step toolName)) := by
  rw [List.filter_append]
  generalize seen.filter (·.attempts step toolName) = before at state
  cases effect with
  | started number event own numbered fresh admitted limited started last =>
    have counts : List.filter (fun other => other.attempts step toolName) [item] = [item] := by simp [own]
    rw [counts]
    cases state with
    | @idle count events history limit kept quiet =>
      obtain ⟨rfl, retried⟩ := next_attempt kept admitted
      refine .running history limited retried event numbered (by rwa [last]) fun number span => ?_
      rw [started, List.lookup_cons]
      by_cases same : number = count + 1
      · subst same
        simp [eq_comm]
      · have different : (⟨step, toolName, number⟩ : AttemptIdentity) ≠ ⟨step, toolName, count + 1⟩ := by simpa using same
        rw [beq_false_of_ne different]
        simp [quiet, same]
    | @running count events begun history limit retried starts first kept live =>
      obtain ⟨rfl, -⟩ := next_attempt kept admitted
      have alive := (live (count + 1) begun.spanId).mpr ⟨rfl, rfl⟩
      rw [fresh] at alive
      cases alive
  | ended number attempt ends own numbered alive counted failing started last =>
    have counts : List.filter (fun other => other.attempts step toolName) [item] = [item] := by simp [own]
    rw [counts]
    cases state with
    | idle history limit kept quiet =>
      rw [quiet] at alive
      cases alive
    | @running count events begun history limit retried starts first kept live =>
      obtain ⟨rfl, span⟩ := (live number item.spanId).mp alive
      rw [List.append_assoc]
      refine .idle (.attempted history retried starts first ends numbered span) limit ?_ fun number => ?_
      · rw [last, lookup_putEntry_self]
        refine ⟨by omega, fun failed transient => ⟨item, by simp, failing failed transient⟩⟩
      · rw [started]
        by_cases same : number = count + 1
        · subst same
          exact lookup_filter_self
        · have different : (⟨step, toolName, number⟩ : AttemptIdentity) ≠ ⟨step, toolName, count + 1⟩ := by simpa using same
          rw [lookup_filter_of_ne different, Option.eq_none_iff_forall_ne_some]
          intro other running
          exact same ((live number other).mp running).1
  | elsewhere other started last =>
    have skips : List.filter (fun other => other.attempts step toolName) [item] = [] := by simp [other]
    rw [skips, List.append_nil]
    cases state with
    | idle history limit kept quiet =>
      exact .idle history limit (by rwa [last]) fun number => by rw [started, quiet]
    | running history limit retried starts first kept live =>
      exact .running history limit retried starts first (by rwa [last]) fun number span => by rw [started, live]

theorem callState_run {final : TraceState} (ran : Check.run (traceStep sha256 mode frozen) (.initial frozen) events = .ok final)
    (step : Nat) (toolName : String) :
    CallState mode step toolName final (events.filter (·.attempts step toolName)) := by
  have keeps : ∀ seen st item next, CallState mode step toolName st (List.filter (·.attempts step toolName) seen) →
      traceStep sha256 mode frozen st item = .ok next →
      CallState mode step toolName next ((seen ++ [item]).filter (·.attempts step toolName)) :=
    fun _ _ _ _ state accepted => callState_step state (call_effect (traceStep_effect accepted).2)
  have initial : CallState mode step toolName (.initial frozen) (List.filter (·.attempts step toolName) []) :=
    .idle .none (by cases mode <;> decide) ⟨rfl, rfl⟩ fun _ => rfl
  simpa using Check.run_invariant keeps initial ran

theorem callState_over {final : TraceState} (idle : final.started = [])
    (ran : Check.run (traceStep sha256 mode frozen) (.initial frozen) events = .ok final) (step : Nat) (toolName : String) :
    ∃ count : Nat, (count : Int) ≤ attemptLimit mode ∧ AttemptHistory count (events.filter (·.attempts step toolName)) := by
  generalize attempted : events.filter (·.attempts step toolName) = attempts
  cases attempted ▸ callState_run ran step toolName with
  | @idle count _ history limit => exact ⟨count, limit, history⟩
  | @running count _ begun _ _ _ _ _ _ live =>
    have alive := (live (count + 1) begun.spanId).mpr ⟨rfl, rfl⟩
    rw [idle] at alive
    cases alive

/-- Along a history the numbers of the attempts rise. -/
theorem AttemptHistory.rises (history : AttemptHistory count events) :
    (∀ event ∈ events, ∀ number, event.numbered number → number ≤ count) ∧
      events.Pairwise fun earlier later => ∀ first second, earlier.numbered first → later.numbered second → first ≤ second := by
  have own : ∀ {event : OrderedTraceEvidence} {number other : Nat}, event.numbered number → event.numbered other →
      number = other := fun first second => Int.ofNat.inj (Option.some.inj (first.symm.trans second))
  induction history with
  | none => exact ⟨by simp, .nil⟩
  | @attempted count events begun ended _ _ _ first _ last _ ih =>
    obtain ⟨bounded, rising⟩ := ih
    refine ⟨fun event member number numbered => ?_, List.pairwise_append.mpr ⟨rising, ?_, ?_⟩⟩
    · rcases List.mem_append.mp member with old | new
      · exact (bounded event old number numbered).trans (Nat.le_succ count)
      · simp only [List.mem_cons, List.not_mem_nil, or_false] at new
        rcases new with rfl | rfl
        · exact (own numbered first).le
        · exact (own numbered last).le
    · refine List.pairwise_pair.mpr fun number other numbered same => ?_
      rw [own numbered first, own same last]
    · intro earlier old later new number other numbered same
      have before := bounded earlier old number numbered
      have after : other = count + 1 := by
        simp only [List.mem_cons, List.not_mem_nil, or_false] at new
        rcases new with rfl | rfl
        · exact own same first
        · exact own same last
      omega

theorem numbers_rise {earlier later : OrderedTraceEvidence} {first second : Nat}
    (history : AttemptHistory count (events.filter (·.attempts step toolName))) (order : [earlier, later].Sublist events)
    (own : earlier.attempts step toolName = true) (same : later.attempts step toolName = true)
    (numbered : earlier.numbered first) (next : later.numbered second) : first ≤ second := by
  have kept : [earlier, later].filter (·.attempts step toolName) = [earlier, later] := by simp [own, same]
  have inside := order.filter (·.attempts step toolName)
  rw [kept] at inside
  exact List.pairwise_pair.mp (history.rises.2.sublist inside) first second numbered next

theorem tells_iff {eventType : EventType} {number : Nat} : item.tells eventType step toolName number = true ↔
    item.eventType = eventType ∧ item.names step toolName = true ∧ item.numbered number := by
  simp [OrderedTraceEvidence.tells, OrderedTraceEvidence.numbered, and_assoc]

theorem tells_identity {identity : AttemptIdentity} {eventType : EventType} (event : item.eventType = eventType)
    (found : attemptIdentity st.activeCall item.payload = some identity) (positive : 1 ≤ identity.attempt) :
    item.tells eventType identity.actionStep identity.toolName identity.attempt.toNat = true := by
  refine tells_iff.mpr ⟨event, (names_identity found).mpr rfl, ?_⟩
  rw [OrderedTraceEvidence.numbered, attemptIdentity_number found, Int.toNat_of_nonneg (by omega)]

theorem FaultType.ofJson_some {value : Json} {kind : FaultType} (read : FaultType.ofJson value = some kind) :
    value = .str kind.value := by
  have same := List.find?_some read
  exact Json.beq_str.mp same

theorem faultInjected_ok (event : item.eventType = .faultInjected) (accepted : faultInjected st item = .ok next) :
    ∃ fault, item.injects fault ∧ next = { st with faults := st.faults ++ [fault] } := by
  simp only [faultInjected, runningAttempt, Check.bind_ok, Check.some?_ok, Check.require_ok, exists_const] at accepted
  obtain ⟨_, ⟨identity, found, -, same⟩, shown⟩ := accepted
  cases same
  split at shown
  · cases shown
  · rename_i value there
    obtain ⟨fault, made, done⟩ := Check.some?_bind_ok.mp shown
    cases done
    simp only [FaultEvidence.make?, Option.bind_eq_bind, Option.bind_eq_some_iff] at made
    obtain ⟨kind, read, made⟩ := made
    split at made
    · rename_i valid
      cases made
      refine ⟨_, ⟨tells_identity event found (by omega), ?_⟩, rfl⟩
      rw [payloadGet_of_lookup there, FaultType.ofJson_some read]
    · cases made

theorem outputValidationFailed_ok (event : item.eventType = .toolOutputValidationFailed)
    (accepted : outputValidationFailed st item = .ok next) :
    ∃ failure, item.rejects failure ∧ next = { st with validations := st.validations ++ [failure] } := by
  simp only [outputValidationFailed, runningAttempt, Check.bind_ok, Check.some?_ok, Check.require_ok, exists_const] at accepted
  obtain ⟨_, ⟨identity, found, -, same⟩, failure, made, done⟩ := accepted
  cases same
  cases done
  unfold OutputValidationEvidence.validate at made
  split at made
  · rename_i valid
    cases made
    simp only [Bool.and_eq_true, decide_eq_true_eq] at valid
    exact ⟨⟨_, _, _⟩, tells_identity event found valid.2, rfl⟩
  · cases made

/-- The lists that the checks on attempts read change on events of one kind only. -/
theorem evidence_kept (effect : TraceEffect sha256 mode frozen st item next) :
    (item.eventType.endsAttempt = false → next.attempts = st.attempts) ∧
    (item.eventType ≠ .faultInjected → next.faults = st.faults) ∧
    (item.eventType ≠ .toolOutputValidationFailed → next.validations = st.validations) := by
  cases effect with
  | unsuccessful _ status _ _ event =>
    refine ⟨fun quiet => ?_, fun _ => rfl, fun _ => rfl⟩
    rw [event, status.endsAttempt] at quiet
    cases quiet
  | successful _ _ _ _ event =>
    refine ⟨fun quiet => ?_, fun _ => rfl, fun _ => rfl⟩
    rw [event] at quiet
    cases quiet
  | faultInjected _ event | validationFailed _ event => simp [event]
  | announced | started | checkpointed | preflightFailed | waiting | recorded | denied | running | terminal =>
    exact ⟨fun _ => rfl, fun _ => rfl, fun _ => rfl⟩

theorem faults_collected {final : TraceState}
    (ran : Check.run (traceStep sha256 mode frozen) (.initial frozen) events = .ok final) :
    List.Forall₂ OrderedTraceEvidence.injects (events.filter (·.eventType = .faultInjected)) final.faults := by
  refine Check.run_collects (fun st item next accepted => ?_) rfl ran
  by_cases event : item.eventType = .faultInjected
  · obtain ⟨-, dispatched⟩ := Check.require_bind_ok.mp accepted
    rw [event] at dispatched
    rw [Check.Adds, if_pos (by simp [event])]
    obtain ⟨fault, injects, done⟩ := faultInjected_ok event dispatched
    exact ⟨fault, injects, congrArg TraceState.faults done⟩
  · rw [Check.Adds, if_neg (by simp [event])]
    exact (evidence_kept (traceStep_effect accepted).2).2.1 event

theorem validations_collected {final : TraceState}
    (ran : Check.run (traceStep sha256 mode frozen) (.initial frozen) events = .ok final) :
    List.Forall₂ OrderedTraceEvidence.rejects (events.filter (·.eventType = .toolOutputValidationFailed))
      final.validations := by
  refine Check.run_collects (fun st item next accepted => ?_) rfl ran
  by_cases event : item.eventType = .toolOutputValidationFailed
  · obtain ⟨-, dispatched⟩ := Check.require_bind_ok.mp accepted
    rw [event] at dispatched
    rw [Check.Adds, if_pos (by simp [event])]
    obtain ⟨failure, rejects, done⟩ := outputValidationFailed_ok event dispatched
    exact ⟨failure, rejects, congrArg TraceState.validations done⟩
  · rw [Check.Adds, if_neg (by simp [event])]
    exact (evidence_kept (traceStep_effect accepted).2).2.2 event

theorem AttemptEvidence.make_ends {identity : AttemptIdentity} {status : AttemptStatus} {attempt : AttemptEvidence}
    (event : item.eventType = status.eventType)
    (found : attemptIdentity st.activeCall item.payload = some identity)
    (made : AttemptEvidence.make identity status item.payload = .ok attempt) : item.endsAs attempt := by
  obtain ⟨-, code⟩ := Prod.mk.inj (AttemptEvidence.make_mark event made)
  refine ⟨?_, code.symm, AttemptEvidence.make_transient made⟩
  unfold AttemptEvidence.make at made
  split at made
  · split at made
    · rename_i valid
      cases made
      exact tells_identity event found (by omega)
    · cases made
  · cases made

theorem attempts_collected {final : TraceState}
    (ran : Check.run (traceStep sha256 mode frozen) (.initial frozen) events = .ok final) :
    List.Forall₂ OrderedTraceEvidence.endsAs (events.filter (·.eventType.endsAttempt)) final.attempts := by
  refine Check.run_collects (fun st item next accepted => ?_) rfl ran
  obtain ⟨-, effect⟩ := traceStep_effect accepted
  cases ends : item.eventType.endsAttempt with
  | false =>
    rw [Check.Adds, if_neg (by simp [ends])]
    exact (evidence_kept effect).1 ends
  | true =>
    rw [Check.Adds, if_pos (by simp [ends])]
    cases effect with
    | unsuccessful identity status attempt _ event found _ made =>
      exact ⟨attempt, AttemptEvidence.make_ends event found made, rfl⟩
    | successful identity attempt _ _ event found _ made =>
      have succeeded : item.eventType = AttemptStatus.succeeded.eventType := event
      exact ⟨attempt, AttemptEvidence.make_ends succeeded found made, rfl⟩
    | terminal status _ _ event => cases status <;> simp [event, FinalStatus.eventType, EventType.endsAttempt] at ends
    | announced _ event | started _ event | checkpointed _ _ event | faultInjected _ event | validationFailed _ event
      | preflightFailed _ event | waiting _ event | recorded _ _ event | denied _ _ _ event | running _ event =>
      simp [event, EventType.endsAttempt] at ends

/-- A success is followed by its checkpoint, if the trace does not end with it. -/
theorem success_checkpointed {final : TraceState} {before after : List OrderedTraceEvidence}
    (ran : Check.run (traceStep sha256 mode frozen) (.initial frozen) (before ++ item :: after) = .ok final)
    (settled : final.pendingSuccess = none) (succeeds : item.succeeds step toolName) :
    ∃ checkpoint rest, after = checkpoint :: rest ∧ checkpoint.checkpoints step := by
  obtain ⟨st, -, onward⟩ := Check.run_split.mp ran
  obtain ⟨next, accepted, later⟩ := Check.run_cons_ok.mp onward
  obtain ⟨-, effect⟩ := traceStep_effect accepted
  have pending : ∃ identity output, next.pendingSuccess = some (identity, output) ∧ identity.actionStep = step := by
    cases effect with
    | successful identity attempt output action event found =>
      obtain ⟨-, named, -⟩ := attemptIdentity_some found
      exact ⟨identity, output, rfl, Int.ofNat.inj (Option.some.inj (named.symm.trans succeeds.2.1))⟩
    | unsuccessful _ status _ unlike event =>
      cases status <;> first | exact absurd rfl unlike | exact absurd (event.symm.trans succeeds.1) (by decide)
    | terminal status _ _ event => cases status <;> exact absurd (event.symm.trans succeeds.1) (by decide)
    | _ =>
      have event := succeeds.1
      simp_all
  obtain ⟨identity, output, waiting, rfl⟩ := pending
  cases after with
  | nil =>
    cases later
    rw [waiting] at settled
    cases settled
  | cons checkpoint rest =>
    obtain ⟨_, closing, -⟩ := Check.run_cons_ok.mp later
    obtain ⟨expected, effect⟩ := traceStep_effect closing
    have event : checkpoint.eventType = .runCheckpointed := expected.1 (by rw [waiting]; rfl)
    refine ⟨checkpoint, rest, rfl, event, ?_⟩
    cases effect with
    | checkpointed other _ _ same step =>
      rw [waiting] at same
      cases same
      exact step
    | unsuccessful _ status _ _ other => cases status <;> exact absurd (event.symm.trans other) (by decide)
    | terminal status _ _ other => cases status <;> exact absurd (event.symm.trans other) (by decide)
    | _ => simp_all

/-- The trace ends with the event that the result was taken from. -/
theorem final_last {final : TraceState} {status : FinalStatus} {result : Dict}
    (ran : Check.run (traceStep sha256 mode frozen) (.initial frozen) events = .ok final)
    (ended : final.final = some (status, result)) :
    ∃ last, events.getLast? = some last ∧ last.eventType = status.eventType ∧ last.payload = result := by
  let closed (seen : List OrderedTraceEvidence) (st : TraceState) : Prop := ∀ status result,
    st.final = some (status, result) →
      ∃ last, seen.getLast? = some last ∧ last.eventType = status.eventType ∧ last.payload = result
  have keeps : ∀ seen st item next, closed seen st → traceStep sha256 mode frozen st item = .ok next →
      closed (seen ++ [item]) next := by
    intro seen st item next _ accepted status result ended
    obtain ⟨⟨-, -, -, -, open_, -⟩, effect⟩ := traceStep_effect accepted
    have unended : st.final = none := Option.isNone_iff_eq_none.mp open_
    cases effect with
    | terminal status _ _ event =>
      cases ended
      exact ⟨item, by simp, event, rfl⟩
    | _ =>
      have still : st.final = some (status, result) := ended
      rw [unended] at still
      cases still
  have initial : closed [] (.initial frozen) := fun _ _ none => by cases none
  have all := Check.run_invariant keeps initial ran
  exact all status result ended

end Runs

end ReliabilityLab
