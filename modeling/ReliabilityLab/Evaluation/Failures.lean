import ReliabilityLab.Evaluation.Intact
import ReliabilityLab.Evaluation.TraceEffect

namespace ReliabilityLab

def EventType.endsAttempt : EventType → Bool
  | .toolAttemptSucceeded => true
  | .toolAttemptFailed => true
  | .toolAttemptCancelled => true
  | _ => false

/-- The last `tool.attempt.failed` of the trace. -/
def lastFailedAttempt (evidence : List OrderedTraceEvidence) : Option OrderedTraceEvidence :=
  (evidence.filter (·.eventType = .toolAttemptFailed)).getLast?

/-- The last event has the code of the last failed attempt. -/
def CaseResult.failureSupported (case : CaseResult) : Prop :=
  ∃ final failure, case.traceEvidence.getLast? = some final ∧ lastFailedAttempt case.traceEvidence = some failure ∧
    payloadGet final.payload "code" = payloadGet failure.payload "code"

/-- The case has evidence of this code for the attempt: its output was rejected,
or a fault that fails with this code was injected into it. -/
def CaseResult.evidenceFor (case : CaseResult) (attempt : AttemptEvidence) (code : String) : Prop :=
  if code = "invalid_output" then
    ⟨attempt.actionStep, attempt.toolName, attempt.attempt⟩ ∈ case.outputValidationFailures
  else ∃ fault ∈ case.observedFaults, fault.actionStep = attempt.actionStep ∧ fault.toolName = attempt.toolName ∧
    fault.attempt = attempt.attempt ∧ (faultFailure fault.kind).1 = code

/-- What a terminal attempt event and the evidence made from it have in common. -/
def AttemptEvidence.mark (attempt : AttemptEvidence) : EventType × Json :=
  (attempt.status.eventType, optionalStr attempt.errorCode)

def OrderedTraceEvidence.mark (item : OrderedTraceEvidence) : EventType × Json :=
  (item.eventType, payloadGet item.payload "code")

/-- What the variables that the terminal branch looks at owe to the events read so far. -/
structure Grounds (seen : List OrderedTraceEvidence) (st : TraceState) : Prop where
  attempts : st.attempts.map AttemptEvidence.mark = (seen.filter (·.eventType.endsAttempt)).map OrderedTraceEvidence.mark
  action : ∀ kind payload, st.terminalAction = some (kind, payload) → kind ≠ .callTool ∧
    ∃ item ∈ seen, item.eventType = .policyAction ∧ payloadGet item.payload "type" = .str kind.value
  preflight : st.preflightFailure.isSome → ∃ item ∈ seen, item.eventType = .toolPreflightFailed
  denied : st.denied.isSome → ∃ item ∈ seen, item.eventType = .approvalDenied

section Runs
variable {sha256 : Json → String} {mode : Mode} {frozen : SuiteManifestEntry} {st next : TraceState}
  {item : OrderedTraceEvidence} {seen : List OrderedTraceEvidence}

theorem optionalText_some {value : Json} {text : Option String} (read : optionalText value = some text) :
    value = optionalStr text := by
  cases value <;> simp only [optionalText, Option.some.injEq, reduceCtorEq] at read <;> subst read <;> rfl

theorem AttemptEvidence.make_mark {identity : AttemptIdentity} {status : AttemptStatus} {attempt : AttemptEvidence}
    (event : item.eventType = status.eventType)
    (made : AttemptEvidence.make identity status item.payload = .ok attempt) : attempt.mark = item.mark := by
  unfold AttemptEvidence.make at made
  split at made
  · rename_i errorCode transient code flag
    split at made <;> cases made
    simp only [AttemptEvidence.mark, OrderedTraceEvidence.mark, event, optionalText_some code]
  · cases made

theorem grounds_initial : Grounds [] (.initial frozen) where
  attempts := rfl
  action _ _ terminal := by cases terminal
  preflight failed := by cases failed
  denied refused := by cases refused

/-- An event that ends no attempt and leaves the three other variables alone. -/
theorem grounds_quiet (grounds : Grounds seen st) (quiet : item.eventType.endsAttempt = false)
    (attempts : next.attempts = st.attempts) (action : next.terminalAction = st.terminalAction)
    (preflight : next.preflightFailure.isSome → st.preflightFailure.isSome ∨ item.eventType = .toolPreflightFailed)
    (denied : next.denied.isSome → st.denied.isSome ∨ item.eventType = .approvalDenied) :
    Grounds (seen ++ [item]) next where
  attempts := by
    rw [attempts, grounds.attempts]
    simp [quiet]
  action kind payload terminal := by
    obtain ⟨ends, other, old, names⟩ := grounds.action kind payload (by rwa [action] at terminal)
    exact ⟨ends, other, List.mem_append_left _ old, names⟩
  preflight failed := by
    rcases preflight failed with before | now
    · obtain ⟨other, old, event⟩ := grounds.preflight before
      exact ⟨other, List.mem_append_left _ old, event⟩
    · exact ⟨item, by simp, now⟩
  denied refused := by
    rcases denied refused with before | now
    · obtain ⟨other, old, event⟩ := grounds.denied before
      exact ⟨other, List.mem_append_left _ old, event⟩
    · exact ⟨item, by simp, now⟩

theorem grounds_ended (grounds : Grounds seen st) {identity : AttemptIdentity} {status : AttemptStatus}
    {attempt : AttemptEvidence} {pending : Option (AttemptIdentity × Json)} (event : item.eventType = status.eventType)
    (made : AttemptEvidence.make identity status item.payload = .ok attempt) :
    Grounds (seen ++ [item]) (st.attemptOver identity attempt pending) := by
  have ends : item.eventType.endsAttempt = true := by
    rw [event]
    cases status <;> rfl
  refine ⟨?_, fun kind payload terminal => ?_, fun failed => ?_, fun refused => ?_⟩
  · simp [TraceState.attemptOver, grounds.attempts, ends, AttemptEvidence.make_mark event made]
  · obtain ⟨final, other, old, names⟩ := grounds.action kind payload terminal
    exact ⟨final, other, List.mem_append_left _ old, names⟩
  · obtain ⟨other, old, event⟩ := grounds.preflight failed
    exact ⟨other, List.mem_append_left _ old, event⟩
  · obtain ⟨other, old, event⟩ := grounds.denied refused
    exact ⟨other, List.mem_append_left _ old, event⟩

theorem grounds_step (grounds : Grounds seen st) (effect : TraceEffect sha256 mode frozen st item next) :
    Grounds (seen ++ [item]) next := by
  cases effect with
  | announced action event step frozenAction type tool payload order admitted =>
    obtain ⟨kind, read, same⟩ := type
    have quiet : Grounds (seen ++ [item]) { st.announced item action (item.payload.erase "action_step") with
        terminalAction := st.terminalAction } :=
      grounds_quiet grounds (by simp [event, EventType.endsAttempt]) rfl rfl .inl .inl
    refine ⟨quiet.attempts, fun other payload terminal => ?_, quiet.preflight, quiet.denied⟩
    simp only [TraceState.announced] at terminal
    split at terminal
    · cases terminal
    · rename_i ends
      cases terminal
      refine ⟨ends, item, by simp, event, ?_⟩
      rw [payloadGet, read]
      exact Json.beq_str.mp same
  | unsuccessful identity status attempt _ event _ _ made => exact grounds_ended grounds event made
  | successful identity attempt output action event _ _ made =>
    exact @grounds_ended _ _ _ grounds _ .succeeded _ _ event made
  | terminal status _ _ event =>
    refine grounds_quiet grounds ?_ rfl rfl .inl .inl
    rw [event]
    cases status <;> rfl
  | preflightFailed code event => exact grounds_quiet grounds (by simp [event, EventType.endsAttempt]) rfl rfl (fun _ => .inr event) .inl
  | denied _ _ _ event => exact grounds_quiet grounds (by simp [event, EventType.endsAttempt]) rfl rfl .inl (fun _ => .inr event)
  | started _ event | faultInjected _ event | validationFailed _ event | checkpointed _ _ event | waiting _ event
    | recorded _ _ event | running _ event =>
    exact grounds_quiet grounds (by simp [event, EventType.endsAttempt]) rfl rfl .inl .inl

theorem grounds_run {events : List OrderedTraceEvidence} {final : TraceState}
    (ran : Check.run (traceStep sha256 mode frozen) (.initial frozen) events = .ok final) : Grounds events final := by
  have keeps : ∀ seen st item next, Grounds seen st → traceStep sha256 mode frozen st item = .ok next →
      Grounds (seen ++ [item]) next :=
    fun _ _ _ _ grounds accepted => grounds_step grounds (traceStep_effect accepted).2
  simpa using Check.run_invariant keeps grounds_initial ran

end Runs

section Report
variable {sha256 : Json → String} {case : CaseResult} {frozen : SuiteManifestEntry} {claims : TraceClaims}
  {final : TraceState}

/-- The attempts of an intact case are told apart by their identities. -/
theorem attempt_unique (contiguous : attemptsAreContiguous case = true) {a b : AttemptEvidence}
    (first : a ∈ case.attemptEvidence) (second : b ∈ case.attemptEvidence) (action : a.action = b.action)
    (number : a.attempt = b.attempt) : a = b := by
  simp only [attemptsAreContiguous, Bool.and_eq_true, List.all_eq_true, decide_eq_true_eq] at contiguous
  have numbered := contiguous.2 a first
  have distinct : ((attemptsOf case.attemptEvidence a.action).map (·.attempt)).Nodup :=
    numbered.nodup_iff.mpr List.nodup_range'
  exact List.inj_on_of_nodup_map distinct (List.mem_filter.mpr ⟨first, by simp⟩)
    (List.mem_filter.mpr ⟨second, by simp [action]⟩) number

theorem failed_has_code (contiguous : attemptsAreContiguous case = true) {attempt : AttemptEvidence}
    (member : attempt ∈ case.attemptEvidence) (failed : attempt.status = .failed) :
    ∃ code, attempt.errorCode = some code := by
  simp only [attemptsAreContiguous, Bool.and_eq_true, List.all_eq_true] at contiguous
  have shaped := (contiguous.1 attempt member).2
  rw [failed] at shaped
  simp only [ne_eq, not_true_eq_false, decide_false, Bool.false_or, Bool.and_eq_true] at shaped
  exact Option.isSome_iff_exists.mp shaped.1

/-- A failed attempt of an intact case has evidence of exactly its own code. -/
theorem evidenceFor_iff (intact : IntactCase sha256 case frozen claims final) {attempt : AttemptEvidence}
    {own code : String} (member : attempt ∈ case.attemptEvidence) (failed : attempt.status = .failed)
    (coded : attempt.errorCode = some own) : case.evidenceFor attempt code ↔ own = code := by
  obtain ⟨contiguous, matched, rejected⟩ := intact.evidence
  obtain ⟨attempts, faults, validations, -⟩ := intact.recorded
  constructor
  · intro evidence
    unfold CaseResult.evidenceFor at evidence
    split at evidence
    · rename_i invalid
      have listed : (attempt.actionStep, attempt.toolName, attempt.attempt) ∈ failedInvalidIdentities case :=
        rejected.mem_iff.mp (List.mem_map.mpr ⟨_, evidence, rfl⟩)
      obtain ⟨other, found, same⟩ := List.mem_map.mp listed
      obtain ⟨there, shaped⟩ := List.mem_filter.mp found
      simp only [Prod.mk.injEq] at same
      obtain rfl := attempt_unique contiguous there member (Prod.ext same.1 same.2.1) same.2.2
      simp only [coded, Bool.and_eq_true, decide_eq_true_eq, Option.some.injEq] at shaped
      rw [shaped.2, invalid]
    · obtain ⟨fault, observed, step, tool, number, rfl⟩ := evidence
      have matching := List.all_eq_true.mp matched fault observed
      simp only [faultHasMatchingFailure, decide_eq_true_eq] at matching
      obtain ⟨other, found⟩ := List.length_eq_one_iff.mp matching
      obtain ⟨there, shaped⟩ := List.mem_filter.mp (found ▸ List.mem_singleton_self other)
      simp only [Bool.and_eq_true, decide_eq_true_eq] at shaped
      obtain ⟨⟨⟨⟨⟨sameStep, sameTool⟩, sameNumber⟩, -⟩, code⟩, -⟩ := shaped
      obtain rfl := attempt_unique contiguous there member (Prod.ext (sameStep.trans step) (sameTool.trans tool))
        (sameNumber.trans number)
      exact Option.some.inj (coded.symm.trans code)
  · rintro rfl
    have supported := intact.verdict_ok.2.1
    simp only [attemptSemanticsAreSupported, Bool.and_eq_true, List.all_eq_true] at supported
    have own := supported.1 attempt (attempts ▸ member)
    unfold CaseResult.evidenceFor
    simp only [attemptSupported, failed, coded, Option.some.injEq] at own
    split at own
    · rename_i invalid
      simp only [Bool.and_eq_true, decide_eq_true_eq] at own
      rw [if_pos invalid, validations]
      exact List.count_pos_iff.mp (by omega)
    · rename_i valid
      rw [if_neg valid, faults]
      obtain ⟨kind, found⟩ := List.length_eq_one_iff.mp (decide_eq_true_eq.mp own)
      obtain ⟨-, counted⟩ := List.mem_filter.mp (found ▸ List.mem_singleton_self kind)
      simp only [Bool.and_eq_true, decide_eq_true_eq] at counted
      have observed := List.count_pos_iff.mp (counted.1.1 ▸ Nat.one_pos)
      exact ⟨_, observed, rfl, rfl, rfl, counted.1.2.symm⟩

theorem evidenceFor_named {attempt : AttemptEvidence} {code : String} (evidence : case.evidenceFor attempt code) :
    code ≠ "missing_terminal_outcome" := by
  rintro rfl
  obtain ⟨fault, -, -, -, -, impossible⟩ := evidence
  revert impossible
  cases fault.kind <;> decide

theorem terminalOutcome_failed {payload : Dict} {code : String} (named : code ≠ "missing_terminal_outcome") :
    terminalOutcome .failed payload = code ↔ payloadGet payload "code" = .str code := by
  unfold terminalOutcome
  simp only [reduceCtorEq, if_false]
  split
  · rename_i text found
    simp [found]
  · rename_i other
    constructor
    · intro missing
      exact absurd missing.symm named
    · intro found
      exact absurd found (other code)

/-- A failure that neither the policy, nor an unusable call, nor a reviewer ended. -/
def attemptsEndIt (evidence : List OrderedTraceEvidence) : Prop :=
  ∀ item ∈ evidence, ¬ (item.eventType = .policyAction ∧ payloadGet item.payload "type" = .str "fail") ∧
    item.eventType ≠ .toolPreflightFailed ∧ item.eventType ≠ .approvalDenied

/-- The last attempt, if it failed, is that of the last failed attempt event. -/
theorem lastFailedAttempt_of_grounds {seen : List OrderedTraceEvidence} {st : TraceState} (grounds : Grounds seen st)
    {attempt : AttemptEvidence} (last : st.attempts.getLast? = some attempt) (failed : attempt.status = .failed) :
    ∃ failure, lastFailedAttempt seen = some failure ∧
      payloadGet failure.payload "code" = optionalStr attempt.errorCode := by
  have marks := congrArg List.getLast? grounds.attempts
  rw [List.getLast?_map, List.getLast?_map, last] at marks
  obtain ⟨failure, found, same⟩ := Option.map_eq_some_iff.mp marks.symm
  obtain ⟨event, code⟩ := Prod.mk.inj same
  have failing : failure.eventType = .toolAttemptFailed := by
    rw [event, failed]
    rfl
  obtain ⟨earlier, ends⟩ := List.getLast?_eq_some_iff.mp found
  refine ⟨failure, ?_, code⟩
  have narrower : seen.filter (·.eventType = .toolAttemptFailed) =
      (seen.filter (·.eventType.endsAttempt)).filter (·.eventType = .toolAttemptFailed) := by
    rw [List.filter_filter]
    refine List.filter_congr fun item _ => ?_
    cases item.eventType <;> rfl
  rw [lastFailedAttempt, narrower, ends]
  simp [failing]

/-- The state in which such a failure came, and the event that ended the trace. -/
theorem failed_after_attempt {events : List OrderedTraceEvidence} {mode : Mode}
    (ran : Check.run (traceStep sha256 mode frozen) (.initial frozen) events = .ok final)
    (ended : events.getLast?.map (·.eventType) = some .runFailed) (attempted : attemptsEndIt events) :
    ∃ before last attempt failure, events = before ++ [last] ∧ final.final = some (.failed, last.payload) ∧
      final.attempts.getLast? = some attempt ∧ attempt.status = .failed ∧ lastFailedAttempt events = some failure ∧
      payloadGet failure.payload "code" = optionalStr attempt.errorCode := by
  obtain ⟨last, found, event⟩ := Option.map_eq_some_iff.mp ended
  obtain ⟨before, rfl⟩ := List.getLast?_eq_some_iff.mp found
  obtain ⟨st, read, rest⟩ := Check.run_split.mp ran
  obtain ⟨next, accepted, done⟩ := Check.run_cons_ok.mp rest
  cases done
  have grounds := grounds_run read
  obtain ⟨-, effect⟩ := traceStep_effect accepted
  cases effect with
  | terminal status _ _ is terminated allowed _ =>
    cases status with
    | succeeded => simp [event, FinalStatus.eventType] at is
    | waitingApproval => exact absurd rfl terminated
    | failed =>
      have unplanned : st.terminalAction = none := by
        cases terminal : st.terminalAction with
        | none => rfl
        | some action =>
          obtain ⟨kind, payload⟩ := action
          obtain ⟨ends, item, there, announced⟩ := grounds.action kind payload terminal
          cases kind with
          | callTool => exact absurd rfl ends
          | finish => simp [mayEnd, terminal] at allowed
          | fail => exact absurd announced (attempted item (List.mem_append_left _ there)).1
      simp only [mayEnd, unplanned, true_and] at allowed
      rcases allowed with denied | preflight | failing
      · obtain ⟨item, there, refused⟩ := grounds.denied denied
        exact absurd refused (attempted item (List.mem_append_left _ there)).2.2
      · obtain ⟨item, there, unusable⟩ := grounds.preflight preflight
        exact absurd unusable (attempted item (List.mem_append_left _ there)).2.1
      · obtain ⟨attempt, known, failed⟩ := (Option.any_eq_true _ _).mp failing
        have failed := decide_eq_true_eq.mp failed
        obtain ⟨failure, lastFailure, code⟩ := lastFailedAttempt_of_grounds grounds known failed
        refine ⟨before, last, attempt, failure, rfl, rfl, known, failed, ?_, code⟩
        rw [← lastFailure, lastFailedAttempt, lastFailedAttempt, List.filter_append]
        simp [event]
  | unsuccessful _ status _ _ is => cases status <;> simp [event, AttemptStatus.eventType] at is
  | _ => simp_all

end Report

/-! A timed-out attempt, and a failure that claims the expected outcome. -/

def timedOut : FaultEvidence := ⟨0, "get_service_health", 1, .timeout, by decide, by decide⟩

def relabelledEntry (sha256 : Json → String) : SuiteManifestEntry :=
  builtInEntry sha256 "rate-limit-recovery" ["get_service_health"] "diagnosed" [timedOut]

def attemptPayload : Dict :=
  [("action_step", .int 0), ("tool_name", .str "get_service_health"), ("attempt", .int 1)]

/-- The span of an attempt is that of its start. -/
def relabelledEvidence (trace : Uuid) : List OrderedTraceEvidence :=
  let attempted (sequence : Nat) (status : String) (eventType : EventType) (payload : Dict)
      (admitted : eventType.evidence = true) : OrderedTraceEvidence :=
    { forgedEvent trace sequence status eventType (attemptPayload ++ payload) admitted with spanId := trace }
  [forgedAnnouncement trace 0 (callPayload "get_service_health" [] none),
    attempted 1 "ok" .toolAttemptStarted [] rfl,
    attempted 2 "error" .faultInjected [("kind", .str "timeout")] rfl,
    attempted 3 "error" .toolAttemptFailed [("code", .str "tool_timeout"), ("transient", .bool true)] rfl,
    forgedEvent trace 4 "error" .runFailed [("code", .str "diagnosed")] rfl]

def relabelledCase (sha256 : Json → String) (mode : Mode) : CaseResult :=
  { forgedCase sha256 (relabelledEntry sha256) .failed [("code", .str "diagnosed")] relabelledEvidence mode with
    attemptEvidence := [⟨0, "get_service_health", 1, .failed, some "tool_timeout", some true, by decide, by decide⟩]
    attemptCount := 1
    verifiedTransientFaultCount := 1 }

def relabelledReport (sha256 : Json → String) : EvaluationReport :=
  { forgedReport sha256 (relabelledEntry sha256) (relabelledCase sha256)
      { blankMetrics with
        caseCorrectCount := 1
        caseCount := 1
        taskCorrectnessRate := wholeRate
        toolSequenceAccuracy := wholeRate
        toolSequenceCaseCount := 1
        transientFaultCount := 1
        recoveryRate := some noRate } with
    comparison := some ⟨0, some 0, 0, 0, 0, 0, 0, 0, []⟩ }

theorem relabelledReport_intact :
    integrityErrors (fun _ => blankDigest) (relabelledReport fun _ => blankDigest) "report" = .ok [] :=
  ok_of_toOption (by decide +kernel)

theorem relabelled_attempted : attemptsEndIt (relabelledCase (fun _ => blankDigest) .fragile).traceEvidence := by
  intro item there
  simp only [relabelledCase, forgedCase, relabelledEvidence, forgedAnnouncement, forgedEvent, List.mem_cons, List.not_mem_nil,
    or_false] at there
  rcases there with rfl | rfl | rfl | rfl | rfl <;> refine ⟨fun fails => ?_, by decide, by decide⟩
  · simp [payloadGet, callPayload, CallToolAction.modelDump] at fails
  all_goals cases fails.1

end ReliabilityLab
