import ReliabilityLab.Evaluation.AttemptHistory

namespace ReliabilityLab

/-- The only evidence for a failed attempt: its output was rejected once, or one fault was injected into it,
of the kind that fails with its code, and no output of it was rejected. -/
inductive Explained (evidence : List OrderedTraceEvidence) (step : Nat) (toolName : String) (number : Nat)
    (failure : OrderedTraceEvidence) : Prop
  | rejected {item} : payloadGet failure.payload "code" = .str "invalid_output" →
      optionalBool (payloadGet failure.payload "transient") = some (some false) →
      evidence.filter (·.tells .toolOutputValidationFailed step toolName number) = [item] →
      Explained evidence step toolName number failure
  | injected {kind item} : payloadGet failure.payload "code" = .str (faultFailure kind).1 →
      optionalBool (payloadGet failure.payload "transient") = some (some (faultFailure kind).2) →
      evidence.filter (·.tells .faultInjected step toolName number) = [item] →
      payloadGet item.payload "kind" = .str kind.value →
      (∀ other ∈ evidence, other.tells .toolOutputValidationFailed step toolName number = false) →
      Explained evidence step toolName number failure

/-- The attempt that the fault was injected into failed with the code of the fault, and a later one of the
call succeeded and was checkpointed. -/
def recovered (evidence : List OrderedTraceEvidence) (fault : FaultEvidence) : Prop :=
  ∃ before failure middle success checkpoint after,
    evidence = before ++ failure :: (middle ++ success :: checkpoint :: after) ∧
    failure.tells .toolAttemptFailed fault.actionStep fault.toolName fault.attempt = true ∧
    payloadGet failure.payload "code" = .str (faultFailure fault.kind).1 ∧
    optionalBool (payloadGet failure.payload "transient") = some (some (faultFailure fault.kind).2) ∧
    success.succeeds fault.actionStep fault.toolName ∧ checkpoint.checkpoints fault.actionStep

/-- The last event of the trace has this outcome. -/
def endsWith (evidence : List OrderedTraceEvidence) (outcome : String) : Prop :=
  ∃ last status, evidence.getLast? = some last ∧ last.eventType = status.eventType ∧
    terminalOutcome status last.payload = outcome

open Classical in
/-- The declared faults that a case with the expected outcome recovered from. -/
noncomputable def recoveredFaults (evidence : List OrderedTraceEvidence) (frozen : SuiteManifestEntry) :
    List FaultEvidence :=
  frozen.declaredFaults.filter fun fault =>
    fault.kind.transient ∧ recovered evidence fault ∧ endsWith evidence frozen.expectedOutcome

/-- The attempts, faults and recoveries of a case are those of its trace and of its manifest entry. -/
structure CaseResult.HonestAttempts (case : CaseResult) (frozen : SuiteManifestEntry) : Prop where
  faults : ∃ named, List.Forall₂ OrderedTraceEvidence.injects
    (case.traceEvidence.filter (·.eventType = .faultInjected)) named ∧ named.Perm frozen.declaredFaults
  named : ∀ item ∈ case.traceEvidence, item.eventType = .toolAttemptStarted ∨ item.eventType.endsAttempt = true →
    ∃ step toolName, item.attempts step toolName = true
  history : ∀ step toolName, ∃ count : Nat, (count : Int) ≤ attemptLimit case.mode ∧
    AttemptHistory count (case.traceEvidence.filter (·.attempts step toolName))
  uncancelled : ∀ item ∈ case.traceEvidence, item.eventType ≠ .toolAttemptCancelled
  explained : ∀ failure ∈ case.traceEvidence, ∀ step toolName number,
    failure.tells .toolAttemptFailed step toolName number = true →
      Explained case.traceEvidence step toolName number failure
  recovered : case.recoveredTransientFaultCount = (recoveredFaults case.traceEvidence frozen).length
  verified : case.recoveredTransientFaultCount ≤ case.verifiedTransientFaultCount

section Report
variable {sha256 : Json → String} {case : CaseResult} {frozen : SuiteManifestEntry} {claims : TraceClaims}
  {final : TraceState} {step number : Nat} {toolName : String} {evidence : List OrderedTraceEvidence}

theorem faultFailure_injective {a b : FaultType} (same : (faultFailure a).1 = (faultFailure b).1) : a = b := by
  revert same
  cases a <;> cases b <;> decide

/-- A fault was injected into an attempt that failed with its code. -/
theorem fault_failed (intact : IntactCase sha256 case frozen claims final) {fault : FaultEvidence}
    (observed : fault ∈ case.observedFaults) : ∃ attempt ∈ case.attemptEvidence,
      attempt.action = (fault.actionStep, fault.toolName) ∧ attempt.attempt = fault.attempt ∧ attempt.status = .failed ∧
      attempt.errorCode = some (faultFailure fault.kind).1 ∧ attempt.transient = some (faultFailure fault.kind).2 := by
  have matching := List.all_eq_true.mp intact.evidence.2.1 fault observed
  simp only [faultHasMatchingFailure, decide_eq_true_eq] at matching
  obtain ⟨attempt, found⟩ := List.length_eq_one_iff.mp matching
  obtain ⟨there, shaped⟩ := List.mem_filter.mp (found ▸ List.mem_singleton_self attempt)
  simp only [Bool.and_eq_true, decide_eq_true_eq] at shaped
  obtain ⟨⟨⟨⟨⟨sameStep, sameTool⟩, sameNumber⟩, failed⟩, code⟩, transient⟩ := shaped
  exact ⟨attempt, there, Prod.ext sameStep sameTool, sameNumber, failed, code, transient⟩

/-- The events of one attempt, for each entry that the case has of them. -/
theorem told_collected {γ : Type} {related : OrderedTraceEvidence → γ → Prop} {eventType : EventType} {values : List γ}
    {own : γ → Bool} (collected : List.Forall₂ related (evidence.filter (·.eventType = eventType)) values)
    (same : ∀ ⦃item value⦄, related item value → (item.tells eventType step toolName number = true ↔ own value = true)) :
    List.Forall₂ related (evidence.filter (·.tells eventType step toolName number)) (values.filter own) := by
  have narrower : evidence.filter (·.tells eventType step toolName number) =
      (evidence.filter (·.eventType = eventType)).filter (·.tells eventType step toolName number) := by
    rw [List.filter_filter]
    refine List.filter_congr fun item _ => ?_
    cases told : item.tells eventType step toolName number with
    | false => rfl
    | true => simp [(tells_iff.mp told).1]
  rw [narrower]
  exact List.rel_filter same collected

theorem tells_own {item : OrderedTraceEvidence} {eventType : EventType} {otherStep otherNumber : Nat} {otherTool : String}
    (told : item.tells eventType otherStep otherTool otherNumber = true) :
    item.tells eventType step toolName number = true ↔ otherStep = step ∧ otherTool = toolName ∧ otherNumber = number := by
  obtain ⟨event, names, numbered⟩ := tells_iff.mp told
  simp only [OrderedTraceEvidence.names, Bool.and_eq_true, decide_eq_true_eq, Json.beq_str] at names
  rw [tells_iff, OrderedTraceEvidence.names, names.1, names.2, OrderedTraceEvidence.numbered, numbered]
  simp [event, Nat.cast_inj, and_assoc]

theorem rejections_told {mode : Mode}
    (ran : Check.run (traceStep sha256 mode frozen) (.initial frozen) evidence = .ok final) :
    List.Forall₂ OrderedTraceEvidence.rejects (evidence.filter (·.tells .toolOutputValidationFailed step toolName number))
      (final.validations.filter (· == ⟨step, toolName, number⟩)) := by
  refine told_collected (validations_collected ran) fun item failure rejects => ?_
  rw [tells_own rejects]
  cases failure
  simp

theorem injections_told {mode : Mode}
    (ran : Check.run (traceStep sha256 mode frozen) (.initial frozen) evidence = .ok final) :
    List.Forall₂ OrderedTraceEvidence.injects (evidence.filter (·.tells .faultInjected step toolName number))
      (final.faults.filter fun fault => fault.actionStep = step ∧ fault.toolName = toolName ∧ fault.attempt = number) := by
  refine told_collected (faults_collected ran) fun item fault injects => ?_
  rw [tells_own injects.1, decide_eq_true_eq]

/-- The entry that the case has for the end of an attempt. -/
theorem ended_entry (intact : IntactCase sha256 case frozen claims final) {item : OrderedTraceEvidence}
    {status : AttemptStatus} (member : item ∈ case.traceEvidence) (event : item.eventType = status.eventType) :
    ∃ attempt ∈ case.attemptEvidence, attempt.status = status ∧ item.endsAs attempt := by
  have ends : item ∈ case.traceEvidence.filter (·.eventType.endsAttempt) := by
    refine List.mem_filter.mpr ⟨member, ?_⟩
    rw [event]
    exact status.endsAttempt
  obtain ⟨attempt, listed, own, code⟩ := exists_related (attempts_collected intact.ran) item ends
  have same : attempt.status = status := by
    have both := (tells_iff.mp own).1.symm.trans event
    revert both
    cases attempt.status <;> cases status <;> decide
  rw [← intact.recorded.1] at listed
  exact ⟨attempt, listed, same, own, code⟩

theorem ended_listed (intact : IntactCase sha256 case frozen claims final) {item : OrderedTraceEvidence}
    {status : AttemptStatus} (member : item ∈ case.traceEvidence)
    (told : item.tells status.eventType step toolName number = true) : ∃ attempt ∈ case.attemptEvidence,
      attempt.action = (step, toolName) ∧ attempt.attempt = number ∧ attempt.status = status ∧ item.endsAs attempt := by
  obtain ⟨attempt, listed, same, ends⟩ := ended_entry intact member (tells_iff.mp told).1
  obtain ⟨sameStep, sameTool, sameNumber⟩ := (tells_own ends.1).mp (same ▸ told)
  exact ⟨attempt, listed, Prod.ext sameStep sameTool, sameNumber, same, ends⟩

/-- The event that an entry of the case was taken from. -/
theorem entry_ended (intact : IntactCase sha256 case frozen claims final) {attempt : AttemptEvidence}
    (listed : attempt ∈ case.attemptEvidence) : ∃ item ∈ case.traceEvidence, item.endsAs attempt := by
  rw [intact.recorded.1] at listed
  obtain ⟨item, inside, ends⟩ := exists_related (attempts_collected intact.ran).flip attempt listed
  exact ⟨item, List.mem_of_mem_filter inside, ends⟩

theorem endsAs_attempts {item : OrderedTraceEvidence} {attempt : AttemptEvidence} (ends : item.endsAs attempt)
    (action : attempt.action = (step, toolName)) : item.attempts step toolName = true ∧ item.numbered attempt.attempt := by
  obtain ⟨rfl, rfl⟩ := Prod.mk.inj action
  obtain ⟨event, names, numbered⟩ := tells_iff.mp ends.1
  refine ⟨?_, numbered⟩
  rw [OrderedTraceEvidence.attempts, event, names, attempt.status.endsAttempt]
  simp

theorem explained (intact : IntactCase sha256 case frozen claims final) {failure : OrderedTraceEvidence}
    (member : failure ∈ case.traceEvidence) (failed : failure.tells .toolAttemptFailed step toolName number = true) :
    Explained case.traceEvidence step toolName number failure := by
  obtain ⟨contiguous, -, rejected⟩ := intact.evidence
  obtain ⟨attempts, faults, validations, -⟩ := intact.recorded
  have failing : failure.tells AttemptStatus.failed.eventType step toolName number = true := failed
  obtain ⟨attempt, listed, action, rfl, status, -, code, transient⟩ := ended_listed intact member failing
  obtain ⟨rfl, rfl⟩ := Prod.mk.inj action
  have supported := intact.verdict_ok.2.1
  simp only [attemptSemanticsAreSupported, Bool.and_eq_true, List.all_eq_true] at supported
  have own := supported.1 attempt (attempts ▸ listed)
  simp only [attemptSupported, status] at own
  split at own
  · rename_i invalid
    simp only [Bool.and_eq_true, decide_eq_true_eq] at own
    obtain ⟨flag, single⟩ := own
    rw [List.count_eq_length_filter, ← (rejections_told intact.ran).length_eq] at single
    obtain ⟨item, only⟩ := List.length_eq_one_iff.mp single
    exact .rejected (by rw [code, invalid]; rfl) (by rw [transient, flag]) only
  · rename_i valid
    obtain ⟨kind, found⟩ := List.length_eq_one_iff.mp (decide_eq_true_eq.mp own)
    obtain ⟨-, counted⟩ := List.mem_filter.mp (found ▸ List.mem_singleton_self kind)
    simp only [Bool.and_eq_true, decide_eq_true_eq] at counted
    obtain ⟨⟨single, coded⟩, flagged⟩ := counted
    -- every fault of the attempt is of that kind
    have alike : ∀ fault ∈ final.faults, fault.actionStep = attempt.actionStep ∧ fault.toolName = attempt.toolName ∧
        fault.attempt = attempt.attempt → fault.kind = kind := by
      rintro fault there ⟨sameStep, sameTool, sameNumber⟩
      obtain ⟨other, present, action, order, -, otherCode, -⟩ := fault_failed intact (faults ▸ there)
      obtain rfl := attempt_unique contiguous present listed (action.trans (Prod.ext sameStep sameTool))
        (order.trans sameNumber)
      exact faultFailure_injective (Option.some.inj (otherCode.symm.trans coded))
    have narrowed : final.faults.filter (fun fault => fault.actionStep = attempt.actionStep ∧
        fault.toolName = attempt.toolName ∧ fault.attempt = attempt.attempt) = final.faults.filter
          (· == ⟨attempt.actionStep, attempt.toolName, attempt.attempt, kind, attempt.toolName_nonempty, attempt.attempt_pos⟩) := by
      refine List.filter_congr fun fault there => ?_
      have same := alike fault there
      cases fault
      simp only [FaultEvidence.mk.injEq, beq_eq_decide] at same ⊢
      exact decide_eq_decide.mpr ⟨fun own => ⟨own.1, own.2.1, own.2.2, same own⟩, fun own => ⟨own.1, own.2.1, own.2.2.1⟩⟩
    have pairs := @injections_told _ _ _ attempt.actionStep attempt.attempt attempt.toolName _ _ intact.ran
    rw [narrowed] at pairs
    rw [List.count_eq_length_filter, ← pairs.length_eq] at single
    obtain ⟨item, only⟩ := List.length_eq_one_iff.mp single
    rw [only] at pairs
    obtain ⟨fault, rest, injects, -, listedFault⟩ := List.forall₂_cons_left_iff.mp pairs
    have inside := List.mem_filter.mp (listedFault ▸ List.mem_cons_self)
    have kinds : fault.kind = kind := congrArg FaultEvidence.kind (beq_iff_eq.mp inside.2)
    refine .injected (by rw [code, coded]; rfl) (by rw [transient, flagged]) only (kinds ▸ injects.2) fun other there =>
      Bool.eq_false_iff.mpr fun told => ?_
    have rejecting : other ∈ case.traceEvidence.filter
        (·.tells .toolOutputValidationFailed attempt.actionStep attempt.toolName attempt.attempt) :=
      List.mem_filter.mpr ⟨there, told⟩
    obtain ⟨failed, inFiltered, -⟩ := exists_related (rejections_told intact.ran) other rejecting
    obtain ⟨inValidations, same⟩ := List.mem_filter.mp inFiltered
    obtain rfl := beq_iff_eq.mp same
    have identity : (attempt.actionStep, attempt.toolName, attempt.attempt) ∈ failedInvalidIdentities case :=
      rejected.mem_iff.mp (List.mem_map.mpr ⟨_, validations ▸ inValidations, rfl⟩)
    obtain ⟨another, foundOther, equal⟩ := List.mem_map.mp identity
    obtain ⟨present, shaped⟩ := List.mem_filter.mp foundOther
    simp only [Prod.mk.injEq] at equal
    obtain rfl := attempt_unique contiguous present listed (Prod.ext equal.1 equal.2.1) equal.2.2
    simp only [Bool.and_eq_true, decide_eq_true_eq] at shaped
    exact valid shaped.2

/-- What counts as recovered is what the trace shows as recovered. -/
theorem faultRecovered_iff (intact : IntactCase sha256 case frozen claims final) {fault : FaultEvidence}
    (observed : fault ∈ case.observedFaults) :
    faultRecovered case fault = true ↔ case.correct = true ∧ recovered case.traceEvidence fault := by
  obtain ⟨contiguous, -, -⟩ := intact.evidence
  obtain ⟨attempts, -⟩ := intact.recorded
  obtain ⟨idle, settled⟩ := intact.settled
  obtain ⟨count, -, history⟩ := callState_over idle intact.ran fault.actionStep fault.toolName
  constructor
  · intro counted
    simp only [faultRecovered, Bool.and_eq_true, List.any_eq_true, decide_eq_true_eq] at counted
    obtain ⟨correct, later, there, ⟨⟨⟨sameStep, sameTool⟩, after⟩, succeeded⟩⟩ := counted
    obtain ⟨attempt, listed, action, number, failed, code, transient⟩ := fault_failed intact observed
    obtain ⟨failure, inside, failing⟩ := entry_ended intact listed
    obtain ⟨success, present, succeeding⟩ := entry_ended intact there
    obtain ⟨own, numbered⟩ := endsAs_attempts failing action
    obtain ⟨same, next⟩ := endsAs_attempts succeeding (Prod.ext sameStep sameTool)
    have failureEvent : failure.eventType = .toolAttemptFailed := by
      rw [(tells_iff.mp failing.1).1, failed]
      rfl
    have successEvent : success.eventType = .toolAttemptSucceeded := by
      rw [(tells_iff.mp succeeding.1).1, succeeded]
      rfl
    have succeeds : success.succeeds fault.actionStep fault.toolName := by
      have names := (tells_iff.mp succeeding.1).2.1
      simp only [OrderedTraceEvidence.names, sameStep, sameTool, Bool.and_eq_true, decide_eq_true_eq, Json.beq_str] at names
      exact ⟨successEvent, names⟩
    -- the success is behind the failure, since its number is greater
    obtain ⟨before, rest, split⟩ := List.append_of_mem inside
    rw [split, List.mem_append, List.mem_cons] at present
    rcases present with early | rfl | late
    · obtain ⟨front, middle, rfl⟩ := List.append_of_mem early
      have order : [success, failure].Sublist case.traceEvidence := by
        rw [split]
        simp
      have bound := numbers_rise history order same own next numbered
      omega
    · exact absurd (failureEvent.symm.trans successEvent) (by decide)
    · obtain ⟨middle, after, rfl⟩ := List.append_of_mem late
      have whole : before ++ failure :: (middle ++ success :: after) = (before ++ failure :: middle) ++ success :: after := by
        simp
      obtain ⟨checkpoint, rest, rfl, closes⟩ := success_checkpointed (whole ▸ split ▸ intact.ran) settled succeeds
      refine ⟨correct, before, failure, middle, success, checkpoint, rest, split, ?_, ?_, ?_, succeeds, closes⟩
      · obtain ⟨sameFaultStep, sameFaultTool⟩ := Prod.mk.inj action
        have told := failing.1
        rwa [failed, sameFaultStep, sameFaultTool, number] at told
      · rw [failing.2.1, code]
        rfl
      · rw [failing.2.2, transient]
  · rintro ⟨correct, before, failure, middle, success, checkpoint, after, split, failed, -, -, succeeds, -⟩
    have inside : failure ∈ case.traceEvidence := by simp [split]
    have present : success ∈ case.traceEvidence := by simp [split]
    have failing : failure.tells AttemptStatus.failed.eventType fault.actionStep fault.toolName fault.attempt = true := failed
    have event : success.eventType = AttemptStatus.succeeded.eventType := succeeds.1
    obtain ⟨attempt, listed, action, number, status, ends⟩ := ended_listed intact inside failing
    obtain ⟨later, there, succeeded, closes⟩ := ended_entry intact present event
    have call : later.action = (fault.actionStep, fault.toolName) := by
      have names := (tells_iff.mp closes.1).2.1
      simp only [OrderedTraceEvidence.names, succeeds.2.1, succeeds.2.2, Bool.and_eq_true, decide_eq_true_eq,
        Option.some.injEq, Json.beq_str, Nat.cast_inj, Json.str.injEq] at names
      exact Prod.ext names.1.symm names.2.symm
    obtain ⟨own, numbered⟩ := endsAs_attempts ends action
    obtain ⟨same, next⟩ := endsAs_attempts closes call
    have order : [failure, success].Sublist case.traceEvidence := by
      rw [split]
      simp
    have bound := numbers_rise history order own same numbered next
    have different : attempt.attempt ≠ later.attempt := by
      intro equal
      obtain rfl := attempt_unique contiguous listed there (action.trans call.symm) equal
      rw [status] at succeeded
      cases succeeded
    simp only [faultRecovered, correct, Bool.true_and, List.any_eq_true, Bool.and_eq_true, decide_eq_true_eq]
    obtain ⟨sameStep, sameTool⟩ := Prod.mk.inj call
    exact ⟨later, there, ⟨⟨⟨sameStep, sameTool⟩, by omega⟩, succeeded⟩⟩

theorem attempt_named {mode : Mode} {item : OrderedTraceEvidence}
    (ran : Check.run (traceStep sha256 mode frozen) (.initial frozen) evidence = .ok final) (there : item ∈ evidence)
    (event : item.eventType = .toolAttemptStarted ∨ item.eventType.endsAttempt = true) :
    ∃ step toolName, item.attempts step toolName = true := by
  obtain ⟨before, after, rfl⟩ := List.append_of_mem there
  obtain ⟨st, -, onward⟩ := Check.run_split.mp ran
  obtain ⟨next, accepted, -⟩ := Check.run_cons_ok.mp onward
  obtain ⟨-, effect⟩ := traceStep_effect accepted
  have named : ∀ identity, attemptIdentity st.activeCall item.payload = some identity →
      item.attempts identity.actionStep identity.toolName = true := by
    intro identity found
    rw [OrderedTraceEvidence.attempts, (names_identity found).mpr rfl]
    simpa using event
  cases effect with
  | started identity _ found | unsuccessful identity _ _ _ _ found | successful identity _ _ _ _ found =>
    exact ⟨_, _, named identity found⟩
  | terminal status _ _ other => cases status <;> simp [other, FinalStatus.eventType, EventType.endsAttempt] at event
  | announced _ other | checkpointed _ _ other | faultInjected _ other | validationFailed _ other
    | preflightFailed _ other | waiting _ other | recorded _ _ other | denied _ _ _ other | running _ other =>
    simp [other, EventType.endsAttempt] at event

theorem terminalOutcome_congr {a b : FinalStatus} (same : a.eventType = b.eventType) (result : Dict) :
    terminalOutcome a result = terminalOutcome b result := by
  cases a <;> cases b <;> first | rfl | cases same

theorem correct_iff (intact : IntactCase sha256 case frozen claims final) :
    case.correct = true ↔ endsWith case.traceEvidence frozen.expectedOutcome := by
  have agree := intact.outcomeAgrees
  simp only [ReliabilityLab.outcomeAgrees, Bool.and_eq_true, decide_eq_true_eq] at agree
  obtain ⟨last, found, event, result⟩ := final_last intact.ran intact.verdict_ok.1
  rw [agree.2]
  constructor
  · intro outcome
    exact ⟨last, claims.finalStatus, found, event, by rw [result, outcome]⟩
  · rintro ⟨other, status, same, kind, outcome⟩
    rw [found] at same
    cases same
    rw [← result, terminalOutcome_congr (event.symm.trans kind), outcome]

theorem IntactCase.faultCounters (intact : IntactCase sha256 case frozen claims final) :
    frozen.declaredFaults.Perm case.observedFaults ∧
      case.verifiedTransientFaultCount = (transientFaults case).length ∧
      case.recoveredTransientFaultCount = ((transientFaults case).filter (faultRecovered case)).length := by
  have clean := intact.errors
  simp only [claimErrors, List.append_eq_nil_iff, flag_nil, Bool.not_eq_false', decide_eq_true_eq] at clean
  obtain ⟨⟨⟨⟨⟨⟨-, declared⟩, -⟩, counters⟩, -⟩, -⟩, -⟩ := clean
  simp only [attemptCountersAgree, Bool.and_eq_true, decide_eq_true_eq] at counters
  exact ⟨declared, counters.1.1.1.2, counters.1.1.2⟩

theorem recovered_counted (intact : IntactCase sha256 case frozen claims final) :
    case.recoveredTransientFaultCount = (recoveredFaults case.traceEvidence frozen).length := by
  classical
  obtain ⟨declared, -, counted⟩ := intact.faultCounters
  rw [counted, recoveredFaults, (declared.filter _).length_eq, transientFaults, List.filter_filter]
  refine congrArg List.length (List.filter_congr fun fault observed => ?_)
  have same := faultRecovered_iff intact observed
  rw [correct_iff intact] at same
  rw [Bool.eq_iff_iff, Bool.and_eq_true, same, decide_eq_true_eq]
  tauto

/-- In a report without integrity errors no attempt, no failure and no recovery is made up. -/
theorem no_fabricated_recovery (sha256 : Json → String) (report : EvaluationReport) (source : String)
    (intact : integrityErrors sha256 report source = .ok []) (case : CaseResult) (member : case ∈ report.cases) :
    ∃ frozen, manifestById report.provenance.suiteManifest case.scenarioId = some frozen ∧ case.HonestAttempts frozen := by
  obtain ⟨frozen, claims, final, found, passed⟩ := intact_entry intact case member
  obtain ⟨declared, verified, counted⟩ := passed.faultCounters
  obtain ⟨attempts, faults, -⟩ := passed.recorded
  refine ⟨frozen, found, ⟨final.faults, faults_collected passed.ran, ?_⟩, fun item there event => attempt_named passed.ran there event,
    fun step toolName => callState_over passed.settled.1 passed.ran step toolName, fun item there cancelled => ?_,
    fun failure there step toolName number failed => explained passed there failed, recovered_counted passed, ?_⟩
  · rw [← faults]
    exact declared.symm
  · have event : item.eventType = AttemptStatus.cancelled.eventType := cancelled
    obtain ⟨attempt, listed, status, -⟩ := ended_entry passed there event
    have supported := passed.verdict_ok.2.1
    simp only [attemptSemanticsAreSupported, Bool.and_eq_true, List.all_eq_true] at supported
    have own := supported.1 attempt (attempts ▸ listed)
    simp [attemptSupported, status] at own
  · rw [counted, verified]
    exact List.length_filter_le _ _

end Report

/-- The timed-out attempt of the relabelled report, whose fault nothing recovered from. -/
theorem no_fabricated_recovery_demo :
    ∃ frozen, manifestById (relabelledReport fun _ => blankDigest).provenance.suiteManifest "rate-limit-recovery" = some frozen ∧
      (relabelledCase (fun _ => blankDigest) .fragile).HonestAttempts frozen :=
  no_fabricated_recovery (fun _ => blankDigest) (relabelledReport fun _ => blankDigest) "report" relabelledReport_intact
    (relabelledCase (fun _ => blankDigest) .fragile)
    (by simp [EvaluationReport.cases, relabelledReport, forgedReport])

end ReliabilityLab
