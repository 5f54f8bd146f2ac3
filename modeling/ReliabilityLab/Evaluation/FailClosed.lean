import ReliabilityLab.Evaluation.Gate
import ReliabilityLab.Evaluation.Intact
import ReliabilityLab.Evaluation.TraceEffect

namespace ReliabilityLab

/-! Which evidence makes an exception escape from the event loop. -/

section Hazard
variable (frozen : SuiteManifestEntry) (st : TraceState) (item : OrderedTraceEvidence)

/-- The end of a running attempt whose code or flag the evidence model does not validate. -/
def unreadableAttempt (status : AttemptStatus) : Prop :=
  ∃ identity, attemptIdentity st.activeCall item.payload = some identity ∧ st.terminalAction.isNone ∧
    st.started.lookup identity = some item.spanId ∧ (item.status = if status = .succeeded then "ok" else "error") ∧
    ∃ error, AttemptEvidence.make identity status item.payload = .error error

/-- A fault of a running attempt, without a kind. -/
def kindlessFault : Prop :=
  (∃ identity, runningAttempt st item = .ok identity) ∧ item.payload.lookup "kind" = none

/-- A preflight failure of the active call whose code is a list or an object. -/
def unhashableCode : Prop :=
  (st.activeCall.isSome ∧ item.status = "error" ∧ st.started.isEmpty ∧ st.preflightFailure.isNone) ∧
    ∃ step toolName code action, payloadInt item.payload "action_step" = some step ∧
      item.payload.lookup "tool_name" = some toolName ∧ item.payload.lookup "code" = some code ∧
      (∃ fingerprint, item.payload.lookup "action_fingerprint" = some fingerprint ∧
        (Json.str action.actionFingerprint == fingerprint) = true) ∧
      callIs st.activeCall step toolName = true ∧ frozen.frozenByStep step = some action ∧ code.hashable = false

/-- The loop reaches the event, and cannot make sense of its payload. -/
def hazard : Prop :=
  st.expects item ∧
    match item.eventType with
    | .toolAttemptSucceeded => unreadableAttempt st item .succeeded
    | .toolAttemptFailed => unreadableAttempt st item .failed
    | .toolAttemptCancelled => unreadableAttempt st item .cancelled
    | .faultInjected => kindlessFault st item
    | .toolPreflightFailed => unhashableCode frozen st item
    | _ => False

end Hazard

/-- What the loop keeps for later digests was printed before. -/
structure TraceState.Printable (st : TraceState) : Prop where
  pending : ∀ identity output, st.pendingSuccess = some (identity, output) → output.printable = true
  outputs : Json.printableItems st.contextOutputs = true
  context : Json.printableItems st.reconstructedContext = true

section Loop
variable {sha256 : Json → String} {mode : Mode} {frozen : SuiteManifestEntry} {st next : TraceState}
  {item : OrderedTraceEvidence}

theorem policyAction_quiet (clean : Json.printableItems item.payload = true) :
    ¬ (policyAction sha256 frozen st item).Raises := by
  have digest := Json.printable_erase clean "action_step"
  simp [policyAction, Check.raises_bind, canonicalActionFingerprint, canonicalJsonDigest_error, Json.printable, digest]

theorem attemptStarted_quiet : ¬ (attemptStarted mode st item).Raises := by
  simp [attemptStarted, Check.raises_bind]

theorem attemptOutputShown_quiet (clean : Json.printableItems item.payload = true) {identity : AttemptIdentity} :
    ¬ (attemptOutputShown sha256 frozen item identity next).Raises := by
  simp only [attemptOutputShown, Check.raises_bind, Check.some?_ok, Check.raises_some?, Check.raises_lift,
    Check.raises_require, Check.raises_pure, canonicalJsonDigest_error, false_or, or_false, and_false, exists_const]
  rintro ⟨output, shown, -, -, -, -, unprintable⟩
  simp [Json.printable_lookup clean shown] at unprintable

theorem attemptEnded_raises (clean : Json.printableItems item.payload = true) (status : AttemptStatus) :
    (attemptEnded sha256 frozen st item status).Raises ↔ unreadableAttempt st item status := by
  have shown : ∀ identity next, ¬ (if status = .succeeded then attemptOutputShown sha256 frozen item identity next
      else pure next : Check Exn TraceState).Raises := by
    intro identity next
    split
    · exact attemptOutputShown_quiet clean
    · simp
  simp only [attemptEnded, Check.raises_bind, Check.some?_ok, Check.raises_some?, Check.raises_lift, Check.require_ok,
    Check.raises_require, shown, false_or, and_false, exists_const, exists_false, or_false, unreadableAttempt]
  constructor
  · rintro ⟨identity, found, ⟨nonterminal, live, reported⟩, unreadable⟩
    exact ⟨identity, found, nonterminal, live, reported, unreadable⟩
  · rintro ⟨identity, found, nonterminal, live, reported, unreadable⟩
    exact ⟨identity, found, ⟨nonterminal, live, reported⟩, unreadable⟩

theorem runningAttempt_quiet : ¬ (runningAttempt st item).Raises := by
  simp [runningAttempt, Check.raises_bind]

theorem faultInjected_raises : (faultInjected st item).Raises ↔ kindlessFault st item := by
  simp only [faultInjected, Check.raises_bind, runningAttempt_quiet, false_or, kindlessFault]
  cases kind : item.payload.lookup "kind" <;> simp

theorem outputValidationFailed_quiet : ¬ (outputValidationFailed st item).Raises := by
  simp [outputValidationFailed, Check.raises_bind, runningAttempt_quiet]

theorem checkpointed_quiet (printable : st.Printable) : ¬ (checkpointed sha256 st item).Raises := by
  simp only [checkpointed, Check.raises_bind, Check.some?_ok, Check.raises_some?, Check.raises_lift, Check.require_ok,
    Check.raises_require, Check.raises_pure, canonicalJsonDigest_error, false_or, or_false, and_false, exists_const]
  rintro ⟨⟨identity, output⟩, waiting, -, -, -, -, -, -, unprintable⟩
  have output_printable := printable.pending identity output waiting
  rcases unprintable with unprintable | ⟨_, -, -, unprintable⟩
  · simp [output_printable] at unprintable
  · have outputs := Json.printable_set printable.outputs (toString identity.actionStep) output_printable
    have context := Json.printable_set printable.context "tool_results"
      (show (Json.obj _).printable = true by simpa only [Json.printable] using outputs)
    simp only [Json.printable, context] at unprintable
    cases unprintable

theorem preflightFailed_raises : (preflightFailed frozen st item).Raises ↔ unhashableCode frozen st item := by
  have known : ∀ code : Json, (if code.hashable = true then do
      let code ← Check.some? (preflightCodes.find? fun known => Json.str known == code)
      pure { st with preflightFailure := some code, mustFailPreflight := some code }
      else Check.raise (.other "TypeError") : Check Exn TraceState).Raises ↔ code.hashable = false := by
    intro code
    split <;> simp_all
  simp only [preflightFailed, Check.raises_bind, Check.some?_ok, Check.raises_some?, Check.require_ok,
    Check.raises_require, known, false_or, exists_const, unhashableCode]
  refine and_congr_right fun _ => ⟨?_, ?_⟩
  · rintro ⟨step, found, toolName, named, code, coded, fingerprint, printed, active, action, frozenAction, same, bad⟩
    exact ⟨step, toolName, code, action, found, named, coded, ⟨fingerprint, printed, same⟩, active, frozenAction, bad⟩
  · rintro ⟨step, toolName, code, action, found, named, coded, ⟨fingerprint, printed, same⟩, active, frozenAction, bad⟩
    exact ⟨step, found, toolName, named, code, coded, fingerprint, printed, active, action, frozenAction, same, bad⟩

theorem waitingApproval_quiet : ¬ (waitingApproval st item).Raises := by
  simp [waitingApproval, Check.raises_bind]

theorem decidedAction_quiet : ¬ (decidedAction frozen st item).Raises := by
  simp [decidedAction, Check.raises_bind]

theorem approvalRecorded_quiet : ¬ (approvalRecorded frozen st item).Raises := by
  simp [approvalRecorded, Check.raises_bind, decidedAction_quiet]

theorem approvalDenied_quiet : ¬ (approvalDenied frozen st item).Raises := by
  simp [approvalDenied, Check.raises_bind, decidedAction_quiet]

theorem running_quiet : ¬ (running st item).Raises := by
  simp [running]

theorem terminal_quiet {status : FinalStatus} : ¬ (terminal st item status).Raises := by
  simp [terminal, Check.raises_bind]

/-- One round raises exactly on a hazard. -/
theorem traceStep_raises (clean : Json.printableItems item.payload = true) (printable : st.Printable) :
    (traceStep sha256 mode frozen st item).Raises ↔ hazard frozen st item := by
  simp only [traceStep, Check.raises_bind, Check.raises_require, Check.require_ok, exists_const, false_or, hazard]
  refine and_congr_right fun _ => ?_
  cases item.eventType
  case policyAction => simpa using policyAction_quiet clean
  case toolAttemptStarted => simpa using attemptStarted_quiet
  case toolAttemptSucceeded => exact attemptEnded_raises clean .succeeded
  case toolAttemptFailed => exact attemptEnded_raises clean .failed
  case toolAttemptCancelled => exact attemptEnded_raises clean .cancelled
  case faultInjected => exact faultInjected_raises
  case toolOutputValidationFailed => simpa using outputValidationFailed_quiet
  case runCheckpointed => simpa using checkpointed_quiet printable
  case toolPreflightFailed => exact preflightFailed_raises
  case runWaitingApproval => simpa using waitingApproval_quiet
  case approvalRecorded => simpa using approvalRecorded_quiet
  case approvalDenied => simpa using approvalDenied_quiet
  case runRunning => simpa using running_quiet
  case runSucceeded => simpa using terminal_quiet
  case runFailed => simpa using terminal_quiet
  all_goals simp

theorem TraceState.Printable.step (printable : st.Printable) (clean : Json.printableItems item.payload = true)
    (accepted : traceStep sha256 mode frozen st item = .ok next) : next.Printable := by
  obtain ⟨-, effect⟩ := traceStep_effect accepted
  cases effect with
  | successful identity attempt output action _ _ _ _ shown =>
    refine ⟨?_, printable.outputs, printable.context⟩
    intro other value same
    cases same
    exact Json.printable_lookup clean shown
  | checkpointed identity output _ waiting =>
    have new := printable.pending identity output waiting
    have outputs := Json.printable_set printable.outputs (toString identity.actionStep) new
    exact ⟨nofun, outputs, Json.printable_set printable.context "tool_results"
      (by simpa only [Json.printable] using outputs)⟩
  | _ => exact ⟨printable.pending, printable.outputs, printable.context⟩

end Loop

/-! Evidence that the checks can read, from a trace up to a report. -/

section Safe
variable (sha256 : Json → String)

/-- The checks before the event loop pass. -/
def loopEntered (case : CaseResult) (frozen : SuiteManifestEntry) : Prop :=
  traceHeader sha256 case = .ok () ∧ (frozenSteps frozen).Perm (List.range (frozenSteps frozen).length) ∧
    frozen.logicalActions.forM (frozenActionAgrees sha256) = .ok ()

/-- The trace can be printed, and the loop, where it gets that far, meets no hazard. -/
structure CaseResult.Readable (case : CaseResult) (frozen : SuiteManifestEntry) : Prop where
  printable : ∀ item ∈ case.traceEvidence, item.modelDump.printable = true
  harmless : loopEntered sha256 case frozen → ∀ before item after st, case.traceEvidence = before ++ item :: after →
    Check.run (traceStep sha256 case.mode frozen) (.initial frozen) before = .ok st → ¬ hazard frozen st item

/-- The metrics of the cases exist: no rate above 1, and no number too large for its type. -/
structure Recomputable (cases : List CaseResult) : Prop where
  sequences : (double.round (sequenceAverage cases)).any (· ≤ 1)
  recovery : total cases (·.verifiedTransientFaultCount) = 0 ∨ (double.round (recoveryFraction cases)).any (· ≤ 1)
  invalid : (double.round (invalidFraction cases)).any (· ≤ 1)
  p50 : (double.round (latencyMs cases (50 / 100))).isSome
  p95 : (double.round (latencyMs cases (95 / 100))).isSome
  cost : (sumDecimals 0 (cases.map (·.estimatedCostUsd))).toOption.isSome

/-- Everything that the integrity checks get to can be recomputed. A mode is
aggregated while the earlier ones agree with their metrics, and its cases are
read while the earlier modes match the manifest. -/
structure EvaluationReport.Readable (report : EvaluationReport) : Prop where
  manifest : ∀ entry ∈ report.provenance.suiteManifest, entry.modelDump.printable = true
  metrics : ∀ before mode result after, report.modes = before ++ (mode, result) :: after →
    (∀ earlier ∈ before, aggregateCases earlier.2.cases = .ok earlier.2.metrics) → Recomputable result.cases
  traces : ∀ before mode result after, report.modes = before ++ (mode, result) :: after →
    (∀ earlier ∈ before ++ [(mode, result)],
      casesMatchManifest report.provenance.suiteManifest earlier.1 earlier.2 = true) →
    ∀ case ∈ result.cases, ∀ frozen, manifestById report.provenance.suiteManifest case.scenarioId = some frozen →
      builtIn frozen = true → case.Readable sha256 frozen

/-- The report, or the baseline it is compared with, is not consistent in itself. -/
def inconsistent (report : EvaluationReport) (baseline : Option EvaluationReport) : Prop :=
  integrityErrors sha256 report "report" ≠ .ok [] ∨
    ∃ other ∈ baseline, integrityErrors sha256 other "baseline" ≠ .ok []

/-- `enforce_gate` returns, and never passes an inconsistent report. -/
def failsClosed (report : EvaluationReport) (baseline : Option EvaluationReport) : Prop :=
  ∃ result, enforceGate sha256 report baseline = .ok result ∧
    (inconsistent sha256 report baseline → result.passed = false ∧ result.infrastructureErrors ≠ [])

end Safe

section Aggregate
variable {cases : List CaseResult}

theorem floatRate_ok {q : ℚ≥0} : (∃ rate, floatRate q = .ok rate) ↔ (double.round q).any (· ≤ 1) := by
  unfold floatRate toFloat
  cases double.round q with
  | none => simp [bind, Except.bind]
  | some value =>
    simp only [bind, Except.bind, toRate, Option.any_some, decide_eq_true_eq]
    split <;> simp_all

theorem toFloat_ok {q : ℚ≥0} : (∃ value, toFloat q = .ok value) ↔ (double.round q).isSome := by
  unfold toFloat
  cases double.round q <;> simp

/-- A share of the cases is always a rate. -/
theorem correctness_ok : ∃ rate, floatRate (correctCount cases / cases.length) = .ok rate := by
  have share : (correctCount cases : ℚ≥0) / cases.length ≤ 1 :=
    div_le_one_of_le₀ (by exact_mod_cast List.length_filter_le _ _) zero_le
  obtain ⟨rate, rounded, le⟩ := double.round_le_one (by decide) (by decide) (by decide) share
  exact floatRate_ok.mpr (by simp [rounded, le])

theorem recoveryRate_ok : (∃ rate, recoveryRate cases = .ok rate) ↔
    total cases (·.verifiedTransientFaultCount) = 0 ∨ (double.round (recoveryFraction cases)).any (· ≤ 1) := by
  rw [← floatRate_ok, recoveryRate]
  split
  · rename_i none
    exact ⟨fun _ => .inl none, fun _ => ⟨_, rfl⟩⟩
  · rename_i some
    simp only [some, false_or]
    cases floatRate (recoveryFraction cases) <;> simp [Functor.map, Except.map]

/-- The metrics exist exactly where nothing in them is out of range. -/
theorem aggregateCases_ok : (∃ metrics, aggregateCases cases = .ok metrics) ↔ Recomputable cases := by
  constructor
  · rintro ⟨metrics, done⟩
    simp only [aggregateCases, Check.bind_ok] at done
    obtain ⟨_, -, _, sequences, _, recovery, _, invalid, _, p50, _, p95, _, cost, -⟩ := done
    exact ⟨floatRate_ok.mp ⟨_, sequences⟩, recoveryRate_ok.mp ⟨_, recovery⟩, floatRate_ok.mp ⟨_, invalid⟩,
      toFloat_ok.mp ⟨_, p50⟩, toFloat_ok.mp ⟨_, p95⟩, by simp [cost, Except.toOption]⟩
  · intro recomputable
    obtain ⟨_, correctness⟩ := @correctness_ok cases
    obtain ⟨_, sequences⟩ := floatRate_ok.mpr recomputable.sequences
    obtain ⟨_, recovery⟩ := recoveryRate_ok.mpr recomputable.recovery
    obtain ⟨_, invalid⟩ := floatRate_ok.mpr recomputable.invalid
    obtain ⟨_, p50⟩ := toFloat_ok.mpr recomputable.p50
    obtain ⟨_, p95⟩ := toFloat_ok.mpr recomputable.p95
    obtain ⟨_, cost⟩ : ∃ cost, sumDecimals 0 (cases.map (·.estimatedCostUsd)) = .ok cost := by
      cases sum : sumDecimals 0 (cases.map (·.estimatedCostUsd)) with
      | ok cost => exact ⟨cost, rfl⟩
      | error error => simpa [sum, Except.toOption] using recomputable.cost
    simp only [aggregateCases, Check.bind_ok]
    exact ⟨_, _, correctness, _, sequences, _, recovery, _, invalid, _, p50, _, p95, _, cost, rfl⟩

end Aggregate

section Report
variable {sha256 : Json → String}

theorem suiteSha256_ok {manifest : List SuiteManifestEntry} :
    (∃ digest, suiteSha256 sha256 manifest = .ok digest) ↔ ∀ entry ∈ manifest, entry.modelDump.printable = true := by
  rw [suiteSha256, canonicalJsonDigest_ok, Json.printable, Json.printableList_map]
  simp only [List.mem_insertionSort]

theorem payload_printable {item : OrderedTraceEvidence} (printable : item.modelDump.printable = true) :
    Json.printableItems item.payload = true := by
  simp only [OrderedTraceEvidence.modelDump, Json.printable, Json.printableItems, Bool.and_eq_true] at printable
  exact printable.2.2.2.2.2.2.2.1

theorem entry_printable {entry : SuiteManifestEntry} (printable : entry.modelDump.printable = true) :
    Json.printableItems entry.initialContext = true ∧
      ∀ action ∈ entry.logicalActions, Json.printableItems action.actionPayload = true := by
  simp only [SuiteManifestEntry.modelDump, Json.printable, Json.printableItems, Bool.and_eq_true,
    Json.printableList_map] at printable
  refine ⟨printable.2.2.2.2.1, fun action member => ?_⟩
  have dumped := printable.2.2.2.2.2.1 action member
  simp only [LogicalActionProjection.modelDump, Json.printable, Json.printableItems, Bool.and_eq_true] at dumped
  exact dumped.2.2.2.1

theorem deterministicIncidentOutput_printable {toolName : String} {arguments : Dict} {output : Json}
    (known : deterministicIncidentOutput toolName arguments = some output) : output.printable = true := by
  unfold deterministicIncidentOutput at known
  repeat' split at known
  all_goals cases known
  all_goals rfl

theorem frozenActionAgrees_quiet {action : LogicalActionProjection}
    (clean : Json.printableItems action.actionPayload = true) : ¬ (frozenActionAgrees sha256 action).Raises := by
  simp only [frozenActionAgrees, Check.raises_bind, Check.raises_require, Check.require_ok, exists_const, false_or,
    Check.raises_lift, canonicalActionFingerprint, canonicalJsonDigest_error, Json.printable, clean, Bool.true_eq_false]
  rintro ⟨-, -, _, -, -, raises⟩
  split at raises
  · simp only [Check.raises_bind, Check.raises_some?, false_or] at raises
    obtain ⟨arguments, -, toolName, -, raises⟩ := raises
    split at raises
    · simp at raises
    · rename_i output known
      simp [Check.raises_bind, canonicalJsonDigest_error, deterministicIncidentOutput_printable known] at raises
  · simp at raises

theorem forM_quiet {actions : List LogicalActionProjection}
    (clean : ∀ action ∈ actions, Json.printableItems action.actionPayload = true) :
    ¬ Check.Raises (actions.forM (frozenActionAgrees sha256)) := by
  induction actions with
  | nil => simp
  | cons action rest ih =>
    show ¬ Check.Raises (frozenActionAgrees sha256 action >>= fun _ => rest.forM (frozenActionAgrees sha256))
    rw [Check.raises_bind]
    rintro (here | ⟨-, -, later⟩)
    · exact frozenActionAgrees_quiet (clean action List.mem_cons_self) here
    · exact ih (fun other member => clean other (List.mem_cons_of_mem _ member)) later

theorem initial_printable {frozen : SuiteManifestEntry} (clean : Json.printableItems frozen.initialContext = true) :
    (TraceState.initial frozen).Printable := by
  refine ⟨nofun, ?_, clean⟩
  simp only [TraceState.initial, payloadGet]
  cases found : frozen.initialContext.lookup "tool_results" with
  | none => rfl
  | some value =>
    have printable := Json.printable_lookup clean found
    cases value with
    | obj items =>
      rw [Json.printable] at printable
      exact printable
    | _ => rfl

/-- The loop raises exactly where it meets a hazard. -/
theorem traceRun_raises {mode : Mode} {frozen : SuiteManifestEntry} {items : List OrderedTraceEvidence}
    (clean : Json.printableItems frozen.initialContext = true)
    (printable : ∀ item ∈ items, item.modelDump.printable = true) :
    Check.Raises (Check.run (traceStep sha256 mode frozen) (.initial frozen) items) ↔
      ∃ before item after st, items = before ++ item :: after ∧
        Check.run (traceStep sha256 mode frozen) (.initial frozen) before = .ok st ∧ hazard frozen st item := by
  have kept : ∀ {before : List OrderedTraceEvidence} {st}, (∀ item ∈ before, item.modelDump.printable = true) →
      Check.run (traceStep sha256 mode frozen) (.initial frozen) before = .ok st → st.Printable := by
    intro before st clean_before ran
    refine @Check.run_invariant _ _ _ (traceStep sha256 mode frozen)
      (fun seen st => (∀ item ∈ seen, item.modelDump.printable = true) → st.Printable) ?_ [] _ _ _
      (fun _ => initial_printable clean) ran clean_before
    intro seen st item next holds stepped all
    exact (holds fun other member => all other (List.mem_append_left _ member)).step
      (payload_printable (all item (by simp))) stepped
  rw [Check.raises_run]
  constructor
  · rintro ⟨before, item, after, st, rfl, ran, raises⟩
    exact ⟨before, item, after, st, rfl, ran, (traceStep_raises (payload_printable (printable item (by simp)))
      (kept (fun other member => printable other (by simp [member])) ran)).mp raises⟩
  · rintro ⟨before, item, after, st, rfl, ran, met⟩
    exact ⟨before, item, after, st, rfl, ran, (traceStep_raises (payload_printable (printable item (by simp)))
      (kept (fun other member => printable other (by simp [member])) ran)).mpr met⟩

/-- `_trace_claims` raises exactly on a trace that it cannot read. -/
theorem traceClaims_raises {case : CaseResult} {frozen : SuiteManifestEntry}
    (manifest : frozen.modelDump.printable = true) :
    (traceClaims sha256 case frozen).Raises ↔ ¬ case.Readable sha256 frozen := by
  obtain ⟨context, actions⟩ := entry_printable manifest
  have digest : (∃ error, traceEvidenceDigest sha256 case.traceEvidence = .error error) ↔
      ¬ ∀ item ∈ case.traceEvidence, item.modelDump.printable = true := by
    rw [traceEvidenceDigest, canonicalJsonDigest_error, Json.printable, ← Json.printableList_map,
      Bool.not_eq_true]
  have header : (traceHeader sha256 case).Raises ↔ ¬ ∀ item ∈ case.traceEvidence, item.modelDump.printable = true := by
    simp only [traceHeader, Check.raises_bind, Check.raises_lift, digest, Check.raises_require, or_false, and_false,
      exists_false]
  have verdict : ∀ st, ¬ (traceVerdict case frozen st).Raises := by
    intro st
    simp [traceVerdict, Check.raises_bind]
  simp only [traceClaims, Check.raises_bind, header, Check.raises_require, Check.require_ok, exists_const, false_or,
    forM_quiet actions, verdict, and_false, exists_false, or_false]
  constructor
  · rintro (unprintable | ⟨⟨⟩, entered, ordered, ⟨⟩, agreed, raises⟩) readable
    · exact unprintable readable.printable
    · obtain ⟨before, item, after, st, split, ran, met⟩ := (traceRun_raises context readable.printable).mp raises
      exact readable.harmless ⟨entered, ordered, agreed⟩ before item after st split ran met
  · intro unreadable
    by_cases printable : ∀ item ∈ case.traceEvidence, item.modelDump.printable = true
    · refine .inr ?_
      by_contra quiet
      refine unreadable ⟨printable, fun entered before item after st split ran met => quiet ?_⟩
      exact ⟨(), entered.1, entered.2.1, (), entered.2.2,
        (traceRun_raises context printable).mpr ⟨before, item, after, st, split, ran, met⟩⟩
    · exact .inl printable

theorem summaryMismatch_ok {modes : List (Mode × ModeResult)} :
    (∃ mismatch, summaryMismatch modes = .ok mismatch) ↔ ∀ before mode result after,
      modes = before ++ (mode, result) :: after →
      (∀ earlier ∈ before, aggregateCases earlier.2.cases = .ok earlier.2.metrics) → Recomputable result.cases := by
  induction modes with
  | nil => simp [summaryMismatch]
  | cons first rest ih =>
    obtain ⟨mode, result⟩ := first
    constructor
    · rintro ⟨mismatch, done⟩ before other shown after split agree
      simp only [summaryMismatch, Check.bind_ok] at done
      obtain ⟨metrics, aggregated, later⟩ := done
      cases before with
      | nil => cases split; exact aggregateCases_ok.mp ⟨metrics, aggregated⟩
      | cons head before =>
        cases split
        have honest : aggregateCases result.cases = .ok result.metrics := agree (mode, result) List.mem_cons_self
        have same : result.metrics = metrics := Except.ok.inj (honest.symm.trans aggregated)
        simp only [same, ne_eq, not_true_eq_false, if_false] at later
        exact ih.mp ⟨mismatch, later⟩ before other shown after rfl
          fun earlier member => agree earlier (List.mem_cons_of_mem _ member)
    · intro readable
      obtain ⟨metrics, aggregated⟩ := aggregateCases_ok.mpr (readable [] mode result rest rfl (by simp))
      simp only [summaryMismatch, Check.bind_ok]
      by_cases same : result.metrics = metrics
      · obtain ⟨mismatch, later⟩ := ih.mpr fun before other shown after split agree =>
          readable ((mode, result) :: before) other shown after (by rw [split]; rfl) fun earlier member => by
            rcases List.mem_cons.mp member with rfl | member
            · rw [aggregated, same]
            · exact agree earlier member
        exact ⟨mismatch, metrics, aggregated, by simpa only [same, ne_eq, not_true_eq_false, if_false] using later⟩
      · exact ⟨true, metrics, aggregated, by simp only [ne_eq, same, not_false_eq_true, if_true]; rfl⟩

theorem caseEvidenceErrors_ok {case : CaseResult} {frozen : SuiteManifestEntry}
    (manifest : frozen.modelDump.printable = true) :
    (∃ errors, caseEvidenceErrors case frozen sha256 = .ok errors) ↔
      (builtIn frozen = true → case.Readable sha256 frozen) := by
  have raises := @traceClaims_raises sha256 case frozen manifest
  unfold caseEvidenceErrors
  split
  · rename_i known
    simp only [known, true_imp_iff]
    rw [← not_iff_not, ← raises]
    cases claims : traceClaims sha256 case frozen with
    | ok trace => simp
    | error stop => cases stop <;> simp [Check.Raises]
  · rename_i unknown
    simp [unknown]

theorem casesErrors_ok {manifest : List SuiteManifestEntry} {cases : List CaseResult}
    (printable : ∀ entry ∈ manifest, entry.modelDump.printable = true)
    (listed : ∀ case ∈ cases, (manifestById manifest case.scenarioId).isSome) :
    (∃ errors, casesErrors sha256 manifest cases = .ok errors) ↔ ∀ case ∈ cases, ∀ frozen,
      manifestById manifest case.scenarioId = some frozen → builtIn frozen = true → case.Readable sha256 frozen := by
  induction cases with
  | nil => simp [casesErrors]
  | cons case rest ih =>
    have ih := ih fun other member => listed other (List.mem_cons_of_mem _ member)
    obtain ⟨frozen, found⟩ := Option.isSome_iff_exists.mp (listed case List.mem_cons_self)
    have member : frozen ∈ manifest := List.mem_reverse.mp (List.mem_of_find?_eq_some found)
    simp only [casesErrors, found, Check.bind_ok, List.forall_mem_cons, Option.some.injEq, forall_eq', ← ih,
      ← caseEvidenceErrors_ok (printable frozen member)]
    constructor
    · rintro ⟨_, first, here, second, later, -⟩
      exact ⟨⟨first, here⟩, second, later⟩
    · rintro ⟨⟨first, here⟩, second, later⟩
      exact ⟨_, first, here, second, later, rfl⟩

theorem casesMatchManifest_listed {manifest : List SuiteManifestEntry} {mode : Mode} {result : ModeResult}
    (matched : casesMatchManifest manifest mode result = true) :
    ∀ case ∈ result.cases, (manifestById manifest case.scenarioId).isSome := by
  intro case member
  simp only [casesMatchManifest, Bool.and_eq_true, List.all_eq_true] at matched
  obtain ⟨entry, there, same⟩ : ∃ entry ∈ manifest, entry.key = case.key := by
    simpa using matched.1.1.2 case member
  simp only [SuiteManifestEntry.key, CaseResult.key, Prod.mk.injEq] at same
  rw [manifestById, List.find?_isSome]
  exact ⟨entry, List.mem_reverse.mpr there, by simp [same.1]⟩

theorem modesErrors_ok {manifest : List SuiteManifestEntry} {modes : List (Mode × ModeResult)}
    (printable : ∀ entry ∈ manifest, entry.modelDump.printable = true) :
    (∃ errors, modesErrors sha256 manifest modes = .ok errors) ↔ ∀ before mode result after,
      modes = before ++ (mode, result) :: after →
      (∀ earlier ∈ before ++ [(mode, result)], casesMatchManifest manifest earlier.1 earlier.2 = true) →
      ∀ case ∈ result.cases, ∀ frozen, manifestById manifest case.scenarioId = some frozen → builtIn frozen = true →
        case.Readable sha256 frozen := by
  induction modes with
  | nil => simp [modesErrors]
  | cons first rest ih =>
    obtain ⟨mode, result⟩ := first
    by_cases matched : casesMatchManifest manifest mode result = true
    · have here := @casesErrors_ok sha256 _ _ printable (casesMatchManifest_listed matched)
      simp only [modesErrors, matched, if_true, Check.bind_ok]
      constructor
      · rintro ⟨_, errors, read, more, later, -⟩ before other shown after split agree
        cases before with
        | nil => cases split; exact here.mp ⟨errors, read⟩
        | cons head before =>
          cases split
          exact ih.mp ⟨more, later⟩ before other shown after rfl
            fun earlier member => agree earlier (List.mem_cons_of_mem _ member)
      · intro readable
        obtain ⟨errors, read⟩ := here.mpr (readable [] mode result rest rfl (by simpa using matched))
        obtain ⟨more, later⟩ := ih.mpr fun before other shown after split agree =>
          readable ((mode, result) :: before) other shown after (by rw [split]; rfl) fun earlier member => by
            rcases List.mem_cons.mp member with rfl | member
            · exact matched
            · exact agree earlier member
        exact ⟨_, errors, read, more, later, rfl⟩
    · simp only [modesErrors, matched]
      refine ⟨fun _ before other shown after split agree => ?_, fun _ => ⟨_, rfl⟩⟩
      cases before with
      | nil => cases split; exact absurd (agree (mode, result) (by simp)) matched
      | cons head before => cases split; exact absurd (agree (mode, result) List.mem_cons_self) matched

/-- The integrity checks of a report end exactly where all that they get to is readable. -/
theorem integrityErrors_ok {report : EvaluationReport} {source : String} :
    (∃ errors, integrityErrors sha256 report source = .ok errors) ↔
      (bothModes report = true → report.Readable sha256) := by
  unfold integrityErrors
  split
  · rename_i both
    simp only [both, true_imp_iff, Check.bind_ok]
    constructor
    · rintro ⟨_, hash, hashed, mismatch, compared, errors, read, -⟩
      have printable := suiteSha256_ok.mp ⟨hash, hashed⟩
      exact ⟨printable, summaryMismatch_ok.mp ⟨mismatch, compared⟩, (modesErrors_ok printable).mp ⟨errors, read⟩⟩
    · intro readable
      obtain ⟨hash, hashed⟩ := suiteSha256_ok.mpr readable.manifest
      obtain ⟨mismatch, compared⟩ := summaryMismatch_ok.mpr readable.metrics
      obtain ⟨errors, read⟩ := (modesErrors_ok readable.manifest).mpr readable.traces
      exact ⟨_, hash, hashed, mismatch, compared, errors, read, rfl⟩
  · rename_i notBoth
    simp [notBoth]

/-- A report without integrity errors has both modes. -/
theorem bothModes_of_intact {report : EvaluationReport} {source : String}
    (intact : integrityErrors sha256 report source = .ok []) : bothModes report = true := by
  by_contra notBoth
  rw [integrityErrors, if_neg notBoth] at intact
  simp at intact

theorem lookup_resilient {report : EvaluationReport} (both : bothModes report = true) :
    (report.modes.lookup .resilient).isSome := by
  simp only [bothModes, Bool.or_eq_true, decide_eq_true_eq] at both
  rcases modes : report.modes with _ | ⟨⟨first, _⟩, _ | ⟨⟨second, _⟩, rest⟩⟩ <;> simp [modes] at both
  rcases both with ⟨rfl, rfl, -⟩ | ⟨rfl, rfl, -⟩ <;> rfl

theorem baselineErrors_ok {baseline : Option EvaluationReport} :
    (∃ errors, baselineErrors sha256 baseline = .ok errors) ↔
      ∀ other ∈ baseline, bothModes other = true → other.Readable sha256 := by
  cases baseline with
  | none => simp [baselineErrors]
  | some other => simpa [baselineErrors] using integrityErrors_ok

/-- Where no check found anything, the thresholds decide. -/
theorem enforceThresholds_ok {report : EvaluationReport} {baseline : Option EvaluationReport}
    (intact : integrityErrors sha256 report "report" = .ok []) :
    ∃ result, enforceThresholds report baseline = .ok result := by
  obtain ⟨resilient, found⟩ := Option.isSome_iff_exists.mp (lookup_resilient (bothModes_of_intact intact))
  unfold enforceThresholds
  rw [found]
  cases baseline with
  | none => exact ⟨_, rfl⟩
  | some other =>
    dsimp only
    split
    · split <;> exact ⟨_, rfl⟩
    · exact ⟨_, rfl⟩

end Report

/-- A case whose counters say that two of one transient fault were recovered. -/
def overcountedCase (mode : Mode) (id : Uuid) : CaseResult where
  scenarioId := "normal-success"
  scenarioVersion := 1
  scenarioPath := "normal-success.yaml"
  scenarioSha256 := blankDigest
  mode := mode
  runId := id
  traceId := id
  traceDigest := blankDigest
  traceEvidence := []
  logicalActions := []
  finalStatus := .failed
  finalResult := none
  expectedOutcome := "diagnosed"
  observedOutcome := "diagnosed"
  correct := true
  terminalSuccess := false
  expectedToolSequence := []
  actualToolSequence := []
  sequenceMatchCount := 0
  sequenceDenominator := 0
  unnecessaryCallCount := 0
  logicalToolCallCount := 0
  attemptEvidence := []
  attemptCount := 0
  retryAttemptCount := 0
  declaredFaults := []
  observedFaults := []
  verifiedTransientFaultCount := 1
  recoveredTransientFaultCount := 2
  acceptedOutputs := []
  acceptedOutputCount := 0
  invalidOutputAcceptedCount := 0
  invalidOutputDetectedCount := 0
  invalidOutputRejectedCount := 0
  malformedFaultInjectedCount := 0
  outputValidationFailures := []
  latencyNs := 0
  estimatedInputTokens := 0
  estimatedOutputTokens := 0
  estimatedCostUsd := 0
  approvalReconstructed := false
  prePauseWriteExecutionCount := 0
  writeExecutionCount := 0
  storeRunCount := 1

def overcountedReport : EvaluationReport where
  provenance := ⟨blankDigest, [], "0000000000000000000000000000000000000000", false, ⟨1, 2, 1, floatTenth⟩⟩
  modes := [(.fragile, ⟨.fragile, [overcountedCase .fragile 0], blankMetrics⟩),
    (.resilient, ⟨.resilient, [overcountedCase .resilient 1], blankMetrics⟩)]
  comparison := none
  modes_distinct := by decide

end ReliabilityLab
