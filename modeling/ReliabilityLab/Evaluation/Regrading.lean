import Mathlib
import ReliabilityLab.Evaluation.GradedTraces

namespace ReliabilityLab

/-! The counters of the runner and of the gate. -/

theorem dedup_map_of_injOn {α β : Type} [DecidableEq α] [DecidableEq β] {f : α → β} {items : List α}
    (apart : ∀ a ∈ items, ∀ b ∈ items, f a = f b → a = b) : (items.map f).dedup = items.dedup.map f := by
  induction items with
  | nil => rfl
  | cons item rest ih =>
    have later := ih fun a listed b there => apart a (List.mem_cons_of_mem _ listed) b (List.mem_cons_of_mem _ there)
    by_cases again : item ∈ rest
    · rw [List.map_cons, List.dedup_cons_of_mem (List.mem_map_of_mem again), List.dedup_cons_of_mem again, later]
    · have new : f item ∉ rest.map f := by
        intro listed
        obtain ⟨other, there, same⟩ := List.mem_map.mp listed
        rw [apart other (List.mem_cons_of_mem _ there) item List.mem_cons_self same] at there
        exact again there
      rw [List.map_cons, List.dedup_cons_of_notMem new, List.dedup_cons_of_notMem again, later, List.map_cons]

section Counters
variable {sha256 : Json → String} {mode : Mode} {frozen : SuiteManifestEntry} {st next final : TraceState}
  {item : OrderedTraceEvidence} {seen items : List OrderedTraceEvidence} {scenario : Scenario} {path digest : String}

/-- Every attempt is one of the frozen call at its step. -/
theorem attempts_frozen (ran : Check.run (traceStep sha256 mode frozen) (.initial frozen) items = .ok final) :
    ∀ attempt ∈ final.attempts, ∃ action, frozen.frozenByStep attempt.actionStep = some action ∧
      action.toolName = some attempt.toolName := by
  let all (seen : List OrderedTraceEvidence) (st : TraceState) : Prop := Cursor frozen seen st ∧
    ∀ attempt ∈ st.attempts, ∃ action, frozen.frozenByStep attempt.actionStep = some action ∧
      action.toolName = some attempt.toolName
  have keeps : ∀ seen st item next, all seen st → traceStep sha256 mode frozen st item = .ok next →
      all (seen ++ [item]) next := by
    rintro seen st item next ⟨cursor, known⟩ accepted
    refine ⟨cursor_step cursor accepted, ?_⟩
    have ended : ∀ {identity status attempt pending}, attemptIdentity st.activeCall item.payload = some identity →
        AttemptEvidence.make identity status item.payload = .ok attempt →
        ∀ other ∈ (st.attemptOver identity attempt pending).attempts, ∃ action,
          frozen.frozenByStep other.actionStep = some action ∧ action.toolName = some other.toolName := by
      intro identity status attempt pending found made
      rw [TraceState.attemptOver, List.forall_mem_append, List.forall_mem_singleton]
      refine ⟨known, ?_⟩
      obtain ⟨active, -⟩ := attemptIdentity_some found
      obtain ⟨-, call, member, calls⟩ := cursor.active _ _ active
      obtain ⟨action, there, -, shows⟩ := cursor.known call member _ calls.1
      have same : attempt.actionStep = identity.actionStep ∧ attempt.toolName = identity.toolName := by
        rw [← AttemptEvidence.make_identity made]
        exact ⟨rfl, rfl⟩
      rw [same.1, same.2]
      exact ⟨action, there, ((shows_call shows calls.1).mp calls).2⟩
    cases (traceStep_effect accepted).2 with
    | unsuccessful identity status attempt _ _ found _ made => exact ended found made
    | successful identity attempt _ _ _ found _ made => exact ended found made
    | announced | started | faultInjected | validationFailed | checkpointed | preflightFailed | waiting | recorded | denied
      | running | terminal => exact known
  have initial : all [] (.initial frozen) := ⟨cursor_initial, fun _ listed => by cases listed⟩
  simpa using (Check.run_invariant keeps initial ran).2

/-- By step or by step and tool: the attempts beyond the first are counted alike. -/
theorem retries_graded {attempts : List AttemptEvidence}
    (known : ∀ attempt ∈ attempts, ∃ action, frozen.frozenByStep attempt.actionStep = some action ∧
      action.toolName = some attempt.toolName) :
    ((attempts.map (·.actionStep)).dedup.map fun step => (attempts.filter (·.actionStep = step)).length - 1).sum =
      ((attempts.map (·.action)).dedup.map fun action => (attemptsOf attempts action).length - 1).sum := by
  have apart : ∀ a ∈ attempts, ∀ b ∈ attempts, a.actionStep = b.actionStep → a.action = b.action := by
    intro a listed b there same
    obtain ⟨action, found, tool⟩ := known a listed
    obtain ⟨other, found', tool'⟩ := known b there
    rw [same] at found
    cases found.symm.trans found'
    exact Prod.ext same (Option.some.inj (tool.symm.trans tool'))
  have steps : attempts.map (·.actionStep) = (attempts.map (·.action)).map Prod.fst := by
    rw [List.map_map]
    rfl
  have dedup : (attempts.map (·.actionStep)).dedup = (attempts.map (·.action)).dedup.map Prod.fst := by
    rw [steps]
    refine dedup_map_of_injOn ?_
    intro x inside y there same
    obtain ⟨a, listed, rfl⟩ := List.mem_map.mp inside
    obtain ⟨b, listed', rfl⟩ := List.mem_map.mp there
    exact apart a listed b listed' same
  rw [dedup, List.map_map]
  refine congrArg List.sum (List.map_congr_left fun action listed => ?_)
  obtain ⟨a, there, rfl⟩ := List.mem_map.mp (List.mem_dedup.mp listed)
  have chosen : attempts.filter (·.actionStep = a.actionStep) = attemptsOf attempts a.action := by
    refine List.filter_congr fun b listed' => ?_
    rw [decide_eq_decide]
    exact ⟨fun same => apart b listed' a there same, congrArg Prod.fst⟩
  show (attempts.filter (·.actionStep = a.actionStep)).length - 1 = _
  rw [chosen]

/-- The declared faults that may pass are those of a passing kind. -/
theorem transient_graded {faults : List FaultEvidence} (declared : declaredFaultEvidence scenario = .ok faults) :
    ((faults.zip scenario.faults).filter (·.2.type.transient)).map (·.1) = faults.filter (·.kind.transient) := by
  have pairs := mapM_ok.mp declared
  clear declared
  revert pairs
  generalize scenario.faults = rules
  intro pairs
  induction pairs with
  | nil => rfl
  | @cons rule fault rules faults read _ ih =>
    have kind : fault.kind = rule.type := by
      unfold declaredFault at read
      split at read
      · split at read <;> cases read
        rfl
      · cases read
    rw [List.zip_cons_cons, List.filter_cons, List.filter_cons, kind]
    split
    · rw [List.map_cons, ih]
    · exact ih

theorem final_ended (ran : Check.run (traceStep sha256 mode frozen) (.initial frozen) items = .ok final)
    {status : FinalStatus} {result : Dict} (ended : final.final = some (status, result)) : status ≠ .waitingApproval := by
  let settled (st : TraceState) : Prop := ∀ status result, st.final = some (status, result) → status ≠ .waitingApproval
  have keeps : ∀ st item next, settled st → traceStep sha256 mode frozen st item = .ok next → settled next := by
    intro st item next before accepted status result ended
    cases (traceStep_effect accepted).2 with
    | terminal status _ _ _ over_ =>
      cases ended
      exact over_
    | _ => exact before status result ended
  exact Check.run_keeps keeps (fun _ _ none => by cases none) ran status result ended

theorem outcomeText_same {items others : Dict} (distinct : (items.map Prod.fst).Nodup)
    (same : (Json.obj items == .obj others) = true) (key : String) :
    outcomeText (payloadGet items key) = outcomeText (payloadGet others key) := by
  cases found : others.lookup key with
  | some value =>
    obtain ⟨own, found', equal⟩ := Json.pyEq_obj_lookup distinct same found
    rw [payloadGet_of_lookup found, payloadGet_of_lookup found']
    cases value with
    | str text => rw [Json.pyEq_str_right.mp equal]
    | _ =>
      cases own with
      | str text => cases Json.pyEq_str.mp equal
      | _ => rfl
  | none =>
    cases found' : items.lookup key with
    | some own =>
      obtain ⟨value, there, -⟩ := Json.pyEq_lookup same found'
      rw [found] at there
      cases there
    | none => simp only [payloadGet, found, found']

end Counters

section Outputs
variable {sha256 : Json → String} {scenario : Scenario} {frozen : SuiteManifestEntry} {path digest : String} {case : CaseResult}
  {claims : TraceClaims} {final : TraceState} {run : Run}

theorem registered_of_output {toolName : String} {arguments : Dict} {output : Json}
    (known : deterministicIncidentOutput toolName arguments = some output) :
    (incidentRegistry.get toolName).isNone = false ∧ toolName ≠ "" := by
  have all : ∀ entry ∈ incidentFixtures, (incidentRegistry.get entry.1).isNone = false ∧ entry.1 ≠ "" := by decide
  exact all _ (incidentFixtures_mem known)

/-- What is stored under the step of a frozen output is accepted for its call. -/
theorem acceptedOutput_ok (made : manifestEntry sha256 path digest scenario = .ok frozen)
    {accepted : AcceptedOutputEvidence} (expected : frozen.expectsOutput sha256 accepted) (output : Json) :
    acceptedOutput scenario incidentRegistry (toString accepted.actionStep, output) =
      .ok ⟨accepted.actionStep, accepted.toolName, output⟩ := by
  obtain ⟨action, found, kind, tool, shown⟩ := expected
  have step : action.actionStep = accepted.actionStep := by
    have same := List.find?_some found
    simpa using same
  obtain ⟨agent, there, named, computed⟩ := frozen_call made found kind
  have name : accepted.toolName = agent.toolName := Option.some.inj (tool.symm.trans named)
  have known : ∃ value, deterministicIncidentOutput agent.toolName agent.arguments = some value := by
    rw [expectedOutputDigest, shown] at computed
    split at computed
    · rename_i value known
      exact ⟨value, known⟩
    · cases computed
  obtain ⟨value, known⟩ := known
  obtain ⟨registered, nonempty⟩ := registered_of_output known
  have placed : pyIndex scenario.actions (accepted.actionStep : Int) = some (.callTool agent) := by
    rw [pyIndex, if_pos (by omega), Int.toNat_natCast, ← step, there]
  have number : (toString accepted.actionStep).toInt? = some (accepted.actionStep : Int) := Nat.toInt?_repr _
  simp only [acceptedOutput, number, placed, registered, Bool.false_eq_true, if_false]
  rw [if_pos ⟨by omega, nonempty⟩, name, Int.toNat_natCast]

/-- The runner finds the accepted outputs of an intact case in the context that holds them. -/
theorem outputs_graded (made : manifestEntry sha256 path digest scenario = .ok frozen)
    (intact : IntactCase sha256 case frozen claims final) {results : Dict}
    (held : (run.context.lookup "tool_results").getD (.obj []) = .obj results)
    (listed : results.Perm (case.acceptedOutputs.map fun output => (toString output.actionStep, output.output))) :
    acceptedOutputEvidence run scenario incidentRegistry = .ok case.acceptedOutputs := by
  have acceptance := acceptance_run intact.builtIn intact.ran
  have rise := outputsRise_run intact.builtIn intact.ran
  have pairs := forall₂_of_beq intact.recorded.2.2.2
  have each : ∀ given ∈ case.acceptedOutputs,
      acceptedOutput scenario incidentRegistry (toString given.actionStep, given.output) = .ok given := by
    intro given inside
    obtain ⟨accepted, there, equal⟩ := exists_related pairs given inside
    have same : (given.actionStep = accepted.actionStep ∧ given.toolName = accepted.toolName) ∧
        (given.output == accepted.output) = true := by simpa [BEq.beq] using equal
    rw [same.1.1, acceptedOutput_ok made (acceptance.expected accepted there), ← same.1.1, ← same.1.2]
  have steps : case.acceptedOutputs.map (·.actionStep) = final.acceptedOutputs.map (·.actionStep) := by
    refine List.forall₂_eq_eq_eq ▸ ?_
    rw [List.forall₂_map_left_iff, List.forall₂_map_right_iff]
    refine pairs.imp fun given accepted equal => ?_
    simp only [BEq.beq, Bool.and_eq_true, decide_eq_true_eq] at equal
    exact equal.1.1
  have rising : case.acceptedOutputs.Pairwise fun a b => a.actionStep < b.actionStep := by
    have sorted := rise.rising
    rwa [← steps, List.pairwise_map] at sorted
  have paired : List.Forall₂ (fun item value => acceptedOutput scenario incidentRegistry item = .ok value)
      (case.acceptedOutputs.map fun output => (toString output.actionStep, output.output)) case.acceptedOutputs := by
    rw [List.forall₂_map_left_iff, List.forall₂_same]
    exact each
  obtain ⟨accepted, read, perm⟩ := List.perm_comp_forall₂ listed paired
  have sorted : accepted.insertionSort (fun a b => a.actionStep ≤ b.actionStep) = case.acceptedOutputs := by
    have ascending : case.acceptedOutputs.Pairwise fun a b => a.actionStep ≤ b.actionStep := rising.imp fun less => less.le
    have same : (accepted.insertionSort fun a b => a.actionStep ≤ b.actionStep).Perm case.acceptedOutputs :=
      (List.perm_insertionSort _ _).trans perm
    have distinct : (case.acceptedOutputs.map (·.actionStep)).Nodup := by
      rw [List.Nodup, List.pairwise_map]
      exact rising.imp fun less => less.ne
    have unique : ∀ a b, a ∈ accepted.insertionSort (fun a b => a.actionStep ≤ b.actionStep) → b ∈ case.acceptedOutputs →
        a.actionStep ≤ b.actionStep → b.actionStep ≤ a.actionStep → a = b := by
      intro a b inside there low high
      exact List.inj_on_of_nodup_map distinct (same.mem_iff.mp inside) there (by omega)
    exact List.Perm.eq_of_pairwise unique (List.pairwise_insertionSort _ _) ascending same
  rw [acceptedOutputEvidence, held]
  show (results.mapM (acceptedOutput scenario incidentRegistry) >>= fun accepted => pure _) = _
  rw [mapM_ok.mpr read]
  exact congrArg Except.ok sorted

end Outputs

/-! A case as a whole. -/

/-- The run of the case, as it is stored when it is graded. -/
structure CaseResult.Describes (case : CaseResult) (run : Run) : Prop where
  id : run.id = case.runId
  trace : run.traceId = case.traceId
  status : run.status.final? = some case.finalStatus
  result : run.result = case.finalResult
  outputs : ∃ results, (run.context.lookup "tool_results").getD (.obj []) = .obj results ∧
    results.Perm (case.acceptedOutputs.map fun output => (toString output.actionStep, output.output))

def CaseResult.measures (case : CaseResult) : CaseMeasures :=
  ⟨case.latencyNs, case.approvalReconstructed, case.prePauseWriteExecutionCount, case.writeExecutionCount, case.storeRunCount⟩

section Case
variable {sha256 : Json → String} {scenario : Scenario} {frozen : SuiteManifestEntry} {path digest : String} {case : CaseResult}
  {claims : TraceClaims} {final : TraceState} {run : Run} {rows : List EventRow}

/-- What an intact case says beside its trace. -/
theorem IntactCase.stated (intact : IntactCase sha256 case frozen claims final) :
    (case.logicalActions == frozen.logicalActions) = true ∧ case.expectedOutcome = frozen.expectedOutcome ∧
      case.expectedToolSequence = frozen.expectedToolSequence ∧ case.declaredFaults = frozen.declaredFaults ∧
      case.actualToolSequence = final.actual ∧ case.finalStatus = claims.finalStatus ∧
      sameResult case.finalResult (some claims.finalResult) = true ∧
      (case.terminalSuccess = true ↔ claims.finalStatus = .succeeded) := by
  have agree := intact.claimsAgree
  have verdict := intact.verdict
  simp only [traceVerdict, Check.bind_ok, Check.require_ok, exists_const, Check.some?_ok] at verdict
  obtain ⟨-, ⟨status, result⟩, ended, -, supported, reconstructed, -, done⟩ := verdict
  cases done
  simp only [ReliabilityLab.claimsAgree, Bool.and_eq_true, decide_eq_true_eq] at agree
  obtain ⟨⟨⟨⟨⟨⟨⟨⟨⟨⟨⟨⟨actions, outcome⟩, tools⟩, faults⟩, -⟩, -⟩, -⟩, -⟩, actual⟩, finalStatus⟩, result⟩, success⟩, -⟩ := agree
  exact ⟨actions, outcome, tools, faults, actual, finalStatus, result, iff_of_eq success⟩

theorem IntactCase.counted (intact : IntactCase sha256 case frozen claims final) :
    sequenceAgrees case = true ∧ callCountersAgree case = true ∧ attemptCountersAgree case = true ∧
      outputCountersAgree case = true := by
  have clean := intact.errors
  simp only [claimErrors, List.append_eq_nil_iff, flag_nil, Bool.not_eq_false'] at clean
  obtain ⟨⟨⟨⟨⟨⟨⟨⟨-, sequence⟩, calls⟩, -⟩, -⟩, attempts⟩, -⟩, outputs⟩, -⟩ := clean
  exact ⟨sequence, calls, attempts, outputs⟩

/-- The runner sees the outcome that the gate takes from the trace. -/
theorem outcome_graded (intact : IntactCase sha256 case frozen claims final) (described : case.Describes run)
    (distinct : ∀ result, case.finalResult = some result → (result.map Prod.fst).Nodup) :
    observedOutcome run = case.observedOutcome := by
  obtain ⟨-, -, -, -, -, status, result, -⟩ := intact.stated
  have agree := intact.outcomeAgrees
  simp only [ReliabilityLab.outcomeAgrees, Bool.and_eq_true, decide_eq_true_eq] at agree
  rw [agree.1]
  cases held : case.finalResult with
  | none =>
    rw [held] at result
    cases result
  | some items =>
    rw [held] at result
    have same := outcomeText_same (distinct items held) result
    have stored : run.result.getD [] = items := by rw [described.result, held, Option.getD_some]
    have final := described.status
    rw [status] at final
    have ended := final_ended intact.ran intact.verdict_ok.1
    cases statusEq : run.status with
    | succeeded =>
      rw [statusEq] at final
      have shown : claims.finalStatus = .succeeded := (Option.some.inj final).symm
      rw [observedOutcome, statusEq, terminalOutcome, shown, if_pos rfl, stored]
      exact same "outcome"
    | failed =>
      rw [statusEq] at final
      have shown : claims.finalStatus = .failed := (Option.some.inj final).symm
      rw [observedOutcome, statusEq, terminalOutcome, shown, if_neg (by decide), stored]
      exact same "code"
    | waitingApproval =>
      rw [statusEq] at final
      exact absurd (Option.some.inj final).symm ended
    | queued | running =>
      rw [statusEq] at final
      cases final

/-- The runner grades the stored run and trace of an intact case as the case says. -/
theorem IntactCase.regrades (intact : IntactCase sha256 case frozen claims final) (same : case.key = frozen.key)
    (made : manifestEntry sha256 frozen.relativePath frozen.scenarioSha256 scenario = .ok frozen)
    (read : orderedTraceEvidence rows = .ok case.traceEvidence) (described : case.Describes run)
    (distinct : ∀ result, case.finalResult = some result → (result.map Prod.fst).Nodup) :
    gradeCase sha256 frozen scenario case.mode run rows incidentRegistry case.measures =
      .ok { case with
        logicalActions := frozen.logicalActions
        estimatedInputTokens := 0
        estimatedOutputTokens := 0
        estimatedCostUsd := 0 } := by
  obtain ⟨projected, declared, -, -, id, version, expected, wanted⟩ := manifestEntry_ok made
  obtain ⟨-, outcome, tools, faults, actual, status, -, success⟩ := intact.stated
  obtain ⟨sequence, calls, attempts, outputs⟩ := intact.counted
  obtain ⟨attempted, observed, rejected, -⟩ := intact.recorded
  have named : ∀ action, frozen.frozenByStep action.actionStep = some action → action.kind = .callTool →
      ∃ tool, action.toolName = some tool := by
    intro action found kind
    obtain ⟨agent, -, tool, -⟩ := frozen_call made found kind
    exact ⟨agent.toolName, tool⟩
  have digested : traceEvidenceDigest sha256 case.traceEvidence = .ok case.traceDigest := by
    have header := intact.header
    simp only [traceHeader, Check.bind_ok, Check.require_ok, exists_const, Check.lift_ok] at header
    obtain ⟨digest, computed, shown, -⟩ := header
    rw [shown]
    exact computed
  have toolSequence : logicalToolSequence rows = .ok case.actualToolSequence := actual ▸ sequence_graded named read intact.ran
  have seen : observedFaultEvidence (rows.map EventRow.content) = .ok case.observedFaults :=
    observed ▸ observed_graded read intact.ran
  have ended : attemptEvidence rows = .ok case.attemptEvidence := attempted ▸ attempts_graded read intact.ran intact.settled.1
  have failures : outputValidationEvidence rows = .ok case.outputValidationFailures :=
    rejected ▸ validations_graded read intact.ran
  obtain ⟨results, held, listed⟩ := described.outputs
  have accepted := outputs_graded made intact held listed
  have transient : ((frozen.declaredFaults.zip scenario.faults).filter (·.2.type.transient)).map (·.1) =
      frozen.declaredFaults.filter (·.kind.transient) := transient_graded declared
  have perm := intact.faultCounters.1
  have shown := outcome_graded intact described distinct
  have correct : decide (case.observedOutcome = case.expectedOutcome) = case.correct := by
    have agree := intact.outcomeAgrees
    simp only [ReliabilityLab.outcomeAgrees, Bool.and_eq_true, decide_eq_true_eq] at agree
    rw [agree.1, outcome, Bool.eq_iff_iff, decide_eq_true_eq, agree.2]
  have retries : ((case.attemptEvidence.map (·.actionStep)).dedup.map fun step =>
      (case.attemptEvidence.filter (·.actionStep = step)).length - 1).sum = retryAttemptCount case :=
    retries_graded fun attempt inside => attempts_frozen intact.ran attempt (attempted ▸ inside)
  simp only [sequenceAgrees, Bool.and_eq_true, decide_eq_true_eq] at sequence
  simp only [callCountersAgree, Bool.and_eq_true, decide_eq_true_eq] at calls
  simp only [attemptCountersAgree, Bool.and_eq_true, decide_eq_true_eq] at attempts
  simp only [outputCountersAgree, Bool.and_eq_true, decide_eq_true_eq] at outputs
  obtain ⟨⟨⟨⟨⟨attemptCount, -⟩, verified⟩, recovered⟩, retried⟩, malformed⟩ := attempts
  obtain ⟨⟨⟨acceptedCount, invalid⟩, detected⟩, rejectedCount⟩ := outputs
  have path : case.scenarioId = scenario.id ∧ case.scenarioVersion = scenario.version ∧
      case.scenarioPath = frozen.relativePath ∧ case.scenarioSha256 = frozen.scenarioSha256 := by
    simp only [CaseResult.key, SuiteManifestEntry.key, Prod.mk.injEq] at same
    exact ⟨same.1.trans id, same.2.1.trans version, same.2.2⟩
  unfold gradeCase
  refine Check.bind_ok.mpr ⟨_, read, Check.bind_ok.mpr ⟨_, projected, ?_⟩⟩
  refine Check.bind_ok.mpr ⟨_, toolSequence, Check.bind_ok.mpr ⟨_, declared, Check.bind_ok.mpr ⟨_, seen, ?_⟩⟩⟩
  rw [if_pos (List.isPerm_iff.mpr perm)]
  refine Check.bind_ok.mpr ⟨_, ended, Check.bind_ok.mpr ⟨_, accepted, Check.bind_ok.mpr ⟨_, failures, ?_⟩⟩⟩
  refine Check.bind_ok.mpr ⟨_, digested, ?_⟩
  rw [described.status]
  have expectedTools : scenario.expectedToolSequence = case.expectedToolSequence := (tools.trans expected).symm
  have expectedOutcome : scenario.expectedOutcome = case.expectedOutcome := (outcome.trans wanted).symm
  have terminal : decide (run.status = .succeeded) = case.terminalSuccess := by
    have stored := described.status
    have ends : run.status = .succeeded ↔ run.status.final? = some .succeeded := by
      cases run.status <;> decide
    rw [Bool.eq_iff_iff, decide_eq_true_eq, success, ← status, ends, stored, Option.some.injEq]
  have transientCount : (frozen.declaredFaults.filter (·.kind.transient)).length = case.verifiedTransientFaultCount := by
    rw [verified]
    exact (perm.filter _).length_eq
  have recoveredCount : ((frozen.declaredFaults.filter (·.kind.transient)).filter
      (recoveredBy case.attemptEvidence case.correct)).length = case.recoveredTransientFaultCount := by
    rw [recovered]
    exact ((perm.filter _).filter _).length_eq
  rw [expectedTools, expectedOutcome, shown, transient, correct]
  show Except.ok _ = Except.ok _
  rw [Except.ok.injEq, CaseResult.mk.injEq]
  exact ⟨path.1.symm, path.2.1.symm, path.2.2.1.symm, path.2.2.2.symm, rfl, described.id, described.trace, rfl, rfl, rfl, rfl,
    described.result, rfl, rfl, rfl, terminal, rfl, rfl, sequence.1.symm, sequence.2.symm, calls.2.symm, calls.1.symm, rfl,
    attemptCount.symm, retries.trans retried.symm, faults.symm, rfl, transientCount, recoveredCount, rfl, acceptedCount.symm,
    invalid.symm, detected.symm, rejectedCount.symm, malformed.symm, rfl, rfl, rfl, rfl, rfl, rfl, rfl, rfl, rfl⟩

end Case

/-- A case that the gate accepts is what the runner makes of its run and its trace. -/
theorem accepted_case_regrades (sha256 : Json → String) (report : EvaluationReport) (source : String)
    (intact : integrityErrors sha256 report source = .ok []) (case : CaseResult) (member : case ∈ report.cases)
    (frozen : SuiteManifestEntry) (found : manifestById report.provenance.suiteManifest case.scenarioId = some frozen)
    (same : case.key = frozen.key) (scenario : Scenario)
    (made : manifestEntry sha256 frozen.relativePath frozen.scenarioSha256 scenario = .ok frozen) (run : Run)
    (rows : List EventRow) (read : orderedTraceEvidence rows = .ok case.traceEvidence) (described : case.Describes run)
    (distinct : ∀ result, case.finalResult = some result → (result.map Prod.fst).Nodup) :
    gradeCase sha256 frozen scenario case.mode run rows incidentRegistry case.measures =
        .ok { case with
          logicalActions := frozen.logicalActions
          estimatedInputTokens := 0
          estimatedOutputTokens := 0
          estimatedCostUsd := 0 } ∧
      (case.logicalActions == frozen.logicalActions) = true := by
  obtain ⟨entry, claims, final, listed, passed⟩ := intact_entry intact case member
  rw [found] at listed
  cases listed
  exact ⟨passed.regrades same made read described distinct, passed.stated.1⟩

/-! The approved rollback, with events numbered from 1 as the store numbers them. -/

def CaseResult.numbered (case : CaseResult) : CaseResult :=
  { case with traceEvidence := case.traceEvidence.map fun item => { item with sequence := item.sequence + 1 } }

def numberedReport (sha256 : Json → String) : EvaluationReport :=
  { approvedReport sha256 with
    modes := (approvedReport sha256).modes.map fun entry =>
      (entry.1, { entry.2 with cases := entry.2.cases.map CaseResult.numbered })
    modes_distinct := by simp [approvedReport, forgedReport] }

theorem numberedReport_intact :
    integrityErrors (fun _ => blankDigest) (numberedReport fun _ => blankDigest) "report" = .ok [] :=
  ok_of_toOption (by decide +kernel)

def rollbackScenario : Scenario where
  id := "approval-reconstruction"
  version := 1
  initialContext := (deterministicIncidentInitialContext "approval-reconstruction").getD []
  actions := [.callTool ⟨"get_deployment", [], none⟩,
    .callTool ⟨"prepare_rollback", [("deployment_id", .str "deploy-2026-09-04-001")], some "approval-reconstruction-v1"⟩,
    .finish ⟨"Rollback was prepared after durable approval reconstruction.", ["deployment", "approval"], "prepared"⟩]
  expectedToolSequence := ["get_deployment", "prepare_rollback"]
  expectedOutcome := "prepared"
  faults := []
  approvalSupplied := true

def rollbackRun : Run :=
  { Run.new 200 200 "approval-reconstruction" .resilient with
    status := .succeeded
    context := [("tool_results", .obj [("1", rollbackOutput)])]
    result := some skippedResult }

def rollbackCase : CaseResult := (approvedCase (fun _ => blankDigest) .resilient).numbered

def rollbackRows : List EventRow := rollbackCase.traceEvidence.map fun item =>
  ⟨item.eventId, item.traceId, item.spanId, item.parentSpanId, item.sequence, item.eventType, .obj item.payload, .obj [],
    item.status⟩

theorem rollback_described : rollbackCase.Describes rollbackRun where
  id := rfl
  trace := rfl
  status := rfl
  result := rfl
  outputs := ⟨[("1", rollbackOutput)], rfl, .refl _⟩

theorem rollback_regrades :
    gradeCase (fun _ => blankDigest) (skippedEntry fun _ => blankDigest) rollbackScenario .resilient rollbackRun rollbackRows
        incidentRegistry rollbackCase.measures =
      .ok rollbackCase :=
  (accepted_case_regrades (fun _ => blankDigest) (numberedReport fun _ => blankDigest) "report" numberedReport_intact _
    (by simp [EvaluationReport.cases, numberedReport, approvedReport, forgedReport, rollbackCase])
    (skippedEntry fun _ => blankDigest) rfl rfl rollbackScenario rfl rollbackRun rollbackRows rfl rollback_described
    (fun _ held => by cases held; decide)).1

end ReliabilityLab
