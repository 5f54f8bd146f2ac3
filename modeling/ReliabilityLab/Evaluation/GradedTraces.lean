import ReliabilityLab.Evaluation.GenuineOutputs
import ReliabilityLab.Evaluation.Grading
import ReliabilityLab.Evaluation.Recoveries

namespace ReliabilityLab

section Rows
variable {rows : List EventRow} {items : List OrderedTraceEvidence} {kind : EventType → Bool}

/-- The rows of the types that a report admits are the items of its trace, in their order. -/
theorem evidence_rows (read : orderedTraceEvidence rows = .ok items) (admits : ∀ type, kind type = true → type.evidence = true) :
    List.Forall₂ (fun row item => row.eventType = item.eventType ∧ row.payload = .obj item.payload)
      (rows.filter (kind ·.eventType)) (items.filter (kind ·.eventType)) := by
  induction rows generalizing items with
  | nil =>
    cases read
    exact .nil
  | cons row rest ih =>
    rw [orderedTraceEvidence] at read
    split at read
    · rename_i admitted
      obtain ⟨payload, dict, read⟩ := Check.bind_ok.mp read
      split at read
      · obtain ⟨later, others, done⟩ := Check.bind_ok.mp read
        cases done
        have same : row.payload = .obj payload := by
          unfold EventRow.dict at dict
          split at dict <;> cases dict
          assumption
        rw [List.filter_cons, List.filter_cons]
        split
        · exact .cons ⟨rfl, same⟩ (ih others)
        · exact ih others
      · cases read
    · rename_i other
      have out : ¬ kind row.eventType = true := fun counts => other (admits _ counts)
      rw [List.filter_cons_of_neg (by simpa using out)]
      exact ih read

theorem dict_of_payload {row : EventRow} {payload : Dict} (same : row.payload = .obj payload) : row.dict = .ok payload := by
  simp only [EventRow.dict, same]

/-- What the rows of a kind are read as, where the items of that kind are known to be read so. -/
theorem rows_read {β γ : Type} {related : OrderedTraceEvidence → β → Prop} {collected : List β} (kind : EventType → Bool)
    (value : β → γ) (f : EventRow → Except Exn γ) (read : orderedTraceEvidence rows = .ok items)
    (admits : ∀ type, kind type = true → type.evidence = true)
    (reads : ∀ row item entry, row.eventType = item.eventType → row.payload = .obj item.payload → related item entry →
      f row = .ok (value entry))
    (pairs : List.Forall₂ related (items.filter (kind ·.eventType)) collected) :
    (rows.filter (kind ·.eventType)).mapM f = .ok (collected.map value) := by
  rw [mapM_ok, List.forall₂_map_right_iff]
  exact forall₂_through (fun row item entry same told => reads row item entry same.1 same.2 told)
    (evidence_rows read admits) pairs

end Rows

section Payloads
variable {payload : Dict} {step attempt : Int} {toolName : String}

theorem lookup_of_payloadInt {key : String} {value : Int} (read : payloadInt payload key = some value) :
    payload.lookup key = some (.int value) := by
  obtain ⟨json, found, number⟩ := Option.bind_eq_some_iff.mp read
  cases json <;> cases number
  exact found

theorem attemptFields_ok (stepped : payloadInt payload "action_step" = some step)
    (named : payloadGet payload "tool_name" = .str toolName) (numbered : payloadInt payload "attempt" = some attempt) :
    attemptFields payload = .ok (step, toolName, attempt) := by
  have tool : payload.lookup "tool_name" = some (.str toolName) := lookup_of_payloadGet named (by simp)
  simp only [attemptFields, lookup_of_payloadInt stepped, tool, lookup_of_payloadInt numbered]

theorem tells_fields {item : OrderedTraceEvidence} {eventType : EventType} {step number : Nat}
    (told : item.tells eventType step toolName number = true) :
    item.eventType = eventType ∧ attemptFields item.payload = .ok (step, toolName, number) := by
  obtain ⟨event, names, numbered⟩ := tells_iff.mp told
  simp only [OrderedTraceEvidence.names, Bool.and_eq_true, decide_eq_true_eq, Json.beq_str] at names
  exact ⟨event, attemptFields_ok names.1 names.2 numbered⟩

end Payloads

section Evidence
variable {sha256 : Json → String} {mode : Mode} {frozen : SuiteManifestEntry} {final : TraceState}
  {rows : List EventRow} {items : List OrderedTraceEvidence}

theorem FaultType.named_value (kind : FaultType) : FaultType.named kind.value = some kind := by
  cases kind <;> decide

/-- The runner sees the faults that the loop collected. -/
theorem observed_graded (read : orderedTraceEvidence rows = .ok items)
    (ran : Check.run (traceStep sha256 mode frozen) (.initial frozen) items = .ok final) :
    observedFaultEvidence (rows.map EventRow.content) = .ok final.faults := by
  have read' : (rows.filter (·.eventType = .faultInjected)).mapM (fun row => observedFault row.content) =
      .ok (final.faults.map id) := by
    refine rows_read (· = .faultInjected) _ _ read ?_ ?_ (faults_collected ran)
    · intro type same
      rw [of_decide_eq_true same]
      rfl
    · intro row item fault _ same injects
      obtain ⟨told, kind⟩ := injects
      obtain ⟨-, names, numbered⟩ := tells_iff.mp told
      simp only [OrderedTraceEvidence.names, Bool.and_eq_true, decide_eq_true_eq, Json.beq_str] at names
      have tool : item.payload.lookup "tool_name" = some (.str fault.toolName) := lookup_of_payloadGet names.2 (by simp)
      have type : item.payload.lookup "kind" = some (.str fault.kind.value) := lookup_of_payloadGet kind (by simp)
      have sound : (0 : Int) ≤ fault.actionStep ∧ fault.toolName ≠ "" ∧ (1 : Int) ≤ fault.attempt :=
        ⟨by omega, fault.toolName_nonempty, by have positive := fault.attempt_pos; omega⟩
      unfold observedFault EventRow.content
      simp only [same, lookup_of_payloadInt names.1, tool, lookup_of_payloadInt numbered, type, FaultType.named_value,
        dif_pos sound, Int.toNat_natCast]
      rfl
  rw [observedFaultEvidence, List.filter_map, List.mapM_map]
  rw [List.map_id] at read'
  exact read'

/-- The runner sees the rejected outputs that the loop collected. -/
theorem validations_graded (read : orderedTraceEvidence rows = .ok items)
    (ran : Check.run (traceStep sha256 mode frozen) (.initial frozen) items = .ok final) :
    outputValidationEvidence rows = .ok final.validations := by
  let rejected (item : OrderedTraceEvidence) (failure : OutputValidationEvidence) : Prop :=
    outputValidation item.payload = .ok failure
  have collected : List.Forall₂ rejected (items.filter (·.eventType = .toolOutputValidationFailed)) final.validations := by
    refine Check.run_collects (fun st item next accepted => ?_) rfl ran
    by_cases event : item.eventType = .toolOutputValidationFailed
    · obtain ⟨-, dispatched⟩ := Check.require_bind_ok.mp accepted
      rw [event] at dispatched
      rw [Check.Adds, if_pos (by simp [event])]
      simp only [outputValidationFailed, runningAttempt, Check.bind_ok, Check.some?_ok, Check.require_ok, exists_const] at dispatched
      obtain ⟨_, ⟨identity, found, -, same⟩, failure, made, done⟩ := dispatched
      cases same
      refine ⟨failure, ?_, congrArg TraceState.validations (Except.ok.inj done).symm⟩
      obtain ⟨-, step, tool⟩ := attemptIdentity_some found
      show outputValidation item.payload = .ok failure
      unfold outputValidation
      simp only [attemptFields_ok step tool (attemptIdentity_number found), Int.toNat_natCast, made]
      exact if_pos (by omega)
    · rw [Check.Adds, if_neg (by simp [event])]
      exact (evidence_kept (traceStep_effect accepted).2).2.2 event
  have read' := rows_read (· = .toolOutputValidationFailed) id (fun row => row.dict >>= outputValidation) read ?_ ?_ collected
  · rwa [List.map_id] at read'
  · intro type same
    rw [of_decide_eq_true same]
    rfl
  · intro row item failure _ same told
    rw [dict_of_payload same]
    exact told

/-! Every started attempt is ended once. -/

/-- The payload of the item names the attempt. -/
def OrderedTraceEvidence.identifies (item : OrderedTraceEvidence) (identity : AttemptIdentity) : Prop :=
  attemptFields item.payload = .ok (identity.actionStep, identity.toolName, identity.attempt)

theorem attemptIdentity_identifies {st : TraceState} {item : OrderedTraceEvidence} {identity : AttemptIdentity}
    (found : attemptIdentity st.activeCall item.payload = some identity) : item.identifies identity := by
  obtain ⟨-, step, tool⟩ := attemptIdentity_some found
  exact attemptFields_ok step tool (attemptIdentity_number found)

/-- The started attempts are those that run and those that ended. -/
structure StartsCounted (seen : List OrderedTraceEvidence) (st : TraceState) : Prop where
  once : (st.started.map Prod.fst).Nodup
  counted : ∃ starts, List.Forall₂ OrderedTraceEvidence.identifies (seen.filter (·.eventType = .toolAttemptStarted)) starts ∧
    starts.Perm (st.started.map Prod.fst ++ st.attempts.map AttemptEvidence.identity)

theorem started_of_lookup {started : List (AttemptIdentity × Uuid)} {identity : AttemptIdentity} {span : Uuid}
    (live : started.lookup identity = some span) (once : (started.map Prod.fst).Nodup) :
    (started.map Prod.fst).Perm (identity :: (started.filter fun entry => entry.1 ≠ identity).map Prod.fst) := by
  induction started with
  | nil => cases live
  | cons entry rest ih =>
    obtain ⟨known, at_⟩ := entry
    rw [List.map_cons, List.nodup_cons] at once
    by_cases same : known = identity
    · subst same
      have kept : (rest.filter fun entry => entry.1 ≠ known) = rest := by
        rw [List.filter_eq_self]
        intro entry listed
        simp only [ne_eq, decide_not, Bool.not_eq_true', decide_eq_false_iff_not]
        intro same
        exact once.1 (List.mem_map.mpr ⟨entry, listed, same⟩)
      rw [List.filter_cons_of_neg (by simp), kept, List.map_cons]
    · rw [List.lookup_cons, beq_false_of_ne (Ne.symm same)] at live
      rw [List.filter_cons_of_pos (by simpa using same), List.map_cons, List.map_cons]
      exact ((ih live once.2).cons _).trans (.swap _ _ _)

variable {st next : TraceState} {item : OrderedTraceEvidence} {seen : List OrderedTraceEvidence}

theorem AttemptEvidence.make_identity {identity : AttemptIdentity} {status : AttemptStatus} {payload : Dict}
    {attempt : AttemptEvidence} (made : AttemptEvidence.make identity status payload = .ok attempt) :
    attempt.identity = identity := by
  unfold AttemptEvidence.make at made
  split at made
  · split at made
    · rename_i valid
      cases made
      have number : ((identity.attempt.toNat : Nat) : Int) = identity.attempt := Int.toNat_of_nonneg (by omega)
      simp only [AttemptEvidence.identity, number]
    · cases made
  · cases made

theorem startsCounted_quiet (counted : StartsCounted seen st) (quiet : item.eventType ≠ .toolAttemptStarted)
    (started : next.started = st.started) (attempts : next.attempts = st.attempts) : StartsCounted (seen ++ [item]) next := by
  obtain ⟨once, starts, pairs, same⟩ := counted
  refine ⟨started ▸ once, starts, ?_, started ▸ attempts ▸ same⟩
  rwa [List.filter_append, List.filter_cons_of_neg (by simpa using quiet), List.filter_nil, List.append_nil]

theorem startsCounted_ended (counted : StartsCounted seen st) (quiet : item.eventType ≠ .toolAttemptStarted)
    {identity : AttemptIdentity} {status : AttemptStatus} {attempt : AttemptEvidence} {pending : Option (AttemptIdentity × Json)}
    (live : st.started.lookup identity = some item.spanId)
    (made : AttemptEvidence.make identity status item.payload = .ok attempt) :
    StartsCounted (seen ++ [item]) (st.attemptOver identity attempt pending) := by
  obtain ⟨once, starts, pairs, same⟩ := counted
  have moved := started_of_lookup live once
  refine ⟨?_, starts, ?_, ?_⟩
  · exact (List.nodup_cons.mp (moved.nodup_iff.mp once)).2
  · rwa [List.filter_append, List.filter_cons_of_neg (by simpa using quiet), List.filter_nil, List.append_nil]
  · show starts.Perm ((st.started.filter fun entry => entry.1 ≠ identity).map Prod.fst ++
      (st.attempts ++ [attempt]).map AttemptEvidence.identity)
    rw [List.map_append, List.map_singleton, AttemptEvidence.make_identity made, ← List.append_assoc]
    refine (same.trans (moved.append_right _)).trans ?_
    exact (List.perm_append_singleton identity _).symm

theorem startsCounted_step (counted : StartsCounted seen st) (effect : TraceEffect sha256 mode frozen st item next) :
    StartsCounted (seen ++ [item]) next := by
  cases effect with
  | started identity event found fresh =>
    obtain ⟨once, starts, pairs, same⟩ := counted
    have unseen : identity ∉ st.started.map Prod.fst := by
      intro listed
      obtain ⟨entry, there, named⟩ := List.mem_map.mp listed
      have unlisted := List.lookup_eq_none_iff.mp fresh entry there
      simp [named] at unlisted
    refine ⟨List.nodup_cons.mpr ⟨unseen, once⟩, starts ++ [identity], ?_, ?_⟩
    · rw [List.filter_append, List.filter_cons_of_pos (by simpa using event)]
      exact List.rel_append pairs (.cons (attemptIdentity_identifies found) .nil)
    · exact (same.append_right [identity]).trans (List.perm_append_singleton identity _)
  | unsuccessful identity status attempt _ event found live made =>
    refine startsCounted_ended counted ?_ live made
    rw [event]
    cases status <;> decide
  | successful identity attempt _ _ event found live made =>
    exact startsCounted_ended counted (by simp [event]) live made
  | terminal status _ _ event =>
    refine startsCounted_quiet counted ?_ rfl rfl
    rw [event]
    cases status <;> decide
  | announced _ event | checkpointed _ _ event | faultInjected _ event | validationFailed _ event
    | preflightFailed _ event | waiting _ event | recorded _ _ event | denied _ _ _ event | running _ event =>
    exact startsCounted_quiet counted (by simp [event]) rfl rfl

theorem startsCounted_run (ran : Check.run (traceStep sha256 mode frozen) (.initial frozen) items = .ok final) :
    StartsCounted items final := by
  have initial : StartsCounted [] (.initial frozen) := ⟨.nil, [], .nil, .nil⟩
  simpa using Check.run_invariant (fun _ _ _ _ counted accepted =>
    startsCounted_step counted (traceStep_effect accepted).2) initial ran

theorem make_of_endsAs {item : OrderedTraceEvidence} {attempt : AttemptEvidence} (ends : item.endsAs attempt) :
    AttemptEvidence.make ⟨attempt.actionStep, attempt.toolName, attempt.attempt⟩ attempt.status item.payload = .ok attempt := by
  obtain ⟨-, code, transient⟩ := ends
  have text : optionalText (optionalStr attempt.errorCode) = some attempt.errorCode := by
    cases attempt.errorCode <;> rfl
  unfold AttemptEvidence.make
  simp only [code, text, transient, Int.toNat_natCast]
  exact dif_pos ⟨attempt.toolName_nonempty, attempt.attempt_pos⟩

/-- The runner sees the attempts that the loop collected, and finds that each started one ended. -/
theorem attempts_graded (read : orderedTraceEvidence rows = .ok items)
    (ran : Check.run (traceStep sha256 mode frozen) (.initial frozen) items = .ok final) (idle : final.started = []) :
    attemptEvidence rows = .ok final.attempts := by
  let fields (identity : AttemptIdentity) : Int × String × Int := (identity.actionStep, identity.toolName, identity.attempt)
  obtain ⟨-, starts, pairs, same⟩ := startsCounted_run ran
  rw [idle] at same
  have started : (rows.filter (·.eventType = .toolAttemptStarted)).mapM (fun row => row.dict >>= attemptFields) =
      .ok (starts.map fields) := by
    refine rows_read (· = .toolAttemptStarted) _ _ read ?_ ?_ pairs
    · intro type same
      rw [of_decide_eq_true same]
      rfl
    · intro row item identity _ same named
      rw [dict_of_payload same]
      exact named
  have ended : (rows.filter (·.eventType.endsAttempt)).mapM terminalAttempt =
      .ok (final.attempts.map fun attempt => (fields attempt.identity, attempt)) := by
    refine rows_read EventType.endsAttempt _ _ read ?_ ?_ (attempts_collected ran)
    · intro type ends
      cases type <;> first | rfl | cases ends
    · intro row item attempt type same ends
      obtain ⟨event, named⟩ := tells_fields ends.1
      have status : row.eventType.attemptStatus = attempt.status := by
        rw [type, event]
        cases attempt.status <;> rfl
      unfold terminalAttempt
      rw [dict_of_payload same]
      simp only [bind, Except.bind, named, status, Int.toNat_natCast, make_of_endsAs ends]
      exact if_pos (by omega)
  have balanced : (starts.map fields).isPerm ((final.attempts.map fun attempt => (fields attempt.identity, attempt)).map (·.1)) =
      true := by
    rw [List.isPerm_iff, List.map_map]
    have pairs := same.map fields
    rw [List.map_nil, List.nil_append, List.map_map] at pairs
    exact pairs
  unfold attemptEvidence
  rw [started, ended]
  simp only [bind, Except.bind]
  rw [if_pos balanced, List.map_map]
  exact congrArg Except.ok (List.map_id _)

end Evidence

section Projection
variable {sha256 : Json → String} {scenario : Scenario} {frozen : SuiteManifestEntry} {path digest : String}

theorem manifestEntry_ok (made : manifestEntry sha256 path digest scenario = .ok frozen) :
    logicalActionProjection sha256 scenario = .ok frozen.logicalActions ∧
      declaredFaultEvidence scenario = .ok frozen.declaredFaults ∧ frozen.relativePath = path ∧
      frozen.scenarioSha256 = digest ∧ frozen.scenarioId = scenario.id ∧ frozen.version = scenario.version ∧
      frozen.expectedToolSequence = scenario.expectedToolSequence ∧ frozen.expectedOutcome = scenario.expectedOutcome := by
  unfold manifestEntry at made
  obtain ⟨actions, projected, made⟩ := Check.bind_ok.mp made
  obtain ⟨faults, declared, made⟩ := Check.bind_ok.mp made
  cases made
  exact ⟨projected, declared, rfl, rfl, rfl, rfl, rfl, rfl⟩

theorem projectAction_ok {step : Nat} {agent : AgentAction} {action : LogicalActionProjection}
    (projected : projectAction sha256 step agent = .ok action) : action.actionStep = step ∧ action.kind = agent.kind ∧
      action.toolName = agent.toolName? ∧ expectedOutputDigest sha256 agent = .ok action.expectedOutputDigest := by
  unfold projectAction at projected
  obtain ⟨fingerprint, -, projected⟩ := Check.bind_ok.mp projected
  obtain ⟨digest, expected, projected⟩ := Check.bind_ok.mp projected
  cases projected
  exact ⟨rfl, rfl, rfl, expected⟩

/-- The frozen action of a step is the projection of the action at that place of the scenario. -/
theorem frozen_projected (made : manifestEntry sha256 path digest scenario = .ok frozen) {step : Int}
    {action : LogicalActionProjection} (found : frozen.frozenByStep step = some action) :
    ∃ agent, scenario.actions[action.actionStep]? = some agent ∧
      projectAction sha256 action.actionStep agent = .ok action := by
  have listed : action ∈ frozen.logicalActions := List.mem_reverse.mp (List.mem_of_find?_eq_some found)
  have pairs := mapM_ok.mp (manifestEntry_ok made).1
  obtain ⟨⟨agent, place⟩, there, projected⟩ := exists_related pairs.flip action listed
  have same : action.actionStep = place := (projectAction_ok projected).1
  exact ⟨agent, same ▸ List.mem_zipIdx_iff_getElem?.mp there, same ▸ projected⟩

theorem frozen_call (made : manifestEntry sha256 path digest scenario = .ok frozen) {step : Int}
    {action : LogicalActionProjection} (found : frozen.frozenByStep step = some action) (call : action.kind = .callTool) :
    ∃ agent, scenario.actions[action.actionStep]? = some (.callTool agent) ∧ action.toolName = some agent.toolName ∧
      expectedOutputDigest sha256 (.callTool agent) = .ok action.expectedOutputDigest := by
  obtain ⟨agent, there, projected⟩ := frozen_projected made found
  obtain ⟨-, kind, tool, expected⟩ := projectAction_ok projected
  rw [call] at kind
  cases agent with
  | callTool agent => exact ⟨agent, there, tool, expected⟩
  | finish => cases kind
  | fail => cases kind

end Projection

section Sequence
variable {sha256 : Json → String} {mode : Mode} {frozen : SuiteManifestEntry} {st next final : TraceState}
  {item : OrderedTraceEvidence} {seen items : List OrderedTraceEvidence} {rows : List EventRow}

theorem collectTools_append (byStep : List (Int × String)) (calls more : List (Option (Int × String))) :
    collectTools byStep (calls ++ more) = collectTools byStep calls >>= fun known => collectTools known more := by
  induction calls generalizing byStep with
  | nil => rfl
  | cons call rest ih =>
    rw [List.cons_append]
    cases call with
    | none =>
      rw [collectTools, collectTools]
      exact ih byStep
    | some call =>
      obtain ⟨step, toolName⟩ := call
      rw [collectTools, collectTools]
      cases byStep.lookup step with
      | none => exact ih _
      | some previous =>
        simp only
        split
        · exact ih byStep
        · rfl

/-- The tools of the announced calls, by their steps. -/
structure ToolsSequenced (frozen : SuiteManifestEntry) (seen : List OrderedTraceEvidence) (st : TraceState)
    (byStep : List (Int × String)) : Prop where
  counted : st.seenActions.map Prod.fst = List.range st.seenActions.length
  collected : ∃ calls, List.Forall₂ (fun item call => announcedCall item.payload = .ok call)
    (seen.filter (·.eventType = .policyAction)) calls ∧ collectTools [] calls = .ok byStep
  actual : byStep.map Prod.snd = st.actual
  rising : (byStep.map Prod.fst).Pairwise (· < ·)
  within : ∀ entry ∈ byStep, entry.1 < st.seenActions.length
  known : ∀ action tool, frozen.frozenByStep action.actionStep = some action → action.toolName = some tool →
    st.seenActions.lookup action.actionStep = some .callTool → byStep.lookup (action.actionStep : Int) = some tool

theorem unseen_iff {actions : List (Nat × ActionKind)} (counted : actions.map Prod.fst = List.range actions.length)
    {step : Nat} : actions.lookup step = none ↔ actions.length ≤ step := by
  rw [List.lookup_eq_none_iff]
  constructor
  · intro unlisted
    by_contra inside
    have listed : step ∈ actions.map Prod.fst := by
      rw [counted, List.mem_range]
      omega
    obtain ⟨entry, there, rfl⟩ := List.mem_map.mp listed
    simpa using unlisted entry there
  · intro beyond entry there
    have inside : entry.1 ∈ List.range actions.length := counted ▸ List.mem_map_of_mem there
    rw [List.mem_range] at inside
    simp only [bne_iff_ne, ne_eq]
    omega

theorem toolsSequenced_quiet {byStep : List (Int × String)} (sequenced : ToolsSequenced frozen seen st byStep)
    (quiet : item.eventType ≠ .policyAction) (actions : next.seenActions = st.seenActions) (actual : next.actual = st.actual) :
    ToolsSequenced frozen (seen ++ [item]) next byStep := by
  obtain ⟨calls, pairs, collected⟩ := sequenced.collected
  refine ⟨actions ▸ sequenced.counted, ⟨calls, ?_, collected⟩, actual ▸ sequenced.actual, sequenced.rising,
    actions ▸ sequenced.within, actions ▸ sequenced.known⟩
  rwa [List.filter_append, List.filter_cons_of_neg (by simpa using quiet), List.filter_nil, List.append_nil]

theorem announcedCall_other {payload : Dict} {kind : ActionKind} (type : payloadGet payload "type" = .str kind.value)
    (other : kind ≠ .callTool) : announcedCall payload = .ok none := by
  unfold announcedCall
  rw [type]
  cases kind with
  | callTool => exact absurd rfl other
  | finish => rfl
  | fail => rfl

theorem announcedCall_call {payload : Dict} {step : Int} {toolName : String}
    (type : payloadGet payload "type" = .str "call_tool") (stepped : payloadInt payload "action_step" = some step)
    (named : payloadGet payload "tool_name" = .str toolName) : announcedCall payload = .ok (some (step, toolName)) := by
  have tool : payload.lookup "tool_name" = some (.str toolName) := lookup_of_payloadGet named (by simp)
  unfold announcedCall
  rw [type, if_pos (Json.beq_str.mpr rfl)]
  simp only [lookup_of_payloadInt stepped, tool]

theorem seenActions_announced {action : LogicalActionProjection} {payload : Dict} (step : Nat) (kind : ActionKind) :
    (st.announced item action payload).seenActions.lookup step = some kind ↔
      st.seenActions.lookup step = some kind ∨
        st.seenActions.lookup step = none ∧ step = action.actionStep ∧ kind = action.kind := by
  simp only [TraceState.announced]
  cases seen : st.seenActions.lookup action.actionStep with
  | some known =>
    rw [if_neg (by simp)]
    constructor
    · exact .inl
    · rintro (listed | ⟨unlisted, rfl, -⟩)
      · exact listed
      · rw [seen] at unlisted
        cases unlisted
  | none =>
    rw [if_pos (by simp), List.lookup_append]
    cases st.seenActions.lookup step with
    | some other => simp
    | none =>
      by_cases same : step = action.actionStep
      · subst same
        simp [eq_comm]
      · simp [List.lookup_cons, beq_false_of_ne same, same]

theorem toolsSequenced_step {byStep : List (Int × String)}
    (named : ∀ action, frozen.frozenByStep action.actionStep = some action → action.kind = .callTool →
      ∃ tool, action.toolName = some tool)
    (sequenced : ToolsSequenced frozen seen st byStep) (effect : TraceEffect sha256 mode frozen st item next) :
    ∃ byStep, ToolsSequenced frozen (seen ++ [item]) next byStep := by
  cases effect with
  | announced action event stepped found type tool payload order admitted =>
    obtain ⟨kind, read, same⟩ := type
    have typed : payloadGet item.payload "type" = .str action.kind.value := by
      rw [payloadGet_of_lookup read]
      exact Json.beq_str.mp same
    have toolNamed := beq_optionalStr.mp tool
    obtain ⟨calls, pairs, collected⟩ := sequenced.collected
    have pairs' : ∀ {call}, announcedCall item.payload = .ok call →
        List.Forall₂ (fun item call => announcedCall item.payload = .ok call)
          ((seen ++ [item]).filter (·.eventType = .policyAction)) (calls ++ [call]) := by
      intro call announced
      rw [List.filter_append, List.filter_cons_of_pos (by simpa using event)]
      exact List.rel_append pairs (.cons announced .nil)
    have counted : (st.announced item action (item.payload.erase "action_step")).seenActions.map Prod.fst =
        List.range (st.announced item action (item.payload.erase "action_step")).seenActions.length ∧
        st.seenActions.length ≤ (st.announced item action (item.payload.erase "action_step")).seenActions.length := by
      simp only [TraceState.announced]
      cases unseen : st.seenActions.lookup action.actionStep with
      | some known =>
        rw [if_neg (by simp)]
        exact ⟨sequenced.counted, le_rfl⟩
      | none =>
        simp only [mayAnnounce, unseen, decide_eq_true_eq] at admitted
        rw [if_pos (by simp), List.map_append, sequenced.counted, List.length_append]
        exact ⟨by simp [List.range_succ, admitted], by simp⟩
    have wider : ∀ entry ∈ byStep, entry.1 <
        (st.announced item action (item.payload.erase "action_step")).seenActions.length := by
      intro entry listed
      have inside := sequenced.within entry listed
      have more := counted.2
      omega
    by_cases call : action.kind = .callTool
    · obtain ⟨toolName, given⟩ := named action found call
      have announced : announcedCall item.payload = .ok (some ((action.actionStep : Int), toolName)) := by
        rw [given] at toolNamed
        rw [call] at typed
        exact announcedCall_call typed stepped toolNamed
      cases unseen : st.seenActions.lookup action.actionStep with
      | some known =>
        -- announced again: the tool of the step is known, and the same
        simp only [mayAnnounce, unseen, decide_eq_true_eq] at admitted
        have before : byStep.lookup (action.actionStep : Int) = some toolName :=
          sequenced.known action toolName found given (by rw [unseen, admitted, call])
        refine ⟨byStep, counted.1, ⟨_, pairs' announced, ?_⟩, ?_, sequenced.rising, wider, ?_⟩
        · rw [collectTools_append, collected]
          simp only [bind, Except.bind, collectTools, before, if_true]
        · simp only [TraceState.announced, unseen, Option.isNone_some, Bool.false_eq_true, false_and, if_false]
          exact sequenced.actual
        · intro other tool there tooled listed
          rcases (seenActions_announced _ _).mp listed with old | ⟨new, same, -⟩
          · exact sequenced.known other tool there tooled old
          · rw [same, unseen] at new
            cases new
      | none =>
        simp only [mayAnnounce, unseen, decide_eq_true_eq] at admitted
        have fresh : byStep.lookup (action.actionStep : Int) = none := by
          rw [List.lookup_eq_none_iff]
          intro entry listed
          have inside := sequenced.within entry listed
          simp only [bne_iff_ne, ne_eq]
          omega
        refine ⟨byStep ++ [((action.actionStep : Int), toolName)], counted.1, ⟨_, pairs' announced, ?_⟩, ?_, ?_, ?_, ?_⟩
        · rw [collectTools_append, collected]
          simp only [bind, Except.bind, collectTools, fresh]
        · simp only [TraceState.announced, unseen, Option.isNone_none, true_and, if_pos call, given, Option.toList_some,
            List.map_append, sequenced.actual, List.map_cons, List.map_nil]
        · rw [List.map_append, List.pairwise_append]
          refine ⟨sequenced.rising, List.pairwise_singleton _ _, ?_⟩
          intro earlier listed later last
          obtain ⟨entry, there, rfl⟩ := List.mem_map.mp listed
          have inside := sequenced.within entry there
          rw [List.map_cons, List.map_nil, List.mem_singleton] at last
          omega
        · rw [List.forall_mem_append, List.forall_mem_singleton]
          refine ⟨wider, ?_⟩
          have longer : (st.announced item action (item.payload.erase "action_step")).seenActions.length =
              st.seenActions.length + 1 := by
            simp [TraceState.announced, unseen]
          rw [longer]
          omega
        · intro other tool there tooled listed
          rw [List.lookup_append]
          rcases (seenActions_announced _ _).mp listed with old | ⟨-, same, -⟩
          · rw [sequenced.known other tool there tooled old]
            rfl
          · rw [same] at there ⊢
            cases found.symm.trans there
            cases given.symm.trans tooled
            simp [fresh]
    · have announced : announcedCall item.payload = .ok none := announcedCall_other typed call
      refine ⟨byStep, counted.1, ⟨_, pairs' announced, ?_⟩, ?_, sequenced.rising, wider, ?_⟩
      · rw [collectTools_append, collected]
        rfl
      · simp only [TraceState.announced, if_neg (fun both : _ ∧ _ => call both.2)]
        exact sequenced.actual
      · intro other tool there tooled listed
        rcases (seenActions_announced _ _).mp listed with old | ⟨-, -, kind⟩
        · exact sequenced.known other tool there tooled old
        · exact absurd kind.symm call
  | unsuccessful identity status attempt _ event =>
    refine ⟨byStep, toolsSequenced_quiet sequenced ?_ rfl rfl⟩
    rw [event]
    cases status <;> decide
  | terminal status _ _ event =>
    refine ⟨byStep, toolsSequenced_quiet sequenced ?_ rfl rfl⟩
    rw [event]
    cases status <;> decide
  | started _ event | successful _ _ _ _ event | checkpointed _ _ event | faultInjected _ event | validationFailed _ event
    | preflightFailed _ event | waiting _ event | recorded _ _ event | denied _ _ _ event | running _ event =>
    exact ⟨byStep, toolsSequenced_quiet sequenced (by simp [event]) rfl rfl⟩

/-- The runner sees the tools that the loop collected. -/
theorem sequence_graded
    (named : ∀ action, frozen.frozenByStep action.actionStep = some action → action.kind = .callTool →
      ∃ tool, action.toolName = some tool)
    (read : orderedTraceEvidence rows = .ok items)
    (ran : Check.run (traceStep sha256 mode frozen) (.initial frozen) items = .ok final) :
    logicalToolSequence rows = .ok final.actual := by
  have keeps : ∀ seen st item next, (∃ byStep, ToolsSequenced frozen seen st byStep) →
      traceStep sha256 mode frozen st item = .ok next → ∃ byStep, ToolsSequenced frozen (seen ++ [item]) next byStep :=
    fun _ _ _ _ ⟨_, sequenced⟩ accepted => toolsSequenced_step named sequenced (traceStep_effect accepted).2
  have initial : ∃ byStep, ToolsSequenced frozen [] (.initial frozen) byStep :=
    ⟨[], rfl, ⟨[], .nil, rfl⟩, rfl, .nil, by simp, fun _ _ _ _ listed => by cases listed⟩
  obtain ⟨byStep, sequenced⟩ : ∃ byStep, ToolsSequenced frozen items final byStep := by
    simpa using Check.run_invariant keeps initial ran
  obtain ⟨calls, pairs, collected⟩ := sequenced.collected
  have announced : (rows.filter (·.eventType = .policyAction)).mapM (fun row => row.dict >>= announcedCall) =
      .ok (calls.map id) := by
    refine rows_read (· = .policyAction) _ _ read ?_ ?_ pairs
    · intro type same
      rw [of_decide_eq_true same]
      rfl
    · intro row item call _ same told
      rw [dict_of_payload same]
      exact told
  have sorted : byStep.insertionSort (fun a b => a.1 ≤ b.1) = byStep := by
    refine List.Pairwise.insertionSort_eq ?_
    exact (List.pairwise_map.mp sequenced.rising).imp fun less => le_of_lt less
  unfold logicalToolSequence
  rw [announced, List.map_id]
  simp only [bind, Except.bind, collected, sorted]
  exact congrArg Except.ok sequenced.actual

end Sequence

section Outputs
variable {sha256 : Json → String} {mode : Mode} {frozen : SuiteManifestEntry} {st next final : TraceState}
  {item : OrderedTraceEvidence} {seen items : List OrderedTraceEvidence}

/-- Outputs are accepted in the order of their steps, and after the only success of their call. -/
structure OutputsRise (st : TraceState) : Prop where
  rising : (st.acceptedOutputs.map (·.actionStep)).Pairwise (· < ·)
  passed : ∀ output ∈ st.acceptedOutputs, (output.actionStep : Int) ≤ st.lastPolicyStep ∧
    ∃ attempt, st.lastAttemptByAction.lookup (output.actionStep, output.toolName) = some attempt ∧ attempt.status = .succeeded
  pending : ∀ identity output, st.pendingSuccess = some (identity, output) →
    (∀ accepted ∈ st.acceptedOutputs, accepted.actionStep < identity.actionStep) ∧
      (identity.actionStep : Int) ≤ st.lastPolicyStep ∧
      ∃ attempt, st.lastAttemptByAction.lookup identity.action = some attempt ∧ attempt.status = .succeeded

/-- The call at the cursor, where an output of its step was accepted, is over. -/
theorem call_over (cursor : Cursor frozen seen st) (acceptance : Acceptance sha256 frozen seen st) (rise : OutputsRise st)
    {identity : AttemptIdentity} {output : AcceptedOutputEvidence} (listed : output ∈ st.acceptedOutputs)
    (active : st.activeCall = some identity.action) (same : output.actionStep = identity.actionStep) :
    output.toolName = identity.toolName ∧ mayStart st identity = false := by
  obtain ⟨action, found, kind, tool, -⟩ := acceptance.expected output listed
  obtain ⟨-, call, member, calls⟩ := cursor.active _ _ active
  obtain ⟨known, found', -, shows⟩ := cursor.known call member _ calls.1
  rw [same] at found
  cases found.symm.trans found'
  have named : output.toolName = identity.toolName :=
    Option.some.inj (tool.symm.trans ((shows_call shows calls.1).mp calls).2)
  obtain ⟨-, attempt, last, succeeded⟩ := rise.passed output listed
  rw [same, named] at last
  exact ⟨named, mayStart_over last succeeded⟩

theorem outputsRise_kept (rise : OutputsRise st) (outputs : next.acceptedOutputs = st.acceptedOutputs)
    (policy : st.lastPolicyStep ≤ next.lastPolicyStep) (last : next.lastAttemptByAction = st.lastAttemptByAction)
    (pending : next.pendingSuccess = st.pendingSuccess) : OutputsRise next := by
  refine ⟨outputs ▸ rise.rising, ?_, ?_⟩
  · intro output listed
    rw [outputs] at listed
    obtain ⟨before, succeeded⟩ := rise.passed output listed
    exact ⟨before.trans policy, last ▸ succeeded⟩
  · intro identity output waiting
    rw [pending] at waiting
    obtain ⟨later, before, succeeded⟩ := rise.pending identity output waiting
    exact ⟨outputs ▸ later, before.trans policy, last ▸ succeeded⟩

theorem outputsRise_ended (cursor : Cursor frozen seen st) (acceptance : Acceptance sha256 frozen seen st)
    (attempts : Attempts seen st) (rise : OutputsRise st) {identity : AttemptIdentity} {attempt : AttemptEvidence}
    {pending : Option (AttemptIdentity × Json)} (found : attemptIdentity st.activeCall item.payload = some identity)
    (live : st.started.lookup identity = some item.spanId)
    (awaits : ∀ other output, pending = some (other, output) → other = identity ∧ attempt.status = .succeeded) :
    OutputsRise (st.attemptOver identity attempt pending) := by
  obtain ⟨active, -⟩ := attemptIdentity_some found
  have admitted := attempts.live identity (by simp [live])
  have others : ∀ output ∈ st.acceptedOutputs, output.actionStep ≠ identity.actionStep := by
    intro output listed same
    have stopped := (call_over cursor acceptance rise listed active same).2
    rw [admitted] at stopped
    cases stopped
  have here : st.lastPolicyStep = identity.actionStep := (cursor.active _ _ active).1
  refine ⟨rise.rising, ?_, ?_⟩
  · intro output listed
    obtain ⟨before, succeeded⟩ := rise.passed output listed
    refine ⟨before, ?_⟩
    have unequal : (output.actionStep, output.toolName) ≠ identity.action := fun same =>
      others output listed (congrArg Prod.fst same)
    rwa [TraceState.attemptOver, lookup_putEntry_of_ne unequal]
  · intro other output waiting
    obtain ⟨rfl, succeeded⟩ := awaits other output waiting
    refine ⟨fun accepted listed => ?_, le_of_eq here.symm, attempt, lookup_putEntry_self, succeeded⟩
    have before := (rise.passed accepted listed).1
    have unequal := others accepted listed
    omega

theorem outputsRise_step (cursor : Cursor frozen seen st) (acceptance : Acceptance sha256 frozen seen st)
    (attempts : Attempts seen st) (rise : OutputsRise st) (accepted : traceStep sha256 mode frozen st item = .ok next) :
    OutputsRise next := by
  obtain ⟨⟨expected, -⟩, effect⟩ := traceStep_effect accepted
  have idle : item.eventType ≠ .runCheckpointed → st.pendingSuccess = none := fun other => by
    by_contra pending
    exact other (expected (Option.isSome_iff_ne_none.mpr pending))
  cases effect with
  | announced action event _ _ _ _ _ order =>
    exact outputsRise_kept rise rfl (le_max_left _ _) rfl rfl
  | unsuccessful identity status attempt failed event found live made =>
    have other : item.eventType ≠ .runCheckpointed := by
      rw [event]
      cases status <;> decide
    refine outputsRise_ended cursor acceptance attempts rise found live fun _ _ waiting => ?_
    rw [idle other] at waiting
    cases waiting
  | successful identity attempt output action event found live made =>
    refine outputsRise_ended cursor acceptance attempts rise found live fun _ _ waiting => ?_
    cases waiting
    exact ⟨rfl, AttemptEvidence.make_status made⟩
  | checkpointed identity output event pending =>
    obtain ⟨later, before, succeeded⟩ := rise.pending identity output pending
    refine ⟨?_, ?_, fun _ _ waiting => by cases waiting⟩
    · simp only [TraceState.checkpoint, List.map_append, List.map_cons, List.map_nil]
      rw [List.pairwise_append]
      refine ⟨rise.rising, List.pairwise_singleton _ _, fun first listed last new => ?_⟩
      obtain ⟨accepted, there, rfl⟩ := List.mem_map.mp listed
      rw [List.mem_singleton.mp new]
      exact later accepted there
    · simp only [TraceState.checkpoint]
      rw [List.forall_mem_append, List.forall_mem_singleton]
      exact ⟨rise.passed, before, succeeded⟩
  | started | faultInjected | validationFailed | preflightFailed | waiting | recorded | denied | running | terminal =>
    exact outputsRise_kept rise rfl le_rfl rfl rfl

theorem outputsRise_run (known : builtIn frozen = true)
    (ran : Check.run (traceStep sha256 mode frozen) (.initial frozen) items = .ok final) : OutputsRise final := by
  let all (seen : List OrderedTraceEvidence) (st : TraceState) : Prop :=
    Cursor frozen seen st ∧ Acceptance sha256 frozen seen st ∧ Attempts seen st ∧ OutputsRise st
  have keeps : ∀ seen st item next, all seen st → traceStep sha256 mode frozen st item = .ok next →
      all (seen ++ [item]) next := by
    rintro seen st item next ⟨cursor, acceptance, attempts, rise⟩ accepted
    exact ⟨cursor_step cursor accepted, acceptance_step cursor acceptance accepted,
      attempts_step attempts (attempt_effect (traceStep_effect accepted).2),
      outputsRise_step cursor acceptance attempts rise accepted⟩
  have rise : OutputsRise (.initial frozen) := by
    refine ⟨.nil, fun _ listed => ?_, fun _ _ waiting => ?_⟩
    · cases listed
    · cases waiting
  have initial : all [] (.initial frozen) := ⟨cursor_initial, acceptance_initial known, attempts_initial, rise⟩
  simpa using (Check.run_invariant keeps initial ran).2.2.2

end Outputs

end ReliabilityLab
