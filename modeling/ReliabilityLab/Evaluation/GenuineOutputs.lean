import ReliabilityLab.Evaluation.AttemptHistory
import ReliabilityLab.Tools.IncidentOutputs

namespace ReliabilityLab

/-- `context["tool_results"]` after these outputs, which an empty dict was extended with one by one. -/
def toolResults (outputs : List AcceptedOutputEvidence) : Dict :=
  outputs.foldl (fun results accepted => results.set (toString accepted.actionStep) accepted.output) []

/-- The frozen initial context, extended with these outputs. -/
def SuiteManifestEntry.contextAfter (frozen : SuiteManifestEntry) (outputs : List AcceptedOutputEvidence) : Dict :=
  frozen.initialContext.set "tool_results" (.obj (toolResults outputs))

/-- The outputs that a trace accepts, in its order: each was shown by a successful attempt, and the checkpoint
right after it carries the digest of the context with this output and all those before it. No other event is
a success or a checkpoint. -/
inductive OutputsAccepted (sha256 : Json → String) (frozen : SuiteManifestEntry) :
    List OrderedTraceEvidence → List AcceptedOutputEvidence → Prop
  | none : OutputsAccepted sha256 frozen [] []
  | other {events outputs item} : OutputsAccepted sha256 frozen events outputs →
      item.eventType ≠ .toolAttemptSucceeded → item.eventType ≠ .runCheckpointed →
      OutputsAccepted sha256 frozen (events ++ [item]) outputs
  | accepted {events outputs success checkpoint accepted} : OutputsAccepted sha256 frozen events outputs →
      success.succeeds accepted.actionStep accepted.toolName → success.payload.lookup "output" = some accepted.output →
      checkpoint.checkpoints accepted.actionStep →
      payloadGet checkpoint.payload "context_digest" =
        .str (sha256 (Json.obj (frozen.contextAfter (outputs ++ [accepted]))).canonical) →
      OutputsAccepted sha256 frozen (events ++ [success, checkpoint]) (outputs ++ [accepted])

/-- The manifest has a call of the tool at this step, and the output has the digest that it expects. -/
def SuiteManifestEntry.expectsOutput (sha256 : Json → String) (frozen : SuiteManifestEntry)
    (accepted : AcceptedOutputEvidence) : Prop :=
  ∃ action, frozen.frozenByStep accepted.actionStep = some action ∧ action.kind = .callTool ∧
    action.toolName = some accepted.toolName ∧ action.expectedOutputDigest = some (sha256 accepted.output.canonical)

section Runs
variable {sha256 : Json → String} {mode : Mode} {frozen : SuiteManifestEntry} {st next final : TraceState}
  {item : OrderedTraceEvidence} {seen events : List OrderedTraceEvidence}

theorem Dict.set_set (d : Dict) (key : String) (value other : Json) : (d.set key value).set key other = d.set key other := by
  induction d with
  | nil => simp [Dict.set]
  | cons entry rest ih =>
    obtain ⟨name, known⟩ := entry
    simp only [Dict.set]
    split
    · simp [Dict.set]
    · rename_i different
      rw [Dict.set, if_neg different, ih]

theorem checkpointed_digest (accepted : checkpointed sha256 st item = .ok next) :
    payloadGet item.payload "context_digest" = .str (sha256 (Json.obj next.reconstructedContext).canonical) := by
  simp only [checkpointed, Check.bind_ok, Check.some?_ok, Check.require_ok, Check.lift_ok, exists_const] at accepted
  obtain ⟨⟨identity, output⟩, -, -, shown, there, -, -, -, -, -, -, digest, computed, same, done⟩ := accepted
  cases done
  rw [payloadGet_of_lookup there, Json.beq_str.mp same, canonicalJsonDigest_eq computed]

/-- What an event does to the accepted outputs: its checkpoint accepts the pending one, a success shows the next
one, or the event is about something else. -/
inductive OutputEffect (sha256 : Json → String) (frozen : SuiteManifestEntry) (st : TraceState)
    (item : OrderedTraceEvidence) (next : TraceState) : Prop
  | accepted (identity : AttemptIdentity) (output : Json) : st.pendingSuccess = some (identity, output) →
      item.checkpoints identity.actionStep → next = st.checkpoint identity output →
      payloadGet item.payload "context_digest" = .str (sha256 (Json.obj next.reconstructedContext).canonical) →
      OutputEffect sha256 frozen st item next
  | shown (identity : AttemptIdentity) (output : Json) (action : LogicalActionProjection) :
      st.pendingSuccess = none → next.pendingSuccess = some (identity, output) → st.activeCall = some identity.action →
      item.succeeds identity.actionStep identity.toolName → item.payload.lookup "output" = some output →
      frozen.frozenByStep identity.actionStep = some action →
      action.expectedOutputDigest = some (sha256 output.canonical) → next.acceptedOutputs = st.acceptedOutputs →
      next.contextOutputs = st.contextOutputs → next.reconstructedContext = st.reconstructedContext →
      OutputEffect sha256 frozen st item next
  | elsewhere : item.eventType ≠ .toolAttemptSucceeded → item.eventType ≠ .runCheckpointed → st.pendingSuccess = none →
      next.pendingSuccess = none → next.acceptedOutputs = st.acceptedOutputs →
      next.contextOutputs = st.contextOutputs → next.reconstructedContext = st.reconstructedContext →
      OutputEffect sha256 frozen st item next

theorem output_effect (accepted : traceStep sha256 mode frozen st item = .ok next) :
    OutputEffect sha256 frozen st item next := by
  obtain ⟨-, dispatched⟩ := Check.require_bind_ok.mp accepted
  obtain ⟨⟨expected, -⟩, effect⟩ := traceStep_effect accepted
  have idle : item.eventType ≠ .runCheckpointed → st.pendingSuccess = none := fun other => by
    by_contra pending
    exact other (expected (Option.isSome_iff_ne_none.mpr pending))
  cases effect with
  | checkpointed identity output event pending step =>
    rw [event] at dispatched
    exact .accepted identity output pending ⟨event, step⟩ rfl (checkpointed_digest dispatched)
  | successful identity attempt output action event found live made there frozenAction digest =>
    obtain ⟨active, step, tool⟩ := attemptIdentity_some found
    obtain ⟨digest, computed, known⟩ := digest
    exact .shown identity output action (idle (by simp [event])) rfl active ⟨event, step, tool⟩ there frozenAction
      (by rw [known, canonicalJsonDigest_eq computed]) rfl rfl rfl
  | unsuccessful identity status attempt failed event =>
    have other : item.eventType ≠ .toolAttemptSucceeded ∧ item.eventType ≠ .runCheckpointed := by
      rw [event]
      cases status <;> first | exact absurd rfl failed | decide
    exact .elsewhere other.1 other.2 (idle other.2) (idle other.2) rfl rfl rfl
  | terminal status _ _ event =>
    have other : item.eventType ≠ .toolAttemptSucceeded ∧ item.eventType ≠ .runCheckpointed := by
      rw [event]
      cases status <;> decide
    exact .elsewhere other.1 other.2 (idle other.2) (idle other.2) rfl rfl rfl
  | announced _ event | started _ event | faultInjected _ event | validationFailed _ event | preflightFailed _ event
    | waiting _ event | recorded _ _ event | denied _ _ _ event | running _ event =>
    have other : item.eventType ≠ .runCheckpointed := by simp [event]
    exact .elsewhere (by simp [event]) other (idle other) (idle other) rfl rfl rfl

/-- The variables of the loop about accepted outputs, after the events read so far. -/
structure Acceptance (sha256 : Json → String) (frozen : SuiteManifestEntry) (seen : List OrderedTraceEvidence)
    (st : TraceState) : Prop where
  context : ∀ value, st.reconstructedContext.set "tool_results" value = frozen.initialContext.set "tool_results" value
  results : st.contextOutputs = toolResults st.acceptedOutputs
  expected : ∀ accepted ∈ st.acceptedOutputs, frozen.expectsOutput sha256 accepted
  settled : st.pendingSuccess = none → OutputsAccepted sha256 frozen seen st.acceptedOutputs
  pending : ∀ identity output, st.pendingSuccess = some (identity, output) →
    frozen.expectsOutput sha256 ⟨identity.actionStep, identity.toolName, output⟩ ∧
      ∃ before success, seen = before ++ [success] ∧ OutputsAccepted sha256 frozen before st.acceptedOutputs ∧
        success.succeeds identity.actionStep identity.toolName ∧ success.payload.lookup "output" = some output

/-- The built-in contexts have no results of tools yet. -/
theorem builtIn_fresh (known : builtIn frozen = true) :
    ((payloadGet frozen.initialContext "tool_results").obj?).getD [] = [] := by
  unfold builtIn at known
  split at known
  · rename_i actions context _ frozenContext
    simp only [Bool.and_eq_true] at known
    have only : ∀ item ∈ frozen.initialContext, ∃ other, context.lookup item.1 = some other := by
      have same : Json.pyEq (.obj frozen.initialContext) (.obj context) = true := known.2
      simp only [Json.pyEq, Bool.and_eq_true] at same
      exact fun item inside => (Json.pyEqItems_lookup same.2 item inside).imp fun _ found => found.1
    have absent : frozen.initialContext.lookup "tool_results" = none := by
      rw [List.lookup_eq_none_iff]
      intro item inside
      obtain ⟨other, found⟩ := only item inside
      obtain ⟨incident, -, rfl⟩ := Option.map_eq_some_iff.mp frozenContext
      have named : item.1 = "incident" := by
        rw [List.lookup_cons] at found
        split at found
        · rename_i same
          exact eq_of_beq same
        · cases found
      rw [named]
      decide
    rw [payloadGet, absent]
    rfl
  · cases known

theorem acceptance_initial (known : builtIn frozen = true) : Acceptance sha256 frozen [] (.initial frozen) where
  context _ := rfl
  results := builtIn_fresh known
  expected := by simp [TraceState.initial]
  settled _ := .none
  pending _ _ waiting := by cases waiting

theorem toolResults_append (outputs : List AcceptedOutputEvidence) (accepted : AcceptedOutputEvidence) :
    toolResults (outputs ++ [accepted]) = (toolResults outputs).set (toString accepted.actionStep) accepted.output := by
  rw [toolResults, List.foldl_append]
  rfl

theorem acceptance_step (cursor : Cursor frozen seen st) (acceptance : Acceptance sha256 frozen seen st)
    (accepted : traceStep sha256 mode frozen st item = .ok next) : Acceptance sha256 frozen (seen ++ [item]) next := by
  cases output_effect accepted with
  | accepted identity output pending checkpoint done digest =>
    subst done
    obtain ⟨expected, before, success, rfl, outputs, succeeds, there⟩ := acceptance.pending identity output pending
    have results : (st.checkpoint identity output).contextOutputs =
        toolResults (st.acceptedOutputs ++ [⟨identity.actionStep, identity.toolName, output⟩]) := by
      rw [toolResults_append, ← acceptance.results]
      rfl
    have context : (st.checkpoint identity output).reconstructedContext =
        frozen.contextAfter (st.acceptedOutputs ++ [⟨identity.actionStep, identity.toolName, output⟩]) := by
      rw [SuiteManifestEntry.contextAfter, ← results, ← acceptance.context]
      rfl
    refine ⟨fun value => ?_, results, fun other member => ?_, fun _ => ?_, fun _ _ waiting => by cases waiting⟩
    · rw [context, SuiteManifestEntry.contextAfter, Dict.set_set]
    · rcases List.mem_append.mp member with old | new
      · exact acceptance.expected other old
      · rwa [List.mem_singleton.mp new]
    · rw [List.append_assoc]
      exact .accepted outputs succeeds there checkpoint (by rw [digest, context])
  | shown identity output action idle pending active succeeds there frozenAction digest outputs results context =>
    refine ⟨by simpa only [context] using acceptance.context, by rw [results, outputs, acceptance.results],
      by simpa only [outputs] using acceptance.expected, fun settled => ?_, fun other shown waiting => ?_⟩
    · rw [pending] at settled
      cases settled
    · rw [pending] at waiting
      cases waiting
      -- the active call was announced, and its step has one frozen action
      obtain ⟨-, call, member, calls⟩ := cursor.active _ _ active
      obtain ⟨known, found, -, shows⟩ := cursor.known call member _ calls.1
      rw [frozenAction] at found
      cases found
      obtain ⟨kind, tool⟩ := (shows_call shows calls.1).mp calls
      refine ⟨⟨action, frozenAction, kind, tool, digest⟩, seen, item, rfl, ?_, succeeds, there⟩
      rw [outputs]
      exact acceptance.settled idle
  | elsewhere success checkpoint idle pending outputs results context =>
    refine ⟨by simpa only [context] using acceptance.context, by rw [results, outputs, acceptance.results],
      by simpa only [outputs] using acceptance.expected, fun _ => ?_, fun _ _ waiting => ?_⟩
    · rw [outputs]
      exact .other (acceptance.settled idle) success checkpoint
    · rw [pending] at waiting
      cases waiting

theorem acceptance_run (known : builtIn frozen = true)
    (ran : Check.run (traceStep sha256 mode frozen) (.initial frozen) events = .ok final) :
    Acceptance sha256 frozen events final := by
  let both (seen : List OrderedTraceEvidence) (st : TraceState) : Prop :=
    Cursor frozen seen st ∧ Acceptance sha256 frozen seen st
  have keeps : ∀ seen st item next, both seen st → traceStep sha256 mode frozen st item = .ok next →
      both (seen ++ [item]) next :=
    fun _ _ _ _ state accepted => ⟨cursor_step state.1 accepted, acceptance_step state.1 state.2 accepted⟩
  have initial : both [] (.initial frozen) := ⟨cursor_initial, acceptance_initial known⟩
  simpa using (Check.run_invariant keeps initial ran).2

theorem OutputsAccepted.shown {outputs : List AcceptedOutputEvidence} (all : OutputsAccepted sha256 frozen events outputs) :
    ∀ accepted ∈ outputs, ∃ success ∈ events, success.succeeds accepted.actionStep accepted.toolName ∧
      success.payload.lookup "output" = some accepted.output := by
  induction all with
  | none => simp
  | other _ _ _ ih =>
    intro accepted member
    obtain ⟨success, there, shown⟩ := ih accepted member
    exact ⟨success, List.mem_append_left _ there, shown⟩
  | @accepted events outputs success checkpoint latest _ succeeds shown _ _ ih =>
    intro accepted member
    rcases List.mem_append.mp member with old | new
    · obtain ⟨earlier, there, known⟩ := ih accepted old
      exact ⟨earlier, List.mem_append_left _ there, known⟩
    · rw [List.mem_singleton.mp new]
      exact ⟨success, by simp, succeeds, shown⟩

end Runs

/-- The output is what the built-in call returns that the manifest numbers with its step. -/
def SuiteManifestEntry.builtInOutput (frozen : SuiteManifestEntry) (accepted : AcceptedOutputEvidence) : Prop :=
  ∃ (place : Nat) (action : LogicalActionProjection) (actions : List Dict) (payload arguments : Dict) (expected : Json),
    frozen.logicalActions[place]? = some action ∧ frozen.frozenByStep accepted.actionStep = some action ∧
      deterministicIncidentActions frozen.scenarioId = some actions ∧ actions[place]? = some payload ∧
      payloadGet payload "type" = .str "call_tool" ∧ payloadGet payload "tool_name" = .str accepted.toolName ∧
      payloadGet payload "arguments" = .obj arguments ∧
      deterministicIncidentOutput accepted.toolName arguments = some expected ∧ (accepted.output == expected) = true

/-- The output passes the output model of its tool. -/
def AcceptedOutputEvidence.valid (accepted : AcceptedOutputEvidence) : Prop :=
  ∃ definition output, incidentRegistry.get accepted.toolName = some definition ∧
    definition.outputModel accepted.output = .accepted output

/-- The accepted outputs of the case are those that its trace accepts, and each is the frozen one of its step. -/
structure CaseResult.GenuineOutputs (sha256 : Json → String) (case : CaseResult) (frozen : SuiteManifestEntry) : Prop where
  derived : ∃ outputs, OutputsAccepted sha256 frozen case.traceEvidence outputs ∧ (case.acceptedOutputs == outputs) = true
  frozen : ∀ accepted ∈ case.acceptedOutputs, frozen.builtInOutput accepted
  valid : ∀ accepted ∈ case.acceptedOutputs, accepted.valid
  counted : case.invalidOutputAcceptedCount = 0

/-- Some successful attempt of the report shows this output. -/
def EvaluationReport.shows (report : EvaluationReport) (output : Json) : Prop :=
  ∃ case ∈ report.cases, ∃ item ∈ case.traceEvidence,
    item.eventType = .toolAttemptSucceeded ∧ item.payload.lookup "output" = some output

section Payloads
variable {items others arguments : Dict} {key text : String}

theorem lookup_of_payloadGet {value : Json} (read : payloadGet items key = value) (real : value ≠ .null) :
    items.lookup key = some value := by
  cases found : List.lookup key items with
  | none =>
    rw [payloadGet, found] at read
    exact absurd read.symm real
  | some other =>
    rw [payloadGet, found] at read
    rw [← read]
    rfl

theorem payloadGet_same_obj {value : Dict} (same : (Json.obj items == .obj others) = true)
    (read : payloadGet items key = .obj value) :
    ∃ other, payloadGet others key = .obj other ∧ (Json.obj value == .obj other) = true := by
  obtain ⟨other, found, equal⟩ := Json.pyEq_lookup same (lookup_of_payloadGet read (by simp))
  cases other with
  | obj other => exact ⟨other, payloadGet_of_lookup found, equal⟩
  | _ => cases equal

theorem payloadGet_same_str (same : (Json.obj items == .obj others) = true) (read : payloadGet items key = .str text) :
    payloadGet others key = .str text := by
  obtain ⟨other, found, equal⟩ := Json.pyEq_lookup same (lookup_of_payloadGet read (by simp))
  rw [payloadGet_of_lookup found, Json.pyEq_str.mp equal]

/-- A call with equal arguments has the same expected output. -/
theorem deterministicIncidentOutput_congr {toolName : String} {expected : Json}
    (same : (Json.obj arguments == .obj others) = true)
    (known : deterministicIncidentOutput toolName arguments = some expected) :
    deterministicIncidentOutput toolName others = some expected := by
  have equal : others = arguments := by
    unfold deterministicIncidentOutput at known
    split_ifs at known with health logs deployment rollback <;> simp only [Bool.and_eq_true] at *
    · obtain rfl := Json.pyEq_nil.mp health.2
      exact Json.nil_pyEq.mp same
    · obtain rfl := Json.pyEq_nil.mp logs.2
      exact Json.nil_pyEq.mp same
    · obtain rfl := Json.pyEq_nil.mp deployment.2
      exact Json.nil_pyEq.mp same
    · obtain rfl := Json.pyEq_single.mp rollback.2
      exact Json.single_pyEq.mp same
  rwa [equal]

end Payloads

section Report
variable {sha256 : Json → String} {case : CaseResult} {frozen : SuiteManifestEntry} {claims : TraceClaims} {final : TraceState}
  {accepted : AcceptedOutputEvidence}

theorem builtIn_place (known : builtIn frozen = true) {place : Nat} (inside : place < frozen.logicalActions.length) :
    ∃ actions payload, deterministicIncidentActions frozen.scenarioId = some actions ∧ actions[place]? = some payload ∧
      (Json.obj frozen.logicalActions[place].actionPayload == .obj payload) = true := by
  unfold builtIn at known
  split at known
  · rename_i actions context frozenActions _
    simp only [Bool.and_eq_true] at known
    obtain ⟨lengths, each⟩ := List.forall₂_iff_get.mp (forall₂_of_beq known.1)
    rw [List.length_map, List.length_map] at lengths
    have equal := each place (by simpa using inside) (by simpa [← lengths] using inside)
    simp only [List.get_eq_getElem, List.getElem_map] at equal
    exact ⟨actions, actions[place], frozenActions, by simp, equal⟩
  · cases known

/-- A frozen call whose projection expects an output names its tool and its arguments, and expects what they return. -/
theorem frozenCall_ok {action : LogicalActionProjection} {toolName digest : String}
    (agreed : frozenActionAgrees sha256 action = .ok ()) (kind : action.kind = .callTool)
    (tool : action.toolName = some toolName) (known : action.expectedOutputDigest = some digest) :
    payloadGet action.actionPayload "type" = .str "call_tool" ∧
      payloadGet action.actionPayload "tool_name" = .str toolName ∧
      ∃ arguments expected, payloadGet action.actionPayload "arguments" = .obj arguments ∧
        deterministicIncidentOutput toolName arguments = some expected ∧ digest = sha256 expected.canonical := by
  simp only [frozenActionAgrees, kind, if_true, Check.bind_ok, Check.require_ok, Check.some?_ok, Check.lift_ok,
    exists_const, tool, Option.some.injEq, exists_eq_left'] at agreed
  obtain ⟨type, name, -, -, -, arguments, given, expects⟩ := agreed
  refine ⟨Json.beq_str.mp type, Json.beq_str.mp name, arguments, ?_⟩
  have shown : payloadGet action.actionPayload "arguments" = .obj arguments := by
    cases read : payloadGet action.actionPayload "arguments" <;> rw [read] at given <;> cases given
    rfl
  split at expects
  · rw [Check.require_ok, known] at expects
    cases expects
  · rename_i expected returned
    simp only [Check.bind_ok, Check.lift_ok, Check.require_ok] at expects
    obtain ⟨computed, hashed, same⟩ := expects
    rw [known] at same
    exact ⟨expected, shown, returned, (Option.some.inj same).trans (canonicalJsonDigest_eq hashed)⟩

/-- An output with the digest of its step is the one of the built-in call, if their digests do not collide. -/
theorem builtInOutput_of_expects (intact : IntactCase sha256 case frozen claims final)
    (expects : frozen.expectsOutput sha256 accepted)
    (apart : ∀ toolName arguments expected, deterministicIncidentOutput toolName arguments = some expected →
      sha256 accepted.output.canonical = sha256 expected.canonical → accepted.output.canonical = expected.canonical)
    {given : Json} (same : (given == accepted.output) = true) :
    frozen.builtInOutput ⟨accepted.actionStep, accepted.toolName, given⟩ := by
  obtain ⟨action, frozenAction, kind, tool, digest⟩ := expects
  have member : action ∈ frozen.logicalActions := List.mem_reverse.mp (List.mem_of_find?_eq_some frozenAction)
  obtain ⟨type, name, arguments, expected, called, returned, hashed⟩ :=
    frozenCall_ok (Check.forM_ok intact.agreed action member) kind tool digest
  obtain ⟨place, inside, rfl⟩ := List.getElem_of_mem member
  obtain ⟨actions, payload, frozenActions, there, equal⟩ := builtIn_place intact.builtIn inside
  obtain ⟨others, known, sameArguments⟩ := payloadGet_same_obj equal called
  have canonical := apart _ _ _ returned hashed
  refine ⟨place, _, actions, payload, others, expected, by simp, frozenAction, frozenActions, there,
    payloadGet_same_str equal type, payloadGet_same_str equal name, known,
    deterministicIncidentOutput_congr sameArguments returned, ?_⟩
  have clean := incidentFixtures_wellFormed (incidentFixtures_mem returned)
  have transfer : Json.pyEq given accepted.output = Json.pyEq given expected := Json.pyEq_canonical given clean canonical
  exact transfer.symm.trans same

theorem IntactCase.outputCounters (intact : IntactCase sha256 case frozen claims final) :
    case.invalidOutputAcceptedCount = invalidAcceptedOutputCount case := by
  have clean := intact.errors
  simp only [claimErrors, List.append_eq_nil_iff, flag_nil, Bool.not_eq_false'] at clean
  obtain ⟨⟨-, counters⟩, -⟩ := clean
  simp only [outputCountersAgree, Bool.and_eq_true, decide_eq_true_eq] at counters
  exact counters.1.1.2

theorem invalid_of_valid (valid : accepted.valid) : invalidAcceptedOutput accepted = false := by
  obtain ⟨definition, output, known, passes⟩ := valid
  rw [invalidAcceptedOutput, known]
  simp [passes]

/-- The digests of the outputs that an attempt shows do not collide with those of expected outputs. -/
def showsApart (sha256 : Json → String) (evidence : List OrderedTraceEvidence) : Prop :=
  ∀ item ∈ evidence, ∀ shown, item.eventType = .toolAttemptSucceeded → item.payload.lookup "output" = some shown →
    ∀ toolName arguments expected, deterministicIncidentOutput toolName arguments = some expected →
      sha256 shown.canonical = sha256 expected.canonical → shown.canonical = expected.canonical

theorem genuine_case (intact : IntactCase sha256 case frozen claims final) (apart : showsApart sha256 case.traceEvidence)
    (dicts : ∀ accepted ∈ case.acceptedOutputs, accepted.output.wellFormed = true) : case.GenuineOutputs sha256 frozen := by
  have acceptance := acceptance_run intact.builtIn intact.ran
  have outputs := acceptance.settled intact.settled.2
  have same := intact.recorded.2.2.2
  have genuine : ∀ accepted ∈ case.acceptedOutputs, frozen.builtInOutput accepted := by
    intro given listed
    obtain ⟨accepted, there, equal⟩ := exists_related (forall₂_of_beq same) given listed
    obtain ⟨success, item, succeeds, shown⟩ := outputs.shown accepted there
    have entry : (given.actionStep = accepted.actionStep ∧ given.toolName = accepted.toolName) ∧
        (given.output == accepted.output) = true := by simpa [BEq.beq] using equal
    have found := builtInOutput_of_expects intact (acceptance.expected accepted there)
      (apart success item accepted.output succeeds.1 shown) entry.2
    rwa [← entry.1.1, ← entry.1.2] at found
  have valid : ∀ accepted ∈ case.acceptedOutputs, accepted.valid := by
    intro accepted listed
    obtain ⟨_, _, _, _, _, expected, -, -, -, -, -, -, -, returned, equal⟩ := genuine accepted listed
    exact deterministicIncidentOutput_accepted returned (dicts accepted listed) equal
  refine ⟨⟨final.acceptedOutputs, outputs, same⟩, genuine, valid, ?_⟩
  rw [intact.outputCounters, invalidAcceptedOutputCount, List.length_eq_zero_iff, List.filter_eq_nil_iff]
  intro accepted listed
  simp [invalid_of_valid (valid accepted listed)]

theorem aggregated_accepted {cases : List CaseResult} {metrics : ModeMetrics}
    (aggregated : aggregateCases cases = .ok metrics) (none : ∀ case ∈ cases, case.invalidOutputAcceptedCount = 0) :
    metrics.invalidOutputAcceptedCount = 0 := by
  simp only [aggregateCases, Check.bind_ok] at aggregated
  obtain ⟨_, -, _, -, _, -, _, -, _, -, _, -, _, -, done⟩ := aggregated
  cases done
  refine List.sum_eq_zero fun count member => ?_
  obtain ⟨case, listed, rfl⟩ := List.mem_map.mp member
  exact none case listed

end Report

/-- Texts for the expected outputs, and one for all other values. -/
def fixtureDigest : Json → String
  | .obj [("service", _), ("status", _)] => "health"
  | .obj [("entries", _)] => "logs"
  | .obj [("deployment_id", _), ("version", _)] => "deployment"
  | _ => blankDigest

theorem approvedReport_fixtures : integrityErrors fixtureDigest (approvedReport fixtureDigest) "report" = .ok [] :=
  ok_of_toOption (by decide +kernel)

theorem approvedEvidence_apart (trace : Uuid) : showsApart fixtureDigest (approvedEvidence trace) := by
  intro item there shown event read toolName arguments expected returned same
  have output : shown = rollbackOutput := by
    simp only [approvedEvidence, forgedAnnouncement, forgedEvent, List.mem_cons, List.not_mem_nil, or_false] at there
    rcases there with rfl | rfl | rfl | rfl | rfl | rfl | rfl | rfl | rfl | rfl | rfl <;> cases event
    cases read
    rfl
  subst output
  have listed := incidentFixtures_mem returned
  simp only [incidentFixtures, List.mem_cons, Prod.mk.injEq, List.not_mem_nil, or_false] at listed
  rcases listed with ⟨-, rfl⟩ | ⟨-, rfl⟩ | ⟨-, rfl⟩ | ⟨-, rfl⟩
  · exact absurd same (by decide)
  · exact absurd same (by decide)
  · exact absurd same (by decide)
  · rfl

end ReliabilityLab
