import ReliabilityLab.Evaluation.FaultTargets

namespace ReliabilityLab

/-- What the validation accepts: every rule names a tool that is called once, for its first attempt. -/
theorem validateFaultRules_accepted {scenario : Scenario} {seen : List (Nat × String × Nat × FaultType)}
    {rules : List ScenarioFault} (accepted : validateFaultRules scenario seen rules = .ok ()) :
    ∀ rule ∈ rules, ∃ step, scenario.callSteps rule.toolName = [step] ∧ rule.attempt ≤ 1 := by
  induction rules generalizing seen with
  | nil =>
    intro rule member
    cases member
  | cons first rest ih =>
    unfold validateFaultRules at accepted
    split at accepted
    · rename_i step once
      split at accepted
      · cases accepted
      · split at accepted
        · cases accepted
        · rename_i early
          intro rule member
          rcases List.mem_cons.mp member with rfl | later
          · exact ⟨step, once, Nat.le_of_not_lt early⟩
          · exact ih accepted rule later
    · cases accepted

section Steps
variable {tool : String} {calls : List CallToolAction} {last : FinishAction} {first step : Nat}

/-- A script of calls with its finish. -/
abbrev finishedScript (calls : List CallToolAction) (last : FinishAction) : List AgentAction :=
  calls.map .callTool ++ [.finish last]

/-- The places of the calls of one tool. -/
def placesFrom (tool : String) (first : Nat) (actions : List AgentAction) : List Nat :=
  ((actions.zipIdx first).filter fun entry => entry.1.calls tool).map (·.2)

theorem placesFrom_cons (action : AgentAction) (rest : List AgentAction) : placesFrom tool first (action :: rest) =
    if action.calls tool then first :: placesFrom tool (first + 1) rest else placesFrom tool (first + 1) rest := by
  unfold placesFrom
  rw [List.zipIdx_cons, List.filter_cons]
  split <;> rfl

/-- A tool without a place is not called. -/
theorem uncalled_of_placesFrom (none : placesFrom tool first (finishedScript calls last) = []) :
    ∀ call ∈ calls, call.toolName ≠ tool := by
  induction calls generalizing first with
  | nil =>
    intro call member
    cases member
  | cons call rest ih =>
    rw [finishedScript, List.map_cons, List.cons_append, placesFrom_cons] at none
    split at none
    · cases none
    · rename_i other
      intro one member
      rcases List.mem_cons.mp member with rfl | later
      · simpa [AgentAction.calls] using other
      · exact ih none one later

/-- A tool with one place is called there, and nowhere else. -/
theorem split_of_placesFrom (once : placesFrom tool first (finishedScript calls last) = [step]) :
    ∃ before call after, calls = before ++ call :: after ∧ call.toolName = tool ∧ step = first + before.length ∧
      (∀ other ∈ before, other.toolName ≠ tool) ∧ ∀ other ∈ after, other.toolName ≠ tool := by
  induction calls generalizing first with
  | nil => cases once
  | cons call rest ih =>
    rw [finishedScript, List.map_cons, List.cons_append, placesFrom_cons] at once
    split at once
    · rename_i named
      obtain ⟨same, none⟩ := List.cons.inj once
      have silent := uncalled_of_placesFrom none
      exact ⟨[], call, rest, rfl, by simpa [AgentAction.calls] using named, same.symm, by simp, silent⟩
    · rename_i other
      obtain ⟨before, target, after, split, named, place, earlier, later⟩ := ih once
      have distinct : call.toolName ≠ tool := by simpa [AgentAction.calls] using other
      refine ⟨call :: before, target, after, by rw [split, List.cons_append], named, ?_, ?_, later⟩
      · rw [place, List.length_cons]
        omega
      · intro one member
        rcases List.mem_cons.mp member with rfl | there
        · exact distinct
        · exact earlier one there

end Steps

section Check
variable {scenario : Scenario} {events : List EventContent} {rule : ScenarioFault} {step : Nat}

theorem declaredFaultEvidence_none (unset : scenario.faults = []) : declaredFaultEvidence scenario = .ok [] := by
  rw [declaredFaultEvidence, unset]
  rfl

theorem declaredFault_once (named : rule.toolName ≠ "") (positive : 1 ≤ rule.attempt)
    (once : scenario.callSteps rule.toolName = [step]) :
    declaredFault scenario rule = .ok ⟨step, rule.toolName, rule.attempt, rule.type, named, positive⟩ := by
  unfold declaredFault
  rw [once]
  exact dif_pos ⟨named, positive⟩

theorem declaredFaultEvidence_single (only : scenario.faults = [rule]) (named : rule.toolName ≠ "")
    (positive : 1 ≤ rule.attempt) (once : scenario.callSteps rule.toolName = [step]) :
    declaredFaultEvidence scenario = .ok [⟨step, rule.toolName, rule.attempt, rule.type, named, positive⟩] := by
  rw [declaredFaultEvidence, only, List.mapM_cons, declaredFault_once named positive once]
  rfl

/-- The check passes without rules and without injected faults. -/
theorem check_none (unset : scenario.faults = []) (silent : injected (events.filterMap EventContent.mark) = []) :
    checkFaultEvidence scenario events = .ok () := by
  unfold checkFaultEvidence
  rw [declaredFaultEvidence_none unset, observed_nil silent]
  rfl

/-- The check passes when the only rule is injected. -/
theorem check_single (only : scenario.faults = [rule]) (named : rule.toolName ≠ "") (positive : 1 ≤ rule.attempt)
    (once : scenario.callSteps rule.toolName = [step])
    (hit : injected (events.filterMap EventContent.mark) = [faultMark step rule.event]) :
    checkFaultEvidence scenario events = .ok () := by
  have same : List.isPerm [(⟨step, rule.toolName, rule.attempt, rule.type, named, positive⟩ : FaultEvidence)]
      [⟨step, rule.toolName, rule.attempt, rule.type, named, positive⟩] = true := List.isPerm_iff.mpr (.refl _)
  unfold checkFaultEvidence
  rw [declaredFaultEvidence_single only named positive once, observed_single named positive hit]
  exact if_pos same

/-- The check that passes has seen as many faults as are declared. -/
theorem check_counts (passed : checkFaultEvidence scenario events = .ok ()) :
    scenario.faults.length = (injected (events.filterMap EventContent.mark)).length := by
  unfold checkFaultEvidence at passed
  cases declared : declaredFaultEvidence scenario with
  | error error =>
    rw [declared] at passed
    cases passed
  | ok rules =>
    cases observed : observedFaultEvidence events with
    | error error =>
      rw [declared, observed] at passed
      cases passed
    | ok faults =>
      rw [declared, observed] at passed
      by_cases same : rules.isPerm faults = true
      · have lengths := (List.isPerm_iff.mp same).length_eq
        rw [← mapM_length declared, lengths, observed_length observed]
      · have refused : (Except.error (.other "EvaluationInfrastructureError") : Except Exn Unit) = .ok () :=
          (if_neg same).symm.trans passed
        cases refused

end Check

section Supported
variable {dep : Deployment} {scenario : Scenario} {mode : Mode} {rule : ScenarioFault} {step : Nat}

/-- Nothing is injected into the scenario whose call is refused. -/
theorem course_unreachable (registry : dep.registry = incidentRegistry) (supported : scenario.supported = true)
    (unreachable : scenario.id = unreachableId) : injected (dep.course scenario mode).1 = [] := by
  obtain ⟨expected, specs, calls, last, frozen, actions, made⟩ := supported_script supported
  have kinds := frozen.calls
  rw [if_pos unreachable] at kinds
  subst kinds
  obtain ⟨call, rest, first, none, rfl⟩ := List.forall₂_cons_right_iff.mp made
  cases List.forall₂_nil_right_iff.mp none
  obtain ⟨known, refused⟩ := first.refused
  have script : dep.scriptedStep mode (scenarioFaultPlan scenario) 0 call = ([], .failed "invalid_input" 0 false) := by
    unfold Deployment.scriptedStep
    rw [registry]
    simp only [known.registered, refused]
  have course : (dep.course scenario mode).1 = [] := by
    rw [Deployment.course, actions, List.map_singleton, List.singleton_append, scriptedCourse_failed script]
  rw [course]
  rfl

/-- Nothing is injected without a rule. -/
theorem course_unset (unset : scenario.faults = []) : injected (dep.course scenario mode).1 = [] := by
  refine course_silent fun call _ rule member => ?_
  rw [scenarioFaultPlan, unset] at member
  cases member

/-- The only rule of a scenario whose calls are sound is injected at the call that it names. -/
theorem course_reached (registry : dep.registry = incidentRegistry) (supported : scenario.supported = true)
    (reachable : scenario.id ≠ unreachableId) (only : scenario.faults = [rule]) (first : rule.attempt = 1)
    (once : scenario.callSteps rule.toolName = [step]) :
    injected (dep.course scenario mode).1 = [faultMark step rule.event] := by
  obtain ⟨expected, specs, calls, last, frozen, actions, made⟩ := supported_script supported
  have kinds := frozen.calls
  rw [if_neg reachable] at kinds
  have place : placesFrom rule.toolName 0 (finishedScript calls last) = [step] := by
    rw [finishedScript, ← actions]
    exact once
  obtain ⟨before, call, after, rfl, named, stepped, earlier, later⟩ := split_of_placesFrom place
  have sound : ∀ other ∈ before ++ [call], ∃ definition input, dep.registry.get other.toolName = some definition ∧
      definition.inputModel other.arguments = some input := by
    intro other member
    have listed : other ∈ before ++ call :: after := by
      rw [List.append_cons]
      exact List.mem_append_left _ member
    obtain ⟨spec, there, matched⟩ := exists_related made other listed
    obtain ⟨definition, input, known, valid⟩ := matched.sound (kinds spec there)
    exact ⟨definition, input, registry ▸ known.registered, valid⟩
  have unnamed : ∀ other, .callTool other ∈ after.map AgentAction.callTool ++ [.finish last] →
      rule.toolName ≠ other.toolName := by
    intro other member
    exact (later other (by simpa using member)).symm
  have plan : scenarioFaultPlan scenario = [⟨rule.toolName, 1, rule.type.kind⟩] := by
    rw [scenarioFaultPlan, only, List.map_singleton, first]
  have script : scenario.actions = before.map .callTool ++ .callTool call :: (after.map .callTool ++ [.finish last]) := by
    rw [actions, List.map_append, List.map_cons, List.append_assoc, List.cons_append]
  have hit : injected (dep.scriptedCourse mode [⟨rule.toolName, 1, rule.type.kind⟩] 0
      (before.map .callTool ++ .callTool call :: (after.map .callTool ++ [.finish last]))).1 = _ :=
    course_single rfl named.symm sound (fun other member => (earlier other member).symm) unnamed
  rw [Deployment.course, plan, script, hit, stepped, ScenarioFault.event, first]

end Supported

/-- Where every execution passes the check, at most one fault is declared, and none for a call that is refused. -/
theorem faults_of_passes {dep : Deployment} {scenario : Scenario} {p : Pid} {s : Site} (incident : dep.Incident)
    (playable : scenario.Playable dep) (loaded : dep.loadScenario scenario.id = .ok scenario)
    (vacant : Vacant dep s.system.store.nextUuid 0 s)
    (passes : ∀ mode run t, Enacted dep p scenario mode s run t → run.status ≠ .waitingApproval →
      checkFaultEvidence scenario (t.system.store.traceContents run.traceId) = .ok ()) (mode : Mode) :
    scenario.faults.length = (injected (dep.course scenario mode).1).length := by
  obtain ⟨run, t, enacted, finished⟩ := Enacted.total (p := p) incident playable loaded vacant mode
  have left := (enacted.ends incident playable loaded vacant finished).1
  have counted := check_counts (passes mode run t enacted finished)
  rw [left] at counted
  exact counted

/-- The executions of a validated scenario pass the fault evidence check in both modes exactly if it has no rule,
or one rule and calls that are let through. -/
theorem accepted_faults_injected {dep : Deployment} {scenario : Scenario} {p : Pid} {s : Site} (incident : dep.Incident)
    (budget : 4 ≤ dep.maxActionSteps) (loaded : dep.loadScenario scenario.id = .ok scenario)
    (supported : scenario.supported = true) (accepted : validateFaultTargets scenario = .ok ())
    (fields : ∀ rule ∈ scenario.faults, rule.toolName ≠ "" ∧ 1 ≤ rule.attempt)
    (context : Json.printableItems scenario.initialContext = true) (vacant : Vacant dep s.system.store.nextUuid 0 s) :
    (∀ mode run t, Enacted dep p scenario mode s run t → run.status ≠ .waitingApproval →
      checkFaultEvidence scenario (t.system.store.traceContents run.traceId) = .ok ()) ↔
    scenario.faults = [] ∨ scenario.id ≠ unreachableId ∧ ∃ rule, scenario.faults = [rule] := by
  have registry := incident.registry
  have playable := supported_playable supported registry budget context
  have targets := validateFaultRules_accepted accepted
  constructor
  · intro passes
    have counted := faults_of_passes incident playable loaded vacant passes .fragile
    have few : scenario.faults.length ≤ 1 := counted.le.trans fragile_course
    match faults : scenario.faults with
    | [] => exact .inl rfl
    | [rule] =>
      refine .inr ⟨fun unreachable => ?_, rule, rfl⟩
      rw [course_unreachable registry supported unreachable, faults] at counted
      cases counted
    | first :: second :: rest =>
      rw [faults, List.length_cons, List.length_cons] at few
      omega
  · intro condition mode run t enacted finished
    have left := (enacted.ends incident playable loaded vacant finished).1
    rcases condition with unset | ⟨reachable, rule, only⟩
    · exact check_none unset (left.symm ▸ course_unset unset)
    · have member : rule ∈ scenario.faults := by rw [only]; exact List.mem_singleton.mpr rfl
      obtain ⟨step, once, early⟩ := targets rule member
      obtain ⟨named, positive⟩ := fields rule member
      have hit : injected (dep.course scenario mode).1 = [faultMark step rule.event] :=
        course_reached registry supported reachable only (by omega) once
      exact check_single only named positive once (left.symm ▸ hit)

/-- The scenario `timeout-recovery` with these faults. -/
def timeoutRecovery (faults : List ScenarioFault) : Scenario where
  id := "timeout-recovery"
  version := 1
  initialContext := [("incident", .str "checkout-timeout")]
  actions := [.callTool ⟨"get_service_health", [], none⟩, .callTool ⟨"search_recent_logs", [], none⟩,
    .callTool ⟨"get_deployment", [], none⟩,
    .finish ⟨"Investigation recovered after the transient timeout.", ["health", "logs", "deployment"], "diagnosed"⟩]
  expectedToolSequence := ["get_service_health", "search_recent_logs", "get_deployment"]
  expectedOutcome := "diagnosed"
  faults := faults
  approvalSupplied := false

/-- The service of the evaluation: the incident tools, and the one scenario. -/
def caseDeployment (scenario : Scenario) : Deployment where
  store := demo.store
  recorderSecrets := []
  registry := incidentRegistry
  loadScenario _ := .ok scenario
  policies := ["scripted"]
  maxActionSteps := demo.maxActionSteps
  steps_range := demo.steps_range
  sha256 _ := demoFingerprint
  policyAnswers _ run scenario answer := answer = scriptedPolicy run scenario
  handlerAnswers invocation answer := ∃ backend : IncidentBackend, answer = (backend.answer invocation).1

theorem caseDeployment_incident (scenario : Scenario) : (caseDeployment scenario).Incident where
  registry := rfl
  storeSecrets := rfl
  recorderSecrets := rfl
  policies := List.mem_singleton.mpr rfl
  policy _ _ _ := rfl
  handler backend _ := ⟨backend, rfl⟩
  digests _ := (by decide : Store.canonicalFingerprint demoFingerprint = true)
  lease := (by decide : 0 < demo.store.runLease)

/-- A fresh store and a fresh backend. -/
def caseStart : Site := ⟨.initial (demoClock 0 demoStart_inside), .fresh⟩

theorem caseStart_vacant (scenario : Scenario) :
    Vacant (caseDeployment scenario) caseStart.system.store.nextUuid 0 caseStart where
  next := rfl
  run := rfl
  claims := rfl
  approvals := rfl
  lease := rfl
  trace := rfl
  backend := rfl
  inside := ⟨rfl, rfl⟩
  silent _ := rfl

abbrev oneFault : Scenario := timeoutRecovery [⟨"search_recent_logs", 1, .timeout⟩]

theorem accepted_faults_injected_timeout :
    (∀ mode run t, Enacted (caseDeployment oneFault) 0 oneFault mode caseStart run t → run.status ≠ .waitingApproval →
      checkFaultEvidence oneFault (t.system.store.traceContents run.traceId) = .ok ()) ↔
    oneFault.faults = [] ∨ oneFault.id ≠ unreachableId ∧ ∃ rule, oneFault.faults = [rule] :=
  accepted_faults_injected (caseDeployment_incident _) (by decide) rfl (by decide) (by decide) (by decide) (by decide)
    (caseStart_vacant _)

abbrev twoFaults : Scenario :=
  timeoutRecovery [⟨"get_service_health", 1, .timeout⟩, ⟨"search_recent_logs", 1, .timeout⟩]

/-- Two rules for two calls are accepted, and some execution does not pass the check. -/
theorem second_fault_unreached : twoFaults.supported = true ∧ validateFaultTargets twoFaults = .ok () ∧
    ¬ ∀ mode run t, Enacted (caseDeployment twoFaults) 0 twoFaults mode caseStart run t → run.status ≠ .waitingApproval →
      checkFaultEvidence twoFaults (t.system.store.traceContents run.traceId) = .ok () := by
  have supported : twoFaults.supported = true := by decide
  refine ⟨supported, by decide, fun passes => ?_⟩
  have budget : 4 ≤ (caseDeployment twoFaults).maxActionSteps := by decide
  have context : Json.printableItems twoFaults.initialContext = true := by decide
  have playable := supported_playable supported (caseDeployment_incident twoFaults).registry budget context
  have counted := faults_of_passes (caseDeployment_incident twoFaults) playable rfl (caseStart_vacant _) passes .fragile
  have few := counted.le.trans fragile_course
  have two : 2 ≤ 1 := few
  omega

end ReliabilityLab
