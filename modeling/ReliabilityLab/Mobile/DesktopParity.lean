import ReliabilityLab.Evaluation.Resilience
import ReliabilityLab.Mobile.Convergence
import ReliabilityLab.Mobile.Package

namespace ReliabilityLab

open Mobile MobileApp

/-- The events of the app that the desktop writes as well about an attempt. -/
def MobileEventType.traced : MobileEventType → Option EventType
  | .toolAttemptStarted => some .toolAttemptStarted
  | .toolAttemptFailed => some .toolAttemptFailed
  | .toolAttemptSucceeded => some .toolAttemptSucceeded
  | .faultInjected => some .faultInjected
  | _ => none

def MobileEvent.mark (event : MobileEvent) : Option TraceMark :=
  event.eventType.traced.map fun type =>
    ⟨type, event.payload.lookup "action_step", event.payload.lookup "tool_name", event.payload.lookup "attempt",
      event.payload.lookup "kind"⟩

/-- The code of a fault that may pass. -/
def FaultType.passing? : FaultType → Option String
  | .malformedOutput => none
  | type => some (faultCode type.kind)

theorem passing?_some {type : FaultType} {code : String} (passing : type.passing? = some code) :
    code = faultCode type.kind ∧ decide (type.kind ≠ .malformedOutput) = true := by
  cases type <;> cases passing <;> exact ⟨rfl, rfl⟩

theorem passing?_none {type : FaultType} (lasting : type.passing? = none) : type = .malformedOutput := by
  cases type <;> first | rfl | cases lasting

theorem transientCode_type (type : FaultType) : RunRows.transientCode (.str type.value) = .ok type.passing? := by
  cases type <;> rfl

namespace RunRows
variable {sha256 : Json → String} {app : MobileApp} {supply : Supply} {rows next : RunRows}

def marks (rows : RunRows) : List TraceMark := rows.events.filterMap MobileEvent.mark

theorem marks_emit (type : MobileEventType) (payload : Dict) (status : String) :
    (rows.emit supply type payload status).marks = rows.marks ++ (type.traced.map fun type => (⟨type,
      payload.lookup "action_step", payload.lookup "tool_name", payload.lookup "attempt", payload.lookup "kind"⟩ :
        TraceMark)).toList := by
  simp only [marks, emit, List.filterMap_append, List.filterMap_cons, List.filterMap_nil, MobileEvent.mark]
  cases type.traced <;> rfl

theorem marks_quiet {type : MobileEventType} (payload : Dict) (status : String) (quiet : type.traced = none) :
    (rows.emit supply type payload status).marks = rows.marks := by
  rw [marks_emit, quiet]
  exact List.append_nil _

/-- The attempt that is due, as the desktop marks its events. -/
def due (rows : RunRows) (type : EventType) (tool : String) : TraceMark :=
  attemptMark type rows.run.currentStep tool rows.run.nextAttempt

/-- What an attempt of a packaged call comes to, where the scenario declares this fault for it or none. -/
inductive Attempted (rows : RunRows) (tool : String) : Option FaultEvent → RunRows → Prop
  | through {next : RunRows} :
      next.run = { rows.run with currentStep := rows.run.currentStep + 1, nextAttempt := 1, pendingApproval := none } →
      next.decisions = rows.decisions →
      next.marks = rows.marks ++ [rows.due .toolAttemptStarted tool, rows.due .toolAttemptSucceeded tool] →
      Attempted rows tool none next
  | again {next : RunRows} {fault : FaultEvent} :
      fault.transient = true → rows.run.mode = .resilient → rows.run.nextAttempt < 3 →
      next.run = { rows.run with nextAttempt := rows.run.nextAttempt + 1 } → next.decisions = rows.decisions →
      next.marks = rows.marks ++ failedMarks rows.run.currentStep tool rows.run.nextAttempt fault →
      Attempted rows tool (some fault) next
  | failed {next : RunRows} {fault : FaultEvent} :
      ¬ (fault.transient = true ∧ rows.run.mode = .resilient ∧ rows.run.nextAttempt < 3) →
      next.run = { rows.run with status := .failed, pendingApproval := none, result := some [("code", .str fault.code)] } →
      next.decisions = rows.decisions →
      next.marks = rows.marks ++ failedMarks rows.run.currentStep tool rows.run.nextAttempt fault →
      Attempted rows tool (some fault) next

theorem attempted_failed (supply : Supply) (rows marked : RunRows) {tool : String} {fault : FaultEvent}
    (run : marked.run = rows.run) (decisions : marked.decisions = rows.decisions)
    (marks : marked.marks = rows.marks ++ [rows.due .toolAttemptStarted tool, faultMark rows.run.currentStep fault]) :
    Attempted rows tool (some fault)
      (marked.attemptFailed supply (rows.attemptContext (.str tool)) fault.code fault.transient) := by
  have told : ((marked.emit supply .toolAttemptFailed (rows.attemptContext (.str tool) ++
      [("code", .str fault.code), ("transient", .bool fault.transient)]) "error")).marks =
        rows.marks ++ failedMarks rows.run.currentStep tool rows.run.nextAttempt fault := by
    rw [marks_emit, marks, List.append_assoc]
    rfl
  unfold attemptFailed
  by_cases again : (fault.transient && marked.run.mode = .resilient && marked.run.nextAttempt < 3) = true
  · rw [if_pos again]
    simp only [Bool.and_eq_true, decide_eq_true_eq, run] at again
    have once : { marked.run with nextAttempt := marked.run.nextAttempt + 1 } =
        { rows.run with nextAttempt := rows.run.nextAttempt + 1 } := by rw [run]
    exact .again again.1.1 again.1.2 again.2 once decisions told
  · rw [if_neg again]
    simp only [Bool.and_eq_true, decide_eq_true_eq, run, and_assoc] at again
    have ended :
        { marked.run with status := .failed, pendingApproval := none, result := some [("code", Json.str fault.code)] } =
        { rows.run with status := .failed, pendingApproval := none, result := some [("code", Json.str fault.code)] } := by
      rw [run]
    exact .failed again ended decisions ((marks_quiet _ _ rfl).trans told)

theorem attempted_concluded (rows started : RunRows) {call : CallToolAction} {definition : ToolDefinition}
    {fingerprint : String} (found : incidentRegistry.get call.toolName = some definition)
    (valid : (definition.inputModel call.arguments).isSome = true) (distinct : (call.arguments.map Prod.fst).Nodup)
    (run : started.run = rows.run) (decisions : started.decisions = rows.decisions)
    (marks : started.marks = rows.marks ++ [rows.due .toolAttemptStarted call.toolName])
    (concluded : started.concluded supply (rows.attemptContext (.str call.toolName)) (.str call.toolName)
      (toolOutput (.str call.toolName) (.obj (Json.canonicalItems call.arguments))) fingerprint none = .ok next) :
    Attempted rows call.toolName none next := by
  unfold RunRows.concluded at concluded
  rw [if_pos (validOutput_packaged found valid distinct)] at concluded
  obtain ⟨⟨written, output⟩, wrote, ended⟩ := Check.bind_ok.mp concluded
  cases ended
  obtain ⟨run', decisions', marks'⟩ : written.run = rows.run ∧ written.decisions = rows.decisions ∧
      written.marks = rows.marks ++ [rows.due .toolAttemptStarted call.toolName] := by
    rcases writeEffect_cases wrote with ⟨rfl, -⟩ | ⟨-, rfl⟩ <;> exact ⟨run, decisions, marks⟩
  refine .through ?_ decisions' ?_
  · show { written.run with
      currentStep := written.run.currentStep + 1, nextAttempt := 1, pendingApproval := none } =
      { rows.run with currentStep := rows.run.currentStep + 1, nextAttempt := 1, pendingApproval := none }
    rw [run']
  · have done : (written.emit supply .toolAttemptSucceeded
        (rows.attemptContext (.str call.toolName) ++ [("output", output)]) "ok").marks = rows.marks ++
          [rows.due .toolAttemptStarted call.toolName, rows.due .toolAttemptSucceeded call.toolName] := by
      rw [marks_emit, marks', List.append_assoc]
      rfl
    exact (marks_quiet _ _ rfl).trans done

/-- The attempt of a packaged call meets the fault that its scenario declares for it. -/
theorem attempted_packaged {scenario : Scenario} {call : CallToolAction} {definition : ToolDefinition} {fingerprint : String}
    (found : incidentRegistry.get call.toolName = some definition)
    (valid : (definition.inputModel call.arguments).isSome = true) (distinct : (call.arguments.map Prod.fst).Nodup)
    (performed : rows.performAttempt supply scenario.packaged (.str call.toolName)
      (.obj (Json.canonicalItems call.arguments)) fingerprint = .ok next) :
    Attempted rows call.toolName ((scenarioFaultPlan scenario).faultFor call.toolName rows.run.nextAttempt) next := by
  let started := rows.emit supply .toolAttemptStarted (rows.attemptContext (.str call.toolName)) "ok"
  have told : started.marks = rows.marks ++ [rows.due .toolAttemptStarted call.toolName] := marks_emit ..
  have looked : RunRows.declaredFault (.str call.toolName) rows.run.nextAttempt
      (scenario.faults.map fun fault => .obj fault.packaged) =
        .ok ((scenario.faultAt call.toolName rows.run.nextAttempt).map fun fault => .obj fault.packaged) :=
    declaredFault_packaged ..
  rw [faultFor_scenario]
  unfold performAttempt at performed
  simp only [packaged_faults, elements, looked, bind, Except.bind] at performed
  cases chosen : scenario.faultAt call.toolName rows.run.nextAttempt with
  | none =>
    rw [chosen] at performed
    exact attempted_concluded rows started found valid distinct rfl rfl told performed
  | some fault =>
    obtain ⟨tool, number, type⟩ := fault
    have kind : item (.obj (ScenarioFault.packaged ⟨tool, number, type⟩)) "type" = .ok (.str type.value) :=
      ScenarioFault.packaged_item rfl rfl
    let marked := started.emit supply .faultInjected
      (rows.attemptContext (.str call.toolName) ++ [("kind", .str type.value)]) "error"
    have injected : marked.marks = rows.marks ++ [rows.due .toolAttemptStarted call.toolName,
        faultMark rows.run.currentStep ⟨call.toolName, rows.run.nextAttempt, type.kind, faultCode type.kind,
          type.kind ≠ .malformedOutput⟩] := by
      rw [marks_emit, told, List.append_assoc]
      cases type <;> rfl
    rw [chosen] at performed
    simp only [Option.map_some, kind, transientCode_type] at performed
    show Attempted rows call.toolName (some ⟨call.toolName, rows.run.nextAttempt, type.kind,
      faultCode type.kind, type.kind ≠ .malformedOutput⟩) next
    cases passing : type.passing? with
    | some code =>
      obtain ⟨rfl, transient⟩ := passing?_some passing
      have failed := attempted_failed supply rows marked rfl rfl injected
      rw [passing] at performed
      cases performed
      rw [transient] at failed ⊢
      exact failed
    | none =>
      cases passing?_none passing
      let rejected := marked.emit supply .toolOutputValidationFailed (rows.attemptContext (.str call.toolName) ++
        [("code", .str "invalid_output"), ("source", .str "output_model")]) "error"
      have silent : rejected.marks = marked.marks := marks_quiet _ _ rfl
      have failed := attempted_failed supply rows rejected rfl rfl (silent.trans injected)
      have concluded : marked.concluded supply (rows.attemptContext (.str call.toolName)) (.str call.toolName)
        (.obj [("__arl_malformed_output__", .bool true)]) fingerprint none = .ok next := performed
      unfold RunRows.concluded at concluded
      simp only [validOutput_malformed, Bool.false_eq_true, if_false] at concluded
      cases concluded
      exact failed

end RunRows

namespace Deployment
variable (dep : Deployment) (mode : Mode) (plan : FaultPlan) (step : Nat)

/-- How a script goes on after a call. -/
def afterCall (rest : List AgentAction) : List TraceMark × ToolCallResult → List TraceMark × Ending
  | (marks, .failed code _ _) => (marks, .failed (orText code "tool_execution_failed") none)
  | (marks, .succeeded _ _ _) =>
    (marks ++ (dep.scriptedCourse mode plan (step + 1) rest).1, (dep.scriptedCourse mode plan (step + 1) rest).2)

/-- What is ahead of a script at an action with the number of its next attempt. -/
inductive Ahead : Nat → List AgentAction → List TraceMark × Ending → Prop
  | fresh (actions : List AgentAction) : Ahead 1 actions (dep.scriptedCourse mode plan step actions)
  | again {call : CallToolAction} {rest : List AgentAction} {definition : ToolDefinition} {fault : FaultEvent}
      (output : Json) : incidentRegistry.get call.toolName = some definition →
      (definition.inputModel call.arguments).isSome = true → mode = .resilient →
      plan.faultFor call.toolName 1 = some fault → fault.transient = true → Ahead 2 (.callTool call :: rest)
        (dep.afterCall mode plan step rest (scriptedAttempts plan step call.toolName output 1 2))

end Deployment

section Course
variable {dep : Deployment} {mode : Mode} {plan : FaultPlan} {step number : Nat} {call : CallToolAction}
  {rest : List AgentAction} {course : List TraceMark × Ending} {definition : ToolDefinition}

theorem scriptedCourse_call : dep.scriptedCourse mode plan step (.callTool call :: rest) =
    dep.afterCall mode plan step rest (dep.scriptedStep mode plan step call) := by
  rw [Deployment.scriptedCourse]
  cases dep.scriptedStep mode plan step call with
  | mk marks result => cases result <;> rfl

theorem afterCall_marks (before : List TraceMark) (outcome : List TraceMark × ToolCallResult) :
    dep.afterCall mode plan step rest (before ++ outcome.1, outcome.2) =
      (before ++ (dep.afterCall mode plan step rest outcome).1, (dep.afterCall mode plan step rest outcome).2) := by
  obtain ⟨marks, result⟩ := outcome
  cases result with
  | failed => rfl
  | succeeded => exact Prod.ext (List.append_assoc ..) rfl

theorem scriptedStep_known {input : Dict} (found : dep.registry.get call.toolName = some definition)
    (accepted : definition.inputModel call.arguments = some input)
    (known : ∀ rule ∈ plan, (dep.registry.get rule.toolName).isSome = true) :
    dep.scriptedStep mode plan step call = scriptedCall mode plan step definition call.toolName input := by
  have admitted : ¬ (plan.any fun rule => (dep.registry.get rule.toolName).isNone) = true := by
    intro unknown
    obtain ⟨rule, member, none⟩ := List.any_eq_true.mp unknown
    have some := known rule member
    rw [Option.isNone_iff_eq_none.mp none] at some
    cases some
  unfold Deployment.scriptedStep
  simp only [found, accepted]
  rw [if_neg admitted]

theorem incident_attempts (found : incidentRegistry.get call.toolName = some definition) : definition.maxAttempts = 2 := by
  have member := List.mem_of_find?_eq_some found
  simp only [incidentRegistry, List.mem_cons, List.not_mem_nil, or_false] at member
  rcases member with rfl | rfl | rfl | rfl <;> rfl

/-- What is ahead of a call that is let through are its attempts: a second one only in resilient mode. -/
theorem Deployment.Ahead.attempts (ahead : dep.Ahead mode plan step number (.callTool call :: rest) course)
    (incident : dep.registry = incidentRegistry) (found : incidentRegistry.get call.toolName = some definition)
    (valid : (definition.inputModel call.arguments).isSome = true)
    (known : ∀ rule ∈ plan, (incidentRegistry.get rule.toolName).isSome = true) : ∃ left output,
    course = dep.afterCall mode plan step rest (scriptedAttempts plan step call.toolName output (left + 1) number) ∧
      left ≤ 1 ∧ (left = 1 ↔ mode = .resilient ∧ number = 1) ∧ 0 < number ∧ (number ≠ 1 → number = 2 ∧ mode = .resilient ∧
        ∃ fault, plan.faultFor call.toolName 1 = some fault ∧ fault.transient = true) := by
  cases ahead with
  | again output _ _ resilient first passing =>
    exact ⟨0, output, rfl, by omega, by simp, by omega, fun _ => ⟨rfl, resilient, _, first, passing⟩⟩
  | fresh =>
    have found' : dep.registry.get call.toolName = some definition := incident ▸ found
    have known' : ∀ rule ∈ plan, (dep.registry.get rule.toolName).isSome = true := incident ▸ known
    obtain ⟨input, accepted⟩ := Option.isSome_iff_exists.mp valid
    have script : dep.scriptedStep mode plan step call = scriptedCall mode plan step definition call.toolName input :=
      scriptedStep_known found' accepted known'
    rw [scriptedCourse_call, script]
    cases mode with
    | fragile => exact ⟨0, _, rfl, by omega, by simp, by omega, fun later => absurd rfl later⟩
    | resilient =>
      have twice : definition.maxAttempts = 2 := incident_attempts found
      refine ⟨1, incidentOutput call.toolName input, ?_, by omega, by simp, by omega, fun later => absurd rfl later⟩
      unfold scriptedCall
      rw [twice]

end Course

/-- The run of the app ended like that. -/
def Ending.Shown : Ending → MobileRun → Prop
  | .succeeded action, run => run.status = .succeeded ∧ run.result = some (finishResult action)
  | .failed code _, run => run.status = .failed ∧ run.result = some [("code", .str code)]

theorem Ending.Shown.same {ending : Ending} {run other : MobileRun} (shown : ending.Shown run)
    (status : other.status = run.status) (result : other.result = run.result) : ending.Shown other := by
  cases ending <;> exact ⟨status.trans shown.1, result.trans shown.2⟩

/-- A scenario whose calls and faults name registered tools; arguments have no key twice. -/
structure Scenario.Registered (scenario : Scenario) : Prop where
  tools : ∀ call, .callTool call ∈ scenario.actions → (incidentRegistry.get call.toolName).isSome = true
  distinct : ∀ call, .callTool call ∈ scenario.actions → (call.arguments.map Prod.fst).Nodup
  faults : ∀ fault ∈ scenario.faults, (incidentRegistry.get fault.toolName).isSome = true

/-- No call meets transient faults twice in a row where it is tried again. -/
def Scenario.Steady (scenario : Scenario) (mode : Mode) : Prop :=
  mode = .resilient → ∀ tool first second, (scenarioFaultPlan scenario).faultFor tool 1 = some first →
    first.transient = true → (scenarioFaultPlan scenario).faultFor tool 2 = some second → second.transient = false

/-- The fingerprint of the action at a step. -/
def Scenario.printAt (scenario : Scenario) (sha256 : Json → String) (step : Nat) : Option String :=
  scenario.actions[step]?.map fun action => sha256 (Json.obj action.packaged).canonical

namespace RunRows
variable {sha256 : Json → String} {app : MobileApp} {supply : Supply} {rows next : RunRows} {dep : Deployment}
  {scenario : Scenario}

/-- A run of the app is over, and it is the course of its script that it took. -/
structure Finished (dep : Deployment) (scenario : Scenario) (rows : RunRows) : Prop where
  ended : rows.run.status.terminal = true
  marks : rows.marks = (dep.course scenario rows.run.mode).1
  ending : (dep.course scenario rows.run.mode).2.Shown rows.run

/-- A run of the app is on its way along the course of its script. -/
structure OnScript (sha256 : Json → String) (dep : Deployment) (scenario : Scenario) (rows : RunRows) : Prop where
  alive : rows.run.status.terminal = false
  here : rows.run.currentStep < scenario.actions.length
  ahead : ∃ course, dep.Ahead rows.run.mode (scenarioFaultPlan scenario) rows.run.currentStep rows.run.nextAttempt
      (scenario.actions.drop rows.run.currentStep) course ∧
    rows.marks ++ course.1 = (dep.course scenario rows.run.mode).1 ∧ course.2 = (dep.course scenario rows.run.mode).2
  decided : ∀ decision ∈ rows.decisions, decision.actionStep < rows.run.currentStep ∨
    decision.actionStep = rows.run.currentStep ∧
      scenario.printAt sha256 rows.run.currentStep = some decision.actionFingerprint
  paused : rows.run.status = .waitingApproval → ∀ pending, rows.run.pendingApproval = some pending →
    pending.actionStep = rows.run.currentStep ∧
      scenario.printAt sha256 rows.run.currentStep = some pending.actionFingerprint

/-- What the script of a run sees of it. -/
theorem OnScript.same (on : rows.OnScript sha256 dep scenario) (alive : next.run.status.terminal = false)
    (mode : next.run.mode = rows.run.mode) (step : next.run.currentStep = rows.run.currentStep)
    (attempt : next.run.nextAttempt = rows.run.nextAttempt) (marks : next.marks = rows.marks)
    (decided : ∀ decision ∈ next.decisions, decision ∈ rows.decisions ∨ decision.actionStep = rows.run.currentStep ∧
      scenario.printAt sha256 rows.run.currentStep = some decision.actionFingerprint)
    (paused : next.run.status = .waitingApproval → ∀ pending, next.run.pendingApproval = some pending →
      pending.actionStep = rows.run.currentStep ∧
        scenario.printAt sha256 rows.run.currentStep = some pending.actionFingerprint) :
    next.OnScript sha256 dep scenario where
  alive := alive
  here := step ▸ on.here
  ahead := by
    rw [mode, step, attempt, marks]
    exact on.ahead
  decided := by
    rw [step]
    exact fun decision listed => (decided decision listed).elim (on.decided decision) .inr
  paused := by
    rw [step]
    exact paused

/-- An attempt follows the script. -/
theorem OnScript.attempted {call : CallToolAction} {definition : ToolDefinition}
    (on : rows.OnScript sha256 dep scenario) (playable : scenario.Playable dep) (incident : dep.registry = incidentRegistry)
    (registered : scenario.Registered) (steady : scenario.Steady rows.run.mode)
    (there : scenario.actions[rows.run.currentStep]? = some (.callTool call))
    (found : incidentRegistry.get call.toolName = some definition)
    (valid : (definition.inputModel call.arguments).isSome = true) (going : rows.run.status ≠ .waitingApproval)
    (attempted : rows.Attempted call.toolName
      ((scenarioFaultPlan scenario).faultFor call.toolName rows.run.nextAttempt) next) :
    next.OnScript sha256 dep scenario ∨ next.Finished dep scenario := by
  obtain ⟨course, ahead, marks, ending⟩ := on.ahead
  rw [drop_of_getElem? there] at ahead
  have known : ∀ rule ∈ scenarioFaultPlan scenario, (incidentRegistry.get rule.toolName).isSome = true := by
    intro rule listed
    obtain ⟨fault, declared, rfl⟩ := List.mem_map.mp listed
    exact registered.faults fault declared
  obtain ⟨left, output, rfl, few, twice, counted, later⟩ := ahead.attempts incident found valid known
  cases chosen : (scenarioFaultPlan scenario).faultFor call.toolName rows.run.nextAttempt with
  | none =>
    rw [chosen] at attempted
    rw [scriptedAttempts_free chosen] at marks ending
    cases attempted with
    | through run decisions told =>
      have step : next.run.currentStep = rows.run.currentStep + 1 := by rw [run]
      have mode : next.run.mode = rows.run.mode := by rw [run]
      have attempt : next.run.nextAttempt = 1 := by rw [run]
      have status : next.run.status = rows.run.status := by rw [run]
      refine .inl ⟨status ▸ on.alive, step ▸ playable.next there, ?_, ?_, ?_⟩
      · rw [step, mode, attempt]
        refine ⟨_, .fresh _, ?_, ending⟩
        rw [told, List.append_assoc]
        exact marks
      · intro decision listed
        rw [decisions] at listed
        rw [step]
        rcases on.decided decision listed with before | ⟨now, -⟩
        · exact .inl (by omega)
        · exact .inl (by omega)
      · intro waiting
        exact absurd (status ▸ waiting) going
  | some fault =>
    rw [chosen] at attempted
    cases attempted with
    | again transient resilient early run decisions told =>
      -- a second failure in a row would be the last one of the desktop
      have first : rows.run.nextAttempt = 1 := by
        by_contra other
        obtain ⟨second, -, before, failed, passing⟩ := later other
        rw [second] at chosen
        rw [steady resilient _ _ _ failed passing chosen] at transient
        cases transient
      have more : left = 1 := twice.mpr ⟨resilient, first⟩
      subst more
      rw [scriptedAttempts_retried chosen (by simp [transient]), afterCall_marks] at marks ending
      have step : next.run.currentStep = rows.run.currentStep := by rw [run]
      have mode : next.run.mode = rows.run.mode := by rw [run]
      have attempt : next.run.nextAttempt = 2 := by rw [run, first]
      have status : next.run.status = rows.run.status := by rw [run]
      refine .inl ⟨status ▸ on.alive, step ▸ on.here, ?_, ?_, fun waiting => absurd (status ▸ waiting) going⟩
      · rw [step, mode, attempt, drop_of_getElem? there]
        rw [first] at marks ending chosen
        refine ⟨_, .again output found valid resilient chosen transient, ?_, ending⟩
        rw [told, List.append_assoc, first]
        exact marks
      · rw [decisions, step]
        exact on.decided
    | failed spent run decisions told =>
      have last : ¬ (fault.transient && left ≠ 0) = true := by
        intro again
        simp only [Bool.and_eq_true, decide_eq_true_eq, ne_eq] at again
        obtain ⟨resilient, first⟩ := twice.mp (by omega)
        exact spent ⟨again.1, resilient, by omega⟩
      rw [scriptedAttempts_failed chosen last] at marks ending
      have mode : next.run.mode = rows.run.mode := by rw [run]
      have coded : orText fault.code "tool_execution_failed" = fault.code := by
        obtain ⟨rule, -, -, -, rfl⟩ := FaultPlan.faultFor_some chosen
        cases rule.kind <;> simp [orText, faultCode]
      refine .inr ⟨by rw [run]; rfl, ?_, ?_⟩
      · rw [mode, ← marks, told]
        rfl
      · rw [mode, ← ending]
        show _ ∧ _
        rw [coded, run]
        exact ⟨rfl, rfl⟩

/-- What is ahead of a run is the end of its script. -/
theorem OnScript.last (ending : Ending) (on : rows.OnScript sha256 dep scenario)
    (course : ∀ {course}, dep.Ahead rows.run.mode (scenarioFaultPlan scenario) rows.run.currentStep rows.run.nextAttempt
      (scenario.actions.drop rows.run.currentStep) course → course = ([], ending))
    (stopped : next.run.status.terminal = true) (mode : next.run.mode = rows.run.mode) (told : next.marks = rows.marks)
    (shown : ending.Shown next.run) : next.Finished dep scenario := by
  obtain ⟨left, ahead, marks, same⟩ := on.ahead
  cases course ahead
  refine ⟨stopped, ?_, ?_⟩
  · rw [mode, ← marks, told]
    exact (List.append_nil _).symm
  · rw [mode, ← same]
    exact shown

/-- A call that its tool refuses ends the script, on the app as on the desktop. -/
theorem OnScript.refused {call : CallToolAction} {definition : ToolDefinition} (on : rows.OnScript sha256 dep scenario)
    (incident : dep.registry = incidentRegistry)
    (there : scenario.actions[rows.run.currentStep]? = some (.callTool call))
    (found : incidentRegistry.get call.toolName = some definition) (invalid : definition.inputModel call.arguments = none)
    (run : next.run = { rows.run with
      status := .failed, pendingApproval := none, result := some [("code", .str "invalid_input")] })
    (told : next.marks = rows.marks) : next.Finished dep scenario := by
  refine on.last (.failed "invalid_input" none) ?_ (by rw [run]; rfl) (by rw [run]) told (by rw [run]; exact ⟨rfl, rfl⟩)
  intro course ahead
  rw [drop_of_getElem? there] at ahead
  generalize rows.run.nextAttempt = number at ahead
  cases ahead with
  | again output found' valid =>
    rw [found] at found'
    cases found'
    rw [invalid] at valid
    cases valid
  | fresh =>
    have found' : dep.registry.get call.toolName = some definition := incident ▸ found
    have step : dep.scriptedStep rows.run.mode (scenarioFaultPlan scenario) rows.run.currentStep call =
        ([], .failed "invalid_input" 0 false) := by
      unfold Deployment.scriptedStep
      simp only [found', invalid]
    rw [scriptedCourse_failed step]
    rfl

theorem digest_ok {value : Json} {text : String} (digested : digest sha256 value = .ok text) :
    text = sha256 value.canonical := by
  unfold digest at digested
  split at digested
  · rename_i computed
    cases digested
    exact canonicalJsonDigest_eq computed
  · cases digested

/-- The turn of a call follows the script: it is refused, it waits for its approval, or it is attempted. -/
theorem OnScript.attempt {call : CallToolAction} (on : rows.OnScript sha256 dep scenario) (playable : scenario.Playable dep)
    (incident : dep.registry = incidentRegistry) (registered : scenario.Registered) (steady : scenario.Steady rows.run.mode)
    (allowed : ∀ decision ∈ rows.decisions, decision.allow = true)
    (there : scenario.actions[rows.run.currentStep]? = some (.callTool call)) (going : rows.run.status ≠ .waitingApproval)
    (attempted : rows.attempt sha256 supply scenario.packaged (AgentAction.callTool call).packaged = .ok next) :
    next.OnScript sha256 dep scenario ∨ next.Finished dep scenario := by
  have listed : .callTool call ∈ scenario.actions := List.mem_of_getElem? there
  obtain ⟨definition, found⟩ := Option.isSome_iff_exists.mp (registered.tools call listed)
  have distinct := registered.distinct call listed
  have name : item (.obj (AgentAction.callTool call).packaged) "tool_name" = .ok (.str call.toolName) :=
    AgentAction.packaged_item rfl rfl
  have arguments : item (.obj (AgentAction.callTool call).packaged) "arguments" =
      .ok (.obj (Json.canonicalItems call.arguments)) := AgentAction.packaged_item rfl rfl
  unfold RunRows.attempt at attempted
  simp only [name, arguments, toolInput_packaged found distinct, bind, Except.bind] at attempted
  cases valid : (definition.inputModel call.arguments).isSome with
  | false =>
    rw [valid] at attempted
    cases attempted
    refine .inr (on.refused incident there found (by simpa using valid) rfl ?_)
    exact (marks_quiet _ _ rfl).trans (marks_quiet _ _ rfl)
  | true =>
    rw [valid, if_pos rfl] at attempted
    obtain ⟨fingerprint, digested, attempted⟩ := Check.bind_ok.mp attempted
    have print : scenario.printAt sha256 rows.run.currentStep = some fingerprint := by
      rw [Scenario.printAt, there, digest_ok digested]
      rfl
    have goes : ∀ {ended : RunRows}, rows.performAttempt supply scenario.packaged (.str call.toolName)
        (.obj (Json.canonicalItems call.arguments)) fingerprint = .ok ended →
          ended.OnScript sha256 dep scenario ∨ ended.Finished dep scenario := fun performed =>
      on.attempted playable incident registered steady there found valid going
        (attempted_packaged found valid distinct performed)
    split at attempted
    · split at attempted
      · cases attempted
        -- the pause keeps the place, and holds the fingerprint of its action
        refine .inl (on.same rfl rfl rfl rfl (marks_quiet _ _ rfl) (fun _ => .inl) ?_)
        intro _ pending set
        cases set
        exact ⟨rfl, print⟩
      · rename_i decision given
        have stored := List.mem_of_find?_eq_some given
        have here : decision.actionStep = rows.run.currentStep := by simpa using List.find?_some given
        have matching : decision.actionFingerprint = fingerprint := by
          rcases on.decided decision stored with before | ⟨-, known⟩
          · omega
          · exact Option.some.inj (known.symm.trans print)
        rw [if_pos ⟨matching, allowed decision stored⟩] at attempted
        exact goes attempted
    · exact goes attempted

theorem announce_marks (action : Dict) : (rows.announce supply action).marks = rows.marks := by
  unfold announce
  split
  · rfl
  · exact marks_quiet _ _ rfl

/-- To announce the action that is due moves nothing. -/
theorem OnScript.announce (on : rows.OnScript sha256 dep scenario) (supply : Supply) (action : Dict) :
    (rows.announce supply action).OnScript sha256 dep scenario ∧
      (rows.announce supply action).run.status = rows.run.status ∧
      (rows.announce supply action).run.currentStep = rows.run.currentStep := by
  have marks : (rows.announce supply action).marks = rows.marks := announce_marks action
  have decisions := (announce_kept action : (rows.announce supply action).decisions = rows.decisions ∧ _).1
  obtain ⟨status, mode, step, attempt, pending⟩ : (rows.announce supply action).run.status = rows.run.status ∧
      (rows.announce supply action).run.mode = rows.run.mode ∧
      (rows.announce supply action).run.currentStep = rows.run.currentStep ∧
      (rows.announce supply action).run.nextAttempt = rows.run.nextAttempt ∧
      (rows.announce supply action).run.pendingApproval = rows.run.pendingApproval := by
    unfold RunRows.announce
    split <;> exact ⟨rfl, rfl, rfl, rfl, rfl⟩
  refine ⟨on.same (status ▸ on.alive) mode step attempt marks (decisions ▸ fun _ => .inl) ?_, status, step⟩
  rw [status, pending]
  exact on.paused

theorem canonical_strings (texts : List String) : (Json.arr (texts.map .str)).canonical = .arr (texts.map .str) := by
  show Json.arr (Json.canonicalList (texts.map .str)) = _
  rw [canonicalList_map]
  rfl

/-- What is due follows the script. -/
theorem OnScript.act (on : rows.OnScript sha256 dep scenario) (playable : scenario.Playable dep)
    (incident : dep.registry = incidentRegistry) (registered : scenario.Registered) (steady : scenario.Steady rows.run.mode)
    (allowed : ∀ decision ∈ rows.decisions, decision.allow = true) (going : rows.run.status ≠ .waitingApproval)
    (acted : rows.act sha256 supply scenario.packaged = .ok next) :
    next.OnScript sha256 dep scenario ∨ next.Finished dep scenario := by
  obtain ⟨action, there⟩ : ∃ action, scenario.actions[rows.run.currentStep]? = some action :=
    ⟨_, List.getElem?_eq_getElem on.here⟩
  have due : entry (.arr (scenario.actions.map fun action => .obj action.packaged)) rows.run.currentStep =
      .ok (some (.obj action.packaged)) := by
    simp only [entry, List.getElem?_map, there, Option.map_some]
  obtain ⟨told, status, step⟩ := on.announce supply action.packaged
  have kept := (announce_kept action.packaged :
    (rows.announce supply action.packaged).decisions = rows.decisions ∧ _)
  unfold RunRows.act at acted
  simp only [packaged_actions, due, bind, Except.bind] at acted
  have there' : scenario.actions[(rows.announce supply action.packaged).run.currentStep]? = some action := by
    rw [step, there]
  have script : ∀ {ending : Ending}, (∀ rest, dep.scriptedCourse (rows.announce supply action.packaged).run.mode
      (scenarioFaultPlan scenario) (rows.announce supply action.packaged).run.currentStep (action :: rest) = ([], ending)) →
      (∀ call, action ≠ .callTool call) → ∀ {course}, dep.Ahead (rows.announce supply action.packaged).run.mode
        (scenarioFaultPlan scenario) (rows.announce supply action.packaged).run.currentStep
        (rows.announce supply action.packaged).run.nextAttempt
        (scenario.actions.drop (rows.announce supply action.packaged).run.currentStep) course → course = ([], ending) := by
    intro ending ended other course ahead
    rw [drop_of_getElem? there'] at ahead
    generalize (rows.announce supply action.packaged).run.nextAttempt = number at ahead
    cases ahead with
    | fresh => exact ended _
    | again => exact absurd rfl (other _)
  cases action with
  | finish action =>
    have type : item (.obj (AgentAction.finish action).packaged) "type" = .ok (.str "finish") :=
      AgentAction.packaged_item rfl rfl
    have outcome : item (.obj (AgentAction.finish action).packaged) "outcome" = .ok (.str action.outcome) :=
      AgentAction.packaged_item rfl rfl
    have summary : item (.obj (AgentAction.finish action).packaged) "summary" = .ok (.str action.summary) :=
      AgentAction.packaged_item rfl rfl
    have evidence : item (.obj (AgentAction.finish action).packaged) "evidence_refs" =
        .ok (.arr (action.evidenceRefs.map .str)) := AgentAction.packaged_item rfl (canonical_strings _)
    have finish : named (.str "finish") "finish" = true := by decide
    simp only [type, finish, if_true, RunRows.finish, outcome, summary, evidence, bind, Except.bind] at acted
    cases acted
    exact .inr (told.last _ (script (fun _ => rfl) fun _ => AgentAction.noConfusion) rfl rfl (marks_quiet _ _ rfl) ⟨rfl, rfl⟩)
  | fail action =>
    have type : item (.obj (AgentAction.fail action).packaged) "type" = .ok (.str "fail") :=
      AgentAction.packaged_item rfl rfl
    have code : item (.obj (AgentAction.fail action).packaged) "code" = .ok (.str action.code) :=
      AgentAction.packaged_item rfl rfl
    have finish : named (.str "fail") "finish" = false := by decide
    have fail : named (.str "fail") "fail" = true := by decide
    simp only [type, finish, fail, if_true, Bool.false_eq_true, if_false, code] at acted
    cases acted
    exact .inr (told.last _ (script (fun _ => rfl) fun _ => AgentAction.noConfusion) rfl rfl (marks_quiet _ _ rfl) ⟨rfl, rfl⟩)
  | callTool call =>
    have type : item (.obj (AgentAction.callTool call).packaged) "type" = .ok (.str "call_tool") :=
      AgentAction.packaged_item rfl rfl
    have finish : named (.str "call_tool") "finish" = false := by decide
    have fail : named (.str "call_tool") "fail" = false := by decide
    simp only [type, finish, fail, Bool.false_eq_true, if_false] at acted
    refine told.attempt playable incident registered (kept.2 ▸ steady) ?_ there' (status ▸ going) acted
    rw [kept.1]
    exact allowed

/-- So does a round. -/
theorem OnScript.advance (on : rows.OnScript sha256 dep scenario) (playable : scenario.Playable dep)
    (incident : dep.registry = incidentRegistry) (registered : scenario.Registered) (steady : scenario.Steady rows.run.mode)
    (allowed : ∀ decision ∈ rows.decisions, decision.allow = true)
    (known : app.scenario? rows.run.scenarioId = some scenario.packaged)
    (advanced : rows.advance sha256 app supply = .ok next) :
    next.OnScript sha256 dep scenario ∨ next.Finished dep scenario := by
  by_cases settled : rows.settled = true
  · rw [advance_settled settled advanced]
    exact .inl on
  unfold RunRows.advance at advanced
  rw [if_neg settled] at advanced
  obtain ⟨declared, compatible, advanced⟩ := Check.bind_ok.mp advanced
  obtain ⟨acted, ended, advanced⟩ := Check.bind_ok.mp advanced
  cases advanced
  have same : declared = scenario.packaged := Option.some.inj ((compatibleScenario_ok.mp compatible).1.symm.trans known)
  subst same
  have going : rows.run.status ≠ .waitingApproval := by
    intro waiting
    simp [RunRows.settled, waiting] at settled
  have active : (rows.activate supply).OnScript sha256 dep scenario ∧
      (rows.activate supply).run.status ≠ .waitingApproval ∧ (rows.activate supply).run.mode = rows.run.mode ∧ (rows.activate supply).decisions = rows.decisions := by
    unfold activate
    split
    · exact ⟨on.same rfl rfl rfl rfl (marks_quiet _ _ rfl) (fun _ => .inl) fun waiting => MobileStatus.noConfusion waiting,
        MobileStatus.noConfusion, rfl, rfl⟩
    · exact ⟨on, going, rfl, rfl⟩
  obtain ⟨active, going', mode, decisions⟩ := active
  have acts := active.act playable incident registered (mode ▸ steady) (decisions ▸ allowed) going' ended
  refine acts.imp (fun on' => ?_) fun stopped => ⟨stopped.ended, stopped.marks, stopped.ending.same rfl rfl⟩
  exact on'.same on'.alive rfl rfl rfl rfl (fun _ => .inl) on'.paused

theorem decided_allowed {decision : MobileDecision} (supply : Supply) (allow : decision.allow = true) :
    (rows.decided supply decision).run = { rows.run with pendingApproval := none, status := .queued } ∧
      (rows.decided supply decision).marks = rows.marks ∧
      (rows.decided supply decision).decisions = rows.decisions ++ [decision] := by
  unfold RunRows.decided
  rw [if_pos allow]
  exact ⟨rfl, marks_quiet _ _ rfl, rfl⟩

/-- A decision that allows the action lets the script go on. -/
theorem OnScript.decide {decision : MobileDecision} (on : rows.OnScript sha256 dep scenario) (allow : decision.allow = true)
    (decided : rows.decide sha256 app supply decision = .ok next) : next.OnScript sha256 dep scenario := by
  rcases decide_cases decided with rfl | ⟨awaited, -, rfl⟩
  · exact on
  obtain ⟨pending, set, here, matching⟩ : ∃ pending, rows.run.pendingApproval = some pending ∧
      pending.actionStep = decision.actionStep ∧ pending.actionFingerprint = decision.actionFingerprint := by
    simpa [awaits, waiting_of_awaits awaited, Option.any_eq_true] using awaited
  obtain ⟨place, print⟩ := on.paused (waiting_of_awaits awaited) pending set
  obtain ⟨run, marks, decisions⟩ := (decided_allowed supply allow : (rows.decided supply decision).run = _ ∧ _)
  have fields : (rows.decided supply decision).run.status = .queued ∧
      (rows.decided supply decision).run.mode = rows.run.mode ∧
      (rows.decided supply decision).run.currentStep = rows.run.currentStep ∧
      (rows.decided supply decision).run.nextAttempt = rows.run.nextAttempt := by
    rw [run]
    exact ⟨rfl, rfl, rfl, rfl⟩
  obtain ⟨queued, mode, step, attempt⟩ := fields
  refine on.same (congrArg MobileStatus.terminal queued) mode step attempt marks ?_ fun waiting => ?_
  · intro other listed
    replace listed : other ∈ (rows.decided supply decision).decisions := listed
    rw [decisions] at listed
    rcases List.mem_append.mp listed with old | new
    · exact .inl old
    · cases List.mem_singleton.mp new
      exact .inr ⟨here.symm.trans place, matching ▸ print⟩
  · cases queued.symm.trans waiting

theorem Finished.settled (stopped : rows.Finished dep scenario) : rows.settled = true := by
  simp [RunRows.settled, stopped.ended]

/-- Nobody denied an action of the run: it follows its script. -/
def Scripted (sha256 : Json → String) (dep : Deployment) (scenario : Scenario) (key : Json) (rows : RunRows) : Prop :=
  rows.run.scenarioId = key → scenario.Steady rows.run.mode → (∀ decision ∈ rows.decisions, decision.allow = true) →
    rows.OnScript sha256 dep scenario ∨ rows.Finished dep scenario

theorem scripted_created (playable : scenario.Playable dep) (key given : Json) (reading : MobileReading) (hash : String)
    (mode : Mode) : (created supply (newRun reading given hash mode)).Scripted sha256 dep scenario key := by
  intro _ _ _
  have fresh : (created supply (newRun reading given hash mode)).marks = [] := marks_quiet _ _ rfl
  refine .inl ⟨rfl, List.length_pos_iff.mpr playable.started, ?_, ?_, fun waiting => MobileStatus.noConfusion waiting⟩
  · refine ⟨_, .fresh _, ?_, rfl⟩
    rw [fresh]
    rfl
  · intro decision listed
    cases listed

theorem Scripted.advance {key : Json} (playable : scenario.Playable dep) (incident : dep.registry = incidentRegistry)
    (registered : scenario.Registered) (known : app.scenario? key = some scenario.packaged)
    (scripted : rows.Scripted sha256 dep scenario key) (advanced : rows.advance sha256 app supply = .ok next) :
    next.Scripted sha256 dep scenario key := by
  obtain ⟨decisions, mode⟩ := advance_kept advanced
  obtain ⟨-, scenarioId, -, -⟩ : next.run.id = rows.run.id ∧ next.run.scenarioId = rows.run.scenarioId ∧
      next.run.scenarioHash = rows.run.scenarioHash ∧ next.run.engineVersion = rows.run.engineVersion := by
    simpa [MobileRun.origin] using advance_origin advanced
  intro same steady allowed
  rw [scenarioId] at same
  rw [mode] at steady
  rw [decisions] at allowed
  rcases scripted same steady allowed with on | stopped
  · exact on.advance playable incident registered steady allowed (same ▸ known) advanced
  · rw [advance_settled stopped.settled advanced]
    exact .inr stopped

theorem Scripted.decide {key : Json} {decision : MobileDecision} (scripted : rows.Scripted sha256 dep scenario key)
    (decided : rows.decide sha256 app supply decision = .ok next) : next.Scripted sha256 dep scenario key := by
  obtain ⟨-, scenarioId, -, -⟩ : next.run.id = rows.run.id ∧ next.run.scenarioId = rows.run.scenarioId ∧
      next.run.scenarioHash = rows.run.scenarioHash ∧ next.run.engineVersion = rows.run.engineVersion := by
    simpa [MobileRun.origin] using decide_origin decided
  rcases decide_cases decided with rfl | ⟨awaited, -, same⟩
  · exact scripted
  obtain ⟨decisions, mode⟩ : next.decisions = rows.decisions ++ [decision] ∧ next.run.mode = rows.run.mode := by
    rw [same]
    exact decided_kept decision
  intro same steady allowed
  rw [scenarioId] at same
  rw [mode] at steady
  rw [decisions, List.forall_mem_append, List.forall_mem_singleton] at allowed
  rcases scripted same steady allowed.1 with on | stopped
  · exact .inl (on.decide allowed.2 decided)
  · rw [decide_terminal stopped.ended decided]
    exact .inr stopped

end RunRows

section System
variable {sha256 : Json → String} {app : MobileApp} {dep : Deployment} {scenario : Scenario} {key : Json} {mode : Mode}
  {p : Pid} {s t : Site} {run : Run} {rows : RunRows}
  {w : World Nat MobileOp MobileOp.Answer MobileError (Nat × Json) MobileReading MobileStore}

theorem scripted_invariant (playable : scenario.Playable dep) (incident : dep.registry = incidentRegistry)
    (registered : scenario.Registered) (known : app.scenario? key = some scenario.packaged) :
    RowsInvariant sha256 app (RunRows.Scripted sha256 dep scenario key) where
  created := RunRows.scripted_created playable key _ _ _ _
  advance := RunRows.Scripted.advance playable incident registered known
  decide := RunRows.Scripted.decide

end System

namespace Sample

/-- An app whose package holds the recovery from a timeout, as the desktop declares it. -/
def recoveryApp : MobileApp where
  scenarios := (.str oneFault.id, oneFault.packaged) :: ["one", "two", "three", "four", "five"].map fun id =>
    (.str id, [("id", .str id), ("actions", .arr [finishAction]), ("faults", .arr [])])
  suiteHash := hash .null
  metadata := metadata
  six := rfl
  dicts := by decide +kernel

def recovered : MobileStore :=
  (recoveryApp.serve hash readings
    [.startRun [] (.obj [("scenario_id", .str oneFault.id), ("mode", .str "resilient")])] (0, .empty)).2

theorem recovered_reachable :
    Machine.Reachable (mobileSystem hash (· = recoveryApp)) (⟨recovered, fun _ => .idle⟩ :
      World Nat MobileOp MobileOp.Answer MobileError (Nat × Json) MobileReading MobileStore) :=
  reachable_serve readings _ (.init (M := mobileSystem hash (· = recoveryApp)) (s := MobileStore.empty) rfl)

end Sample

end ReliabilityLab
