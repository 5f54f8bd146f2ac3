import ReliabilityLab.Runtime.ScriptedCalls

namespace ReliabilityLab

/-- How a scripted run ends. -/
inductive Ending where
  | succeeded (action : FinishAction)
  | failed (code : String) (explanation : Option String)

/-- The run ended like that. -/
def Ending.Of : Ending → Run → Prop
  | .succeeded action, run => run.status = .succeeded ∧ run.result = some (finishResult action)
  | .failed code explanation, run => run.status = .failed ∧ run.result = some (failurePayload code explanation)

namespace Deployment
variable (dep : Deployment) (mode : Mode) (plan : FaultPlan)

/-- What the tool call at one step of a script comes to, once it is approved. -/
def scriptedStep (step : Nat) (action : CallToolAction) : List TraceMark × ToolCallResult :=
  match dep.registry.get action.toolName with
  | none => ([], .failed "unknown_tool" 0 false)
  | some definition =>
    match definition.inputModel action.arguments with
    | none => ([], .failed "invalid_input" 0 false)
    | some input =>
      if plan.any fun rule => (dep.registry.get rule.toolName).isNone then ([], .failed "invalid_fault_plan" 0 false)
      else scriptedCall mode plan step definition action.toolName input

/-- What the actions of a script from `step` on leave in the trace, and how they end, with everything approved. -/
def scriptedCourse : Nat → List AgentAction → List TraceMark × Ending
  | _, [] => ([], .failed "policy_error" (some "PolicyExhaustedError"))
  | _, .finish action :: _ => ([], .succeeded action)
  | _, .fail action :: _ => ([], .failed action.code (some action.explanation))
  | step, .callTool action :: rest =>
    match dep.scriptedStep mode plan step action with
    | (marks, .failed code _ _) => (marks, .failed (orText code "tool_execution_failed") none)
    | (marks, .succeeded _ _ _) =>
      let later := scriptedCourse (step + 1) rest
      (marks ++ later.1, later.2)

end Deployment

/-- The idempotency key that an action brings along. -/
def AgentAction.key? : AgentAction → Option String
  | .callTool action => action.idempotencyKey
  | _ => none

/-- A script that ends by itself, within the budget, whose calls bring their keys along, each key once. -/
structure Scenario.Playable (scenario : Scenario) (dep : Deployment) : Prop where
  distinct : (scenario.actions.filterMap AgentAction.key?).Nodup
  keyed : ∀ action, .callTool action ∈ scenario.actions → ∀ run, dep.stabilizeAction run action = action
  printable : ∀ action ∈ scenario.actions, Json.printableItems action.modelDump = true
  started : scenario.actions ≠ []
  ends : ∀ action, scenario.actions.getLast? ≠ some (.callTool action)
  budget : scenario.actions.length ≤ dep.maxActionSteps
  context : Json.printableItems scenario.initialContext = true

/-- The run follows its script: what is left of it leads to these marks and to this ending. -/
structure OnCourse (dep : Deployment) (scenario : Scenario) (id : Uuid) (marks : List TraceMark) (ending : Ending)
    (slate : Slate) : Prop where
  same : slate.run.id = id
  written : slate.run.Written
  scenarioId : slate.run.scenarioId = scenario.id
  policy : slate.run.policyName = "scripted"
  within : slate.run.currentStep < scenario.actions.length
  undecided : ∀ step, slate.run.currentStep < step → slate.approvals step = none
  unused : ∀ action, .callTool action ∈ scenario.actions.drop slate.run.currentStep → ∀ key,
    action.idempotencyKey = some key → slate.Unused key
  course : slate.marks ++ (dep.scriptedCourse slate.run.mode (scenarioFaultPlan scenario) slate.run.currentStep
      (scenario.actions.drop slate.run.currentStep)).1 = marks
  ending : (dep.scriptedCourse slate.run.mode (scenarioFaultPlan scenario) slate.run.currentStep
      (scenario.actions.drop slate.run.currentStep)).2 = ending

/-- Where an execution of the script stops: at its end, or before an action, from step `least` on, that waits
for its approval. -/
inductive Halted (dep : Deployment) (scenario : Scenario) (id : Uuid) (marks : List TraceMark) (ending : Ending)
    (least : Nat) (slate : Slate) : Prop
  | ended : slate.run.id = id → slate.marks = marks → ending.Of slate.run → Halted dep scenario id marks ending least slate
  | paused (action : CallToolAction) : least ≤ slate.run.currentStep → OnCourse dep scenario id marks ending slate →
      slate.run.status = .waitingApproval → slate.run.pendingApproval = true → slate.run.pendingAction = some action →
      slate.run.pendingActionFingerprint = some (dep.actionFingerprint action) →
      scenario.actions[slate.run.currentStep]? = some (.callTool action) →
      slate.run.policyCallsStarted ≤ slate.run.currentStep + 1 → slate.approvals slate.run.currentStep = none →
      Halted dep scenario id marks ending least slate

variable {dep : Deployment} {scenario : Scenario} {id : Uuid} {p : Pid} {marks : List TraceMark} {ending : Ending}
  {slate : Slate} {s : Site}

/-- A change of the run that keeps its place in the script. -/
theorem OnCourse.withRun (course : OnCourse dep scenario id marks ending slate) (run : Run) (same : run.id = slate.run.id)
    (written : run.Written) (scenarioId : run.scenarioId = slate.run.scenarioId)
    (policy : run.policyName = slate.run.policyName) (step : run.currentStep = slate.run.currentStep)
    (mode : run.mode = slate.run.mode) : OnCourse dep scenario id marks ending (slate.withRun run) := by
  refine ⟨same.trans course.same, written, scenarioId.trans course.scenarioId, policy.trans course.policy, ?_, ?_, ?_, ?_, ?_⟩
  · exact step ▸ course.within
  · intro later after
    exact course.undecided later (step ▸ after)
  · intro action listed
    exact course.unused action (step ▸ listed)
  · simp only [Slate.withRun, step, mode]
    exact course.course
  · simp only [Slate.withRun, step, mode]
    exact course.ending

section Script
variable {mode : Mode} {plan : FaultPlan} {step : Nat} {action : CallToolAction}

/-- A refused call leaves no mark. -/
theorem scriptedStep_refused (mode : Mode) (step : Nat) {refused : ToolCallResult} (stable : ∀ run, dep.stabilizeAction run action = action)
    (refusal : dep.refusal action plan = some refused) :
    ∃ code, refused = .failed code 0 false ∧ code ≠ "" ∧ dep.scriptedStep mode plan step action = ([], refused) := by
  unfold Deployment.refusal at refusal
  unfold Deployment.scriptedStep
  cases found : dep.registry.get action.toolName with
  | none =>
    rw [found] at refusal
    cases refusal
    exact ⟨_, rfl, by decide, rfl⟩
  | some definition =>
    rw [found] at refusal
    simp only at refusal ⊢
    cases valid : definition.inputModel action.arguments with
    | none =>
      rw [valid] at refusal
      cases refusal
      exact ⟨_, rfl, by decide, rfl⟩
    | some input =>
      rw [valid] at refusal
      simp only at refusal ⊢
      split_ifs at refusal with unknown keyed
      · cases refusal
        rw [if_pos unknown]
        exact ⟨_, rfl, by decide, rfl⟩
      · have attached := stable (Run.new 0 0 "" mode)
        simp only [Bool.and_eq_true, Option.isNone_iff_eq_none] at keyed
        unfold Deployment.stabilizeAction at attached
        simp only [found, keyed.1, keyed.2, Option.isSome_none, Bool.not_true, Bool.or_self, Bool.false_eq_true,
          if_false] at attached
        have key := congrArg CallToolAction.idempotencyKey attached
        rw [keyed.2] at key
        cases key

theorem scriptedStep_passed (mode : Mode) (step : Nat) {definition : ToolDefinition} {input : Dict} (passed : dep.refusal action plan = none)
    (found : dep.registry.get action.toolName = some definition)
    (valid : definition.inputModel action.arguments = some input) : dep.scriptedStep mode plan step action =
      scriptedCall mode plan step definition action.toolName input := by
  unfold Deployment.refusal at passed
  unfold Deployment.scriptedStep
  rw [found] at passed ⊢
  simp only [valid] at passed ⊢
  split_ifs at passed with unknown keyed
  rw [if_neg unknown]

theorem scriptedCourse_failed {rest : List AgentAction} {left : List TraceMark} {code : String} {attempts : Nat}
    {retryable : Bool} (failed : dep.scriptedStep mode plan step action = (left, .failed code attempts retryable)) :
    dep.scriptedCourse mode plan step (.callTool action :: rest) =
      (left, .failed (orText code "tool_execution_failed") none) := by
  rw [Deployment.scriptedCourse, failed]

theorem scriptedCourse_succeeded {rest : List AgentAction} {left : List TraceMark} {output : Json} {attempts : Nat}
    {cached : Bool} (succeeded : dep.scriptedStep mode plan step action = (left, .succeeded output attempts cached)) :
    dep.scriptedCourse mode plan step (.callTool action :: rest) =
      (left ++ (dep.scriptedCourse mode plan (step + 1) rest).1, (dep.scriptedCourse mode plan (step + 1) rest).2) := by
  rw [Deployment.scriptedCourse, succeeded]

end Script

theorem drop_of_getElem? {α : Type} {items : List α} {step : Nat} {item : α} (there : items[step]? = some item) :
    items.drop step = item :: items.drop (step + 1) := by
  obtain ⟨within, same⟩ := List.getElem?_eq_some_iff.mp there
  rw [List.drop_eq_getElem_cons within, same]

/-- A run on its course is at some action of the script. -/
theorem OnCourse.action (course : OnCourse dep scenario id marks ending slate) :
    ∃ action, scenario.actions[slate.run.currentStep]? = some action :=
  ⟨_, List.getElem?_eq_getElem course.within⟩

/-- A script does not end with a call. -/
theorem Scenario.Playable.next (playable : scenario.Playable dep) {step : Nat} {action : CallToolAction}
    (there : scenario.actions[step]? = some (.callTool action)) : step + 1 < scenario.actions.length := by
  obtain ⟨within, -⟩ := List.getElem?_eq_some_iff.mp there
  by_contra beyond
  have last : step = scenario.actions.length - 1 := by omega
  refine playable.ends action ?_
  rw [List.getLast?_eq_getElem?, ← last]
  exact there

/-- No later call uses a key again. -/
theorem Scenario.Playable.apart (playable : scenario.Playable dep) {step : Nat} {action later : CallToolAction} {key : String}
    (there : scenario.actions[step]? = some (.callTool action)) (after : .callTool later ∈ scenario.actions.drop (step + 1))
    (keyed : later.idempotencyKey = some key) : action.idempotencyKey ≠ some key := by
  intro own
  have rest := playable.distinct.sublist ((List.drop_sublist step scenario.actions).filterMap AgentAction.key?)
  rw [drop_of_getElem? there, List.filterMap_cons_some (show AgentAction.key? (.callTool action) = some key from own)] at rest
  exact (List.nodup_cons.mp rest).1 (List.mem_filterMap.mpr ⟨_, after, keyed⟩)

theorem Scenario.Playable.printableStep (playable : scenario.Playable dep) {step : Nat}
    (within : step ≤ scenario.actions.length) : (Json.int step).printable = true := by
  have budget := playable.budget
  have most := dep.steps_range.2
  unfold maxActionStepsLimit at most
  exact printable_number (by omega)

/-- The checkpoint of a successful call leads to the next action. -/
theorem OnCourse.advance (course : OnCourse dep scenario id marks ending slate) (playable : scenario.Playable dep)
    {action : CallToolAction} {left : List TraceMark} {output : Json} {attempts : Nat} {cached : Bool} {called : Slate}
    (there : scenario.actions[slate.run.currentStep]? = some (.callTool action))
    (script : dep.scriptedStep slate.run.mode (scenarioFaultPlan scenario) slate.run.currentStep action =
      (left, .succeeded output attempts cached)) (after : slate.Called action left called) (clean : output.printable = true) :
    OnCourse dep scenario id marks ending (called.withRun ((slate.run.checkpointed output).bumped slate.run)) := by
  have next := playable.next there
  have dropped := drop_of_getElem? there
  have follows := course.course
  have final := course.ending
  rw [dropped, scriptedCourse_succeeded script] at follows final
  refine ⟨course.same, ⟨checkpointed_dumpable course.written clean, ?_⟩, course.scenarioId, course.policy, next, ?_, ?_, ?_, final⟩
  · exact playable.printableStep next
  · intro step later
    have earlier : slate.run.currentStep < step := Nat.lt_of_succ_lt later
    exact (congrFun after.approvals step).trans (course.undecided step earlier)
  · intro other listed key keyed
    have apart := playable.apart there listed keyed
    have unused := course.unused other (by rw [dropped]; exact List.mem_cons_of_mem _ listed) key keyed
    exact ⟨(after.claims key apart).trans unused.1, (after.tokens key apart).trans unused.2⟩
  · show called.marks ++ _ = marks
    rw [after.marks, List.append_assoc]
    exact follows

theorem finishResult_printable (action : FinishAction) : Json.printableItems (finishResult action) = true := by
  have texts : ∀ items : List String, Json.printableList (items.map .str) = true := by
    intro items
    induction items with
    | nil => rfl
    | cons first rest ih => exact ih
  simp only [finishResult, Json.printableItems, Json.printable, texts, Bool.and_self]

theorem pausedOn_dumpable {run : Run} {action : CallToolAction} {fingerprint : String} (written : run.Written)
    (printable : Json.printableItems action.arguments = true) : (run.pausedOn action fingerprint).dumpable = true := by
  have whole := written.dumpable
  simp only [Run.dumpable, Bool.and_eq_true] at whole ⊢
  exact ⟨⟨whole.1.1, printable⟩, whole.2⟩

/-- A program of a party that is alone with the run: it comes back, and with this. -/
abbrev Plays (dep : Deployment) (p : Pid) (id : Uuid) {α : Type} (program : Prog α) (Q : α → Site → Prop) (s : Site) : Prop :=
  Recovers dep p id (fun _ => True) program Q (fun _ _ => False) s

section Execution
variable {owner : Uuid} {Q : Run → Site → Prop} {least : Nat}

theorem plays_terminalFailure {code : String} {explanation : Option String} {nextStep : Bool}
    (live : Live dep p id (.owned owner) slate s) (same : slate.run.id = id) (written : slate.run.Written)
    (running : slate.run.status = .running)
    (done : ∀ t, Live dep p id (.owned owner) (slate.withRun
      ((slate.run.failedWith (failurePayload code explanation) nextStep).bumped slate.run)) t →
        Q ((slate.run.failedWith (failurePayload code explanation) nextStep).bumped slate.run) t) :
    Plays dep p id (dep.terminalFailure slate.run code explanation owner nextStep) Q s := by
  have legal : slate.run.transition .failed = .ok { slate.run with status := .failed } := by
    simp [Run.transition, running, allowedTransitions]
  unfold Deployment.terminalFailure
  simp only [legal, Program.bind_eq, Program.ofExcept_ok, Program.ret_bind]
  exact recovers_saveWithEvent (fun _ _ => trivial) live same (failedWith_dumpable written) rfl rfl
    (failurePayload_printable code explanation) done

/-- The reservation of a policy call. -/
theorem plays_reserve (live : Live dep p id (.owned owner) slate s) (same : slate.run.id = id) (written : slate.run.Written)
    (done : ∀ t, Live dep p id (.owned owner) (slate.withRun (slate.run.reserved.bumped slate.run)) t →
      Q (slate.run.reserved.bumped slate.run) t) :
    Plays dep p id (save slate.run.reserved slate.run owner) Q s :=
  recovers_saveRunOwned (fun _ _ => trivial) live same written.dumpable rfl done

/-- An approval that is missing pauses the run. -/
theorem plays_pause {action : CallToolAction} {Q : Option Run → Site → Prop} (live : Live dep p id (.owned owner) slate s)
    (same : slate.run.id = id) (written : slate.run.Written) (running : slate.run.status = .running)
    (printable : Json.printableItems action.arguments = true) (asked : dep.requiresApproval action = true)
    (undecided : slate.approvals slate.run.currentStep = none)
    (done : ∀ t, Live dep p id (.owned owner)
      (slate.withRun ((slate.run.pausedOn action (dep.actionFingerprint action)).bumped slate.run)) t →
        Q (some ((slate.run.pausedOn action (dep.actionFingerprint action)).bumped slate.run)) t) :
    Plays dep p id (dep.reviewAction slate.run action owner) Q s := by
  have legal : slate.run.transition .waitingApproval = .ok { slate.run with status := .waitingApproval } := by
    simp [Run.transition, running, allowedTransitions]
  have payload : Json.printableItems [("tool_name", .str action.toolName), ("step", .int slate.run.currentStep),
      ("action_fingerprint", .str (dep.actionFingerprint action))] = true := by
    have text : ∀ value, (Json.str value).printable = true := fun _ => rfl
    simp only [Json.printableItems, text, written.current, Bool.and_self]
  unfold Deployment.reviewAction
  simp only [asked, if_true, Program.bind_eq, same]
  refine Program.obeys_bind.mpr (recovers_getApproval (fun _ _ => trivial) live fun t here => ?_)
  rw [undecided]
  simp only [legal, Program.ofExcept_ok, Program.ret_bind]
  exact Program.obeys_bind.mpr (recovers_saveWithEvent (fun _ _ => trivial) here same (pausedOn_dumpable written printable) rfl rfl
    payload done)

/-- An action that needs no approval, or has it, goes through. -/
theorem plays_reviewAction {action : CallToolAction} {Q : Option Run → Site → Prop}
    (live : Live dep p id (.owned owner) slate s) (same : slate.run.id = id) (approved : dep.Approved slate action)
    (done : ∀ t, Live dep p id (.owned owner) slate t → Q none t) :
    Plays dep p id (dep.reviewAction slate.run action owner) Q s := by
  unfold Deployment.reviewAction
  by_cases asked : dep.requiresApproval action = true
  · obtain ⟨row, stored, named, allowed⟩ := approved asked
    simp only [asked, if_true, Program.bind_eq, same]
    refine Program.obeys_bind.mpr (recovers_getApproval (fun _ _ => trivial) live fun t here => ?_)
    rw [stored]
    simp only [named, allowed, ne_eq, not_true_eq_false, if_false]
    exact done t here
  · rw [if_neg asked]
    exact done s live

theorem plays_checkpoint {Q : Progress Run → Site → Prop} {output : Json} {attempts : Nat} {cached : Bool}
    (live : Live dep p id (.owned owner) slate s) (same : slate.run.id = id) (written : slate.run.Written)
    (clean : output.printable = true) (few : attempts ≤ maxToolAttempts)
    (done : ∀ t, Live dep p id (.owned owner) (slate.withRun ((slate.run.checkpointed output).bumped slate.run)) t →
      Q (.continued ((slate.run.checkpointed output).bumped slate.run)) t) :
    Plays dep p id (dep.settleResult slate.run owner (.succeeded output attempts cached)) Q s := by
  have inside : (Json.obj (slate.run.contextWith output)).printable = true := by
    rw [Json.printable]
    exact printable_contextWith written clean
  simp only [Deployment.settleResult, canonicalJsonDigest, clean, inside, if_true, Program.bind_eq, Program.ofExcept_ok,
    Program.ret_bind]
  exact Program.obeys_bind.mpr (recovers_saveWithEvent (fun _ _ => trivial) live same
    (checkpointed_dumpable written clean) rfl rfl (checkpointPayload_printable written few) done)

theorem plays_failure {Q : Progress Run → Site → Prop} {code : String} {attempts : Nat} {retryable : Bool}
    (live : Live dep p id (.owned owner) slate s) (same : slate.run.id = id) (written : slate.run.Written)
    (running : slate.run.status = .running)
    (done : ∀ t, Live dep p id (.owned owner) (slate.withRun ((slate.run.failedWith
      (failurePayload (orText code "tool_execution_failed") none) false).bumped slate.run)) t →
        Q (.stopped ((slate.run.failedWith (failurePayload (orText code "tool_execution_failed") none) false).bumped
          slate.run)) t) :
    Plays dep p id (dep.settleResult slate.run owner (.failed code attempts retryable)) Q s := by
  simp only [Deployment.settleResult, Program.bind_eq]
  exact Program.obeys_bind.mpr (plays_terminalFailure live same written running done)

/-- The execution has stopped, and hands over the stored run. -/
def HaltsAt (dep : Deployment) (p : Pid) (id : Uuid) (scenario : Scenario) (marks : List TraceMark) (ending : Ending)
    (least : Nat) (owner : Uuid) (run : Run) (t : Site) : Prop :=
  ∃ halted, Live dep p id (.owned owner) halted t ∧ run = halted.run ∧ Halted dep scenario id marks ending least halted

/-- The run is about to choose its next action. -/
structure Ready (slate : Slate) : Prop where
  running : slate.run.status = .running
  unset : slate.run.pendingAction = none
  budget : slate.run.policyCallsStarted ≤ slate.run.currentStep
  undecided : slate.approvals slate.run.currentStep = none

/-- One action later. -/
def StepsOn (dep : Deployment) (p : Pid) (id : Uuid) (scenario : Scenario) (marks : List TraceMark) (ending : Ending)
    (least : Nat) (owner : Uuid) (step : Nat) : Progress Run → Site → Prop
  | .stopped run, t => HaltsAt dep p id scenario marks ending least owner run t
  | .continued run, t => ∃ later, Live dep p id (.owned owner) later t ∧ run = later.run ∧
      OnCourse dep scenario id marks ending later ∧ Ready later ∧ later.run.currentStep = step

/-- The action at the run's step, carried out: the run fails, pauses or goes on, as its script says. -/
theorem plays_executeTool (incident : dep.Incident) (playable : scenario.Playable dep) {action : CallToolAction}
    (live : Live dep p id (.owned owner) slate s) (course : OnCourse dep scenario id marks ending slate)
    (running : slate.run.status = .running) (budget : slate.run.policyCallsStarted ≤ slate.run.currentStep + 1)
    (there : scenario.actions[slate.run.currentStep]? = some (.callTool action))
    (decided : slate.approvals slate.run.currentStep = none ∧ least ≤ slate.run.currentStep ∨ dep.Approved slate action) :
    Plays dep p id (dep.executeTool slate.run action scenario owner)
      (StepsOn dep p id scenario marks ending least owner (slate.run.currentStep + 1)) s := by
  have listed : .callTool action ∈ scenario.actions := List.mem_of_getElem? there
  have stable := playable.keyed action listed
  have follows := course.course
  have final := course.ending
  rw [drop_of_getElem? there] at follows final
  unfold Deployment.executeTool
  simp only [stable, preflight_unchecked, Program.bind_eq, Program.ret_bind]
  cases refusal : dep.refusal action (scenarioFaultPlan scenario) with
  | some refused =>
    obtain ⟨code, rfl, named, script⟩ := scriptedStep_refused slate.run.mode slate.run.currentStep stable refusal
    rw [scriptedCourse_failed script] at follows final
    have text : ∀ other, orText code other = code := fun _ => if_neg named
    have payload : Json.printableItems [("action_step", .int slate.run.currentStep), ("tool_name", .str action.toolName),
        ("action_fingerprint", .str (dep.actionFingerprint action)), ("code", .str code)] = true := by
      have plain : ∀ value, (Json.str value).printable = true := fun _ => rfl
      simp only [Json.printableItems, plain, course.written.current, Bool.and_self]
    simp only [text] at final ⊢
    refine Program.obeys_bind.mpr (recovers_record (fun _ _ => trivial) live rfl rfl payload fun t here => ?_)
    refine Program.obeys_bind.mpr (plays_terminalFailure here course.same course.written running fun t ended => ?_)
    have all : slate.marks = marks := (List.append_nil _).symm.trans follows
    exact ⟨_, ended, rfl, .ended course.same all (by rw [← final]; exact ⟨rfl, rfl⟩)⟩
  | none =>
    obtain ⟨definition, input, found, valid, -⟩ := refusal_none refusal
    have passed := scriptedStep_passed slate.run.mode slate.run.currentStep refusal found valid
    have rest : .callTool action ∈ scenario.actions.drop slate.run.currentStep := by
      rw [drop_of_getElem? there]
      exact List.mem_cons_self
    by_cases approved : dep.Approved slate action
    · refine Program.obeys_bind.mpr (plays_reviewAction live course.same approved fun t here => ?_)
      refine Program.obeys_bind.mpr (recovers_call incident (fun _ _ _ _ _ _ _ => trivial) here course.same course.written
        (stable _) approved refusal found valid (course.unused action rest) fun left result script called u after effect => ?_)
      have step := passed.trans script
      have written : called.run.Written := effect.run ▸ course.written
      have same : called.run.id = id := effect.run ▸ course.same
      cases result with
      | failed code attempts retryable =>
        rw [scriptedCourse_failed step] at follows final
        have all : called.marks = marks := effect.marks.trans follows
        rw [← effect.run]
        refine plays_failure after same written (effect.run ▸ running) fun v ended => ?_
        exact ⟨_, ended, rfl, .ended same all (by rw [← final]; exact ⟨rfl, rfl⟩)⟩
      | succeeded output attempts cached =>
        obtain ⟨returned, few⟩ := scriptedCall_succeeded script
        have clean : output.printable = true := by
          rw [incident.registry] at found
          rw [returned]
          exact incidentOutput_printable found valid
        have onward := course.advance playable there step effect clean
        rw [← effect.run] at onward ⊢
        refine plays_checkpoint after same written clean few fun v saved => ?_
        have open' : called.approvals (called.run.currentStep + 1) = none := by
          rw [effect.approvals, effect.run]
          exact course.undecided _ (Nat.lt_succ_self _)
        rw [← effect.run] at running budget
        exact ⟨_, saved, rfl, onward, ⟨running, rfl, budget, open'⟩, rfl⟩
    · obtain ⟨asked, -⟩ := Classical.not_imp.mp approved
      obtain ⟨undecided, later⟩ := decided.resolve_right approved
      have printable : Json.printableItems action.arguments = true := by
        have whole := playable.printable _ listed
        simp only [AgentAction.modelDump, CallToolAction.modelDump, Json.printableItems, Json.printable, Bool.and_eq_true] at whole
        exact whole.2.2.1
      refine Program.obeys_bind.mpr (plays_pause live course.same course.written running printable asked undecided
        fun t paused => ?_)
      have dumpable : (slate.run.pausedOn action (dep.actionFingerprint action)).dumpable = true :=
        pausedOn_dumpable course.written printable
      have waits := course.withRun ((slate.run.pausedOn action (dep.actionFingerprint action)).bumped slate.run) rfl
        ⟨dumpable, course.written.step⟩ rfl rfl rfl rfl
      exact ⟨_, paused, rfl, .paused action later waits rfl rfl rfl rfl there budget undecided⟩

/-- An action of the script is announced and carried out. -/
theorem plays_takeAction (incident : dep.Incident) (playable : scenario.Playable dep) {action : AgentAction}
    (live : Live dep p id (.owned owner) slate s) (course : OnCourse dep scenario id marks ending slate)
    (running : slate.run.status = .running) (budget : slate.run.policyCallsStarted ≤ slate.run.currentStep + 1)
    (there : scenario.actions[slate.run.currentStep]? = some action)
    (decided : slate.approvals slate.run.currentStep = none ∧ least ≤ slate.run.currentStep ∨
      ∃ call, action = .callTool call ∧ dep.Approved slate call) :
    Plays dep p id (dep.takeAction slate.run action scenario owner)
      (StepsOn dep p id scenario marks ending least owner (slate.run.currentStep + 1)) s := by
  have payload : Json.printableItems (Dict.set action.modelDump "action_step" (.int slate.run.currentStep)) = true :=
    Json.printable_set (playable.printable action (List.mem_of_getElem? there)) _ course.written.current
  have follows := course.course
  have final := course.ending
  rw [drop_of_getElem? there] at follows final
  unfold Deployment.takeAction
  simp only [Program.bind_eq]
  refine Program.obeys_bind.mpr (recovers_record (fun _ _ => trivial) live rfl rfl payload fun t here => ?_)
  cases action with
  | finish action =>
    have legal : slate.run.transition .succeeded = .ok { slate.run with status := .succeeded } := by
      simp [Run.transition, running, allowedTransitions]
    have dumpable : (slate.run.succeededWith action).dumpable = true := by
      simp only [Run.dumpable, Bool.and_eq_true]
      exact ⟨⟨course.written.context, rfl⟩, finishResult_printable action⟩
    simp only [legal, Program.ofExcept_ok, Program.ret_bind]
    refine Program.obeys_bind.mpr (recovers_saveWithEvent (fun _ _ => trivial) here course.same dumpable rfl rfl
      (finishResult_printable action) fun u ended => ?_)
    have all : slate.marks = marks := (List.append_nil _).symm.trans follows
    exact ⟨_, ended, rfl, .ended course.same all (by rw [← final]; exact ⟨rfl, rfl⟩)⟩
  | fail action =>
    refine Program.obeys_bind.mpr (plays_terminalFailure here course.same course.written running fun u ended => ?_)
    have all : slate.marks = marks := (List.append_nil _).symm.trans follows
    exact ⟨_, ended, rfl, .ended course.same all (by rw [← final]; exact ⟨rfl, rfl⟩)⟩
  | callTool action =>
    refine plays_executeTool incident playable here course running budget there (decided.imp_right ?_)
    rintro ⟨_, same, approved⟩
    cases same
    exact approved

/-- The policy is asked for the action of the step, within the budget. -/
theorem plays_chooseAction (playable : scenario.Playable dep) {policyName : String} {action : AgentAction}
    {Q : Progress (Run × AgentAction) → Site → Prop} (live : Live dep p id (.owned owner) slate s)
    (course : OnCourse dep scenario id marks ending slate) (ready : Ready slate)
    (there : scenario.actions[slate.run.currentStep]? = some action)
    (done : ∀ t, Live dep p id (.owned owner) (slate.withRun (slate.run.reserved.bumped slate.run)) t →
      Q (.continued (slate.run.reserved.bumped slate.run, action)) t) :
    Plays dep p id (dep.chooseAction slate.run scenario policyName owner) Q s := by
  have used : slate.run.budgetUsed = slate.run.currentStep := max_eq_left ready.budget
  have left : ¬ slate.run.budgetUsed ≥ dep.maxActionSteps := by
    have budget := playable.budget
    have within := course.within
    omega
  have chosen : scriptedPolicy (slate.run.reserved.bumped slate.run) scenario = .ok action := by
    simp only [scriptedPolicy, Run.bumped, Run.reserved, there]
  unfold Deployment.chooseAction
  simp only [ready.unset, if_neg left, Program.bind_eq]
  refine Program.obeys_bind.mpr (plays_reserve live course.same course.written fun t reserved => ?_)
  refine Program.obeys_bind.mpr (recovers_nextAction (fun _ _ => trivial) reserved fun u here => ?_)
  rw [chosen]
  exact done u here

/-- The loop of `execute` follows the script to a halt. -/
theorem plays_executeLoop (incident : dep.Incident) (playable : scenario.Playable dep) {policyName : String} (turns : Nat)
    (live : Live dep p id (.owned owner) slate s) (course : OnCourse dep scenario id marks ending slate)
    (ready : Ready slate) (enough : scenario.actions.length ≤ slate.run.currentStep + turns)
    (from' : least ≤ slate.run.currentStep) :
    Plays dep p id (dep.executeLoop scenario policyName owner turns slate.run)
      (HaltsAt dep p id scenario marks ending least owner) s := by
  induction turns generalizing slate s with
  | zero =>
    have within := course.within
    omega
  | succ turns ih =>
    obtain ⟨action, there⟩ := course.action
    unfold Deployment.executeLoop
    simp only [ready.running, if_true, Program.bind_eq]
    refine Program.obeys_bind.mpr (plays_chooseAction playable live course ready there fun t reserved => ?_)
    have goes := course.withRun (slate.run.reserved.bumped slate.run) rfl
      ⟨course.written.dumpable, course.written.step⟩ rfl rfl rfl rfl
    have used : slate.run.budgetUsed = slate.run.currentStep := max_eq_left ready.budget
    have budget : (slate.run.reserved.bumped slate.run).policyCallsStarted ≤ slate.run.currentStep + 1 := by
      show slate.run.budgetUsed + 1 ≤ slate.run.currentStep + 1
      omega
    have taken := plays_takeAction incident playable reserved goes ready.running budget there
      (.inl ⟨ready.undecided, from'⟩)
    refine Program.obeys_bind.mpr (taken.mono (fun progress u stepped => ?_) fun _ _ raised => raised)
    cases progress with
    | stopped run => exact stepped
    | continued run =>
      obtain ⟨later, here, rfl, onward, again, next⟩ := stepped
      have step : later.run.currentStep = slate.run.currentStep + 1 := next
      exact ih here onward again (by omega) (by omega)

theorem plays_beginExecution (live : Live dep p id (.owned owner) slate s) (same : slate.run.id = id)
    (written : slate.run.Written) (stopped : slate.run.status = .queued ∨ slate.run.status = .waitingApproval)
    (done : ∀ t, Live dep p id (.owned owner) (slate.withRun (slate.run.started.bumped slate.run)) t →
      Q (slate.run.started.bumped slate.run) t) :
    Plays dep p id (dep.beginExecution slate.run owner) Q s := by
  have legal : slate.run.transition .running = .ok { slate.run with status := .running } := by
    rcases stopped with queued | waiting
    · simp [Run.transition, queued, allowedTransitions]
    · simp [Run.transition, waiting, allowedTransitions]
  unfold Deployment.beginExecution
  rw [if_pos stopped]
  simp only [legal, Program.bind_eq, Program.ofExcept_ok, Program.ret_bind]
  exact recovers_saveWithEvent (fun _ _ => trivial) live same written.dumpable rfl rfl rfl done

/-- A fresh run, executed. -/
theorem plays_execute_queued (incident : dep.Incident) (playable : scenario.Playable dep) (policyName : String)
    (live : Live dep p id (.owned owner) slate s) (course : OnCourse dep scenario id marks ending slate)
    (queued : slate.run.status = .queued) (unset : slate.run.pendingAction = none)
    (budget : slate.run.policyCallsStarted ≤ slate.run.currentStep)
    (undecided : slate.approvals slate.run.currentStep = none) : Plays dep p id
      (dep.execute slate.run scenario policyName owner) (HaltsAt dep p id scenario marks ending 0 owner) s := by
  unfold Deployment.execute
  simp only [Program.bind_eq]
  refine Program.obeys_bind.mpr (plays_beginExecution live course.same course.written (.inl queued) fun t begun => ?_)
  have goes := course.withRun (slate.run.started.bumped slate.run) rfl
    ⟨course.written.dumpable, course.written.step⟩ rfl rfl rfl rfl
  have enough : scenario.actions.length ≤ slate.run.currentStep + (dep.maxActionSteps + 2) := by
    have most := playable.budget
    omega
  exact plays_executeLoop incident playable _ begun goes ⟨rfl, unset, budget, undecided⟩ enough (Nat.zero_le _)

/-- A paused run whose action has been approved, executed. -/
theorem plays_execute_approved (incident : dep.Incident) (playable : scenario.Playable dep) (policyName : String)
    {action : CallToolAction} (live : Live dep p id (.owned owner) slate s)
    (course : OnCourse dep scenario id marks ending slate) (waiting : slate.run.status = .waitingApproval)
    (set : slate.run.pendingAction = some action) (budget : slate.run.policyCallsStarted ≤ slate.run.currentStep + 1)
    (there : scenario.actions[slate.run.currentStep]? = some (.callTool action)) (approved : dep.Approved slate action) :
    Plays dep p id (dep.execute slate.run scenario policyName owner)
      (HaltsAt dep p id scenario marks ending (slate.run.currentStep + 1) owner) s := by
  unfold Deployment.execute
  simp only [Program.bind_eq]
  refine Program.obeys_bind.mpr (plays_beginExecution live course.same course.written (.inr waiting) fun t begun => ?_)
  have goes := course.withRun (slate.run.started.bumped slate.run) rfl
    ⟨course.written.dumpable, course.written.step⟩ rfl rfl rfl rfl
  have running : (slate.run.started.bumped slate.run).status = .running := rfl
  have pending : (slate.run.started.bumped slate.run).pendingAction = some action := set
  have taken : Plays dep p id (dep.takeAction (slate.run.started.bumped slate.run) (.callTool action) scenario owner)
      (StepsOn dep p id scenario marks ending (slate.run.currentStep + 1) owner (slate.run.currentStep + 1)) t :=
    plays_takeAction incident playable begun goes running budget there (.inr ⟨action, rfl, approved⟩)
  unfold Deployment.executeLoop Deployment.chooseAction
  simp only [running, pending, if_true, Program.bind_eq, Program.ret_bind]
  refine Program.obeys_bind.mpr (taken.mono (fun progress u stepped => ?_) fun _ _ raised => raised)
  cases progress with
  | stopped run => exact stepped
  | continued run =>
    obtain ⟨later, here, rfl, onward, again, next⟩ := stepped
    have most := playable.budget
    have step : later.run.currentStep = slate.run.currentStep + 1 := next
    exact plays_executeLoop incident playable _ here onward again (by omega) (by omega)

end Execution

end ReliabilityLab
