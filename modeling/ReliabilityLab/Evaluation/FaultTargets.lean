import ReliabilityLab.Evaluation.FrozenScripts
import ReliabilityLab.Evaluation.Models

namespace ReliabilityLab

def AgentAction.calls (toolName : String) : AgentAction → Bool
  | .callTool action => action.toolName = toolName
  | _ => false

/-- The steps at which the scenario calls the tool. -/
def Scenario.callSteps (scenario : Scenario) (toolName : String) : List Nat :=
  (scenario.actions.zipIdx.filter fun entry => entry.1.calls toolName).map (·.2)

/-- `_validate_fault_targets` on the rules that are left. -/
def validateFaultRules (scenario : Scenario) :
    List (Nat × String × Nat × FaultType) → List ScenarioFault → Except String Unit
  | _, [] => .ok ()
  | seen, rule :: rest =>
    match scenario.callSteps rule.toolName with
    | [step] =>
      if (step, rule.toolName, rule.attempt, rule.type) ∈ seen then
        .error ("duplicate fault rule: " ++ scenario.id ++ "/" ++ rule.toolName)
      else if 1 < rule.attempt then
        .error ("fault unreachable in fragile mode: " ++ scenario.id ++ "/" ++ rule.toolName)
      else validateFaultRules scenario ((step, rule.toolName, rule.attempt, rule.type) :: seen) rest
    | _ => .error ("fault target must match exactly one action: " ++ scenario.id ++ "/" ++ rule.toolName)

/-- `_validate_fault_targets`. -/
def validateFaultTargets (scenario : Scenario) : Except String Unit := validateFaultRules scenario [] scenario.faults

def declaredFault (scenario : Scenario) (rule : ScenarioFault) : Except Exn FaultEvidence :=
  match scenario.callSteps rule.toolName with
  | step :: _ =>
    if sound : rule.toolName ≠ "" ∧ 1 ≤ rule.attempt then
      .ok ⟨step, rule.toolName, rule.attempt, rule.type, sound.1, sound.2⟩
    else .error .validationError
  | [] => .error (.other "StopIteration")

/-- `_declared_fault_evidence`. -/
def declaredFaultEvidence (scenario : Scenario) : Except Exn (List FaultEvidence) :=
  scenario.faults.mapM (declaredFault scenario)

def FaultType.named (text : String) : Option FaultType :=
  [FaultType.timeout, .rateLimit, .toolError, .malformedOutput].find? (·.value = text)

/-- The evidence of one injected fault; numbers are written as integers and names as texts. -/
def observedFault (event : EventContent) : Except Exn FaultEvidence :=
  match event.payload with
  | .obj payload =>
    match payload.lookup "action_step", payload.lookup "tool_name", payload.lookup "attempt", payload.lookup "kind" with
    | some (.int step), some (.str toolName), some (.int attempt), some (.str kind) =>
      match FaultType.named kind with
      | some kind =>
        if sound : 0 ≤ step ∧ toolName ≠ "" ∧ 1 ≤ attempt then
          .ok ⟨step.toNat, toolName, attempt.toNat, kind, sound.2.1, by omega⟩
        else .error .validationError
      | none => .error .validationError
    | some _, some _, some _, some _ => .error .validationError
    | _, _, _, _ => .error .lookupError
  | _ => .error (.other "EvaluationInfrastructureError")

/-- `_observed_fault_evidence`. -/
def observedFaultEvidence (events : List EventContent) : Except Exn (List FaultEvidence) :=
  (events.filter (·.eventType = .faultInjected)).mapM observedFault

/-- The fault evidence check of `_grade_case`. -/
def checkFaultEvidence (scenario : Scenario) (events : List EventContent) : Except Exn Unit := do
  let declared ← declaredFaultEvidence scenario
  let observed ← observedFaultEvidence events
  if declared.isPerm observed then pure () else .error (.other "EvaluationInfrastructureError")

/-- The marks of injected faults. -/
def injected (marks : List TraceMark) : List TraceMark := marks.filter (·.eventType = .faultInjected)

/-- The events of injected faults are those with the marks of injected faults. -/
theorem injected_events (events : List EventContent) :
    (events.filter (·.eventType = .faultInjected)).map EventContent.mark =
      (injected (events.filterMap EventContent.mark)).map some := by
  induction events with
  | nil => rfl
  | cons event rest ih =>
    by_cases faulty : event.eventType = .faultInjected
    · have shown : event.mark = some ⟨event.eventType, event.field "action_step", event.field "tool_name",
          event.field "attempt", event.field "kind"⟩ := if_pos (by rw [faulty]; rfl)
      rw [List.filter_cons_of_pos (by simpa using faulty), List.filterMap_cons_some shown, injected,
        List.filter_cons_of_pos (by simpa using faulty), List.map_cons, List.map_cons, ih, shown]
      rfl
    · rw [List.filter_cons_of_neg (by simpa using faulty), ih]
      cases shown : event.mark with
      | none => rw [List.filterMap_cons_none shown]
      | some mark =>
        have other : mark.eventType ≠ .faultInjected := by
          unfold EventContent.mark at shown
          split at shown
          · cases shown
            exact faulty
          · cases shown
        rw [List.filterMap_cons_some shown, injected, injected, List.filter_cons_of_neg (by simpa using other)]

def ScenarioFault.event (rule : ScenarioFault) : FaultEvent :=
  ⟨rule.toolName, rule.attempt, rule.type.kind, faultCode rule.type.kind, rule.type.kind ≠ .malformedOutput⟩

theorem observedFault_mark {event : EventContent} {step : Nat} {rule : ScenarioFault} (named : rule.toolName ≠ "")
    (positive : 1 ≤ rule.attempt) (shown : event.mark = some (faultMark step rule.event)) :
    observedFault event = .ok ⟨step, rule.toolName, rule.attempt, rule.type, named, positive⟩ := by
  have kinds : FaultType.named rule.type.kind.value = some rule.type := by cases rule.type <;> rfl
  unfold EventContent.mark at shown
  split at shown
  · simp only [faultMark, ScenarioFault.event, Option.some.injEq, TraceMark.mk.injEq] at shown
    obtain ⟨-, stepped, tool, attempt, kind⟩ := shown
    unfold EventContent.field at stepped tool attempt kind
    unfold observedFault
    cases payload : event.payload with
    | obj items =>
      simp only [payload, Json.obj?, Option.bind_some] at stepped tool attempt kind
      have sound : (0 : Int) ≤ step ∧ rule.toolName ≠ "" ∧ (1 : Int) ≤ rule.attempt := ⟨by omega, named, by omega⟩
      simp only [stepped, tool, attempt, kind, kinds, dif_pos sound, Int.toNat_natCast]
    | _ =>
      rw [payload] at stepped
      cases stepped
  · cases shown

/-- Reading a list of evidence keeps its length. -/
theorem mapM_length {α β : Type} {f : α → Except Exn β} {items : List α} {read : List β}
    (done : items.mapM f = .ok read) : read.length = items.length := by
  induction items generalizing read with
  | nil =>
    cases done
    rfl
  | cons first rest ih =>
    rw [List.mapM_cons] at done
    cases one : f first with
    | error error =>
      rw [one] at done
      cases done
    | ok value =>
      cases others : rest.mapM f with
      | error error =>
        rw [one, others] at done
        cases done
      | ok values =>
        rw [one, others] at done
        cases done
        rw [List.length_cons, List.length_cons, ih others]

theorem observed_length {events : List EventContent} {observed : List FaultEvidence}
    (read : observedFaultEvidence events = .ok observed) :
    observed.length = (injected (events.filterMap EventContent.mark)).length := by
  have same := congrArg List.length (injected_events events)
  rw [List.length_map, List.length_map] at same
  exact (mapM_length read).trans same

theorem observed_nil {events : List EventContent} (none : injected (events.filterMap EventContent.mark) = []) :
    observedFaultEvidence events = .ok [] := by
  have silent := injected_events events
  rw [none, List.map_nil, List.map_eq_nil_iff] at silent
  rw [observedFaultEvidence, silent]
  rfl

theorem observed_single {events : List EventContent} {step : Nat} {rule : ScenarioFault} (named : rule.toolName ≠ "")
    (positive : 1 ≤ rule.attempt)
    (one : injected (events.filterMap EventContent.mark) = [faultMark step rule.event]) :
    observedFaultEvidence events = .ok [⟨step, rule.toolName, rule.attempt, rule.type, named, positive⟩] := by
  have single := injected_events events
  rw [one, List.map_singleton] at single
  obtain ⟨event, rest, split, shown, none⟩ := List.map_eq_cons_iff.mp single
  cases List.map_eq_nil_iff.mp none
  rw [observedFaultEvidence, split, List.mapM_cons, observedFault_mark named positive shown]
  rfl

section Script
variable {dep : Deployment} {mode : Mode} {plan : FaultPlan} {step left : Nat} {tool : String} {output : Json}
  {fault : FaultEvent} {actions : List AgentAction} {call : CallToolAction}

theorem injected_append (first later : List TraceMark) : injected (first ++ later) = injected first ++ injected later :=
  List.filter_append ..

theorem injected_failedMarks {number : Nat} : injected (failedMarks step tool number fault) = [faultMark step fault] := rfl

/-- Only the first attempt can be hit by a rule for the first attempt. -/
theorem injected_attempts_hit (early : ∀ rule ∈ plan, rule.attempt = 1) (chosen : plan.faultFor tool 1 = some fault) :
    injected (scriptedAttempts plan step tool output (left + 1) 1).1 = [faultMark step fault] := by
  by_cases again : (fault.transient && left ≠ 0) = true
  · obtain ⟨more, rfl⟩ : ∃ more, left = more + 1 := by
      have positive : left ≠ 0 := by simpa using (Bool.and_eq_true_iff.mp again).2
      exact Nat.exists_eq_succ_of_ne_zero positive
    have free : plan.faultFor tool 2 = none := by
      refine FaultPlan.faultFor_none.mpr fun rule member _ => ?_
      rw [early rule member]
      decide
    rw [scriptedAttempts_retried chosen again, injected_append, injected_failedMarks, scriptedAttempts_free free]
    rfl
  · rw [scriptedAttempts_failed chosen again, injected_failedMarks]

/-- A fragile call is over with its first fault. -/
theorem fragile_attempts (marks : List TraceMark) (result : ToolCallResult)
    (script : scriptedAttempts plan step tool output 1 1 = (marks, result)) :
    injected marks = [] ∨ (injected marks).length = 1 ∧ ∃ code attempts retryable, result = .failed code attempts retryable := by
  cases chosen : plan.faultFor tool 1 with
  | none =>
    rw [scriptedAttempts_free chosen] at script
    cases script
    exact .inl rfl
  | some fault =>
    have spent : ¬ (fault.transient && 0 ≠ 0) = true := by simp
    rw [scriptedAttempts_failed chosen spent] at script
    cases script
    exact .inr ⟨rfl, _, _, _, rfl⟩

theorem fragile_step (marks : List TraceMark) (result : ToolCallResult)
    (script : dep.scriptedStep .fragile plan step call = (marks, result)) :
    injected marks = [] ∨ (injected marks).length = 1 ∧ ∃ code attempts retryable, result = .failed code attempts retryable := by
  unfold Deployment.scriptedStep at script
  split at script
  · cases script
    exact .inl rfl
  · split at script
    · cases script
      exact .inl rfl
    · split at script
      · cases script
        exact .inl rfl
      · exact fragile_attempts marks result script

/-- A fragile run is over with its first fault. -/
theorem fragile_course : (injected (dep.scriptedCourse .fragile plan step actions).1).length ≤ 1 := by
  induction actions generalizing step with
  | nil => exact Nat.zero_le 1
  | cons action rest ih =>
    cases action with
    | finish action => exact Nat.zero_le 1
    | fail action => exact Nat.zero_le 1
    | callTool call =>
      cases script : dep.scriptedStep .fragile plan step call with
      | mk marks result =>
        have hit := fragile_step marks result script
        cases result with
        | failed code attempts retryable =>
          rw [scriptedCourse_failed script]
          rcases hit with silent | ⟨one, -⟩
          · rw [silent]
            exact Nat.zero_le 1
          · exact one.le
        | succeeded output attempts cached =>
          rw [scriptedCourse_succeeded script, injected_append]
          rcases hit with silent | ⟨-, code, attempts, retryable, failed⟩
          · rw [silent]
            exact ih
          · cases failed

section Sound
variable {definition : ToolDefinition} {input : Dict}

/-- A call that is let through is attempted. -/
theorem scriptedStep_sound (mode : Mode) (step : Nat) (found : dep.registry.get call.toolName = some definition)
    (valid : definition.inputModel call.arguments = some input)
    (known : ∀ rule ∈ plan, (dep.registry.get rule.toolName).isSome) :
    ∃ left, dep.scriptedStep mode plan step call =
      scriptedAttempts plan step call.toolName (incidentOutput call.toolName input) (left + 1) 1 := by
  have admitted : ¬ (plan.any fun rule => (dep.registry.get rule.toolName).isNone) = true := by
    intro unknown
    obtain ⟨rule, member, none⟩ := List.any_eq_true.mp unknown
    have some := known rule member
    rw [Option.isNone_iff_eq_none.mp none] at some
    cases some
  have range := definition.attempts_range.1
  unfold Deployment.scriptedStep
  simp only [found, valid]
  rw [if_neg admitted]
  unfold scriptedCall
  cases mode with
  | fragile => exact ⟨0, rfl⟩
  | resilient =>
    obtain ⟨left, same⟩ := Nat.exists_eq_add_of_le' range
    exact ⟨left, by rw [same]⟩

/-- A call that is let through and not hit succeeds. -/
theorem step_free (found : dep.registry.get call.toolName = some definition)
    (valid : definition.inputModel call.arguments = some input)
    (known : ∀ rule ∈ plan, (dep.registry.get rule.toolName).isSome)
    (free : plan.faultFor call.toolName 1 = none) : ∃ marks output attempts cached,
      dep.scriptedStep mode plan step call = (marks, .succeeded output attempts cached) ∧ injected marks = [] := by
  obtain ⟨left, same⟩ := scriptedStep_sound mode step found valid known
  rw [same, scriptedAttempts_free free]
  exact ⟨_, _, _, _, rfl, rfl⟩

theorem step_hit (found : dep.registry.get call.toolName = some definition)
    (valid : definition.inputModel call.arguments = some input)
    (known : ∀ rule ∈ plan, (dep.registry.get rule.toolName).isSome) (early : ∀ rule ∈ plan, rule.attempt = 1)
    (chosen : plan.faultFor call.toolName 1 = some fault) :
    injected (dep.scriptedStep mode plan step call).1 = [faultMark step fault] := by
  obtain ⟨left, same⟩ := scriptedStep_sound mode step found valid known
  rw [same]
  exact injected_attempts_hit early chosen

end Sound

/-- A call that is not hit gets nothing injected, however it ends. -/
theorem step_silent (free : plan.faultFor call.toolName 1 = none) :
    injected (dep.scriptedStep mode plan step call).1 = [] := by
  unfold Deployment.scriptedStep
  split
  · rfl
  · rename_i definition found
    split
    · rfl
    · split
      · rfl
      · have range := definition.attempts_range.1
        obtain ⟨left, same⟩ := Nat.exists_eq_add_of_le' range
        unfold scriptedCall
        cases mode with
        | fragile => rw [scriptedAttempts_free free]; rfl
        | resilient => rw [same, scriptedAttempts_free free]; rfl

/-- Nothing is injected into calls that no rule names. -/
theorem course_silent (other : ∀ call, .callTool call ∈ actions → ∀ rule ∈ plan, rule.toolName ≠ call.toolName) :
    injected (dep.scriptedCourse mode plan step actions).1 = [] := by
  induction actions generalizing step with
  | nil => rfl
  | cons action rest ih =>
    have later : injected (dep.scriptedCourse mode plan (step + 1) rest).1 = [] :=
      ih fun call listed => other call (List.mem_cons_of_mem _ listed)
    cases action with
    | finish action => rfl
    | fail action => rfl
    | callTool call =>
      have free : plan.faultFor call.toolName 1 = none :=
        FaultPlan.faultFor_none.mpr fun rule member same => absurd same (other call List.mem_cons_self rule member)
      have silent : injected (dep.scriptedStep mode plan step call).1 = [] := step_silent free
      cases script : dep.scriptedStep mode plan step call with
      | mk marks result =>
        rw [script] at silent
        cases result with
        | failed code attempts retryable =>
          rw [scriptedCourse_failed script]
          exact silent
        | succeeded output attempts cached =>
          rw [scriptedCourse_succeeded script, injected_append, silent, later]
          rfl

/-- A rule for the first attempt of one call is injected there, when the calls before it go through. -/
theorem course_single {rule : FaultRule} {before : List CallToolAction} {rest : List AgentAction}
    (first : rule.attempt = 1) (own : rule.toolName = call.toolName)
    (sound : ∀ other ∈ before ++ [call], ∃ definition input, dep.registry.get other.toolName = some definition ∧
      definition.inputModel other.arguments = some input)
    (earlier : ∀ other ∈ before, rule.toolName ≠ other.toolName)
    (later : ∀ other, .callTool other ∈ rest → rule.toolName ≠ other.toolName) :
    injected (dep.scriptedCourse mode [rule] step (before.map .callTool ++ .callTool call :: rest)).1 =
      [faultMark (step + before.length) ⟨rule.toolName, 1, rule.kind, faultCode rule.kind, rule.kind ≠ .malformedOutput⟩] := by
  have known : ∀ other ∈ [rule], (dep.registry.get other.toolName).isSome := by
    intro other member
    obtain ⟨definition, _, found, -⟩ := sound call (by simp)
    rw [List.mem_singleton.mp member, own, found]
    rfl
  have early : ∀ other ∈ [rule], other.attempt = 1 := by
    intro other member
    rw [List.mem_singleton.mp member, first]
  induction before generalizing step with
  | nil =>
    obtain ⟨definition, input, found, valid⟩ := sound call (by simp)
    have chosen : FaultPlan.faultFor [rule] call.toolName 1 =
        some ⟨rule.toolName, 1, rule.kind, faultCode rule.kind, rule.kind ≠ .malformedOutput⟩ := by
      simp [FaultPlan.faultFor, FaultRule.faultFor, own, first]
    have hit : injected (dep.scriptedStep mode [rule] step call).1 = _ := step_hit found valid known early chosen
    have silent : injected (dep.scriptedCourse mode [rule] (step + 1) rest).1 = [] := by
      refine course_silent fun other listed some member => ?_
      rw [List.mem_singleton.mp member]
      exact later other listed
    rw [List.map_nil, List.nil_append, List.length_nil, Nat.add_zero]
    cases script : dep.scriptedStep mode [rule] step call with
    | mk marks result =>
      rw [script] at hit
      cases result with
      | failed code attempts retryable =>
        rw [scriptedCourse_failed script]
        exact hit
      | succeeded output attempts cached =>
        rw [scriptedCourse_succeeded script, injected_append, silent, List.append_nil]
        exact hit
  | cons other before ih =>
    obtain ⟨definition, input, found, valid⟩ := sound other (by simp)
    have free : FaultPlan.faultFor [rule] other.toolName 1 = none := by
      refine FaultPlan.faultFor_none.mpr fun one member same => absurd same ?_
      rw [List.mem_singleton.mp member]
      exact earlier other List.mem_cons_self
    obtain ⟨marks, output, attempts, cached, script, silent⟩ := step_free found valid known free
    have reached : injected (dep.scriptedCourse mode [rule] (step + 1) (before.map .callTool ++ .callTool call :: rest)).1 =
        [faultMark (step + 1 + before.length)
          ⟨rule.toolName, 1, rule.kind, faultCode rule.kind, rule.kind ≠ .malformedOutput⟩] :=
      ih (fun one listed => sound one (List.mem_cons_of_mem _ listed))
        fun one listed => earlier one (List.mem_cons_of_mem _ listed)
    rw [List.map_cons, List.cons_append, scriptedCourse_succeeded script, injected_append, silent, List.nil_append, reached,
      List.length_cons, Nat.add_right_comm, Nat.add_assoc step]

end Script

end ReliabilityLab
