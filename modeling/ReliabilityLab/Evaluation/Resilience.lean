import ReliabilityLab.Evaluation.FaultEvidence

namespace ReliabilityLab

/-- The attempts of a tool fail for a while, until this one goes through. -/
structure FaultPlan.Through (plan : FaultPlan) (tool : String) (first last : Nat) : Prop where
  order : first ≤ last
  free : plan.faultFor tool last = none
  passing : ∀ number, first ≤ number → number < last → ∃ fault, plan.faultFor tool number = some fault ∧ fault.transient = true

section Attempts
variable {plan : FaultPlan} {step number left last : Nat} {tool : String} {output : Json}

theorem FaultPlan.Through.next (through : plan.Through tool number last) (later : number ≠ last) :
    plan.Through tool (number + 1) last := by
  have order := through.order
  refine ⟨by omega, through.free, fun other after before => ?_⟩
  exact through.passing other (by omega) before

/-- The retry loop succeeds with the first attempt that goes through. -/
theorem scriptedAttempts_through (through : plan.Through tool number last) (within : last < number + left) :
    (scriptedAttempts plan step tool output left number).2 = .succeeded output last false := by
  induction left generalizing number with
  | zero =>
    have order := through.order
    omega
  | succ left ih =>
    by_cases arrived : number = last
    · subst arrived
      rw [scriptedAttempts_free through.free]
    · have order := through.order
      obtain ⟨fault, chosen, transient⟩ := through.passing number le_rfl (by omega)
      have again : (fault.transient && left ≠ 0) = true := by
        have more : left ≠ 0 := by omega
        simp [transient, more]
      rw [scriptedAttempts_retried chosen again]
      exact ih (through.next arrived) (by omega)

/-- A success of the retry loop is the success of an attempt that goes through. -/
theorem through_of_scriptedAttempts {returned : Json} {cached : Bool}
    (succeeded : (scriptedAttempts plan step tool output left number).2 = .succeeded returned last cached) :
    plan.Through tool number last ∧ last < number + left := by
  induction left generalizing number with
  | zero => cases succeeded
  | succ left ih =>
    cases chosen : plan.faultFor tool number with
    | none =>
      rw [scriptedAttempts_free chosen] at succeeded
      cases succeeded
      refine ⟨⟨le_rfl, chosen, fun other after before => ?_⟩, by omega⟩
      omega
    | some fault =>
      by_cases again : (fault.transient && left ≠ 0) = true
      · rw [scriptedAttempts_retried chosen again] at succeeded
        obtain ⟨later, within⟩ := ih succeeded
        have order := later.order
        refine ⟨⟨by omega, later.free, fun other after before => ?_⟩, by omega⟩
        by_cases here : other = number
        · subst here
          have transient : fault.transient = true := (Bool.and_eq_true_iff.mp again).1
          exact ⟨fault, chosen, transient⟩
        · exact later.passing other (by omega) before
      · rw [scriptedAttempts_failed chosen again] at succeeded
        cases succeeded

end Attempts

/-- How many attempts a mode grants to a call. -/
def grantedAttempts (mode : Mode) (definition : ToolDefinition) : Nat :=
  match mode with
  | .fragile => 1
  | .resilient => definition.maxAttempts

/-- The call is let through, and one of its attempts goes through before they are used up. -/
def Deployment.Lasts (dep : Deployment) (mode : Mode) (plan : FaultPlan) (call : CallToolAction) : Prop :=
  ∃ definition, dep.registry.get call.toolName = some definition ∧ (definition.inputModel call.arguments).isSome = true ∧
    (∀ rule ∈ plan, (dep.registry.get rule.toolName).isSome = true) ∧
    ∃ number, number ≤ grantedAttempts mode definition ∧ plan.Through call.toolName 1 number

section Scripts
variable {dep : Deployment} {mode : Mode} {plan : FaultPlan} {step : Nat} {call : CallToolAction}
  {actions : List AgentAction} {last : FinishAction}

theorem scriptedStep_lasts (lasts : dep.Lasts mode plan call) : ∃ output count,
    (dep.scriptedStep mode plan step call).2 = .succeeded output count false := by
  obtain ⟨definition, found, valid, known, number, granted, through⟩ := lasts
  obtain ⟨input, valid⟩ := Option.isSome_iff_exists.mp valid
  have admitted : ¬ (plan.any fun rule => (dep.registry.get rule.toolName).isNone) = true := by
    intro unknown
    obtain ⟨rule, member, none⟩ := List.any_eq_true.mp unknown
    have some := known rule member
    rw [Option.isNone_iff_eq_none.mp none] at some
    cases some
  unfold Deployment.scriptedStep
  simp only [found, valid]
  rw [if_neg admitted]
  have succeeded : (scriptedAttempts plan step call.toolName (incidentOutput call.toolName input)
      (grantedAttempts mode definition) 1).2 = .succeeded (incidentOutput call.toolName input) number false :=
    scriptedAttempts_through through (by omega)
  exact ⟨_, number, succeeded⟩

theorem lasts_of_scriptedStep {output : Json} {count : Nat} {cached : Bool}
    (succeeded : (dep.scriptedStep mode plan step call).2 = .succeeded output count cached) : dep.Lasts mode plan call := by
  unfold Deployment.scriptedStep at succeeded
  split at succeeded
  · cases succeeded
  · rename_i definition found
    split at succeeded
    · cases succeeded
    · rename_i input valid
      split at succeeded
      · cases succeeded
      · rename_i admitted
        have known : ∀ rule ∈ plan, (dep.registry.get rule.toolName).isSome = true := by
          intro rule member
          by_contra unknown
          have none : (dep.registry.get rule.toolName).isNone = true := by simpa using unknown
          exact admitted (List.any_eq_true.mpr ⟨rule, member, none⟩)
        have attempts : (scriptedAttempts plan step call.toolName (incidentOutput call.toolName input)
            (grantedAttempts mode definition) 1).2 = .succeeded output count cached := succeeded
        obtain ⟨through, within⟩ := through_of_scriptedAttempts attempts
        exact ⟨definition, found, Option.isSome_iff_exists.mpr ⟨input, valid⟩, known, count, by omega, through⟩

/-- A script succeeds exactly if it is calls that last, and then a finish. -/
theorem scriptedCourse_succeeded_iff : (dep.scriptedCourse mode plan step actions).2 = .succeeded last ↔
    ∃ (calls : List CallToolAction) (rest : List AgentAction), actions = calls.map .callTool ++ .finish last :: rest ∧
      ∀ call ∈ calls, dep.Lasts mode plan call := by
  induction actions generalizing step with
  | nil =>
    constructor
    · intro succeeded
      cases succeeded
    · rintro ⟨calls, rest, split, -⟩
      simp at split
  | cons action later ih =>
    cases action with
    | finish action =>
      constructor
      · intro succeeded
        cases succeeded
        exact ⟨[], later, rfl, by simp⟩
      · rintro ⟨calls, rest, split, -⟩
        cases calls with
        | nil =>
          cases split
          rfl
        | cons call calls => simp at split
    | fail action =>
      constructor
      · intro succeeded
        cases succeeded
      · rintro ⟨calls, rest, split, -⟩
        cases calls with
        | nil => simp at split
        | cons call calls => simp at split
    | callTool call =>
      constructor
      · intro succeeded
        cases script : dep.scriptedStep mode plan step call with
        | mk marks result =>
          cases result with
          | failed code attempts retryable =>
            rw [scriptedCourse_failed script] at succeeded
            cases succeeded
          | succeeded output attempts cached =>
            rw [scriptedCourse_succeeded script] at succeeded
            obtain ⟨calls, rest, split, lasts⟩ := ih.mp succeeded
            have first : dep.Lasts mode plan call := lasts_of_scriptedStep (congrArg Prod.snd script)
            exact ⟨call :: calls, rest, by rw [split]; rfl, List.forall_mem_cons.mpr ⟨first, lasts⟩⟩
      · rintro ⟨calls, rest, split, lasts⟩
        cases calls with
        | nil => simp at split
        | cons own calls =>
          obtain ⟨same, rest'⟩ := List.cons.inj split
          cases same
          obtain ⟨first, others⟩ := List.forall_mem_cons.mp lasts
          obtain ⟨output, count, succeeded⟩ : ∃ output count,
              (dep.scriptedStep mode plan step call).2 = .succeeded output count false := scriptedStep_lasts first
          have script : dep.scriptedStep mode plan step call =
              ((dep.scriptedStep mode plan step call).1, .succeeded output count false) := Prod.ext rfl succeeded
          rw [scriptedCourse_succeeded script]
          exact ih.mpr ⟨calls, rest, rest', others⟩

/-- A call that succeeds at once does so whatever the mode. -/
theorem scriptedStep_of_fragile {marks : List TraceMark} {output : Json} {count : Nat} {cached : Bool}
    (fragile : dep.scriptedStep .fragile plan step call = (marks, .succeeded output count cached)) :
    dep.scriptedStep .resilient plan step call = (marks, .succeeded output count cached) := by
  obtain ⟨definition, found, valid, known, number, granted, through⟩ := lasts_of_scriptedStep (congrArg Prod.snd fragile)
  obtain ⟨input, valid⟩ := Option.isSome_iff_exists.mp valid
  have first : number = 1 := Nat.le_antisymm granted through.order
  subst first
  obtain ⟨left, once⟩ := scriptedStep_sound .fragile step found valid known
  obtain ⟨more, again⟩ := scriptedStep_sound .resilient step found valid known
  rw [once, scriptedAttempts_free through.free] at fragile
  rw [again, scriptedAttempts_free through.free, fragile]

/-- A script that succeeds without retries takes the same course with them. -/
theorem scriptedCourse_of_fragile (fragile : (dep.scriptedCourse .fragile plan step actions).2 = .succeeded last) :
    dep.scriptedCourse .resilient plan step actions = dep.scriptedCourse .fragile plan step actions := by
  induction actions generalizing step with
  | nil => rfl
  | cons action later ih =>
    cases action with
    | finish action => rfl
    | fail action => rfl
    | callTool call =>
      cases script : dep.scriptedStep .fragile plan step call with
      | mk marks result =>
        cases result with
        | failed code attempts retryable =>
          rw [scriptedCourse_failed script] at fragile
          cases fragile
        | succeeded output attempts cached =>
          rw [scriptedCourse_succeeded script] at fragile
          have same := scriptedStep_of_fragile script
          rw [scriptedCourse_succeeded script, scriptedCourse_succeeded same, ih fragile]

end Scripts

theorem oneFault_playable : oneFault.Playable (caseDeployment oneFault) := by
  have supported : oneFault.supported = true := by decide
  have budget : 4 ≤ (caseDeployment oneFault).maxActionSteps := by decide
  exact supported_playable supported (caseDeployment_incident oneFault).registry budget rfl

section Executions
variable {dep : Deployment} {scenario : Scenario} {mode : Mode} {p q : Pid} {s t u v : Site} {run other : Run}

theorem Ending.status_succeeded {ending : Ending} (ended : ending.Of run) (succeeded : run.status = .succeeded) :
    ∃ last, ending = .succeeded last := by
  cases ending with
  | succeeded last => exact ⟨last, rfl⟩
  | failed code explanation =>
    rw [ended.1] at succeeded
    cases succeeded

end Executions

abbrev noFault : Scenario := timeoutRecovery []

end ReliabilityLab
