import ReliabilityLab.Domain

namespace ReliabilityLab

def maxToolAttempts : Nat := 5
def maxToolTimeoutSeconds : ℚ := 60
def maxToolInitialDelaySeconds : ℚ := 5

/-- The defaults of a definition are in range. -/
theorem defaultTimeout_range : (0 : ℚ) < 1 ∧ (1 : ℚ) ≤ maxToolTimeoutSeconds := by decide +kernel

theorem defaultAttempts_range : 1 ≤ 2 ∧ 2 ≤ maxToolAttempts := by decide

/-- What the output model makes of a raw handler result. -/
inductive OutputCheck where
  | accepted (dumped : Json)
  | rejected
  | unserializable

/-- A registered tool. The schemas are functions (the validated input is kept
as its dump); the last fields are the checks of the constructor, so an unsafe
definition cannot be built. Handlers answer from outside the model. -/
structure ToolDefinition where
  name : String
  inputModel : Dict → Option Dict
  outputModel : Json → OutputCheck
  requiresApproval : Bool
  isWrite : Bool
  idempotent : Bool
  timeoutSeconds : ℚ
  maxAttempts : Nat
  initialDelaySeconds : ℚ
  name_length : name ≠ "" ∧ name.length ≤ 128
  timeout_range : 0 < timeoutSeconds ∧ timeoutSeconds ≤ maxToolTimeoutSeconds
  attempts_range : 1 ≤ maxAttempts ∧ maxAttempts ≤ maxToolAttempts
  delay_range : 0 ≤ initialDelaySeconds ∧ initialDelaySeconds ≤ maxToolInitialDelaySeconds
  safe_idempotent : isWrite = true ∨ requiresApproval = true → idempotent = true

def ToolDefinition.delaySeconds (definition : ToolDefinition) (attempt : Nat) : ℚ :=
  definition.initialDelaySeconds * 2 ^ (attempt - 1)

/-- The closed registry: at most one definition under a name. -/
structure ToolRegistry where
  definitions : List ToolDefinition
  distinct : (definitions.map (·.name)).Nodup

def ToolRegistry.empty : ToolRegistry := ⟨[], List.nodup_nil⟩

def ToolRegistry.register (registry : ToolRegistry) (definition : ToolDefinition) : Except Exn ToolRegistry :=
  if fresh : definition.name ∉ registry.definitions.map (·.name) then
    .ok ⟨definition :: registry.definitions, by simpa using ⟨by simpa using fresh, registry.distinct⟩⟩
  else .error .valueError

def ToolRegistry.get (registry : ToolRegistry) (name : String) : Option ToolDefinition :=
  registry.definitions.find? fun definition => definition.name = name

theorem ToolRegistry.get_name {registry : ToolRegistry} {name : String} {definition : ToolDefinition}
    (found : registry.get name = some definition) : definition.name = name := by
  simpa using List.find?_some found

/-- The identity handed to a handler with its input. -/
structure ToolExecutionContext where
  runId : Uuid
  toolName : String
  idempotencyToken : String
  requestFingerprint : String

inductive FaultKind where
  | timeout
  | transientFailure
  | rateLimit
  | toolError
  | malformedOutput
  deriving DecidableEq

def FaultKind.value : FaultKind → String
  | .timeout => "timeout"
  | .transientFailure => "transient_failure"
  | .rateLimit => "rate_limit"
  | .toolError => "tool_error"
  | .malformedOutput => "malformed_output"

def faultCode : FaultKind → String
  | .timeout => "tool_timeout"
  | .transientFailure => "transient_fault"
  | .rateLimit => "rate_limit"
  | .toolError => "tool_error"
  | .malformedOutput => "invalid_output"

structure FaultEvent where
  toolName : String
  attempt : Nat
  kind : FaultKind
  code : String
  transient : Bool

def FaultEvent.modelDump (fault : FaultEvent) : Dict :=
  [("tool_name", .str fault.toolName), ("attempt", .int fault.attempt), ("kind", .str fault.kind.value),
    ("code", .str fault.code), ("transient", .bool fault.transient)]

structure FaultRule where
  toolName : String
  attempt : Nat
  kind : FaultKind
  deriving DecidableEq

def FaultRule.faultFor (rule : FaultRule) (toolName : String) (attempt : Nat) : Option FaultEvent :=
  if rule.toolName ≠ toolName ∨ rule.attempt ≠ attempt then none
  else some ⟨toolName, attempt, rule.kind, faultCode rule.kind, rule.kind ≠ .malformedOutput⟩

abbrev FaultPlan := List FaultRule

/-- The first matching rule decides. -/
def FaultPlan.faultFor (plan : FaultPlan) (toolName : String) (attempt : Nat) : Option FaultEvent :=
  plan.findSome? fun rule => rule.faultFor toolName attempt

theorem FaultPlan.faultFor_some {plan : FaultPlan} {toolName : String} {attempt : Nat} {fault : FaultEvent}
    (found : plan.faultFor toolName attempt = some fault) : ∃ rule ∈ plan, rule.toolName = toolName ∧
      rule.attempt = attempt ∧ fault = ⟨toolName, attempt, rule.kind, faultCode rule.kind, rule.kind ≠ .malformedOutput⟩ := by
  obtain ⟨rule, member, matched⟩ := List.exists_of_findSome?_eq_some found
  unfold FaultRule.faultFor at matched
  split at matched
  · cases matched
  · rename_i same
    obtain ⟨sameTool, sameAttempt⟩ := not_or.mp same
    exact ⟨rule, member, not_ne_iff.mp sameTool, not_ne_iff.mp sameAttempt, (Option.some.inj matched).symm⟩

theorem FaultPlan.faultFor_none {plan : FaultPlan} {toolName : String} {attempt : Nat} :
    plan.faultFor toolName attempt = none ↔ ∀ rule ∈ plan, rule.toolName = toolName → rule.attempt ≠ attempt := by
  unfold FaultPlan.faultFor FaultRule.faultFor
  simp only [List.findSome?_eq_none_iff, ite_eq_left_iff, reduceCtorEq, imp_false, not_not]
  constructor
  · intro passed rule member named
    rcases passed rule member with other | other
    · exact absurd named other
    · exact other
  · intro passed rule member
    by_cases named : rule.toolName = toolName
    · exact .inr (passed rule member named)
    · exact .inl named

def FaultType.kind : FaultType → FaultKind
  | .timeout => .timeout
  | .rateLimit => .rateLimit
  | .toolError => .toolError
  | .malformedOutput => .malformedOutput

/-- `_scenario_fault_plan`. -/
def scenarioFaultPlan (scenario : Scenario) : FaultPlan :=
  scenario.faults.map fun rule => ⟨rule.toolName, rule.attempt, rule.type.kind⟩

end ReliabilityLab
