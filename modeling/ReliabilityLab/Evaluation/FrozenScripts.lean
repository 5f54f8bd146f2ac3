import ReliabilityLab.Foundation.Checker
import ReliabilityLab.Foundation.JsonEquality
import ReliabilityLab.Runtime.ScriptedExecutions

namespace ReliabilityLab

/-- `_validate_supported_frozen_suite`, for one scenario. -/
def Scenario.supported (scenario : Scenario) : Bool :=
  match deterministicIncidentActions scenario.id with
  | some expected => scenario.actions.map (Json.obj ·.modelDump) == expected.map Json.obj
  | none => false

/-- The scenario whose only call no input model lets through. -/
def unreachableId : String := "permanent-invalid-input"

/-- Equal dumps agree on each of their keys. -/
theorem dump_lookup {dumped expected : Dict} (same : (Json.obj dumped == .obj expected) = true) (key : String)
    {value known : Json} (given : dumped.lookup key = some value) (wanted : expected.lookup key = some known) :
    (value == known) = true := by
  obtain ⟨other, found, equal⟩ := Json.pyEq_lookup same given
  cases found.symm.trans wanted
  exact equal

theorem call_of_beq {action : AgentAction} {toolName : String} {arguments : Dict} {key : Option String}
    (same : (Json.obj action.modelDump == .obj (callPayload toolName arguments key)) = true) :
    ∃ given, action = .callTool ⟨toolName, given, key⟩ ∧ Json.pyEq (.obj given) (.obj arguments) = true := by
  have type : (callPayload toolName arguments key).lookup "type" = some (.str "call_tool") := rfl
  cases action with
  | callTool action =>
    obtain ⟨name, given, own⟩ := action
    have named := dump_lookup same "tool_name" rfl rfl
    have called := dump_lookup same "arguments" rfl rfl
    have keyed := dump_lookup same "idempotency_key" rfl rfl
    cases Json.beq_str.mp named
    cases optionalStr_injective (beq_optionalStr.mp keyed)
    exact ⟨given, rfl, called⟩
  | finish action => exact absurd (dump_lookup same "type" rfl type) (by decide)
  | fail action => exact absurd (dump_lookup same "type" rfl type) (by decide)

theorem finish_of_beq {action : AgentAction} {summary outcome : String} {evidence : List String}
    (same : (Json.obj action.modelDump == .obj (finishPayload summary evidence outcome)) = true) :
    ∃ given, action = .finish given := by
  have type : (finishPayload summary evidence outcome).lookup "type" = some (.str "finish") := rfl
  cases action with
  | callTool action => exact absurd (dump_lookup same "type" rfl type) (by decide)
  | finish action => exact ⟨action, rfl⟩
  | fail action => exact absurd (dump_lookup same "type" rfl type) (by decide)

/-- A call of a built-in scenario: its tool, its arguments and its key. -/
abbrev CallSpec := String × Dict × Option String

def CallSpec.payload (spec : CallSpec) : Dict := callPayload spec.1 spec.2.1 spec.2.2

/-- The action makes this call, up to equal arguments. -/
def CallSpec.Made (call : CallToolAction) (spec : CallSpec) : Prop :=
  call.toolName = spec.1 ∧ Json.pyEq (.obj call.arguments) (.obj spec.2.1) = true ∧ call.idempotencyKey = spec.2.2

/-- The calls that a handler answers. -/
def soundCalls : List CallSpec :=
  [("get_service_health", [], none), ("search_recent_logs", [], none), ("get_deployment", [], none),
    ("prepare_rollback", [("deployment_id", .str "deploy-2026-09-04-001")], some "approval-reconstruction-v1")]

/-- The call that the input model refuses. -/
def refusedCall : CallSpec := ("search_recent_logs", [("unsupported_filter", .bool true)], none)

/-- What the built-in scenarios have in common: a few calls, all sound or the refused one, and a finish. -/
structure FrozenSpecs (id : String) (expected : List Dict) (specs : List CallSpec) : Prop where
  shape : ∃ summary evidence outcome, expected = specs.map CallSpec.payload ++ [finishPayload summary evidence outcome]
  few : specs.length ≤ 3
  keys : (specs.filterMap (·.2.2)).Nodup
  calls : if id = unreachableId then specs = [refusedCall] else ∀ spec ∈ specs, spec ∈ soundCalls

theorem frozen_specs {id : String} {expected : List Dict} (known : deterministicIncidentActions id = some expected) :
    ∃ specs, FrozenSpecs id expected specs := by
  have listed : (id, expected) ∈ frozenIncidentActions := by
    obtain ⟨before, after, split, -⟩ := List.lookup_eq_some_iff.mp known
    rw [split]
    simp
  simp only [frozenIncidentActions, List.mem_cons, Prod.mk.injEq, List.not_mem_nil, or_false] at listed
  rcases listed with ⟨rfl, rfl⟩ | ⟨rfl, rfl⟩ | ⟨rfl, rfl⟩ | ⟨rfl, rfl⟩ | ⟨rfl, rfl⟩ | ⟨rfl, rfl⟩
  · exact ⟨[("get_deployment", [], none),
      ("prepare_rollback", [("deployment_id", .str "deploy-2026-09-04-001")], some "approval-reconstruction-v1")],
      ⟨_, _, _, rfl⟩, by decide, by decide, by simp [unreachableId, soundCalls]⟩
  · exact ⟨[("get_service_health", [], none), ("get_deployment", [], none)], ⟨_, _, _, rfl⟩, by decide, by decide,
      by simp [unreachableId, soundCalls]⟩
  · exact ⟨[("get_service_health", [], none), ("search_recent_logs", [], none), ("get_deployment", [], none)],
      ⟨_, _, _, rfl⟩, by decide, by decide, by simp [unreachableId, soundCalls]⟩
  · exact ⟨[refusedCall], ⟨_, _, _, rfl⟩, by decide, by decide, by simp [unreachableId]⟩
  · exact ⟨[("get_service_health", [], none), ("get_deployment", [], none)], ⟨_, _, _, rfl⟩, by decide, by decide,
      by simp [unreachableId, soundCalls]⟩
  · exact ⟨[("get_service_health", [], none), ("search_recent_logs", [], none), ("get_deployment", [], none)],
      ⟨_, _, _, rfl⟩, by decide, by decide, by simp [unreachableId, soundCalls]⟩

/-- Actions whose dumps are equal to these payloads make these calls and finish. -/
theorem script_of_payloads {specs : List CallSpec} {summary outcome : String} {evidence : List String}
    {actions : List AgentAction} (same : List.Forall₂ (fun (action : AgentAction) (payload : Dict) =>
      (Json.obj action.modelDump == .obj payload) = true) actions
        (specs.map CallSpec.payload ++ [finishPayload summary evidence outcome])) :
    ∃ calls last, actions = calls.map .callTool ++ [.finish last] ∧ List.Forall₂ CallSpec.Made calls specs := by
  induction specs generalizing actions with
  | nil =>
    obtain ⟨action, rest, equal, none, rfl⟩ := List.forall₂_cons_right_iff.mp same
    cases List.forall₂_nil_right_iff.mp none
    obtain ⟨last, rfl⟩ := finish_of_beq equal
    exact ⟨[], last, rfl, .nil⟩
  | cons spec specs ih =>
    obtain ⟨action, rest, equal, others, rfl⟩ := List.forall₂_cons_right_iff.mp same
    obtain ⟨given, rfl, arguments⟩ := call_of_beq equal
    obtain ⟨calls, last, rfl, made⟩ := ih others
    exact ⟨⟨spec.1, given, spec.2.2⟩ :: calls, last, rfl, .cons ⟨rfl, arguments, rfl⟩ made⟩

/-- A supported scenario makes the calls of its built-in one, and finishes. -/
theorem supported_script {scenario : Scenario} (supported : scenario.supported = true) :
    ∃ expected specs calls last, FrozenSpecs scenario.id expected specs ∧
      scenario.actions = calls.map .callTool ++ [.finish last] ∧ List.Forall₂ CallSpec.Made calls specs := by
  unfold Scenario.supported at supported
  split at supported
  · rename_i expected known
    obtain ⟨specs, frozen⟩ := frozen_specs known
    obtain ⟨summary, evidence, outcome, shape⟩ := frozen.shape
    have dumps := forall₂_of_beq supported
    rw [List.forall₂_map_left_iff, List.forall₂_map_right_iff, shape] at dumps
    obtain ⟨calls, last, actions, made⟩ := script_of_payloads dumps
    exact ⟨expected, specs, calls, last, frozen, actions, made⟩
  · cases supported

/-- What is known of a call of a built-in scenario. -/
structure CallToolAction.Frozen (call : CallToolAction) (definition : ToolDefinition) : Prop where
  registered : incidentRegistry.get call.toolName = some definition
  keyed : definition.isWrite = true ∨ definition.requiresApproval = true → call.idempotencyKey.isSome
  printable : Json.printableItems call.arguments = true

theorem CallSpec.Made.sound {call : CallToolAction} {spec : CallSpec} (made : spec.Made call) (sound : spec ∈ soundCalls) :
    ∃ definition input, call.Frozen definition ∧ definition.inputModel call.arguments = some input := by
  obtain ⟨tool, given, key⟩ := call
  obtain ⟨named, arguments, keyed⟩ := made
  simp only at named arguments keyed
  subst named keyed
  simp only [soundCalls, List.mem_cons, List.not_mem_nil, or_false] at sound
  rcases sound with rfl | rfl | rfl | rfl
  · cases Json.pyEq_nil.mp arguments
    exact ⟨getServiceHealth, [], ⟨rfl, by decide, rfl⟩, rfl⟩
  · cases Json.pyEq_nil.mp arguments
    exact ⟨searchRecentLogs, [], ⟨rfl, by decide, rfl⟩, rfl⟩
  · cases Json.pyEq_nil.mp arguments
    exact ⟨getDeployment, [], ⟨rfl, by decide, rfl⟩, rfl⟩
  · cases Json.pyEq_single.mp arguments
    exact ⟨prepareRollback, [("deployment_id", .str "deploy-2026-09-04-001")], ⟨rfl, fun _ => rfl, rfl⟩, rfl⟩

theorem printable_of_pyEq_true {value : Json} (same : Json.pyEq value (.bool true) = true) : value.printable = true := by
  cases value with
  | bool | null | str => rfl
  | arr | obj => simp [Json.pyEq] at same
  | int number =>
    simp only [Json.pyEq, Json.numbersEqual, Json.number?, if_true, Bool.and_eq_true, decide_eq_true_eq,
      PyFloat.finite.injEq] at same
    have one : number = ((1 : Nat) : Int) := by exact_mod_cast same.2
    rw [one]
    exact printable_number (by norm_num)
  | float number =>
    simp only [Json.pyEq, Json.numbersEqual, Json.number?, if_true, Bool.and_eq_true, decide_eq_true_eq] at same
    rw [same.2]
    rfl

theorem CallSpec.Made.refused {call : CallToolAction} (made : refusedCall.Made call) :
    call.Frozen searchRecentLogs ∧ searchRecentLogs.inputModel call.arguments = none := by
  obtain ⟨tool, given, key⟩ := call
  obtain ⟨named, arguments, keyed⟩ := made
  simp only [refusedCall] at named arguments keyed
  subst named keyed
  have query : ¬ (searchRecentLogs.isWrite = true ∨ searchRecentLogs.requiresApproval = true) := by decide
  match given with
  | [] => simp [Json.pyEq] at arguments
  | [(name, value)] =>
    obtain ⟨known, found, same⟩ := Json.pyEq_lookup arguments (List.lookup_cons_self ..)
    obtain ⟨before, after, split, -⟩ := List.lookup_eq_some_iff.mp found
    have flag : known = .bool true := by
      have member : (name, known) ∈ [("unsupported_filter", Json.bool true)] := by simp [split]
      simp at member
      exact member.2
    rw [flag] at same
    refine ⟨⟨rfl, fun effects => absurd effects query, ?_⟩, rfl⟩
    simp [Json.printableItems, printable_of_pyEq_true same]
  | _ :: _ :: _ => simp [Json.pyEq] at arguments

theorem FrozenSpecs.frozen {id : String} {expected : List Dict} {specs : List CallSpec} {calls : List CallToolAction}
    (frozen : FrozenSpecs id expected specs) (made : List.Forall₂ CallSpec.Made calls specs) {call : CallToolAction}
    (listed : call ∈ calls) : ∃ definition, call.Frozen definition := by
  obtain ⟨spec, there, made⟩ := exists_related made call listed
  have kinds := frozen.calls
  split at kinds
  · subst kinds
    rw [List.mem_singleton] at there
    subst there
    exact ⟨_, made.refused.1⟩
  · obtain ⟨definition, input, known, -⟩ := made.sound (kinds spec there)
    exact ⟨definition, known⟩

theorem CallToolAction.Frozen.stable {dep : Deployment} {call : CallToolAction} {definition : ToolDefinition}
    (registry : dep.registry = incidentRegistry) (known : call.Frozen definition) (run : Run) :
    dep.stabilizeAction run call = call := by
  unfold Deployment.stabilizeAction
  rw [registry, known.registered]
  refine if_pos ?_
  cases keyed : call.idempotencyKey with
  | some key => rfl
  | none =>
    have quiet : ¬ (definition.isWrite = true ∨ definition.requiresApproval = true) := by
      intro effects
      have some := known.keyed effects
      rw [keyed] at some
      cases some
    simpa using quiet

theorem made_keys {calls : List CallToolAction} {specs : List CallSpec} (made : List.Forall₂ CallSpec.Made calls specs) :
    calls.filterMap (AgentAction.key? ∘ .callTool) = specs.filterMap (·.2.2) := by
  induction made with
  | nil => rfl
  | @cons call spec calls specs first _ ih =>
    have key : (AgentAction.key? ∘ .callTool) call = spec.2.2 := first.2.2
    rw [List.filterMap_cons, List.filterMap_cons, key, ih]

/-- A supported scenario can be played. -/
theorem supported_playable {dep : Deployment} {scenario : Scenario} (supported : scenario.supported = true)
    (registry : dep.registry = incidentRegistry) (budget : 4 ≤ dep.maxActionSteps)
    (context : Json.printableItems scenario.initialContext = true) : scenario.Playable dep := by
  obtain ⟨expected, specs, calls, last, frozen, actions, made⟩ := supported_script supported
  have lengths := made.length_eq
  have few := frozen.few
  have keys : scenario.actions.filterMap AgentAction.key? = specs.filterMap (·.2.2) := by
    rw [actions, List.filterMap_append, List.filterMap_map]
    exact (List.append_nil _).trans (made_keys made)
  have calling : ∀ call, .callTool call ∈ scenario.actions → call ∈ calls := by
    intro call listed
    rw [actions] at listed
    simpa using listed
  refine ⟨?_, ?_, ?_, ?_, ?_, ?_, context⟩
  · rw [keys]
    exact frozen.keys
  · intro call listed run
    obtain ⟨definition, known⟩ := frozen.frozen made (calling call listed)
    exact known.stable registry run
  · intro action listed
    cases action with
    | callTool call =>
      obtain ⟨definition, known⟩ := frozen.frozen made (calling call listed)
      have key : (optionalStr call.idempotencyKey).printable = true := by cases call.idempotencyKey <;> rfl
      simp only [AgentAction.modelDump, CallToolAction.modelDump, Json.printableItems, Json.printable, key,
        known.printable, Bool.and_self]
    | finish action =>
      have result := finishResult_printable action
      simp only [finishResult, Json.printableItems, Bool.and_true, Bool.and_eq_true] at result
      simp only [AgentAction.modelDump, FinishAction.modelDump, Json.printableItems, result.2.2, Bool.and_true]
      rfl
    | fail action => rfl
  · rw [actions]
    simp
  · intro call
    rw [actions]
    simp
  · rw [actions]
    simp
    omega

end ReliabilityLab
