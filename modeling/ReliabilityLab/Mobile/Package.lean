import ReliabilityLab.Mobile.Engine

namespace ReliabilityLab

open Mobile

def ScenarioFault.modelDump (fault : ScenarioFault) : Dict :=
  [("tool_name", .str fault.toolName), ("attempt", .int fault.attempt), ("type", .str fault.type.value)]

def Scenario.modelDump (scenario : Scenario) : Dict :=
  [("id", .str scenario.id), ("version", .int scenario.version), ("initial_context", .obj scenario.initialContext),
    ("actions", .arr (scenario.actions.map fun action => .obj action.modelDump)),
    ("expected_tool_sequence", .arr (scenario.expectedToolSequence.map .str)),
    ("expected_outcome", .str scenario.expectedOutcome),
    ("faults", .arr (scenario.faults.map fun fault => .obj fault.modelDump)),
    ("approval_supplied", .bool scenario.approvalSupplied)]

/-- The scenario as the package spells it: `canonical` text of its dump, read back. -/
def Scenario.packaged (scenario : Scenario) : Dict := Json.canonicalItems scenario.modelDump

/-- The action as the package spells it. -/
def AgentAction.packaged (action : AgentAction) : Dict := Json.canonicalItems action.modelDump

def ScenarioFault.packaged (fault : ScenarioFault) : Dict := Json.canonicalItems fault.modelDump

section Package
variable {scenario : Scenario} {fault : ScenarioFault} {call : CallToolAction}

theorem canonicalList_map {α : Type} (spell : α → Json) (items : List α) :
    Json.canonicalList (items.map spell) = items.map fun item => (spell item).canonical := by
  induction items with
  | nil => rfl
  | cons item rest ih => rw [List.map_cons, Json.canonicalList, ih, List.map_cons]

theorem Scenario.packaged_lookup (scenario : Scenario) (key : String) :
    scenario.packaged.lookup key = (scenario.modelDump.lookup key).map Json.canonical :=
  Json.lookup_canonicalItems (by simp [Scenario.modelDump]) key

theorem AgentAction.packaged_lookup (action : AgentAction) (key : String) :
    action.packaged.lookup key = (action.modelDump.lookup key).map Json.canonical := by
  refine Json.lookup_canonicalItems ?_ key
  cases action <;> simp [AgentAction.modelDump, CallToolAction.modelDump, FinishAction.modelDump, FailAction.modelDump]

theorem ScenarioFault.packaged_lookup (fault : ScenarioFault) (key : String) :
    fault.packaged.lookup key = (fault.modelDump.lookup key).map Json.canonical :=
  Json.lookup_canonicalItems (by simp [ScenarioFault.modelDump]) key

theorem packaged_actions : item (.obj scenario.packaged) "actions" =
    .ok (.arr (scenario.actions.map fun action => .obj action.packaged)) := by
  have found : scenario.packaged.lookup "actions" = some (.arr (scenario.actions.map fun action => .obj action.packaged)) := by
    rw [Scenario.packaged_lookup]
    show some (Json.arr (Json.canonicalList _)) = _
    rw [canonicalList_map]
    rfl
  simp only [item, found]

theorem packaged_faults : item (.obj scenario.packaged) "faults" =
    .ok (.arr (scenario.faults.map fun fault => .obj fault.packaged)) := by
  have found : scenario.packaged.lookup "faults" = some (.arr (scenario.faults.map fun fault => .obj fault.packaged)) := by
    rw [Scenario.packaged_lookup]
    show some (Json.arr (Json.canonicalList _)) = _
    rw [canonicalList_map]
    rfl
  simp only [item, found]

theorem beq_int {a b : Int} : (Json.int a == Json.int b) = true ↔ a = b := by
  show Json.numbersEqual (.int a) (.int b) = true ↔ a = b
  simp [Json.numbersEqual, Json.number?]

theorem ScenarioFault.packaged_item {fault : ScenarioFault} {key : String} {value : Json}
    (listed : fault.modelDump.lookup key = some value) (plain : value.canonical = value) :
    item (.obj fault.packaged) key = .ok value := by
  simp only [item, ScenarioFault.packaged_lookup, listed, Option.map_some, plain]

theorem AgentAction.packaged_item {action : AgentAction} {key : String} {value spelled : Json}
    (listed : action.modelDump.lookup key = some value) (same : value.canonical = spelled) :
    item (.obj action.packaged) key = .ok spelled := by
  simp only [item, AgentAction.packaged_lookup, listed, Option.map_some, same]

/-- The fault that a scenario declares for this attempt of the tool. -/
def Scenario.faultAt (scenario : Scenario) (tool : String) (number : Nat) : Option ScenarioFault :=
  scenario.faults.find? fun fault => fault.toolName = tool ∧ fault.attempt = number

/-- The package is searched for a fault as the scenario is. -/
theorem declaredFault_packaged (tool : String) (number : Nat) (faults : List ScenarioFault) :
    RunRows.declaredFault (.str tool) number (faults.map fun fault => .obj fault.packaged) =
      .ok ((faults.find? fun fault => fault.toolName = tool ∧ fault.attempt = number).map fun fault => .obj fault.packaged) := by
  induction faults with
  | nil => rfl
  | cons fault rest ih =>
    have named : item (.obj fault.packaged) "tool_name" = .ok (.str fault.toolName) := ScenarioFault.packaged_item rfl rfl
    have numbered : item (.obj fault.packaged) "attempt" = .ok (.int fault.attempt) := ScenarioFault.packaged_item rfl rfl
    rw [List.map_cons, RunRows.declaredFault, named]
    simp only [bind, Except.bind]
    by_cases same : fault.toolName = tool
    · rw [if_pos (Json.beq_str.mpr (congrArg Json.str same.symm)), numbered]
      simp only
      by_cases due : fault.attempt = number
      · rw [if_pos (beq_int.mpr (by omega)), List.find?_cons_of_pos (by simp [same, due])]
        rfl
      · have other : ¬ ((fault.attempt : Int) = number) := by omega
        rw [if_neg (fun same => other (beq_int.mp same)), List.find?_cons_of_neg (by simp [due])]
        exact ih
    · have other : ¬ (Json.str fault.toolName == Json.str tool) = true := by
        intro equal
        cases Json.beq_str.mp equal
        exact same rfl
      rw [if_neg other, List.find?_cons_of_neg (by simp [same])]
      exact ih

/-- The plan of a scenario decides by the same fault. -/
theorem faultFor_scenario (scenario : Scenario) (tool : String) (number : Nat) :
    (scenarioFaultPlan scenario).faultFor tool number = (scenario.faultAt tool number).map fun fault =>
      ⟨tool, number, fault.type.kind, faultCode fault.type.kind, fault.type.kind ≠ .malformedOutput⟩ := by
  unfold scenarioFaultPlan Scenario.faultAt FaultPlan.faultFor
  induction scenario.faults with
  | nil => rfl
  | cons fault rest ih =>
    rw [List.map_cons, List.findSome?_cons]
    by_cases chosen : fault.toolName = tool ∧ fault.attempt = number
    · rw [List.find?_cons_of_pos (by simp [chosen])]
      simp [FaultRule.faultFor, chosen]
    · have skipped : (FaultRule.faultFor ⟨fault.toolName, fault.attempt, fault.type.kind⟩ tool number) = none := by
        unfold FaultRule.faultFor
        exact if_pos (by tauto)
      rw [List.find?_cons_of_neg (by simpa using chosen), skipped]
      exact ih

end Package

section Calls
variable {definition : ToolDefinition} {call : CallToolAction}

theorem incidentRegistry_named {name : String} {definition : ToolDefinition}
    (found : incidentRegistry.get name = some definition) :
    (isQuery (.str name) = true ∧ isRollback (.str name) = false ∧ definition.inputModel = emptyInput) ∨
      isQuery (.str name) = false ∧ isRollback (.str name) = true ∧ definition.inputModel = prepareRollbackInput := by
  obtain ⟨rfl, same⟩ := And.intro (ToolRegistry.get_name found) (List.mem_of_find?_eq_some found)
  simp only [incidentRegistry, List.mem_cons, List.not_mem_nil, or_false] at same
  rcases same with rfl | rfl | rfl | rfl
  · exact .inl ⟨by decide, by decide, rfl⟩
  · exact .inl ⟨by decide, by decide, rfl⟩
  · exact .inl ⟨by decide, by decide, rfl⟩
  · exact .inr ⟨by decide, by decide, rfl⟩

theorem canonicalItems_isEmpty (items : Dict) : (Json.canonicalItems items).isEmpty = items.isEmpty := by
  have same := (Json.canonicalItems_perm items).length_eq
  rw [List.length_map] at same
  rw [Bool.eq_iff_iff, List.isEmpty_iff, List.isEmpty_iff, ← List.length_eq_zero_iff, ← List.length_eq_zero_iff, same]

theorem emptyInput_isSome (arguments : Dict) : (emptyInput arguments).isSome = arguments.isEmpty := by
  cases arguments <;> simp [emptyInput, closedModel]

theorem prepareRollbackInput_isSome (arguments : Dict) : (prepareRollbackInput arguments).isSome =
    (arguments.all (·.1 = "deployment_id") && (arguments.lookup "deployment_id").any (isText · 128)) := by
  unfold prepareRollbackInput closedModel
  have same : (arguments.all fun item => [("deployment_id", boundedStrField 1 128)].any fun field => field.1 = item.1) =
      arguments.all (·.1 = "deployment_id") := by
    congr 1
    funext item
    simp [eq_comm]
  rw [same]
  cases closed : arguments.all (·.1 = "deployment_id") with
  | false => simp
  | true =>
    cases found : arguments.lookup "deployment_id" with
    | none => simp [found]
    | some value =>
      cases value with
      | str text =>
        have bounds : isText (.str text) 128 = decide (1 ≤ text.length ∧ text.length ≤ 128) := by
          simp [isText, Bool.decide_and]
        by_cases bounded : 1 ≤ text.length ∧ text.length ≤ 128
        · simp [found, boundedStrField, Json.str?, bounds, bounded]
        · simp [found, boundedStrField, Json.str?, bounds, if_neg bounded, decide_eq_false bounded]
      | _ => simp_all [boundedStrField, Json.str?, isText]

theorem isText_canonical (value : Json) (maximum : Nat) : isText value.canonical maximum = isText value maximum := by
  cases value <;> rfl

/-- The app lets a packaged call through where the input model of its tool does. -/
theorem toolInput_packaged (found : incidentRegistry.get call.toolName = some definition)
    (distinct : (call.arguments.map Prod.fst).Nodup) :
    toolInput (.str call.toolName) (.obj (Json.canonicalItems call.arguments)) =
      .ok (definition.inputModel call.arguments).isSome := by
  rcases incidentRegistry_named found with ⟨query, -, model⟩ | ⟨query, rollback, model⟩
  · have empty : (Json.obj (Json.canonicalItems call.arguments) == .obj []) = call.arguments.isEmpty := by
      rw [← canonicalItems_isEmpty]
      cases Json.canonicalItems call.arguments <;> rfl
    simp only [toolInput, Json.hashable, if_true, query]
    rw [model, emptyInput_isSome, empty]
  · simp only [toolInput, Json.hashable, if_true, query, rollback, Bool.false_eq_true, if_false]
    rw [model, prepareRollbackInput_isSome, Json.lookup_canonicalItems distinct]
    have keys : (Json.canonicalItems call.arguments).all (·.1 = "deployment_id") =
        call.arguments.all (·.1 = "deployment_id") := by
      rw [(Json.canonicalItems_perm call.arguments).all_eq, List.all_map]
      rfl
    rw [keys]
    cases call.arguments.lookup "deployment_id" with
    | none => rfl
    | some value => simp [isText_canonical]

/-- What a tool of the app answers to such a call passes its own check; a malformed output does not. -/
theorem validOutput_packaged (found : incidentRegistry.get call.toolName = some definition)
    (valid : (definition.inputModel call.arguments).isSome = true) (distinct : (call.arguments.map Prod.fst).Nodup) :
    validOutput (.str call.toolName)
      (toolOutput (.str call.toolName) (.obj (Json.canonicalItems call.arguments))) = true := by
  have member := List.mem_of_find?_eq_some found
  have name : definition.name = call.toolName := ToolRegistry.get_name found
  simp only [incidentRegistry, List.mem_cons, List.not_mem_nil, or_false] at member
  rcases member with rfl | rfl | rfl | rfl <;> rw [← name]
  · rfl
  · rfl
  · rfl
  · have accepted : (prepareRollbackInput call.arguments).isSome = true := valid
    rw [prepareRollbackInput_isSome, Bool.and_eq_true] at accepted
    obtain ⟨value, given, spelled⟩ := (Option.any_eq_true _ _).mp accepted.2
    cases value with
    | str text =>
      have kept : (Json.canonicalItems call.arguments).lookup "deployment_id" = some (.str text) := by
        rw [Json.lookup_canonicalItems distinct, given]
        rfl
      have answer : toolOutput (.str prepareRollback.name) (.obj (Json.canonicalItems call.arguments)) =
          rollbackFixture (.str text) := by
        simp only [toolOutput, Json.obj?, Option.getD_some, kept]
        rfl
      rw [answer]
      rfl
    | _ => cases spelled

theorem validOutput_malformed (name : Json) :
    validOutput name (.obj [("__arl_malformed_output__", .bool true)]) = false := by
  simp [validOutput, hasKeys]

end Calls

end ReliabilityLab
