import ReliabilityLab.Foundation.JsonEquality
import ReliabilityLab.Tools.Incident

namespace ReliabilityLab

/-- The field accepts whatever equals a value that it accepts. -/
def Keeps (field : Json → Option Json) : Prop :=
  ∀ ⦃value given⦄, given.wellFormed = true → (given == value) = true → (field value).isSome → (field given).isSome

theorem strField_keeps : Keeps strField := by
  intro value given _ same accepted
  cases value with
  | str text =>
    cases given <;> first | rfl | exact absurd same (by simp [BEq.beq, Json.pyEq, Json.numbersEqual, Json.number?])
  | _ => cases accepted

/-- Booleans are read off the number that a value stands for. -/
theorem laxBool_number {value : Json} {number : PyFloat} (read : value.number? = some number) :
    laxBool value = if number = .finite 0 then some false else if number = .finite 1 then some true else none := by
  cases value with
  | bool flag =>
    cases read
    cases flag <;> simp [laxBool]
  | int given =>
    cases read
    simp [laxBool]
  | float given =>
    cases read
    rfl
  | _ => cases read

theorem number_of_beq {given value : Json} {number : PyFloat} (same : (given == value) = true)
    (read : value.number? = some number) : given.number? = some number := by
  have equal : Json.numbersEqual given value = true := by
    cases given with
    | bool | int | float => exact same
    | _ =>
      cases value with
      | bool | int | float => simp [BEq.beq, Json.pyEq] at same
      | _ => cases read
  unfold Json.numbersEqual at equal
  rw [read] at equal
  cases known : given.number? with
  | none =>
    rw [known] at equal
    cases equal
  | some other =>
    rw [known] at equal
    simp only [Bool.and_eq_true, decide_eq_true_eq] at equal
    rw [equal.2]

theorem boolField_keeps : Keeps boolField := by
  intro value given _ same accepted
  have numeric : ∀ number, value.number? = some number → (boolField given).isSome := by
    intro number read
    rw [boolField, laxBool_number (number_of_beq same read), ← laxBool_number read]
    exact accepted
  cases value with
  | str text =>
    have equal : given = .str text := by
      cases given <;> simp_all [BEq.beq, Json.pyEq, Json.numbersEqual, Json.number?]
    rwa [equal]
  | bool | int | float => exact numeric _ rfl
  | _ => cases accepted

theorem mapM_isSome {α β : Type} {f : α → Option β} {xs : List α} :
    (xs.mapM f).isSome ↔ ∀ x ∈ xs, (f x).isSome := by
  induction xs with
  | nil => simp
  | cons x xs ih =>
    rw [List.mapM_cons, List.forall_mem_cons, ← ih]
    cases f x with
    | none => simp
    | some y => cases List.mapM f xs <;> simp

theorem closedModel_isSome {fields : List (String × (Json → Option Json))} {value : Dict} :
    (closedModel fields value).isSome ↔
      (∀ item ∈ value, ∃ field ∈ fields, field.1 = item.1) ∧
        ∀ field ∈ fields, ∃ item, value.lookup field.1 = some item ∧ (field.2 item).isSome := by
  have keyed : (value.all fun item => fields.any fun field => field.1 = item.1) = true ↔
      ∀ item ∈ value, ∃ field ∈ fields, field.1 = item.1 := by simp
  unfold closedModel
  split
  · rename_i known
    rw [mapM_isSome, and_iff_right (keyed.mp known)]
    simp only [Option.isSome_map]
    refine forall₂_congr fun field _ => ?_
    cases List.lookup field.1 value <;> simp
  · rename_i unknown
    exact ⟨fun none => absurd none (by simp), fun both => absurd (keyed.mpr both.1) unknown⟩

/-- A closed model accepts a dict that equals one that it accepts. -/
theorem modelField_keeps {fields : List (String × (Json → Option Json))} (keeps : ∀ field ∈ fields, Keeps field.2) :
    Keeps (modelField fields) := by
  intro value given clean same accepted
  cases value with
  | obj known =>
    cases given with
    | obj items =>
      simp only [Json.wellFormed, Bool.and_eq_true, decide_eq_true_eq] at clean
      have accepts : (closedModel fields known).isSome := by simpa [modelField, Json.obj?] using accepted
      have goal : (closedModel fields items).isSome := by
        obtain ⟨keyed, each⟩ := closedModel_isSome.mp accepts
        refine closedModel_isSome.mpr ⟨fun item inside => ?_, fun field inside => ?_⟩
        · have equal : Json.pyEq (.obj items) (.obj known) = true := same
          simp only [Json.pyEq, Bool.and_eq_true] at equal
          obtain ⟨other, found, -⟩ := Json.pyEqItems_lookup equal.2 item inside
          obtain ⟨before, after, split, -⟩ := List.lookup_eq_some_iff.mp found
          exact keyed (item.1, other) (by simp [split])
        · obtain ⟨other, found, taken⟩ := each field inside
          obtain ⟨mine, there, equal⟩ := Json.pyEq_obj_lookup clean.1 same found
          exact ⟨mine, there, keeps field inside (Json.wellFormed_lookup clean.2 there) equal taken⟩
      simpa [modelField, Json.obj?] using goal
    | _ => cases same
  | _ => cases accepted

theorem listField_keeps {field : Json → Option Json} (keeps : Keeps field) : Keeps (listField field) := by
  intro value given clean same accepted
  cases value with
  | arr known =>
    cases given with
    | arr items =>
      have equal : Json.pyEqList items known = true := same
      have taken : ∀ x ∈ known, (field x).isSome := mapM_isSome.mp (by simpa [listField] using accepted)
      have each : ∀ x ∈ items, (field x).isSome := by
        clear same accepted
        simp only [Json.wellFormed] at clean
        induction items generalizing known with
        | nil => simp
        | cons item rest ih =>
          cases known with
          | nil => cases equal
          | cons first others =>
            simp only [Json.pyEqList, Bool.and_eq_true] at equal
            simp only [Json.wellFormedList, Bool.and_eq_true] at clean
            rw [List.forall_mem_cons] at taken ⊢
            exact ⟨keeps clean.1 equal.1 taken.1, ih others clean.2 equal.2 taken.2⟩
      have goal := mapM_isSome.mpr each
      simpa [listField] using goal
    | _ => cases same
  | _ => cases accepted

theorem checkOutput_keeps {fields : List (String × (Json → Option Json))} (keeps : ∀ field ∈ fields, Keeps field.2)
    {value given : Json} (accepted : (modelField fields value).isSome) (clean : given.wellFormed = true)
    (same : (given == value) = true) : ∃ output, checkOutput fields given = .accepted output := by
  obtain ⟨output, read⟩ := Option.isSome_iff_exists.mp (modelField_keeps keeps clean same accepted)
  exact ⟨output, by rw [checkOutput, read]⟩

theorem logEntry_keeps : Keeps (modelField logEntry) :=
  modelField_keeps (by simp [logEntry, strField_keeps])

/-- What the calls of the tools are expected to return. -/
def incidentFixtures : List (String × Json) :=
  [("get_service_health", healthFixture), ("search_recent_logs", logsFixture), ("get_deployment", deploymentFixture),
    ("prepare_rollback", rollbackFixture (.str "deploy-2026-09-04-001"))]

theorem incidentFixtures_mem {toolName : String} {arguments : Dict} {expected : Json}
    (known : deterministicIncidentOutput toolName arguments = some expected) : (toolName, expected) ∈ incidentFixtures := by
  unfold deterministicIncidentOutput at known
  split_ifs at known with health logs deployment rollback <;> cases known <;> simp_all [incidentFixtures]

theorem incidentFixtures_wellFormed {toolName : String} {expected : Json}
    (listed : (toolName, expected) ∈ incidentFixtures) : expected.wellFormed = true := by
  have clean : incidentFixtures.all (·.2.wellFormed) = true := by decide
  exact List.all_eq_true.mp clean _ listed

/-- Whatever equals the expected output of a call passes the output model of its tool. -/
theorem deterministicIncidentOutput_accepted {toolName : String} {arguments : Dict} {expected given : Json}
    (known : deterministicIncidentOutput toolName arguments = some expected) (clean : given.wellFormed = true)
    (same : (given == expected) = true) : ∃ definition output,
      incidentRegistry.get toolName = some definition ∧ definition.outputModel given = .accepted output := by
  have listed := incidentFixtures_mem known
  simp only [incidentFixtures, List.mem_cons, Prod.mk.injEq, List.not_mem_nil, or_false] at listed
  rcases listed with ⟨rfl, rfl⟩ | ⟨rfl, rfl⟩ | ⟨rfl, rfl⟩ | ⟨rfl, rfl⟩
  · exact ⟨getServiceHealth, (checkOutput_keeps (by simp [serviceHealthOutput, strField_keeps]) (by decide) clean same).imp
      fun _ read => ⟨rfl, read⟩⟩
  · exact ⟨searchRecentLogs, (checkOutput_keeps (by simp [recentLogsOutput, listField_keeps logEntry_keeps]) (by decide)
      clean same).imp fun _ read => ⟨rfl, read⟩⟩
  · exact ⟨getDeployment, (checkOutput_keeps (by simp [deploymentOutput, strField_keeps]) (by decide) clean same).imp
      fun _ read => ⟨rfl, read⟩⟩
  · exact ⟨prepareRollback, (checkOutput_keeps (by simp [prepareRollbackOutput, strField_keeps, boolField_keeps])
      (by decide) clean same).imp fun _ read => ⟨rfl, read⟩⟩

end ReliabilityLab
