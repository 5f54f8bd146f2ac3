import ReliabilityLab.Mobile.Requests

namespace ReliabilityLab

open Mobile MobileApp

/-- The refusals that a client has to expect. -/
def refusals : List (Nat × String) :=
  [(404, "run_not_found"), (404, "scenario_not_found"), (404, "evaluation_not_found"), (404, "suite_not_found"),
    (409, "run_conflict"), (409, "scenario_changed"), (409, "evidence_invalid"), (422, "validation_error")]

def MobileError.Expected (error : MobileError) : Prop := error.answer ∈ refusals

/-- A result that is an error only in an expected way. -/
def Refuses {α : Type} (result : Except MobileError α) : Prop := ∀ error, result = .error error → error.Expected

section Results
variable {α β : Type}

theorem expected_raised (error : Exn) : (MobileError.raised error).Expected := by
  simp [MobileError.Expected, MobileError.answer, refusals]

theorem refuses_ok (value : α) : Refuses (.ok value) := by
  intro error raised
  cases raised

theorem refuses_error {error : MobileError} (expected : error.Expected) : Refuses (.error error : Except MobileError α) := by
  intro other raised
  cases raised
  exact expected

theorem refuses_raised (error : Exn) : Refuses (.error (.raised error) : Except MobileError α) :=
  refuses_error (expected_raised error)

theorem refuses_api {status : Nat} {code message : String} (listed : (status, code) ∈ refusals) :
    Refuses (.error (.api status code message) : Except MobileError α) :=
  refuses_error listed

theorem refuses_bind {result : Except MobileError α} {next : α → Except MobileError β} (first : Refuses result)
    (later : ∀ value, Refuses (next value)) : Refuses (result >>= next) := by
  cases result with
  | ok value => exact later value
  | error error => exact refuses_error (first error rfl)

theorem refuses_map {result : Except MobileError α} {f : α → β} (first : Refuses result) : Refuses (result.map f) := by
  cases result with
  | ok value => exact refuses_ok _
  | error error => exact refuses_error (first error rfl)

theorem refuses_mapM {f : α → Except MobileError β} (each : ∀ value, Refuses (f value)) (values : List α) :
    Refuses (values.mapM f) := by
  induction values with
  | nil => exact refuses_ok _
  | cons value rest ih =>
    rw [List.mapM_cons]
    exact refuses_bind (each value) fun _ => refuses_bind ih fun _ => refuses_ok _

theorem refuses_item (value : Json) (key : String) : Refuses (item value key) := by
  unfold item
  split
  · split
    · exact refuses_ok _
    · exact refuses_raised _
  · exact refuses_raised _

theorem refuses_entry (sequence : Json) (index : Nat) : Refuses (entry sequence index) := by
  unfold entry
  split
  · exact refuses_ok _
  · exact refuses_ok _
  · split
    · exact refuses_raised _
    · exact refuses_ok _
  · exact refuses_raised _

theorem refuses_elements (value : Json) : Refuses (elements value) := by
  unfold elements
  split
  · exact refuses_ok _
  · exact refuses_ok _
  · exact refuses_ok _
  · exact refuses_raised _

theorem refuses_digest (sha256 : Json → String) (value : Json) : Refuses (digest sha256 value) := by
  unfold digest
  split
  · exact refuses_ok _
  · exact refuses_raised _

theorem refuses_hashed (bag : List Json) : Refuses (hashed bag) := by
  unfold hashed
  split
  · exact refuses_ok _
  · exact refuses_raised _

theorem refuses_project (payloads : List Dict) (names : List String) : Refuses (project payloads names) :=
  refuses_mapM (fun _ => refuses_mapM (fun _ => refuses_item _ _) _) _

theorem refuses_evidence (message : String) : Refuses (evidenceInvalid message : Except MobileError α) :=
  refuses_api (by decide)

end Results

namespace RunRows
variable {sha256 : Json → String} {app : MobileApp} {supply : Supply} {rows : RunRows} {scenario action : Dict}

theorem refuses_compatible : Refuses (rows.compatibleScenario sha256 app) := by
  unfold compatibleScenario
  split
  · exact refuses_api (by decide)
  · refine refuses_bind (refuses_digest _ _) fun hash => ?_
    split
    · exact refuses_ok _
    · exact refuses_api (by decide)

theorem refuses_declaredFault (name : Json) (attempt : Nat) (faults : List Json) :
    Refuses (declaredFault name attempt faults) := by
  induction faults with
  | nil => exact refuses_ok _
  | cons fault rest ih =>
    refine refuses_bind (refuses_item _ _) fun tool => ?_
    split
    · refine refuses_bind (refuses_item _ _) fun number => ?_
      split
      · exact refuses_ok _
      · exact ih
    · exact ih

theorem refuses_transientCode (kind : Json) : Refuses (transientCode kind) := by
  unfold transientCode
  split
  · exact refuses_ok _
  · exact refuses_raised _

theorem refuses_writeEffect (name : Json) (fingerprint : String) (raw : Json) :
    Refuses (rows.writeEffect name fingerprint raw) := by
  unfold writeEffect
  split
  · split
    · split
      · exact refuses_ok _
      · exact refuses_api (by decide)
    · exact refuses_ok _
  · exact refuses_ok _

theorem refuses_performAttempt (name arguments : Json) (fingerprint : String) :
    Refuses (rows.performAttempt supply scenario name arguments fingerprint) := by
  unfold performAttempt
  refine refuses_bind (refuses_item _ _) fun declared => refuses_bind (refuses_elements _) fun faults =>
    refuses_bind (refuses_declaredFault _ _ _) fun fault => ?_
  extract_lets conclude
  have concludes : ∀ kind, Refuses (conclude kind) := by
    intro kind
    refine refuses_bind (refuses_transientCode kind) fun code => ?_
    split
    · exact refuses_ok _
    · extract_lets raw
      split
      · exact refuses_bind (refuses_writeEffect _ _ _) fun _ => refuses_ok _
      · exact refuses_ok _
  split
  · exact refuses_bind (refuses_item _ _) concludes
  · exact concludes .null

theorem refuses_attempt : Refuses (rows.attempt sha256 supply scenario action) := by
  unfold attempt
  refine refuses_bind (refuses_item _ _) fun name => refuses_bind (refuses_item _ _) fun arguments =>
    refuses_bind ?_ fun valid => ?_
  · unfold toolInput
    split
    · split
      · exact refuses_ok _
      · split
        · split <;> exact refuses_ok _
        · exact refuses_ok _
    · exact refuses_raised _
  · split
    · refine refuses_bind (refuses_digest _ _) fun fingerprint => ?_
      split
      · split
        · exact refuses_ok _
        · split
          · exact refuses_performAttempt _ _ _
          · exact refuses_ok _
      · exact refuses_performAttempt _ _ _
    · exact refuses_ok _

theorem refuses_act : Refuses (rows.act sha256 supply scenario) := by
  unfold act
  refine refuses_bind (refuses_item _ _) fun actions => refuses_bind (refuses_entry _ _) fun due => ?_
  split
  · exact refuses_ok _
  · refine refuses_bind (refuses_item _ _) fun type => ?_
    split
    · exact refuses_bind (refuses_item _ _) fun _ => refuses_bind (refuses_item _ _) fun _ =>
        refuses_bind (refuses_item _ _) fun _ => refuses_ok _
    · split
      · exact refuses_bind (refuses_item _ _) fun _ => refuses_ok _
      · exact refuses_attempt
  · exact refuses_raised _

theorem refuses_advance : Refuses (rows.advance sha256 app supply) := by
  unfold advance
  split
  · exact refuses_ok _
  · exact refuses_bind refuses_compatible fun _ => refuses_bind refuses_act fun _ => refuses_ok _

theorem refuses_decide (decision : MobileDecision) : Refuses (rows.decide sha256 app supply decision) := by
  unfold decide
  refine refuses_bind refuses_compatible fun _ => ?_
  split
  · split
    · exact refuses_ok _
    · exact refuses_api (by decide)
  · split
    · exact refuses_ok _
    · exact refuses_api (by decide)

end RunRows

section Operations
variable {sha256 : Json → String} {app : MobileApp} {store : MobileStore}

theorem refuses_committed {α : Type} {value : α} {result : Except MobileError MobileStore} (refuses : Refuses result) :
    Refuses (committed store value result).1 := by
  cases result with
  | ok next => exact refuses_ok _
  | error error => exact refuses_error (refuses error rfl)

theorem refuses_transact {id : Uuid} {body : RunRows → Except MobileError RunRows} (refuses : ∀ rows, Refuses (body rows)) :
    Refuses (store.transact id body) := by
  unfold MobileStore.transact
  split
  · exact refuses_api (by decide)
  · exact refuses_map (refuses _)

/-- An operation that is not interrupted fails in an expected way only. -/
theorem refuses_apply (op : MobileOp) (reading : MobileReading) : Refuses (op.apply sha256 reading store).1 := by
  cases op with
  | fresh => exact refuses_ok _
  | create run =>
    refine refuses_committed ?_
    unfold MobileStore.insertRun
    split
    · exact refuses_raised _
    · exact refuses_ok _
  | advance app id => exact refuses_committed (refuses_transact fun _ => RunRows.refuses_advance)
  | decide app id decision => exact refuses_committed (refuses_transact fun _ => RunRows.refuses_decide decision)
  | record evaluation =>
    refine refuses_committed ?_
    unfold MobileStore.insertEvaluation
    split
    · split
      · exact refuses_raised _
      · exact refuses_ok _
    · exact refuses_raised _
  | loadRun id =>
    simp only [MobileOp.apply]
    split
    · exact refuses_ok _
    · exact refuses_api (by decide)
  | loadEvents id =>
    show Refuses (store.events id)
    unfold MobileStore.events
    dsimp only
    split
    · exact refuses_ok _
    · exact refuses_evidence _
  | loadEvaluation id =>
    simp only [MobileOp.apply]
    split
    · exact refuses_ok _
    · exact refuses_api (by decide)
  | listEvaluations limit => exact refuses_ok _

theorem refuses_invalid {α : Type} : Refuses (invalid : Except MobileError α) := refuses_api (by decide)

theorem refuses_checkDecision (decision : MobileDecision) : Refuses (checkDecision decision) := by
  unfold checkDecision
  split
  · exact refuses_ok _
  · exact refuses_invalid

theorem refuses_noQuery (query : Query) : Refuses (noQuery query) := by
  unfold noQuery
  split
  · exact refuses_ok _
  · exact refuses_api (by decide)

theorem refuses_limitQuery (query : Query) (default lower upper : Nat) : Refuses (limitQuery query default lower upper) := by
  unfold limitQuery
  split
  · extract_lets conclude
    have concludes : ∀ value, Refuses (conclude value) := by
      intro value
      simp only [conclude]
      split
      · exact refuses_ok _
      · exact refuses_api (by decide)
    split
    · exact concludes default
    · split
      · exact concludes _
      · exact refuses_api (by decide)
    · exact refuses_api (by decide)
  · exact refuses_api (by decide)

theorem refuses_shape (body : Json) (required optional : List String) : Refuses (shape body required optional) := by
  unfold shape
  split
  · split
    · exact refuses_ok _
    · exact refuses_invalid
  · exact refuses_invalid

theorem refuses_readDecision (body : Json) : Refuses (readDecision body) := by
  unfold readDecision
  refine refuses_bind (refuses_shape _ _ _) fun items => ?_
  dsimp only
  split
  · split
    · split
      · exact refuses_ok _
      · exact refuses_ok _
      · exact refuses_invalid
    · exact refuses_invalid
  · exact refuses_invalid

theorem refuses_provenance : Refuses app.provenance :=
  refuses_bind (refuses_item _ _) fun _ => refuses_bind (refuses_item _ _) fun _ => refuses_ok _

theorem refuses_sortedScenarios : Refuses app.sortedScenarios := by
  refine refuses_bind (refuses_mapM (fun _ => refuses_map (refuses_item _ _)) _) fun keyed => ?_
  split
  · exact refuses_ok _
  · exact refuses_raised _

theorem refuses_gradeCase (run : MobileRun) (events : List MobileEvent) : Refuses (app.gradeCase run events) := by
  unfold gradeCase
  extract_lets byType result observed conclude
  have concludes : ∀ scenario, Refuses (conclude scenario) := by
    intro scenario
    refine refuses_bind (refuses_project _ _) fun types => refuses_bind (refuses_project _ _) fun actual =>
      refuses_bind (refuses_project _ _) fun started => refuses_bind (refuses_project _ _) fun successes =>
      refuses_bind (refuses_project _ _) fun failures => ?_
    split
    · refine refuses_bind (refuses_item _ _) fun outcome => refuses_bind (refuses_item _ _) fun faults =>
        refuses_bind (refuses_elements _) fun declared => refuses_bind (refuses_mapM (fun fault => ?_) _) fun expected =>
        refuses_bind (refuses_project _ _) fun injected => ?_
      · exact refuses_bind (refuses_item _ _) fun _ => refuses_bind (refuses_item _ _) fun _ =>
          refuses_bind (refuses_item _ _) fun _ => refuses_hashed _
      · split
        · exact refuses_bind (refuses_project _ _) fun _ => refuses_bind (refuses_project _ _) fun _ =>
            refuses_bind (refuses_item _ _) fun _ => refuses_bind (refuses_elements _) fun _ =>
            refuses_bind (refuses_hashed _) fun _ => refuses_bind (refuses_hashed _) fun _ => refuses_ok _
        · exact refuses_evidence _
    · exact refuses_evidence _
  split
  · exact concludes _
  · exact refuses_raised _

theorem refuses_reportJson (evaluation : MobileEvaluation) (cases : List MobileCase) :
    Refuses (reportJson app evaluation cases) := by
  unfold reportJson
  dsimp only
  split
  · exact refuses_ok _
  · exact refuses_evidence _

end Operations

end ReliabilityLab
