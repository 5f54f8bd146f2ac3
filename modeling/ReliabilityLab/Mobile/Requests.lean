import ReliabilityLab.Foundation.Sequential
import ReliabilityLab.Mobile.Report

namespace ReliabilityLab

open Mobile MobileApp

/-- The tables of the database: the rows of every run, and the evaluations. -/
structure MobileStore where
  runs : List RunRows
  evaluations : List MobileEvaluation
  run_ids : (runs.map (·.run.id)).Nodup
  evaluation_ids : (evaluations.map (·.evaluationId)).Nodup

namespace MobileStore

def empty : MobileStore := ⟨[], [], .nil, .nil⟩

variable (store : MobileStore)

def rows? (id : Uuid) : Option RunRows := store.runs.find? (·.run.id = id)

/-- The rows of one run, in the place of its old ones. -/
def swap (rows old : RunRows) : RunRows := if old.run.id = rows.run.id then rows else old

theorem swap_ids (rows : RunRows) (runs : List RunRows) : (runs.map (swap rows)).map (·.run.id) = runs.map (·.run.id) := by
  rw [List.map_map]
  refine List.map_congr_left fun old _ => ?_
  simp only [Function.comp_apply, swap]
  split <;> simp_all

def replace (rows : RunRows) : MobileStore :=
  { store with
    runs := store.runs.map (swap rows)
    run_ids := by
      rw [swap_ids]
      exact store.run_ids }

/-- A transaction that reads a run and writes its rows. -/
def transact (id : Uuid) (body : RunRows → Except MobileError RunRows) : Except MobileError MobileStore :=
  match store.rows? id with
  | none => .error (.api 404 "run_not_found" "Run was not found.")
  | some rows => (body rows).map store.replace

/-- `INSERT INTO runs`, which a run with this id refuses. -/
def insertRun (rows : RunRows) : Except MobileError MobileStore :=
  if fresh : rows.run.id ∈ store.runs.map (·.run.id) then .error (.raised .database)
  else .ok { store with
    runs := store.runs ++ [rows]
    run_ids := by simpa [List.nodup_append, store.run_ids] using fresh }

/-- `INSERT INTO evaluations`; a body that JSON cannot render raises before it. -/
def insertEvaluation (evaluation : MobileEvaluation) : Except MobileError MobileStore :=
  if evaluation.provenance.toJson.printable then
    if fresh : evaluation.evaluationId ∈ store.evaluations.map (·.evaluationId) then .error (.raised .database)
    else .ok { store with
      evaluations := store.evaluations ++ [evaluation]
      evaluation_ids := by simpa [List.nodup_append, store.evaluation_ids] using fresh }
  else valueError

/-- `_events`: in the order of their numbers, of which none may be missing. -/
def events (id : Uuid) : Except MobileError (List MobileEvent) :=
  let stored := ((store.rows? id).map (·.events)).getD []
  let ordered := stored.insertionSort fun a b => a.sequence ≤ b.sequence
  if ordered.map (·.sequence) = List.range' 1 ordered.length then .ok ordered
  else evidenceInvalid "The trace has missing or unordered events."

/-- The newest evaluations first. -/
def newest (limit : Nat) : List MobileEvaluation :=
  (store.evaluations.insertionSort fun a b => ¬ a.generatedAt.isoformat < b.generatedAt.isoformat).take limit

end MobileStore

/-- What a request takes from outside at an operation: two new identifiers, the time and the stamps of events. -/
structure MobileReading where
  id : Uuid
  traceId : Uuid
  supply : RunRows.Supply

/-- The transactions of the engine, its reads outside of them, and `uuid4` with the clock. -/
inductive MobileOp where
  | fresh
  | create (run : MobileRun)
  | advance (app : MobileApp) (id : Uuid)
  | decide (app : MobileApp) (id : Uuid) (decision : MobileDecision)
  | record (evaluation : MobileEvaluation)
  | loadRun (id : Uuid)
  | loadEvents (id : Uuid)
  | loadEvaluation (id : Uuid)
  | listEvaluations (limit : Nat)

/-- What an operation returns when it raises nothing. A round of `_advance` returns the run, or the loop goes on. -/
abbrev MobileOp.Value : MobileOp → Type
  | fresh => MobileReading
  | create _ => Unit
  | advance _ _ => Option MobileRun
  | decide _ _ _ => Unit
  | record _ => Unit
  | loadRun _ => MobileRun
  | loadEvents _ => List MobileEvent
  | loadEvaluation _ => MobileEvaluation
  | listEvaluations _ => List MobileEvaluation

abbrev MobileOp.Answer (op : MobileOp) : Type := Except MobileError op.Value

/-- A transaction that raises leaves the database as it was. -/
def committed {α : Type} (store : MobileStore) (value : α) :
    Except MobileError MobileStore → Except MobileError α × MobileStore
  | .ok next => (.ok value, next)
  | .error error => (.error error, store)

/-- One operation, carried out to its end. -/
def MobileOp.apply (sha256 : Json → String) (op : MobileOp) (reading : MobileReading) (store : MobileStore) :
    op.Answer × MobileStore :=
  match op with
  | .fresh => (.ok reading, store)
  | .create run => committed store () (store.insertRun (.created reading.supply run))
  | .advance app id =>
    committed store (((store.rows? id).filter RunRows.settled).map (·.run))
      (store.transact id (RunRows.advance sha256 app reading.supply))
  | .decide app id decision => committed store () (store.transact id (RunRows.decide sha256 app reading.supply · decision))
  | .record evaluation => committed store () (store.insertEvaluation evaluation)
  | .loadRun id =>
    match store.rows? id with
    | some rows => (.ok rows.run, store)
    | none => (.error (.api 404 "run_not_found" "Run was not found."), store)
  | .loadEvents id => (store.events id, store)
  | .loadEvaluation id =>
    match store.evaluations.find? (·.evaluationId = id) with
    | some evaluation => (.ok evaluation, store)
    | none => (.error (.api 404 "evaluation_not_found" "Evaluation was not found."), store)
  | .listEvaluations limit => (.ok (store.newest limit), store)

abbrev MobileProgram (α : Type) := Program MobileOp MobileOp.Answer MobileError α

/-- One operation, whose exception ends the request. -/
def request (op : MobileOp) : MobileProgram op.Value := (Program.ask op).bind .ofExcept

def refuse {α : Type} (status : Nat) (code message : String) : MobileProgram α := .raise (.api status code message)

namespace MobileApp
variable (sha256 : Json → String) (app : MobileApp)

/-- `_advance`, with the rounds that are left. -/
def advanceRun (id : Uuid) : Nat → MobileProgram MobileRun
  | 0 => refuse 409 "action_budget_exceeded" "The offline action budget was exhausted."
  | rounds + 1 => do
    match ← request (.advance app id) with
    | some run => pure run
    | none => advanceRun id rounds

/-- The run that `_start` inserts. -/
def newRun (reading : MobileReading) (scenarioId : Json) (scenarioHash : String) (mode : Mode) : MobileRun where
  id := reading.id
  traceId := reading.traceId
  scenarioId := scenarioId
  scenarioHash := scenarioHash
  engineVersion := "mobile/v1"
  mode := mode
  status := .queued
  createdAt := reading.supply.now
  updatedAt := reading.supply.now
  currentStep := 0
  nextAttempt := 1
  lastAnnouncedStep := -1
  pendingApproval := none
  result := none

/-- `_start`. -/
def start (scenarioId : Json) (mode : Mode) : MobileProgram MobileRun := do
  match app.scenario? scenarioId with
  | none => refuse 404 "scenario_not_found" "Scenario was not found."
  | some scenario => do
    let reading ← request .fresh
    let hash ← .ofExcept (digest sha256 (.obj scenario))
    let run := newRun reading scenarioId hash mode
    request (.create run)
    app.advanceRun run.id 64

def invalid {α : Type} : Except MobileError α :=
  .error (.api 422 "validation_error" "The request does not match the supported input contract.")

def hexDigest (text : String) : Bool :=
  text.length = 64 && text.toList.all fun c => ('0' ≤ c ∧ c ≤ '9') || ('a' ≤ c ∧ c ≤ 'f')

/-- The bounds of `_approve` on what it was sent. -/
def checkDecision (decision : MobileDecision) : Except MobileError MobileDecision :=
  if isText (.str decision.actor) 128 && decision.actionStep < 100 && hexDigest decision.actionFingerprint &&
      decision.reason.all (·.length ≤ 500) then .ok decision
  else invalid

/-- `_approve`. -/
def approve (id : Uuid) (decision : MobileDecision) : MobileProgram MobileRun := do
  let normalized ← .ofExcept (checkDecision decision)
  request (.decide app id normalized)
  app.advanceRun id 64

/-- `_evidence`. -/
def evidence (run : MobileRun) : MobileProgram String := do
  let events ← request (.loadEvents run.id)
  .ofExcept (digest sha256 (.obj [("run", run.toJson), ("events", .arr (events.map MobileEvent.toJson))]))

/-- `_case`, with the evidence check before it. -/
def verifiedCase (reference : Uuid × String) : MobileProgram MobileCase := do
  let run ← request (.loadRun reference.1)
  let found ← evidence sha256 run
  if found = reference.2 then do
    let events ← request (.loadEvents run.id)
    let _ ← request (.loadEvents run.id)
    .ofExcept (app.gradeCase run events)
  else refuse 409 "evidence_invalid" "The evaluation's run evidence changed."

def verifiedCases : List (Uuid × String) → MobileProgram (List MobileCase)
  | [] => pure []
  | reference :: rest => do
    let case ← app.verifiedCase sha256 reference
    let cases ← verifiedCases rest
    pure (case :: cases)

/-- `_report`. -/
def report (evaluation : MobileEvaluation) : MobileProgram Json :=
  if evaluation.provenance.suiteHash = app.suiteHash ∧ evaluation.provenance.reportVersion = "mobile/v1" ∧
      evaluation.provenance.graderVersion = "mobile-exact/v1" then do
    let cases ← app.verifiedCases sha256 evaluation.runs
    .ofExcept (reportJson app evaluation cases)
  else refuse 409 "evidence_invalid" "This evaluation requires its original scenario suite and grader."

def reports : List MobileEvaluation → MobileProgram (List Json)
  | [] => pure []
  | evaluation :: rest => do
    let report ← app.report sha256 evaluation
    let others ← reports rest
    pure (report :: others)

/-- The decision that the suite supplies for a run that waits. -/
def suppliedDecision (pending : PendingApproval) : MobileDecision where
  actor := "offline-evaluator"
  allow := true
  actionStep := pending.actionStep
  actionFingerprint := pending.actionFingerprint
  reason := some "Approval supplied by the frozen synthetic suite"

/-- One run of an evaluation, approved once where the scenario supplies it. -/
def evaluateScenario (mode : Mode) (scenario : Dict) : MobileProgram (Uuid × String) := do
  let id ← .ofExcept (item (.obj scenario) "id")
  let started ← app.start sha256 id mode
  let supplied ← if started.status = .waitingApproval then .ofExcept (item (.obj scenario) "approval_supplied")
    else pure .null
  let run ← if truthy supplied then do
      let paused ← request (.loadRun started.id)
      match paused.pendingApproval with
      | some pending => app.approve paused.id (suppliedDecision pending)
      | none => .ofExcept typeError
    else pure started
  let hash ← evidence sha256 run
  pure (run.id, hash)

def evaluateScenarios : List (Mode × Dict) → MobileProgram (List (Uuid × String))
  | [] => pure []
  | (mode, scenario) :: rest => do
    let reference ← app.evaluateScenario sha256 mode scenario
    let references ← evaluateScenarios rest
    pure (reference :: references)

/-- `_evaluate`. -/
def evaluate : MobileProgram Json := do
  let reading ← request .fresh
  let provenance ← .ofExcept app.provenance
  let scenarios ← .ofExcept app.sortedScenarios
  let runs ← app.evaluateScenarios sha256
    (scenarios.map (Mode.fragile, ·) ++ scenarios.map (Mode.resilient, ·))
  let evaluation : MobileEvaluation := ⟨reading.id, reading.supply.now, runs, provenance⟩
  request (.record evaluation)
  app.report sha256 evaluation

/-- `_public`; a result shows its evidence references even where it has none. -/
def publicRun (run : MobileRun) : MobileProgram Json := do
  let events ← request (.loadEvents run.id)
  let shown (result : Dict) : Dict := result.set "evidence_refs" ((result.lookup "evidence_refs").getD (.arr []))
  pure (.obj ([("id", .str (Uuid.text run.id)), ("trace_id", .str (Uuid.text run.traceId)),
      ("scenario_id", run.scenarioId), ("mode", .str (modeText run.mode)), ("status", .str run.status.value),
      ("created_at", .str run.createdAt.isoformat), ("updated_at", .str run.updatedAt.isoformat),
      ("duration_ms", ofMetric (durationMs run.createdAt run.updatedAt)),
      ("attempt_count", .int (events.filter (·.eventType = .toolAttemptStarted)).length),
      ("approval_required", .bool run.pendingApproval.isSome)] ++
    (run.pendingApproval.map fun pending => ("pending_approval", pending.toJson)).toList ++
    (run.result.map fun result => ("result", Json.obj (shown result))).toList))

end MobileApp

/-- The parameters of a query, each with all the values that it was given. -/
abbrev Query := List (String × List String)

/-- The requests that start, change or evaluate runs, or read evaluations; identifiers are read off the path. -/
inductive MobileRequest where
  | startRun (query : Query) (body : Json)
  | evaluate (query : Query) (body : Json)
  | listEvaluations (query : Query)
  | getEvaluation (id : Uuid) (query : Query)
  | approveRun (id : Uuid) (query : Query) (body : Json)
  | resumeRun (id : Uuid) (query : Query) (body : Json)

namespace Mobile

/-- `_query` where no parameter is allowed. -/
def noQuery (query : Query) : Except MobileError Unit :=
  if query.isEmpty then .ok () else .error (.api 422 "validation_error" "Unknown query parameter.")

/-- `_query` with the limit of a list. -/
def limitQuery (query : Query) (default lower upper : Nat) : Except MobileError Nat := do
  if query.all (·.1 = "limit") then do
    let value ← match query.lookup "limit" with
      | none => pure default
      | some [text] =>
        if 1 ≤ text.length ∧ text.length ≤ 10 ∧ text.toList.all fun c => '0' ≤ c ∧ c ≤ '9' then
          pure (text.toList.foldl (fun number c => 10 * number + (c.toNat - '0'.toNat)) 0)
        else .error (.api 422 "validation_error" "Query parameters must be bounded integers.")
      | some _ => .error (.api 422 "validation_error" "Query parameters must be bounded integers.")
    if lower ≤ value ∧ value ≤ upper then pure value
    else .error (.api 422 "validation_error" "Query parameter is outside the supported range.")
  else .error (.api 422 "validation_error" "Unknown query parameter.")

/-- `_shape`. -/
def shape (body : Json) (required optional : List String) : Except MobileError Dict :=
  match body with
  | .obj items =>
    if (required.all fun name => (items.lookup name).isSome) && items.all fun entry => entry.1 ∈ required ++ optional then
      .ok items
    else MobileApp.invalid
  | _ => MobileApp.invalid

def modeOf (value : Json) : Option Mode :=
  if named value "fragile" then some .fragile else if named value "resilient" then some .resilient else none

/-- The body of an approval, as far as its types go. -/
def readDecision (body : Json) : Except MobileError MobileDecision := do
  let items ← shape body ["actor", "allow", "action_step", "action_fingerprint"] ["reason"]
  let reason := (items.lookup "reason").getD .null
  match items.lookup "actor", items.lookup "allow", items.lookup "action_step", items.lookup "action_fingerprint" with
  | some (.str actor), some (.bool allow), some (.int step), some (.str fingerprint) =>
    if 0 ≤ step then
      match reason with
      | .null => .ok ⟨actor, allow, step.toNat, fingerprint, none⟩
      | .str text => .ok ⟨actor, allow, step.toNat, fingerprint, some text⟩
      | _ => MobileApp.invalid
    else MobileApp.invalid
  | _, _, _, _ => MobileApp.invalid

end Mobile

/-- `_route`. -/
def MobileApp.route (sha256 : Json → String) (app : MobileApp) : MobileRequest → MobileProgram (Nat × Json)
  | .startRun query body => do
    .ofExcept (noQuery query)
    let items ← .ofExcept (shape body ["scenario_id", "mode"] [])
    let scenarioId := (items.lookup "scenario_id").getD .null
    match modeOf ((items.lookup "mode").getD .null) with
    | some mode =>
      if isIdentifier scenarioId then do
        let run ← app.start sha256 scenarioId mode
        let shown ← publicRun run
        pure (201, shown)
      else .ofExcept invalid
    | none => .ofExcept invalid
  | .evaluate query body => do
    .ofExcept (noQuery query)
    let items ← .ofExcept (shape body ["suite"] [])
    let suite := (items.lookup "suite").getD .null
    if isIdentifier suite then
      if named suite "incident-response" then do
        let report ← app.evaluate sha256
        pure (201, report)
      else refuse 404 "suite_not_found" "The offline suite was not found."
    else .ofExcept invalid
  | .listEvaluations query => do
    let limit ← .ofExcept (limitQuery query 10 1 100)
    let evaluations ← request (.listEvaluations limit)
    let reports ← app.reports sha256 evaluations
    pure (200, .obj [("items", .arr reports)])
  | .getEvaluation id query => do
    .ofExcept (noQuery query)
    let evaluation ← request (.loadEvaluation id)
    let report ← app.report sha256 evaluation
    pure (200, report)
  | .approveRun id query body => do
    let _ ← request (.loadRun id)
    .ofExcept (noQuery query)
    let decision ← .ofExcept (readDecision body)
    let run ← app.approve id decision
    let shown ← publicRun run
    pure (200, shown)
  | .resumeRun id query body => do
    let run ← request (.loadRun id)
    .ofExcept (noQuery query)
    if body == .null || body == .obj [] then
      if run.status.terminal then refuse 409 "run_conflict" "A terminal run cannot be resumed."
      else do
        let advanced ← app.advanceRun id 64
        let shown ← publicRun advanced
        pure (200, shown)
    else .ofExcept invalid

/-- A request that nothing disturbs: its answer, with the clock and the database after it. -/
def MobileApp.handle (sha256 : Json → String) (app : MobileApp) (readings : Nat → MobileReading) (request : MobileRequest)
    (here : Nat × MobileStore) : Except MobileError (Nat × Json) × Nat × MobileStore :=
  (app.route sha256 request).execute (MobileOp.apply sha256) readings here

/-- Requests one after another. -/
def MobileApp.serve (sha256 : Json → String) (app : MobileApp) (readings : Nat → MobileReading)
    (requests : List MobileRequest) (here : Nat × MobileStore) : Nat × MobileStore :=
  requests.foldl (fun here request => (app.handle sha256 readings request here).2) here

/-- Any number of requests to instances that share one database. An operation that is interrupted
raises something and changes nothing; a party that is interrupted otherwise just stops. -/
def mobileSystem (sha256 : Json → String) (apps : MobileApp → Prop) :
    Machine Nat MobileOp MobileOp.Answer MobileError (Nat × Json) MobileReading MobileStore where
  init store := store = .empty
  starts program := ∃ app request, apps app ∧ program = app.route sha256 request
  reads _ _ := True
  perform _ op reading store answer next :=
    (answer, next) = op.apply sha256 reading store ∨ next = store ∧ ∃ error, answer = .error error
  ambient _ _ := False
  crash _ store := store

end ReliabilityLab
