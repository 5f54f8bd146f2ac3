import ReliabilityLab.Foundation.Rounding
import ReliabilityLab.Mobile.Engine

namespace ReliabilityLab

/-- What `_case` returns: the public part, and the numbers that the metrics are made of. -/
structure MobileCase where
  scenarioId : Json
  mode : Mode
  runId : Uuid
  finalStatus : MobileStatus
  expectedOutcome : Json
  observedOutcome : Json
  correct : Bool
  attemptCount : Nat
  retryAttemptCount : Nat
  matched : Nat
  longer : Nat
  recovered : Nat
  transient : Nat
  accepted : Nat
  invalid : Nat
  rejected : Nat
  malformed : Nat
  unnecessary : Nat
  latency : ℚ≥0

def MobileCase.public (case : MobileCase) : Json :=
  .obj [("scenario_id", case.scenarioId), ("mode", .str (modeText case.mode)), ("run_id", .str (Uuid.text case.runId)),
    ("final_status", .str case.finalStatus.value), ("expected_outcome", case.expectedOutcome),
    ("observed_outcome", case.observedOutcome), ("correct", .bool case.correct),
    ("attempt_count", .int case.attemptCount), ("retry_attempt_count", .int case.retryAttemptCount)]

structure MobileProvenance where
  reportVersion : String
  graderVersion : String
  suiteHash : String
  gitRevision : Json
  gitDirty : Json
  packageVersion : Json

def MobileProvenance.toJson (provenance : MobileProvenance) : Json :=
  .obj [("report_version", .str provenance.reportVersion), ("grader_version", .str provenance.graderVersion),
    ("suite_hash", .str provenance.suiteHash), ("git_revision", provenance.gitRevision),
    ("git_dirty", provenance.gitDirty), ("package_version", provenance.packageVersion)]

/-- The body of a row of `evaluations`. -/
structure MobileEvaluation where
  evaluationId : Uuid
  generatedAt : DateTime
  runs : List (Uuid × String)
  provenance : MobileProvenance

namespace Mobile

/-! Counters: bags of hashable values that Python's `==` compares. -/

def countOf (bag : List Json) (value : Json) : Nat := (bag.filter (· == value)).length

/-- `Counter(a) == Counter(b)`. -/
def sameBag (a b : List Json) : Bool := (a ++ b).all fun value => countOf a value = countOf b value

/-- The keys of `Counter(bag)`. -/
def keysOf (bag : List Json) : List Json :=
  bag.foldl (fun keys value => if keys.any (· == value) then keys else keys ++ [value]) []

/-- `sum((Counter(a) - Counter(b)).values())`. -/
def excess (a b : List Json) : Nat := ((keysOf a).map fun value => countOf a value - countOf b value).sum

/-- `Counter(...)` of values that may not be hashable. -/
def hashed (bag : List Json) : Except MobileError (List Json) := if bag.all Json.hashable then .ok bag else typeError

/-- One row of the table of `_case`: `current` so far, ending with `left`. -/
def gradeRow (name : Json) : Nat → Nat → List Json → List Nat → List Nat
  | above, left, other :: rest, next :: row =>
    let here := if name == other then above + 1 else max next left
    here :: gradeRow name next here rest row
  | _, _, _, _ => []

/-- The rows keep their leading zero apart. -/
def gradeMatches (expected actual : List Json) : Nat :=
  (expected.foldl (fun previous name => gradeRow name 0 0 actual previous) (actual.map fun _ => 0)).getLastD 0

/-- `total_seconds() * 1000`, not below zero. -/
def durationMs (createdAt updatedAt : DateTime) : ℚ≥0 :=
  let micros := (updatedAt.instant - createdAt.instant).toNat
  (double.round ((double.round (micros / (1000000 : ℕ))).getD 0 * (1000 : ℕ))).getD 0

/-- The fields of several payloads. -/
def project (payloads : List Dict) (names : List String) : Except MobileError (List (List Json)) :=
  payloads.mapM fun payload => names.mapM fun name => item (.obj payload) name

/-- Identities of attempts: `(action_step, tool_name, attempt)`. -/
def identities (payloads : List Dict) : Except MobileError (List (List Json)) :=
  project payloads ["action_step", "tool_name", "attempt"]

/-- Tuples are equal where their entries are. -/
def sameTuples (a b : List (List Json)) : Bool := sameBag (a.map .arr) (b.map .arr)

def evidenceInvalid {α : Type} (message : String) : Except MobileError α := .error (.api 409 "evidence_invalid" message)

def transientKind (kind : Json) : Bool := named kind "timeout" || named kind "rate_limit" || named kind "tool_error"

/-- Some later attempt of the same call succeeded. -/
def succeededLater (successes : List (List Json)) (fault : List Json) : Bool :=
  successes.any fun success =>
    match success, fault with
    | [step, tool, number], [faultStep, faultTool, faultNumber, _] =>
      step == faultStep && tool == faultTool && (faultNumber.int?.getD 0 < number.int?.getD 0)
    | _, _ => false

def quotient (q : ℚ≥0) : ℚ≥0 := (double.round q).getD 0

def ofMetric (q : ℚ≥0) : Json := .float (.finite q)

/-- Difference of two floats. -/
def deltaOf (right left : ℚ≥0) : Json :=
  .float (.finite (if left ≤ right then (double.round (right - left)).getD 0
    else -((double.round (left - right)).getD 0 : ℚ≥0)))

end Mobile

namespace MobileApp
open Mobile

/-- The provenance of a new evaluation. -/
def provenance (app : MobileApp) : Except MobileError MobileProvenance := do
  let revision ← item app.metadata "git_revision"
  let version ← item app.metadata "version"
  let dirty := ((app.metadata.obj?.getD []).lookup "git_dirty").getD (.bool false)
  pure ⟨"mobile/v1", "mobile-exact/v1", app.suiteHash, revision, dirty, version⟩

/-- `_case`. -/
def gradeCase (app : MobileApp) (run : MobileRun) (events : List MobileEvent) : Except MobileError MobileCase := do
  let scenario ← match app.scenario? run.scenarioId with
    | some scenario => .ok (Json.obj scenario)
    | none => keyError
  let byType (kind : MobileEventType) : List Dict := (events.filter (·.eventType = kind)).map (·.payload)
  let types ← project (byType .policyAction) ["type"]
  let calls := ((byType .policyAction).zip types).filter fun entry => entry.2.any (named · "call_tool")
  let actual := (← project (calls.map (·.1)) ["tool_name"]).flatten
  let started ← identities (byType .toolAttemptStarted)
  let successes ← identities (byType .toolAttemptSucceeded)
  let failures ← identities (byType .toolAttemptFailed)
  if sameTuples started (successes ++ failures) && started.all fun id => countOf (started.map .arr) (.arr id) = 1 then do
    let result := run.result.getD []
    let observed := (result.lookup "outcome").getD ((result.lookup "code").getD (.str run.status.value))
    let expectedOutcome ← item scenario "expected_outcome"
    let correct := observed == expectedOutcome
    let declared ← elements (← item scenario "faults")
    let expectedFaults ← declared.mapM fun fault => do
      let tool ← item fault "tool_name"
      let number ← item fault "attempt"
      let type ← item fault "type"
      hashed [tool, number, type]
    let injected ← project (byType .faultInjected) ["tool_name", "attempt", "kind"]
    if sameTuples injected expectedFaults then do
      let faults ← project (byType .faultInjected) ["action_step", "tool_name", "attempt", "kind"]
      let transient := faults.filter fun fault => fault.getLast?.any transientKind
      let outputs ← project (byType .toolAttemptSucceeded) ["tool_name", "output"]
      let steps := (started.map fun id => id.headD .null)
      let expected ← elements (← item scenario "expected_tool_sequence")
      let expectedNames ← hashed expected
      let actualNames ← hashed actual
      pure {
        scenarioId := run.scenarioId
        mode := run.mode
        runId := run.id
        finalStatus := run.status
        expectedOutcome
        observedOutcome := observed
        correct
        attemptCount := started.length
        retryAttemptCount := ((keysOf steps).map fun step => countOf steps step - 1).sum
        matched := gradeMatches expected actual
        longer := max expected.length actual.length
        recovered := if correct then (transient.filter (succeededLater successes)).length else 0
        transient := transient.length
        accepted := successes.length
        invalid := (outputs.filter fun output => !validOutput (output.headD .null) (output.getLastD .null)).length
        rejected := (byType .toolOutputValidationFailed).length
        malformed := (faults.filter fun fault => fault.getLast?.any (named · "malformed_output")).length
        unnecessary := excess actualNames expectedNames
        latency := durationMs run.createdAt run.updatedAt }
    else evidenceInvalid "The declared fault evidence is incomplete."
  else evidenceInvalid "The tool attempt evidence is incomplete."

end MobileApp

namespace Mobile

/-- The numbers of one mode. -/
structure Metrics where
  correct : Nat
  count : Nat
  succeeded : Nat
  accuracy : ℚ≥0
  recovered : Nat
  transient : Nat
  accepted : Nat
  invalid : Nat
  rejected : Nat
  malformed : Nat
  unnecessary : Nat
  retries : Nat
  p50 : ℚ≥0
  p95 : ℚ≥0

/-- The sequence score of a case; two empty sequences match. -/
def scoreOf (case : MobileCase) : ℚ≥0 := if case.longer = 0 then 1 else case.matched / case.longer

def metricsOf (cases : List MobileCase) : Metrics :=
  let total (field : MobileCase → Nat) : Nat := (cases.map field).sum
  let latencies := (cases.map (·.latency)).insertionSort (· ≤ ·)
  let rank (percentile : ℚ≥0) : Nat := ⌈quotient (percentile * cases.length)⌉₊
  { correct := (cases.filter (·.correct)).length
    count := cases.length
    succeeded := (cases.filter (·.finalStatus = .succeeded)).length
    accuracy := quotient ((cases.map scoreOf).sum / cases.length)
    recovered := total (·.recovered)
    transient := total (·.transient)
    accepted := total (·.accepted)
    invalid := total (·.invalid)
    rejected := total (·.rejected)
    malformed := total (·.malformed)
    unnecessary := total (·.unnecessary)
    retries := total (·.retryAttemptCount)
    p50 := latencies.getD (rank (quotient (1 / (2 : ℕ))) - 1) 0
    p95 := latencies.getD (rank (quotient ((95 : ℕ) / (100 : ℕ))) - 1) 0 }

namespace Metrics
variable (metrics : Metrics)

def correctness : ℚ≥0 := quotient (metrics.correct / metrics.count)

def recoveryRate : Option ℚ≥0 :=
  if metrics.transient = 0 then none else some (quotient (metrics.recovered / metrics.transient))

def invalidRate : ℚ≥0 := if metrics.accepted = 0 then 0 else quotient (metrics.invalid / metrics.accepted)

def toJson : Json :=
  .obj [("case_correct_count", .int metrics.correct), ("case_count", .int metrics.count),
    ("task_correctness_rate", ofMetric metrics.correctness), ("terminal_success_count", .int metrics.succeeded),
    ("tool_sequence_accuracy", ofMetric metrics.accuracy), ("tool_sequence_case_count", .int metrics.count),
    ("recovered_transient_fault_count", .int metrics.recovered), ("transient_fault_count", .int metrics.transient),
    ("recovery_rate", optionalJson (metrics.recoveryRate.map ofMetric)),
    ("invalid_output_accepted_count", .int metrics.invalid), ("accepted_output_count", .int metrics.accepted),
    ("invalid_output_rate", ofMetric metrics.invalidRate), ("invalid_output_detected_count", .int metrics.rejected),
    ("invalid_output_rejected_count", .int metrics.rejected), ("malformed_fault_injected_count", .int metrics.malformed),
    ("unnecessary_call_count", .int metrics.unnecessary), ("retry_attempt_count", .int metrics.retries),
    ("p50_latency_ms", ofMetric metrics.p50), ("p95_latency_ms", ofMetric metrics.p95),
    ("estimated_input_tokens", .int 0), ("estimated_output_tokens", .int 0), ("estimated_cost_usd", .str "0")]

end Metrics

/-- One case for every scenario of the catalog. -/
def coversSuite (app : MobileApp) (cases : List MobileCase) : Bool :=
  cases.length = app.scenarios.length &&
    cases.all (fun case => app.scenarios.any (·.1 == case.scenarioId)) &&
    app.scenarios.all fun entry => cases.any (·.scenarioId == entry.1)

def modeJson (mode : Mode) (cases : List MobileCase) : Json :=
  .obj [("mode", .str (modeText mode)), ("metrics", (metricsOf cases).toJson), ("cases", .arr (cases.map MobileCase.public))]

def comparisonJson (fragile resilient : List MobileCase) : Json :=
  let left := metricsOf fragile
  let right := metricsOf resilient
  .obj [("task_correctness_rate_delta", deltaOf right.correctness left.correctness),
    ("tool_sequence_accuracy_delta", deltaOf right.accuracy left.accuracy),
    ("invalid_output_rate_delta", deltaOf right.invalidRate left.invalidRate),
    ("unnecessary_call_count_delta", .int (right.unnecessary - left.unnecessary)),
    ("retry_attempt_count_delta", .int (right.retries - left.retries)),
    ("p50_latency_ms_delta", deltaOf right.p50 left.p50), ("p95_latency_ms_delta", deltaOf right.p95 left.p95),
    ("recovery_rate_delta",
      match left.recoveryRate, right.recoveryRate with
      | some l, some r => deltaOf r l
      | _, _ => .null),
    ("fragile_worse_recovery_scenarios",
      .arr ((fragile.zip resilient).filterMap fun pair =>
        if pair.1.recovered < pair.2.recovered then some pair.2.scenarioId else none))]

/-- `_report`, once the cases of the evaluation have been graded. -/
def reportJson (app : MobileApp) (evaluation : MobileEvaluation) (cases : List MobileCase) : Except MobileError Json :=
  let fragile := cases.filter (·.mode = .fragile)
  let resilient := cases.filter (·.mode = .resilient)
  if coversSuite app fragile && coversSuite app resilient then
    .ok (.obj [("evaluation_id", .str (Uuid.text evaluation.evaluationId)),
      ("generated_at", .str evaluation.generatedAt.isoformat), ("provenance", evaluation.provenance.toJson),
      ("modes", .obj [("fragile", modeJson .fragile fragile), ("resilient", modeJson .resilient resilient)]),
      ("comparison", comparisonJson fragile resilient)])
  else evidenceInvalid "The evaluation is missing scenario cases."

end Mobile

end ReliabilityLab
