import ReliabilityLab.Evaluation.FrozenScripts
import ReliabilityLab.Evaluation.Regrading

namespace ReliabilityLab

/-- A file of a suite: its path below the root, the digest of its bytes, and the scenario in it. -/
structure SuiteFile where
  relativePath : String
  scenarioSha256 : String
  scenario : Scenario

section Evaluate
variable (sha256 : Json → String)

/-- The entries of the files, in their order; an id may occur once. -/
def suiteEntries (seen : List String) : List SuiteFile → Except Exn (List (SuiteManifestEntry × Scenario))
  | [] => .ok []
  | file :: rest =>
    if file.scenario.id ∈ seen then infrastructureError
    else do
      let entry ← manifestEntry sha256 file.relativePath file.scenarioSha256 file.scenario
      let later ← suiteEntries (file.scenario.id :: seen) rest
      pure ((entry, file.scenario) :: later)

/-- `build_suite_manifest`, with the scenario of each entry. -/
def buildSuiteManifest (files : List SuiteFile) : Except Exn (List (SuiteManifestEntry × Scenario)) := do
  let suite ← suiteEntries sha256 [] (files.insertionSort fun a b => a.relativePath ≤ b.relativePath)
  if suite.isEmpty then infrastructureError else pure suite

/-- One mode of `run_evaluation`. -/
def evaluateMode (runCase : SuiteManifestEntry → Scenario → Mode → Except Exn CaseResult)
    (suite : List (SuiteManifestEntry × Scenario)) (mode : Mode) : Except Exn (Mode × ModeResult) := do
  let cases ← suite.mapM fun entry => runCase entry.1 entry.2 mode
  let metrics ← aggregateCases cases
  pure (mode, ⟨mode, cases, metrics⟩)

theorem evaluateMode_mode {runCase : SuiteManifestEntry → Scenario → Mode → Except Exn CaseResult}
    {suite : List (SuiteManifestEntry × Scenario)} {mode : Mode} {result : Mode × ModeResult}
    (evaluated : evaluateMode runCase suite mode = .ok result) : result.1 = mode := by
  obtain ⟨cases, -, evaluated⟩ := Check.bind_ok.mp evaluated
  obtain ⟨metrics, -, done⟩ := Check.bind_ok.mp evaluated
  cases done
  rfl

theorem evaluated_modes {runCase : SuiteManifestEntry → Scenario → Mode → Except Exn CaseResult}
    {suite : List (SuiteManifestEntry × Scenario)} {modes : List Mode} {results : List (Mode × ModeResult)}
    (evaluated : modes.mapM (evaluateMode runCase suite) = .ok results) : results.map (·.1) = modes := by
  have pairs := mapM_ok.mp evaluated
  rw [← List.forall₂_eq_eq_eq, List.forall₂_map_left_iff]
  exact (pairs.imp fun _ _ done => evaluateMode_mode done).flip

/-- The deltas, if both modes were requested. -/
def comparisonOf (modes : List (Mode × ModeResult)) : Except Exn (Option ModeComparison) :=
  if modes.any (·.1 = .fragile) && modes.any (·.1 = .resilient) then (compareModes modes).map some else .ok none

/-- `run_evaluation`; the files do not change meanwhile, and `runCase` runs and grades a case. -/
def runEvaluation (files : List SuiteFile) (modes : List Mode)
    (runCase : SuiteManifestEntry → Scenario → Mode → Except Exn CaseResult) (revision : String) (dirty : Bool) :
    Except Exn EvaluationReport :=
  if unique : modes ≠ [] ∧ modes.Nodup then do
    let suite ← buildSuiteManifest sha256 files
    let manifest := suite.map Prod.fst
    if suite.any fun entry => !entry.2.supported then infrastructureError
    else do
      let initialHash ← suiteSha256 sha256 manifest
      if suite.any fun entry => (validateFaultTargets entry.2).toOption.isNone then infrastructureError
      else
        match evaluated : modes.mapM (evaluateMode runCase suite) with
        | .error error => .error error
        | .ok results => do
          let comparison ← comparisonOf results
          pure ⟨⟨initialHash, manifest, revision, dirty, ⟨1, 2, 1, floatTenth⟩⟩, results, comparison,
            evaluated_modes evaluated ▸ unique.2⟩
  else infrastructureError

end Evaluate

section Suite
variable {sha256 : Json → String} {files : List SuiteFile} {suite : List (SuiteManifestEntry × Scenario)} {modes : List Mode}
  {runCase : SuiteManifestEntry → Scenario → Mode → Except Exn CaseResult} {revision source : String} {dirty : Bool}
  {report : EvaluationReport}

/-- An entry made of its scenario. -/
def Manifested (sha256 : Json → String) (entry : SuiteManifestEntry × Scenario) : Prop :=
  manifestEntry sha256 entry.1.relativePath entry.1.scenarioSha256 entry.2 = .ok entry.1

theorem manifestEntry_kept {path digest : String} {scenario : Scenario} {entry : SuiteManifestEntry}
    (made : manifestEntry sha256 path digest scenario = .ok entry) :
    entry.relativePath = path ∧ entry.scenarioSha256 = digest ∧ entry.scenarioId = scenario.id := by
  obtain ⟨actions, -, made⟩ := Check.bind_ok.mp made
  obtain ⟨faults, -, done⟩ := Check.bind_ok.mp made
  cases done
  exact ⟨rfl, rfl, rfl⟩

theorem suiteEntries_ok {seen : List String} (built : suiteEntries sha256 seen files = .ok suite) :
    (∀ entry ∈ suite, Manifested sha256 entry) ∧ (suite.map (·.1.scenarioId)).Nodup ∧
      ∀ entry ∈ suite, entry.1.scenarioId ∉ seen := by
  induction files generalizing seen suite with
  | nil =>
    cases built
    exact ⟨List.forall_mem_nil _, List.nodup_nil, List.forall_mem_nil _⟩
  | cons file rest ih =>
    rw [suiteEntries] at built
    split at built
    · cases built
    · rename_i new
      obtain ⟨entry, made, built⟩ := Check.bind_ok.mp built
      obtain ⟨later, rested, done⟩ := Check.bind_ok.mp built
      cases done
      obtain ⟨path, digest, id⟩ := manifestEntry_kept made
      obtain ⟨manifested, distinct, unseen⟩ := ih rested
      have fresh : ∀ other ∈ later, other.1.scenarioId ≠ file.scenario.id := by
        intro other listed same
        exact unseen other listed (same ▸ List.mem_cons_self)
      refine ⟨List.forall_mem_cons.mpr ⟨?_, manifested⟩, ?_, List.forall_mem_cons.mpr ⟨id ▸ new, ?_⟩⟩
      · rw [Manifested, path, digest]
        exact made
      · rw [List.map_cons, List.nodup_cons]
        refine ⟨fun listed => ?_, distinct⟩
        obtain ⟨other, there, same⟩ := List.mem_map.mp listed
        exact fresh other there (same.trans id)
      · exact fun other listed known => unseen other listed (List.mem_cons_of_mem _ known)

/-- What `run_evaluation` puts together. -/
structure Assembled (sha256 : Json → String) (modes : List Mode)
    (runCase : SuiteManifestEntry → Scenario → Mode → Except Exn CaseResult) (revision : String) (dirty : Bool)
    (suite : List (SuiteManifestEntry × Scenario)) (report : EvaluationReport) : Prop where
  manifest : report.provenance.suiteManifest = suite.map Prod.fst
  manifested : ∀ entry ∈ suite, Manifested sha256 entry
  distinct : (suite.map (·.1.scenarioId)).Nodup
  hash : suiteSha256 sha256 report.provenance.suiteManifest = .ok report.provenance.suiteHash
  revision : report.provenance.gitRevision = revision
  dirty : report.provenance.gitDirty = dirty
  requested : report.modes.map (·.1) = modes
  evaluated : modes.mapM (evaluateMode runCase suite) = .ok report.modes
  compared : comparisonOf report.modes = .ok report.comparison

theorem runEvaluation_ok (ran : runEvaluation sha256 files modes runCase revision dirty = .ok report) :
    ∃ suite, Assembled sha256 modes runCase revision dirty suite report := by
  unfold runEvaluation at ran
  split at ran
  · rename_i unique
    obtain ⟨suite, built, ran⟩ := Check.bind_ok.mp ran
    split at ran
    · cases ran
    · obtain ⟨hash, hashed, ran⟩ := Check.bind_ok.mp ran
      split at ran
      · cases ran
      · split at ran
        · cases ran
        · rename_i results evaluated
          obtain ⟨comparison, compared, done⟩ := Check.bind_ok.mp ran
          cases done
          obtain ⟨entries, listed, some⟩ := Check.bind_ok.mp built
          split at some
          · cases some
          · cases some
            obtain ⟨manifested, distinct, -⟩ := suiteEntries_ok listed
            exact ⟨suite, rfl, manifested, distinct, hashed, rfl, rfl, evaluated_modes evaluated, evaluated, compared⟩
  · cases ran

/-- Every case is graded from some run and some events. -/
def GradesCases (sha256 : Json → String) (runCase : SuiteManifestEntry → Scenario → Mode → Except Exn CaseResult) : Prop :=
  ∀ entry scenario mode case, runCase entry scenario mode = .ok case →
    ∃ run rows registry measures, gradeCase sha256 entry scenario mode run rows registry measures = .ok case

theorem gradeCase_key {entry : SuiteManifestEntry} {scenario : Scenario} {mode : Mode} {run : Run} {rows : List EventRow}
    {registry : ToolRegistry} {measures : CaseMeasures} {case : CaseResult}
    (graded : gradeCase sha256 entry scenario mode run rows registry measures = .ok case) :
    case.key = (scenario.id, scenario.version, entry.relativePath, entry.scenarioSha256) ∧ case.mode = mode := by
  unfold gradeCase at graded
  obtain ⟨_, -, graded⟩ := Check.bind_ok.mp graded
  obtain ⟨_, -, graded⟩ := Check.bind_ok.mp graded
  obtain ⟨_, -, graded⟩ := Check.bind_ok.mp graded
  obtain ⟨_, -, graded⟩ := Check.bind_ok.mp graded
  obtain ⟨_, -, graded⟩ := Check.bind_ok.mp graded
  split at graded
  · obtain ⟨_, -, graded⟩ := Check.bind_ok.mp graded
    obtain ⟨_, -, graded⟩ := Check.bind_ok.mp graded
    obtain ⟨_, -, graded⟩ := Check.bind_ok.mp graded
    obtain ⟨_, -, graded⟩ := Check.bind_ok.mp graded
    split at graded
    · cases graded
    · cases graded
      exact ⟨rfl, rfl⟩
  · cases graded

theorem manifested_key {entry : SuiteManifestEntry × Scenario} (made : Manifested sha256 entry) :
    entry.1.key = (entry.2.id, entry.2.version, entry.1.relativePath, entry.1.scenarioSha256) := by
  obtain ⟨actions, -, made⟩ := Check.bind_ok.mp made
  obtain ⟨faults, -, done⟩ := Check.bind_ok.mp made
  have same := Except.ok.inj done
  rw [SuiteManifestEntry.key]
  conv_lhs => rw [← same]

theorem Assembled.cases (assembled : Assembled sha256 modes runCase revision dirty suite report)
    {entry : Mode × ModeResult} (listed : entry ∈ report.modes) :
    entry.2.mode = entry.1 ∧ aggregateCases entry.2.cases = .ok entry.2.metrics ∧
      List.Forall₂ (fun frozen case => runCase frozen.1 frozen.2 entry.1 = .ok case) suite entry.2.cases := by
  obtain ⟨mode, -, evaluated⟩ := exists_related (mapM_ok.mp assembled.evaluated).flip entry listed
  obtain ⟨cases, ran, evaluated⟩ := Check.bind_ok.mp evaluated
  obtain ⟨metrics, aggregated, done⟩ := Check.bind_ok.mp evaluated
  cases done
  exact ⟨rfl, aggregated, mapM_ok.mp ran⟩

theorem Assembled.keys (assembled : Assembled sha256 modes runCase revision dirty suite report)
    (grades : GradesCases sha256 runCase) {entry : Mode × ModeResult} (listed : entry ∈ report.modes) :
    entry.2.cases.map CaseResult.key = report.provenance.suiteManifest.map SuiteManifestEntry.key ∧
      ∀ case ∈ entry.2.cases, case.mode = entry.1 := by
  obtain ⟨-, -, ran⟩ := assembled.cases listed
  have graded : List.Forall₂ (fun frozen case => frozen.1.key = case.key ∧ case.mode = entry.1) suite entry.2.cases := by
    have manifested := assembled.manifested
    clear assembled
    generalize entry.2.cases = cases at ran ⊢
    induction ran with
    | nil => exact .nil
    | @cons frozen case _ _ ran _ ih =>
      obtain ⟨here, later⟩ := List.forall_mem_cons.mp manifested
      obtain ⟨run, rows, registry, measures, graded⟩ := grades _ _ _ _ ran
      obtain ⟨key, mode⟩ := gradeCase_key graded
      exact .cons ⟨(manifested_key here).trans key.symm, mode⟩ (ih later)
  constructor
  · rw [assembled.manifest, List.map_map, ← List.forall₂_eq_eq_eq, List.forall₂_map_left_iff, List.forall₂_map_right_iff]
    exact graded.flip.imp fun _ _ same => same.1.symm
  · intro case inside
    obtain ⟨frozen, -, same⟩ := exists_related graded.flip case inside
    exact same.2

theorem Assembled.keys_distinct (assembled : Assembled sha256 modes runCase revision dirty suite report) :
    (report.provenance.suiteManifest.map SuiteManifestEntry.key).Nodup := by
  have ids : (report.provenance.suiteManifest.map (·.scenarioId)).Nodup := by
    rw [assembled.manifest, List.map_map]
    exact assembled.distinct
  have firsts : (report.provenance.suiteManifest.map (·.scenarioId)) =
      (report.provenance.suiteManifest.map SuiteManifestEntry.key).map Prod.fst := by
    rw [List.map_map]
    rfl
  rw [firsts] at ids
  exact ids.of_map _

theorem Assembled.matched (assembled : Assembled sha256 modes runCase revision dirty suite report)
    (grades : GradesCases sha256 runCase) {entry : Mode × ModeResult} (listed : entry ∈ report.modes) :
    casesMatchManifest report.provenance.suiteManifest entry.1 entry.2 = true := by
  obtain ⟨mode, -, -⟩ := assembled.cases listed
  obtain ⟨keys, modes⟩ := assembled.keys grades listed
  have distinct := assembled.keys_distinct
  simp only [casesMatchManifest, Bool.and_eq_true, decide_eq_true_eq, List.all_eq_true]
  refine ⟨⟨⟨⟨mode, keys ▸ distinct⟩, fun case inside => ?_⟩, fun frozen inside => ?_⟩, modes⟩
  · rw [← keys]
    exact List.mem_map_of_mem inside
  · rw [keys]
    exact List.mem_map_of_mem inside

theorem Assembled.byId (assembled : Assembled sha256 modes runCase revision dirty suite report) {frozen : SuiteManifestEntry}
    (listed : frozen ∈ report.provenance.suiteManifest) :
    manifestById report.provenance.suiteManifest frozen.scenarioId = some frozen := by
  have ids : (report.provenance.suiteManifest.map (·.scenarioId)).Nodup := by
    rw [assembled.manifest, List.map_map]
    exact assembled.distinct
  cases found : manifestById report.provenance.suiteManifest frozen.scenarioId with
  | none =>
    have none := List.find?_eq_none.mp found frozen (List.mem_reverse.mpr listed)
    simp at none
  | some other =>
    have same : other.scenarioId = frozen.scenarioId := by simpa using List.find?_some found
    have there : other ∈ report.provenance.suiteManifest := List.mem_reverse.mp (List.mem_of_find?_eq_some found)
    rw [List.inj_on_of_nodup_map ids there listed same]

theorem summaryMismatch_of {results : List (Mode × ModeResult)}
    (same : ∀ entry ∈ results, aggregateCases entry.2.cases = .ok entry.2.metrics) : summaryMismatch results = .ok false := by
  induction results with
  | nil => rfl
  | cons entry rest ih =>
    obtain ⟨here, later⟩ := List.forall_mem_cons.mp same
    rw [summaryMismatch, here]
    show (if entry.2.metrics ≠ entry.2.metrics then _ else _) = _
    rw [if_neg (not_not.mpr rfl)]
    exact ih later

theorem casesErrors_of {manifest : List SuiteManifestEntry} {cases : List CaseResult}
    (clean : ∀ case ∈ cases, ∃ frozen, manifestById manifest case.scenarioId = some frozen ∧
      caseEvidenceErrors case frozen sha256 = .ok []) : casesErrors sha256 manifest cases = .ok [] := by
  induction cases with
  | nil => rfl
  | cons case rest ih =>
    obtain ⟨⟨frozen, found, none⟩, later⟩ := List.forall_mem_cons.mp clean
    rw [casesErrors, found]
    exact Check.bind_ok.mpr ⟨[], none, Check.bind_ok.mpr ⟨[], ih later, rfl⟩⟩

theorem modesErrors_of {manifest : List SuiteManifestEntry} {results : List (Mode × ModeResult)}
    (clean : ∀ entry ∈ results, casesMatchManifest manifest entry.1 entry.2 = true ∧
      casesErrors sha256 manifest entry.2.cases = .ok []) : modesErrors sha256 manifest results = .ok [] := by
  induction results with
  | nil => rfl
  | cons entry rest ih =>
    obtain ⟨⟨matched, none⟩, later⟩ := List.forall_mem_cons.mp clean
    rw [modesErrors, if_pos matched]
    exact Check.bind_ok.mpr ⟨[], none, Check.bind_ok.mpr ⟨[], ih later, rfl⟩⟩

theorem bothModes_of (distinct : modes.Nodup) (fragile : .fragile ∈ modes) (resilient : .resilient ∈ modes) :
    modes = [.fragile, .resilient] ∨ modes = [.resilient, .fragile] := by
  have two : modes.length = 2 := by
    have same : modes.Perm [.fragile, .resilient] := by
      rw [List.perm_ext_iff_of_nodup distinct (by decide)]
      intro mode
      cases mode <;> simp [fragile, resilient]
    simpa using same.length_eq
  obtain ⟨first, second, rfl⟩ := List.length_eq_two.mp two
  cases first <;> cases second <;> simp_all

/-- What is left to check of a report that was put together from graded cases. -/
structure EvaluationReport.CasesHold (sha256 : Json → String) (report : EvaluationReport) : Prop where
  evidence : ∀ mode ∈ report.modes, ∀ case ∈ mode.2.cases, ∃ frozen ∈ report.provenance.suiteManifest,
    frozen.key = case.key ∧ caseEvidenceErrors case frozen sha256 = .ok []
  identities : identitiesDistinct report = true
  pairs : crossErrors (modeCases report .fragile) (modeCases report .resilient) = []

theorem IntactCase.evidenceErrors {case : CaseResult} {frozen : SuiteManifestEntry} {claims : TraceClaims} {final : TraceState}
    (intact : IntactCase sha256 case frozen claims final) : caseEvidenceErrors case frozen sha256 = .ok [] := by
  have passed : traceClaims sha256 case frozen = .ok claims :=
    traceClaims_ok.mpr ⟨intact.header, intact.steps, intact.agreed, final, intact.ran, intact.verdict⟩
  rw [caseEvidenceErrors, if_pos intact.builtIn, passed]
  exact congrArg Except.ok intact.errors

theorem comparison_agrees (compared : comparisonOf report.modes = .ok report.comparison) (both : bothModes report = true) :
    comparisonErrors report = [] := by
  have requested : (report.modes.any (·.1 = .fragile) && report.modes.any (·.1 = .resilient)) = true := by
    simp only [bothModes, Bool.or_eq_true, decide_eq_true_eq] at both
    have members : Mode.fragile ∈ report.modes.map (·.1) ∧ Mode.resilient ∈ report.modes.map (·.1) := by
      rcases both with both | both <;> simp [both]
    simpa using members
  rw [comparisonOf, if_pos requested] at compared
  rw [comparisonErrors]
  cases computed : compareModes report.modes with
  | error error =>
    rw [computed] at compared
    cases compared
  | ok expected =>
    rw [computed] at compared
    have same : some expected = report.comparison := Except.ok.inj compared
    simp [flag, ← same]

/-- A report of `run_evaluation` with both modes has no integrity error exactly where the revision is clean, its cases
pass on their own evidence, no identifier occurs twice and each pair of cases agrees: all the rest is put together
right. -/
theorem evaluation_intact_iff (sha256 : Json → String) (files : List SuiteFile) (modes : List Mode)
    (runCase : SuiteManifestEntry → Scenario → Mode → Except Exn CaseResult) (revision : String) (dirty : Bool)
    (report : EvaluationReport) (source : String)
    (ran : runEvaluation sha256 files modes runCase revision dirty = .ok report) (fragile : .fragile ∈ modes)
    (resilient : .resilient ∈ modes) (grades : GradesCases sha256 runCase) :
    integrityErrors sha256 report source = .ok [] ↔
      gitSha1Pattern revision = true ∧ dirty = false ∧ report.CasesHold sha256 := by
  obtain ⟨suite, assembled⟩ := runEvaluation_ok ran
  have both : bothModes report = true := by
    have distinct := report.modes_distinct
    rw [assembled.requested] at distinct
    have listed := bothModes_of distinct fragile resilient
    simpa [bothModes, assembled.requested] using listed
  constructor
  · intro intact
    have cases := intact_entry intact
    unfold integrityErrors at intact
    rw [if_pos both] at intact
    simp only [Check.bind_ok] at intact
    obtain ⟨_, -, _, -, errors, read, none⟩ := intact
    have nil := eraseDups_nil (Except.ok.inj none)
    simp only [List.append_eq_nil_iff, flag_nil, Bool.not_eq_false', provenanceErrors] at nil
    obtain ⟨⟨⟨⟨⟨⟨⟨⟨pattern, clean⟩, -⟩, -⟩, -⟩, identities⟩, -⟩, pairs⟩, -⟩ := nil
    refine ⟨assembled.revision ▸ pattern, assembled.dirty ▸ clean, ?_, identities, pairs⟩
    intro mode listed case inside
    obtain ⟨frozen, claims, final, found, passed⟩ := cases case (List.mem_flatMap.mpr ⟨mode, listed, inside⟩)
    have there : frozen ∈ report.provenance.suiteManifest := List.mem_reverse.mp (List.mem_of_find?_eq_some found)
    refine ⟨frozen, there, ?_, passed.evidenceErrors⟩
    have known : case.key ∈ report.provenance.suiteManifest.map SuiteManifestEntry.key := by
      rw [← (assembled.keys grades listed).1]
      exact List.mem_map_of_mem inside
    obtain ⟨other, there', same⟩ := List.mem_map.mp known
    have id : other.scenarioId = case.scenarioId := congrArg Prod.fst same
    rw [← id, assembled.byId there'] at found
    cases found
    exact same
  · rintro ⟨pattern, clean, hold⟩
    have read : modesErrors sha256 report.provenance.suiteManifest report.modes = .ok [] := by
      refine modesErrors_of fun mode listed => ⟨assembled.matched grades listed, casesErrors_of fun case inside => ?_⟩
      obtain ⟨frozen, there, same, none⟩ := hold.evidence mode listed case inside
      have id : frozen.scenarioId = case.scenarioId := congrArg Prod.fst same
      exact ⟨frozen, id ▸ assembled.byId there, none⟩
    have summed : summaryMismatch report.modes = .ok false :=
      summaryMismatch_of fun mode listed => (assembled.cases listed).2.1
    have compared := comparison_agrees assembled.compared both
    unfold integrityErrors
    rw [if_pos both]
    refine Check.bind_ok.mpr ⟨_, assembled.hash, Check.bind_ok.mpr ⟨_, summed, Check.bind_ok.mpr ⟨_, read, ?_⟩⟩⟩
    simp [provenanceErrors, flag, assembled.revision, assembled.dirty, pattern, clean, assembled.keys_distinct,
      hold.identities, hold.pairs, compared, pure, Except.pure]

end Suite

/-! A run that announces its calls and ends, graded in both modes. -/

def skippedFiles : List SuiteFile := [⟨(skippedEntry fun _ => blankDigest).relativePath, blankDigest, rollbackScenario⟩]

def gradeSkipped (entry : SuiteManifestEntry) (scenario : Scenario) (mode : Mode) : Except Exn CaseResult :=
  let case := (skippedCase (fun _ => blankDigest) mode).numbered
  gradeCase (fun _ => blankDigest) entry scenario mode
    { Run.new case.runId case.traceId scenario.id mode with
      status := .succeeded
      context := [("tool_results", .obj [])]
      result := some skippedResult }
    (case.traceEvidence.map fun item =>
      ⟨item.eventId, item.traceId, item.spanId, item.parentSpanId, item.sequence, item.eventType, .obj item.payload, .obj [],
        item.status⟩)
    incidentRegistry case.measures

def skippedEvaluation : Except Exn EvaluationReport :=
  runEvaluation (fun _ => blankDigest) skippedFiles [.fragile, .resilient] gradeSkipped
    "0000000000000000000000000000000000000000" false

theorem skippedEvaluation_intact : (skippedEvaluation.bind fun report =>
    integrityErrors (fun _ => blankDigest) report "report") = .ok [] :=
  ok_of_toOption (by decide +kernel)

theorem skipped_cases_hold : ∃ report, skippedEvaluation = .ok report ∧ report.CasesHold fun _ => blankDigest := by
  obtain ⟨report, ran, intact⟩ := Check.bind_ok.mp skippedEvaluation_intact
  exact ⟨report, ran, ((evaluation_intact_iff _ skippedFiles _ gradeSkipped _ _ _ _ ran (by decide) (by decide)
    fun _ _ _ _ graded => ⟨_, _, _, _, graded⟩).mp intact).2.2⟩

end ReliabilityLab
