import ReliabilityLab.Mobile.RunConsistency

namespace ReliabilityLab

open Mobile

namespace Mobile

/-- The action of a step, if it prepares a rollback. -/
def rollbackAt (scenario : Dict) (step : Nat) : Option Dict :=
  (RunRows.actionAt scenario step).filter fun action => (action.lookup "tool_name").any isRollback

def rollbackPrint (sha256 : Json → String) (scenario : Dict) (step : Nat) : Option String :=
  (rollbackAt scenario step).map fun action => sha256 (Json.obj action).canonical

/-! Scenarios with one canonical text have the same rollbacks. -/

theorem canonicalList_eq_map (items : List Json) : Json.canonicalList items = items.map Json.canonical := by
  induction items with
  | nil => rfl
  | cons first rest ih => rw [Json.canonicalList, ih, List.map_cons]

theorem wellFormed_getElem {items : List Json} (clean : Json.wellFormedList items = true) {index : Nat} {found : Json}
    (there : items[index]? = some found) : found.wellFormed = true := by
  induction items generalizing index with
  | nil => cases there
  | cons first rest ih =>
    simp only [Json.wellFormedList, Bool.and_eq_true] at clean
    cases index with
    | zero =>
      cases there
      exact clean.1
    | succ index => exact ih clean.2 there

theorem actionAt_wellFormed {scenario action : Dict} {step : Nat} (clean : (Json.obj scenario).wellFormed = true)
    (found : RunRows.actionAt scenario step = some action) : (Json.obj action).wellFormed = true := by
  simp only [Json.wellFormed, Bool.and_eq_true] at clean
  unfold RunRows.actionAt at found
  split at found
  · rename_i actions listed
    have inside : (Json.arr actions).wellFormed = true := Json.wellFormed_lookup clean.2 listed
    rw [Json.wellFormed] at inside
    obtain ⟨value, there, isObj⟩ := Option.bind_eq_some_iff.mp found
    cases value <;> cases isObj
    exact wellFormed_getElem inside there
  · cases found

theorem obj_of_canonical {value : Json} {items : Dict} (same : value.canonical = (Json.obj items).canonical) :
    ∃ others, value = .obj others ∧ (Json.obj others).canonical = (Json.obj items).canonical := by
  cases value <;> simp only [Json.canonical, reduceCtorEq] at same
  rename_i others
  exact ⟨others, rfl, by simpa [Json.canonical] using same⟩

theorem actionAt_canonical {scenario other action : Dict} {step : Nat} (clean : (Json.obj other).wellFormed = true)
    (same : (Json.obj scenario).canonical = (Json.obj other).canonical)
    (found : RunRows.actionAt scenario step = some action) :
    ∃ known, RunRows.actionAt other step = some known ∧ (Json.obj action).canonical = (Json.obj known).canonical := by
  simp only [Json.canonical, Json.obj.injEq] at same
  simp only [Json.wellFormed, Bool.and_eq_true, decide_eq_true_eq] at clean
  have actions := Json.lookup_canonical clean.1 same "actions"
  unfold RunRows.actionAt at found ⊢
  split at found
  · rename_i items listed
    rw [listed] at actions
    obtain ⟨value, there, equal⟩ := Option.map_eq_some_iff.mp actions.symm
    cases value <;> simp only [Json.canonical, reduceCtorEq] at equal
    rename_i others
    rw [there]
    rw [Json.arr.injEq, canonicalList_eq_map, canonicalList_eq_map] at equal
    obtain ⟨value, atStep, isObj⟩ := Option.bind_eq_some_iff.mp found
    cases value <;> cases isObj
    have entries := congrArg (·[step]?) equal
    simp only [List.getElem?_map, atStep, Option.map_some] at entries
    obtain ⟨known, atOther, canonical⟩ := Option.map_eq_some_iff.mp entries
    obtain ⟨known, rfl, canonical⟩ := obj_of_canonical canonical
    exact ⟨known, by simp [atOther, Json.obj?], canonical.symm⟩
  · cases found

theorem isRollback_canonical {action known : Dict} (clean : (Json.obj known).wellFormed = true)
    (same : (Json.obj action).canonical = (Json.obj known).canonical) :
    (action.lookup "tool_name").any isRollback = (known.lookup "tool_name").any isRollback := by
  simp only [Json.canonical, Json.obj.injEq] at same
  simp only [Json.wellFormed, Bool.and_eq_true, decide_eq_true_eq] at clean
  have names := Json.lookup_canonical clean.1 same "tool_name"
  cases named : action.lookup "tool_name" with
  | none =>
    rw [named] at names
    rw [Option.map_eq_none_iff.mp names.symm]
  | some name =>
    rw [named] at names
    obtain ⟨other, there, equal⟩ := Option.map_eq_some_iff.mp names.symm
    rw [there]
    exact Json.pyEq_canonical (.str "prepare_rollback") (Json.wellFormed_lookup clean.2 there) equal.symm

theorem rollbackPrint_canonical {sha256 : Json → String} {scenario other : Dict}
    (clean : (Json.obj scenario).wellFormed = true) (clean' : (Json.obj other).wellFormed = true)
    (same : (Json.obj scenario).canonical = (Json.obj other).canonical) (step : Nat) :
    rollbackPrint sha256 scenario step = rollbackPrint sha256 other step := by
  have transfer : ∀ {left right : Dict} {print : String}, (Json.obj right).wellFormed = true →
      (Json.obj left).canonical = (Json.obj right).canonical → rollbackPrint sha256 left step = some print →
      rollbackPrint sha256 right step = some print := by
    intro left right print wellFormed equal found
    obtain ⟨action, there, rfl⟩ := Option.map_eq_some_iff.mp found
    obtain ⟨there, rollback⟩ := Option.filter_eq_some_iff.mp there
    obtain ⟨known, atRight, canonical⟩ := actionAt_canonical wellFormed equal there
    rw [isRollback_canonical (actionAt_wellFormed wellFormed atRight) canonical] at rollback
    rw [rollbackPrint, rollbackAt, atRight, Option.filter_some, if_pos rollback, Option.map_some, canonical]
  refine Option.ext fun print => ⟨transfer clean' same, transfer clean same.symm⟩

end Mobile

namespace RunRows
variable {sha256 : Json → String} {app : MobileApp} {scenario : Dict} {supply : Supply} {rows next : RunRows}

/-- The effects are those of the rollbacks before the current step, each of them allowed. -/
structure Backed (sha256 : Json → String) (scenario : Dict) (rows : RunRows) : Prop where
  written : ∀ step, (∃ effect ∈ rows.effects, effect.actionStep = step) ↔
    step < rows.run.currentStep ∧ (rollbackPrint sha256 scenario step).isSome = true
  allowed : ∀ effect ∈ rows.effects, ∃ print, rollbackPrint sha256 scenario effect.actionStep = some print ∧
    ∃ decision ∈ rows.decisions, decision.actionStep = effect.actionStep ∧ decision.allow = true ∧
      decision.actionFingerprint = print

theorem Backed.congr (backed : Backed sha256 scenario rows) (effects : next.effects = rows.effects)
    (step : next.run.currentStep = rows.run.currentStep) (decisions : ∀ decision ∈ rows.decisions, decision ∈ next.decisions) :
    Backed sha256 scenario next := by
  refine ⟨fun number => ?_, fun effect there => ?_⟩
  · rw [effects, step]
    exact backed.written number
  · rw [effects] at there
    obtain ⟨print, known, decision, decided, matching⟩ := backed.allowed effect there
    exact ⟨print, known, decision, decisions decision decided, matching⟩

theorem Still.currentStep (still : Still rows next) : next.run.currentStep = rows.run.currentStep :=
  congrArg Prod.fst still.cursor

theorem Backed.still (backed : Backed sha256 scenario rows) (still : Still rows next) : Backed sha256 scenario next :=
  backed.congr still.effects still.currentStep fun _ there => still.decisions ▸ there

theorem backed_created {run : MobileRun} (step : run.currentStep = 0) :
    Backed sha256 scenario (created supply run) := by
  have none : (created supply run).effects = [] := rfl
  have start : (created supply run).run.currentStep = 0 := step
  refine ⟨fun number => ?_, fun effect there => ?_⟩
  · simp [none, start]
  · simp [none] at there

theorem announce_rows {action : Dict} : (rows.announce supply action).effects = rows.effects ∧
    (rows.announce supply action).decisions = rows.decisions := by
  unfold announce
  split <;> exact ⟨rfl, rfl⟩

theorem Backed.announce (backed : Backed sha256 scenario rows) (supply : Supply) (action : Dict) :
    Backed sha256 scenario (rows.announce supply action) :=
  backed.congr announce_rows.1 announce_run.1 fun decision there => by rwa [announce_rows.2]

theorem digest_eq {value : Json} {text : String} (computed : digest sha256 value = .ok text) :
    text = sha256 value.canonical := by
  unfold digest at computed
  split at computed
  · rename_i hashed
    cases computed
    exact canonicalJsonDigest_eq hashed
  · cases computed

theorem rollbackPrint_eq {action : Dict} {name : Json} {step : Nat} {fingerprint : String}
    (due : actionAt scenario step = some action) (named : action.lookup "tool_name" = some name)
    (hashed : digest sha256 (.obj action) = .ok fingerprint) :
    rollbackPrint sha256 scenario step = if isRollback name = true then some fingerprint else none := by
  rw [rollbackPrint, rollbackAt, due, Option.filter_some, named, digest_eq hashed]
  by_cases rollback : isRollback name = true <;> simp [rollback]

/-- A step that is done adds its effect if it is a rollback, and none otherwise. -/
theorem Backed.stepped {name : Json} {fingerprint : String} (backed : Backed sha256 scenario rows) (raw : Json)
    (due : rollbackPrint sha256 scenario rows.run.currentStep = if isRollback name = true then some fingerprint else none)
    (allowed : isRollback name = true → ∃ decision ∈ rows.decisions, decision.actionStep = rows.run.currentStep ∧
      decision.allow = true ∧ decision.actionFingerprint = fingerprint)
    (effects : next.effects = if isRollback name = true then
      rows.effects ++ [⟨rows.run.currentStep, fingerprint, raw⟩] else rows.effects)
    (decisions : next.decisions = rows.decisions) (step : next.run.currentStep = rows.run.currentStep + 1) :
    Backed sha256 scenario next := by
  have earlier : ∀ number, number < next.run.currentStep ↔
      number < rows.run.currentStep ∨ number = rows.run.currentStep := by
    intro number
    omega
  by_cases rollback : isRollback name = true
  · rw [if_pos rollback] at due effects
    refine ⟨fun number => ?_, ?_⟩
    · rw [effects, earlier, or_and_right, ← backed.written number]
      simp only [List.mem_append, List.mem_singleton]
      constructor
      · rintro ⟨effect, old | rfl, rfl⟩
        · exact .inl ⟨effect, old, rfl⟩
        · exact .inr ⟨rfl, by simp [due]⟩
      · rintro (⟨effect, old, same⟩ | ⟨rfl, -⟩)
        · exact ⟨effect, .inl old, same⟩
        · exact ⟨_, .inr rfl, rfl⟩
    · rw [effects, List.forall_mem_append, List.forall_mem_singleton, decisions]
      exact ⟨backed.allowed, fingerprint, due, allowed rollback⟩
  · rw [if_neg rollback] at due effects
    refine ⟨fun number => ?_, ?_⟩
    · rw [effects, earlier, or_and_right, ← backed.written number]
      have none : ¬ (number = rows.run.currentStep ∧ (rollbackPrint sha256 scenario number).isSome = true) := by
        rintro ⟨rfl, some⟩
        rw [due] at some
        cases some
      rw [or_iff_left none]
    · rw [effects, decisions]
      exact backed.allowed

theorem attemptFailed_rows (supply : Supply) (rows : RunRows) (context : Dict) (code : String) (transient : Bool) :
    (rows.attemptFailed supply context code transient).effects = rows.effects ∧
      (rows.attemptFailed supply context code transient).decisions = rows.decisions ∧
      (rows.attemptFailed supply context code transient).run.currentStep = rows.run.currentStep ∧
      (rows.attemptFailed supply context code transient).run.origin = rows.run.origin := by
  unfold attemptFailed
  split <;> exact ⟨rfl, rfl, rfl, rfl⟩

/-- An attempt that was made writes what it has to. -/
theorem Backed.performAttempt {name arguments : Json} {fingerprint : String} (backed : Backed sha256 scenario rows)
    (due : rollbackPrint sha256 scenario rows.run.currentStep = if isRollback name = true then some fingerprint else none)
    (allowed : isRollback name = true → ∃ decision ∈ rows.decisions, decision.actionStep = rows.run.currentStep ∧
      decision.allow = true ∧ decision.actionFingerprint = fingerprint)
    (performed : rows.performAttempt supply scenario name arguments fingerprint = .ok next) :
    Backed sha256 scenario next := by
  obtain ⟨middle, still, same, ended⟩ := performAttempt_cases performed
  rcases ended with ⟨code, transient, rfl⟩ | ⟨raw, written, output, wrote, rfl⟩
  · obtain ⟨effects, decisions, step, -⟩ :=
      attemptFailed_rows supply middle (rows.attemptContext name) code transient
    have before : Backed sha256 scenario middle :=
      backed.congr still.effects (congrArg MobileRun.currentStep same) fun _ there => still.decisions ▸ there
    exact before.congr effects step fun _ there => decisions ▸ there
  · have effects : middle.effects = rows.effects := still.effects
    have decisions : middle.decisions = rows.decisions := still.decisions
    rcases writeEffect_cases wrote with ⟨rfl, existing⟩ | ⟨rollback, rfl⟩
    · have other : ¬ isRollback name = true := by
        intro rollback
        obtain ⟨effect, there, atStep⟩ := existing rollback
        rw [same] at atStep
        rw [effects] at there
        have before := ((backed.written rows.run.currentStep).mp ⟨effect, there, atStep⟩).1
        omega
      refine backed.stepped raw due allowed ?_ decisions ?_
      · rw [if_neg other]
        exact effects
      · exact congrArg (·.currentStep + 1) same
    · refine backed.stepped raw due allowed ?_ decisions ?_
      · rw [if_pos rollback, ← effects, ← same]
        rfl
      · exact congrArg (·.currentStep + 1) same

/-- A round of the loop over this scenario. -/
theorem Backed.advance (backed : Backed sha256 scenario rows)
    (compatible : rows.compatibleScenario sha256 app = .ok scenario)
    (advanced : rows.advance sha256 app supply = .ok next) : Backed sha256 scenario next := by
  unfold RunRows.advance at advanced
  split at advanced
  · cases advanced
    exact backed
  · rename_i due
    obtain ⟨known, found, advanced⟩ := Check.bind_ok.mp advanced
    obtain ⟨acted, ended, advanced⟩ := Check.bind_ok.mp advanced
    cases advanced
    rw [compatible] at found
    cases found
    refine Backed.still ?_ still_save
    have alive : (rows.activate supply).run.status.terminal = false := activate_alive (alive_of_unsettled due)
    have active := backed.still (still_activate supply)
    rcases act_cases ended alive with still | ⟨action, here, still | ⟨name, arguments, fingerprint, named, hashed, allowed,
      performed⟩⟩
    · exact active.still still
    · exact (active.announce supply action).still still
    · have told := active.announce supply action
      refine told.performAttempt ?_ allowed performed
      rw [announce_run.1]
      exact rollbackPrint_eq here named hashed

theorem Backed.decide {decision : MobileDecision} (backed : Backed sha256 scenario rows)
    (decided : rows.decide sha256 app supply decision = .ok next) : Backed sha256 scenario next := by
  rcases decide_cases decided with rfl | ⟨awaited, -, rfl⟩
  · exact backed
  · have stored : Backed sha256 scenario { rows with decisions := rows.decisions ++ [decision] } :=
      backed.congr rfl rfl fun _ there => List.mem_append_left _ there
    exact (stored.still (still_decided awaited)).still still_save

/-! The origin of a run stays. -/

theorem performAttempt_origin {name arguments : Json} {fingerprint : String}
    (performed : rows.performAttempt supply scenario name arguments fingerprint = .ok next) :
    next.run.origin = rows.run.origin := by
  obtain ⟨middle, -, same, ⟨code, transient, rfl⟩ | ⟨raw, written, output, wrote, rfl⟩⟩ := performAttempt_cases performed
  · rw [(attemptFailed_rows ..).2.2.2, same]
  · have run : written.run = middle.run := by
      rcases writeEffect_cases wrote with ⟨rfl, -⟩ | ⟨-, rfl⟩ <;> rfl
    rw [← same, ← run]
    rfl

theorem advance_origin (advanced : rows.advance sha256 app supply = .ok next) :
    next.run.origin = rows.run.origin := by
  unfold RunRows.advance at advanced
  split at advanced
  · cases advanced
    rfl
  · rename_i due
    obtain ⟨known, found, advanced⟩ := Check.bind_ok.mp advanced
    obtain ⟨acted, ended, advanced⟩ := Check.bind_ok.mp advanced
    cases advanced
    have alive : (rows.activate supply).run.status.terminal = false := activate_alive (alive_of_unsettled due)
    have active : (rows.activate supply).run.origin = rows.run.origin := (still_activate supply).origin
    have told : ∀ action, ((rows.activate supply).announce supply action).run.origin = rows.run.origin := by
      intro action
      rw [← active]
      unfold announce
      split <;> rfl
    rw [still_save.origin]
    rcases act_cases ended alive with still | ⟨action, -, still | ⟨name, arguments, fingerprint, -, -, -, performed⟩⟩
    · exact still.origin.trans active
    · exact still.origin.trans (told action)
    · exact (performAttempt_origin performed).trans (told action)

theorem decide_origin {decision : MobileDecision} (decided : rows.decide sha256 app supply decision = .ok next) :
    next.run.origin = rows.run.origin := by
  rcases decide_cases decided with rfl | ⟨awaited, -, rfl⟩
  · rfl
  · rw [still_save.origin, (still_decided awaited).origin]

theorem compatibleScenario_ok : rows.compatibleScenario sha256 app = .ok scenario ↔
    app.scenario? rows.run.scenarioId = some scenario ∧ digest sha256 (.obj scenario) = .ok rows.run.scenarioHash ∧
      rows.run.engineVersion = "mobile/v1" := by
  unfold compatibleScenario
  cases found : app.scenario? rows.run.scenarioId with
  | none => simp
  | some known =>
    constructor
    · intro compatible
      obtain ⟨hash, hashed, checked⟩ := Check.bind_ok.mp compatible
      split at checked
      · rename_i same
        cases checked
        rw [same.1]
        exact ⟨rfl, hashed, same.2⟩
      · cases checked
    · rintro ⟨same, hashed, engine⟩
      cases same
      exact Check.bind_ok.mpr ⟨_, hashed, if_pos ⟨rfl, engine⟩⟩

/-- Whether a scenario fits only depends on where the run comes from. -/
theorem compatibleScenario_origin (same : next.run.origin = rows.run.origin) :
    next.compatibleScenario sha256 app = .ok scenario ↔ rows.compatibleScenario sha256 app = .ok scenario := by
  obtain ⟨-, id, hash, engine⟩ : next.run.id = rows.run.id ∧ next.run.scenarioId = rows.run.scenarioId ∧
      next.run.scenarioHash = rows.run.scenarioHash ∧ next.run.engineVersion = rows.run.engineVersion := by
    simpa [MobileRun.origin] using same
  rw [compatibleScenario_ok, compatibleScenario_ok, id, hash, engine]

/-- All instances agree on the scenario of a run. -/
def ScenariosApart (sha256 : Json → String) (apps : MobileApp → Prop) : Prop :=
  ∀ app other key scenario known, apps app → apps other → app.scenario? key = some scenario →
    other.scenario? key = some known → sha256 (Json.obj scenario).canonical = sha256 (Json.obj known).canonical →
    (Json.obj scenario).canonical = (Json.obj known).canonical

theorem Backed.print_congr {known : Dict} (backed : Backed sha256 scenario rows)
    (same : ∀ step, rollbackPrint sha256 known step = rollbackPrint sha256 scenario step) : Backed sha256 known rows :=
  ⟨fun step => by rw [same, backed.written], fun effect there => by rw [same]; exact backed.allowed effect there⟩

theorem scenario_wellFormed {key : Json} (found : app.scenario? key = some scenario) :
    (Json.obj scenario).wellFormed = true := by
  obtain ⟨entry, there, rfl⟩ := Option.map_eq_some_iff.mp found
  exact app.dicts entry (List.mem_of_find?_eq_some there)

theorem Backed.other {apps : MobileApp → Prop} {other : MobileApp} {known : Dict} (apart : ScenariosApart sha256 apps)
    (one : apps app) (two : apps other) (compatible : rows.compatibleScenario sha256 app = .ok scenario)
    (compatible' : rows.compatibleScenario sha256 other = .ok known) (backed : Backed sha256 scenario next) :
    Backed sha256 known next := by
  obtain ⟨found, hashed, -⟩ := compatibleScenario_ok.mp compatible
  obtain ⟨found', hashed', -⟩ := compatibleScenario_ok.mp compatible'
  have digests := (digest_eq hashed').symm.trans (digest_eq hashed)
  have same := apart other app _ known scenario two one found' found digests
  exact backed.print_congr
    (rollbackPrint_canonical (scenario_wellFormed found') (scenario_wellFormed found) same)

/-- What holds of the rows of every run. -/
structure Consistent (sha256 : Json → String) (apps : MobileApp → Prop) (rows : RunRows) : Prop where
  aligned : Aligned none rows
  origin : ∃ app scenario, apps app ∧ rows.compatibleScenario sha256 app = .ok scenario
  backed : ∀ app scenario, apps app → rows.compatibleScenario sha256 app = .ok scenario → Backed sha256 scenario rows

section Consistent
variable {apps : MobileApp → Prop}

/-- Rows that come from consistent ones with a scenario that fits. -/
theorem Consistent.step (consistent : Consistent sha256 apps rows) (aligned : Aligned none next)
    (origin : next.run.origin = rows.run.origin)
    (backed : ∀ app scenario, apps app → rows.compatibleScenario sha256 app = .ok scenario → Backed sha256 scenario next) :
    Consistent sha256 apps next := by
  obtain ⟨app, scenario, known, compatible⟩ := consistent.origin
  refine ⟨aligned, ⟨app, scenario, known, (compatibleScenario_origin origin).mpr compatible⟩, ?_⟩
  intro other found admitted fits
  exact backed other found admitted ((compatibleScenario_origin origin).mp fits)

theorem Consistent.advance (apart : ScenariosApart sha256 apps) (admitted : apps app)
    (consistent : Consistent sha256 apps rows) (advanced : rows.advance sha256 app supply = .ok next) :
    Consistent sha256 apps next := by
  refine consistent.step (consistent.aligned.advance advanced) (advance_origin advanced) ?_
  intro other known two fits
  by_cases settled : rows.settled = true
  · rw [advance_settled settled advanced]
    exact consistent.backed other known two fits
  · obtain ⟨scenario, compatible, -⟩ := Check.bind_ok.mp (by rwa [RunRows.advance, if_neg settled] at advanced)
    exact ((consistent.backed app scenario admitted compatible).advance compatible advanced).other apart admitted two
      compatible fits

theorem Consistent.decide {decision : MobileDecision} (consistent : Consistent sha256 apps rows)
    (decided : rows.decide sha256 app supply decision = .ok next) : Consistent sha256 apps next :=
  consistent.step (consistent.aligned.decide decided) (decide_origin decided) fun other known two fits =>
    (consistent.backed other known two fits).decide decided

end Consistent

end RunRows

end ReliabilityLab
