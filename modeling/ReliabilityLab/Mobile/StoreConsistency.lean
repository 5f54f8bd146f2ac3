import ReliabilityLab.Mobile.Requests
import ReliabilityLab.Mobile.RollbackEffects

namespace ReliabilityLab

open Mobile MobileApp

namespace MobileStore
variable {store next : MobileStore} {rows new : RunRows} {id : Uuid}

theorem mem_of_rows? (found : store.rows? id = some rows) : rows ∈ store.runs ∧ rows.run.id = id :=
  ⟨List.mem_of_find?_eq_some found, by simpa using List.find?_some found⟩

theorem rows?_of_mem (stored : rows ∈ store.runs) : store.rows? rows.run.id = some rows := by
  cases found : store.rows? rows.run.id with
  | none => simpa using List.find?_eq_none.mp found rows stored
  | some known =>
    obtain ⟨there, same⟩ := mem_of_rows? found
    rw [List.inj_on_of_nodup_map store.run_ids there stored same]

theorem mem_replace (stored : rows ∈ (store.replace new).runs) : rows = new ∨ rows ∈ store.runs := by
  obtain ⟨old, there, same⟩ := List.mem_map.mp stored
  unfold swap at same
  split at same
  · exact .inl same.symm
  · exact .inr (same ▸ there)

theorem rows?_replace (found : store.rows? id = some rows) (same : new.run.id = id) (other : Uuid) :
    (store.replace new).rows? other = if other = id then some new else store.rows? other := by
  have kept : ∀ old, (swap new old).run.id = old.run.id := by
    intro old
    unfold swap
    split
    · exact Eq.symm ‹_›
    · rfl
  have swapped : (store.replace new).rows? other = (store.rows? other).map (swap new) := by
    simp only [rows?, replace, List.find?_map]
    congr 2
    funext old
    simp [kept]
  rw [swapped]
  split
  · rename_i here
    subst here
    simp [found, swap, (mem_of_rows? found).2, same]
  · rename_i elsewhere
    cases known : store.rows? other with
    | none => rfl
    | some old =>
      have at_other := (mem_of_rows? known).2
      rw [Option.map_some, swap, if_neg (by rw [at_other, same]; exact elsewhere)]

end MobileStore

/-- What an operation does to the runs: nothing, or it inserts a run, or it takes one of them a step further. -/
inductive RunsMove (sha256 : Json → String) (reading : MobileReading) (op : MobileOp) (store next : MobileStore) : Prop
  | none : next.runs = store.runs → RunsMove sha256 reading op store next
  | inserted (run : MobileRun) : op = .create run → run.id ∉ store.runs.map (·.run.id) →
      next.runs = store.runs ++ [.created reading.supply run] → RunsMove sha256 reading op store next
  | advanced (app : MobileApp) (id : Uuid) (rows new : RunRows) : op = .advance app id → store.rows? id = some rows →
      rows.advance sha256 app reading.supply = .ok new → next = store.replace new →
      RunsMove sha256 reading op store next
  | decided (app : MobileApp) (id : Uuid) (decision : MobileDecision) (rows new : RunRows) :
      op = .decide app id decision → store.rows? id = some rows →
      rows.decide sha256 app reading.supply decision = .ok new → next = store.replace new →
      RunsMove sha256 reading op store next

section Moves
variable {sha256 : Json → String} {reading : MobileReading} {op : MobileOp} {store next : MobileStore}

theorem committed_store {α : Type} (store : MobileStore) (value : α) (result : Except MobileError MobileStore) :
    (committed store value result).2 = store ∨ result = .ok (committed store value result).2 := by
  cases result with
  | ok next => exact .inr rfl
  | error error => exact .inl rfl

theorem committed_ok {α : Type} {value returned : α} {result : Except MobileError MobileStore}
    (done : committed store value result = (.ok returned, next)) : result = .ok next := by
  cases result with
  | ok written =>
    cases done
    rfl
  | error error => cases done

theorem transact_ok {id : Uuid} {body : RunRows → Except MobileError RunRows}
    (done : store.transact id body = .ok next) :
    ∃ rows new, store.rows? id = some rows ∧ body rows = .ok new ∧ next = store.replace new := by
  unfold MobileStore.transact at done
  split at done
  · cases done
  · rename_i rows found
    cases written : body rows with
    | error error =>
      rw [written] at done
      cases done
    | ok new =>
      rw [written] at done
      cases done
      exact ⟨rows, new, found, written, rfl⟩

theorem insertRun_ok {rows : RunRows} (inserted : store.insertRun rows = .ok next) :
    rows.run.id ∉ store.runs.map (·.run.id) ∧ next.runs = store.runs ++ [rows] := by
  unfold MobileStore.insertRun at inserted
  split at inserted
  · cases inserted
  · rename_i fresh
    cases inserted
    exact ⟨fresh, rfl⟩

theorem insertEvaluation_ok {evaluation : MobileEvaluation} (inserted : store.insertEvaluation evaluation = .ok next) :
    next.runs = store.runs := by
  unfold MobileStore.insertEvaluation at inserted
  split at inserted
  · split at inserted <;> cases inserted
    rfl
  · cases inserted

theorem apply_moves (op : MobileOp) (reading : MobileReading) (store : MobileStore) :
    RunsMove sha256 reading op store (op.apply sha256 reading store).2 := by
  cases op with
  | create run =>
    rcases committed_store store () (store.insertRun (.created reading.supply run)) with same | inserted
    · exact .none (congrArg _ same)
    · obtain ⟨fresh, grown⟩ := insertRun_ok inserted
      exact .inserted run rfl fresh grown
  | advance app id =>
    rcases committed_store store (((store.rows? id).filter RunRows.settled).map (·.run))
      (store.transact id (RunRows.advance sha256 app reading.supply)) with same | done
    · exact .none (congrArg _ same)
    · obtain ⟨rows, new, found, advanced, written⟩ := transact_ok done
      exact .advanced app id rows new rfl found advanced written
  | decide app id decision =>
    rcases committed_store store () (store.transact id (RunRows.decide sha256 app reading.supply · decision)) with
      same | done
    · exact .none (congrArg _ same)
    · obtain ⟨rows, new, found, decided, written⟩ := transact_ok done
      exact .decided app id decision rows new rfl found decided written
  | record evaluation =>
    rcases committed_store store () (store.insertEvaluation evaluation) with same | inserted
    · exact .none (congrArg _ same)
    · exact .none (insertEvaluation_ok inserted)
  | loadRun id =>
    refine .none ?_
    cases found : store.rows? id <;> simp [MobileOp.apply, found]
  | loadEvaluation id =>
    refine .none ?_
    cases found : store.evaluations.find? (·.evaluationId = id) <;> simp [MobileOp.apply, found]
  | fresh | loadEvents | listEvaluations => exact .none rfl

theorem run_id_of_origin {run other : MobileRun} (same : run.origin = other.origin) : run.id = other.id :=
  congrArg Prod.fst same

/-- The rows of a run stay, or they go a step further. -/
theorem rows_move {id : Uuid} {rows : RunRows} (move : RunsMove sha256 reading op store next)
    (found : store.rows? id = some rows) : ∃ new, next.rows? id = some new ∧ (new = rows ∨
      (∃ app, op = .advance app id ∧ rows.advance sha256 app reading.supply = .ok new) ∨
      ∃ app decision, op = .decide app id decision ∧ rows.decide sha256 app reading.supply decision = .ok new) := by
  cases move with
  | none same => exact ⟨rows, by rwa [MobileStore.rows?, same], .inl rfl⟩
  | inserted run _ fresh grown =>
    exact ⟨rows, by rw [MobileStore.rows?, grown, List.find?_append, ← MobileStore.rows?, found, Option.some_or], .inl rfl⟩
  | advanced app other known new this atOther advanced written =>
    have same := (run_id_of_origin (RunRows.advance_origin advanced)).trans (MobileStore.mem_of_rows? atOther).2
    rw [written, MobileStore.rows?_replace atOther same]
    split
    · rename_i here
      subst here
      rw [found] at atOther
      cases atOther
      exact ⟨new, rfl, .inr (.inl ⟨app, this, advanced⟩)⟩
    · exact ⟨rows, found, .inl rfl⟩
  | decided app other decision known new this atOther decided written =>
    have same := (run_id_of_origin (RunRows.decide_origin decided)).trans (MobileStore.mem_of_rows? atOther).2
    rw [written, MobileStore.rows?_replace atOther same]
    split
    · rename_i here
      subst here
      rw [found] at atOther
      cases atOther
      exact ⟨new, rfl, .inr (.inr ⟨app, decision, this, decided⟩)⟩
    · exact ⟨rows, found, .inl rfl⟩

/-- The rows of a run that is over are never written again. -/
theorem terminal_kept {id : Uuid} {rows : RunRows} (move : RunsMove sha256 reading op store next)
    (found : store.rows? id = some rows) (stopped : rows.run.status.terminal = true) : next.rows? id = some rows := by
  have settled : rows.settled = true := by simp [RunRows.settled, stopped]
  obtain ⟨new, after, rfl | ⟨app, -, advanced⟩ | ⟨app, decision, -, decided⟩⟩ := rows_move move found
  · exact after
  · rwa [RunRows.advance_settled settled advanced] at after
  · rwa [RunRows.decide_terminal stopped decided] at after

end Moves

/-- What requests to these instances perform: runs are inserted in their first state only. -/
def Admitted (sha256 : Json → String) (apps : MobileApp → Prop) : MobileOp → Prop
  | .create run => ∃ app scenario reading mode hash scenarioId, apps app ∧ app.scenario? scenarioId = some scenario ∧
      digest sha256 (.obj scenario) = .ok hash ∧ run = newRun reading scenarioId hash mode
  | .advance app _ => apps app
  | .decide app _ _ => apps app
  | _ => True

/-- The program only performs admitted operations. -/
abbrev Proper (sha256 : Json → String) (apps : MobileApp → Prop) {α : Type} (program : MobileProgram α) : Prop :=
  program.Within (Admitted sha256 apps) (fun _ _ => True) (fun _ => True) (fun _ => True)

section Proper
variable {sha256 : Json → String} {apps : MobileApp → Prop} {app : MobileApp} {α β : Type}

theorem proper_request {op : MobileOp} (admitted : Admitted sha256 apps op) : Proper sha256 apps (request op) :=
  Program.within_ask admitted (fun _ _ _ _ => trivial) fun _ _ _ _ => trivial

theorem proper_ofExcept {result : Except MobileError α} : Proper sha256 apps (.ofExcept result : MobileProgram α) :=
  Program.within_ofExcept (fun _ _ => trivial) fun _ _ => trivial

theorem proper_bind {p : MobileProgram α} {f : α → MobileProgram β} (first : Proper sha256 apps p)
    (later : ∀ value, Proper sha256 apps (f value)) : Proper sha256 apps (p >>= f) :=
  Program.within_bind first fun value _ => later value

theorem proper_check {result : Except MobileError α} {f : α → MobileProgram β}
    (later : ∀ value, result = .ok value → Proper sha256 apps (f value)) : Proper sha256 apps (.ofExcept result >>= f) := by
  cases result with
  | ok value => exact later value rfl
  | error error => trivial

theorem proper_advanceRun (known : apps app) (id : Uuid) (rounds : Nat) :
    Proper sha256 apps (app.advanceRun id rounds) := by
  induction rounds with
  | zero => trivial
  | succ rounds ih =>
    refine proper_bind (proper_request known) fun answer => ?_
    cases answer with
    | none => exact ih
    | some run => trivial

theorem proper_start (known : apps app) (scenarioId : Json) (mode : Mode) :
    Proper sha256 apps (app.start sha256 scenarioId mode) := by
  unfold start
  split
  · trivial
  · rename_i scenario found
    refine proper_bind (proper_request trivial) fun reading => proper_check fun hash hashed => ?_
    have first : Admitted sha256 apps (.create (newRun reading scenarioId hash mode)) :=
      ⟨app, scenario, reading, mode, hash, scenarioId, known, found, hashed, rfl⟩
    exact proper_bind (proper_request first) fun _ => proper_advanceRun known _ _

theorem proper_approve (known : apps app) (id : Uuid) (decision : MobileDecision) :
    Proper sha256 apps (app.approve id decision) :=
  proper_bind proper_ofExcept fun _ => proper_bind (proper_request known) fun _ => proper_advanceRun known _ _

theorem proper_evidence (run : MobileRun) : Proper sha256 apps (evidence sha256 run) :=
  proper_bind (proper_request trivial) fun _ => proper_ofExcept

theorem proper_verifiedCase (reference : Uuid × String) : Proper sha256 apps (app.verifiedCase sha256 reference) := by
  refine proper_bind (proper_request trivial) fun run => proper_bind (proper_evidence run) fun found => ?_
  split
  · exact proper_bind (proper_request trivial) fun _ => proper_bind (proper_request trivial) fun _ => proper_ofExcept
  · trivial

theorem proper_verifiedCases (references : List (Uuid × String)) :
    Proper sha256 apps (app.verifiedCases sha256 references) := by
  induction references with
  | nil => trivial
  | cons reference rest ih =>
    exact proper_bind (proper_verifiedCase reference) fun _ => proper_bind ih fun _ => trivial

theorem proper_report (evaluation : MobileEvaluation) : Proper sha256 apps (app.report sha256 evaluation) := by
  unfold report
  split
  · exact proper_bind (proper_verifiedCases _) fun _ => proper_ofExcept
  · trivial

theorem proper_reports (evaluations : List MobileEvaluation) : Proper sha256 apps (app.reports sha256 evaluations) := by
  induction evaluations with
  | nil => trivial
  | cons evaluation rest ih => exact proper_bind (proper_report evaluation) fun _ => proper_bind ih fun _ => trivial

theorem proper_evaluateScenario (known : apps app) (mode : Mode) (scenario : Dict) :
    Proper sha256 apps (app.evaluateScenario sha256 mode scenario) := by
  refine proper_bind proper_ofExcept fun id => proper_bind (proper_start known id mode) fun started => ?_
  extract_lets conclude supply
  have concludes : ∀ run, Proper sha256 apps (conclude run) :=
    fun run => proper_bind (proper_evidence run) fun _ => trivial
  have supplies : ∀ supplied, Proper sha256 apps (supply supplied) := by
    intro supplied
    simp only [supply]
    split
    · refine proper_bind (proper_request trivial) fun paused => ?_
      split
      · exact proper_bind (proper_approve known _ _) concludes
      · exact proper_bind proper_ofExcept concludes
    · exact concludes started
  split
  · exact proper_bind proper_ofExcept supplies
  · exact supplies .null

theorem proper_evaluateScenarios (known : apps app) (cases : List (Mode × Dict)) :
    Proper sha256 apps (app.evaluateScenarios sha256 cases) := by
  induction cases with
  | nil => trivial
  | cons case rest ih =>
    exact proper_bind (proper_evaluateScenario known _ _) fun _ => proper_bind ih fun _ => trivial

theorem proper_evaluate (known : apps app) : Proper sha256 apps (app.evaluate sha256) :=
  proper_bind (proper_request trivial) fun _ => proper_bind proper_ofExcept fun _ => proper_bind proper_ofExcept fun _ =>
    proper_bind (proper_evaluateScenarios known _) fun _ => proper_bind (proper_request trivial) fun _ => proper_report _

theorem proper_publicRun (run : MobileRun) : Proper sha256 apps (publicRun run) :=
  proper_bind (proper_request trivial) fun _ => trivial

theorem proper_route (known : apps app) (request : MobileRequest) : Proper sha256 apps (app.route sha256 request) := by
  cases request with
  | startRun query body =>
    refine proper_bind proper_ofExcept fun _ => proper_bind proper_ofExcept fun items => ?_
    dsimp only
    split
    · split
      · exact proper_bind (proper_start known _ _) fun _ => proper_bind (proper_publicRun _) fun _ => trivial
      · exact proper_ofExcept
    · exact proper_ofExcept
  | evaluate query body =>
    refine proper_bind proper_ofExcept fun _ => proper_bind proper_ofExcept fun items => ?_
    dsimp only
    split
    · split
      · exact proper_bind (proper_evaluate known) fun _ => trivial
      · trivial
    · exact proper_ofExcept
  | listEvaluations query =>
    exact proper_bind proper_ofExcept fun _ => proper_bind (proper_request trivial) fun _ =>
      proper_bind (proper_reports _) fun _ => trivial
  | getEvaluation id query =>
    exact proper_bind proper_ofExcept fun _ => proper_bind (proper_request trivial) fun _ =>
      proper_bind (proper_report _) fun _ => trivial
  | approveRun id query body =>
    exact proper_bind (proper_request trivial) fun _ => proper_bind proper_ofExcept fun _ =>
      proper_bind proper_ofExcept fun _ => proper_bind (proper_approve known _ _) fun _ =>
        proper_bind (proper_publicRun _) fun _ => trivial
  | resumeRun id query body =>
    refine proper_bind (proper_request trivial) fun run => proper_bind proper_ofExcept fun _ => ?_
    split
    · split
      · trivial
      · exact proper_bind (proper_advanceRun known _ _) fun _ => proper_bind (proper_publicRun _) fun _ => trivial
    · exact proper_ofExcept

end Proper

section System
variable {sha256 : Json → String} {apps : MobileApp → Prop}
  {w v : World Nat MobileOp MobileOp.Answer MobileError (Nat × Json) MobileReading MobileStore}

/-- Every party only performs admitted operations. -/
def admission (sha256 : Json → String) (apps : MobileApp → Prop) : Discipline MobileOp MobileOp.Answer MobileStore where
  inv _ := True
  rely _ _ := True
  pre op _ := Admitted sha256 apps op
  step _ _ _ _ := True
  rely_refl _ := trivial
  rely_trans _ _ := trivial

theorem mobile_disciplined :
    (mobileSystem sha256 apps).Disciplined (fun _ => admission sha256 apps) fun _ => True where
  same _ := rfl
  init _ _ := trivial
  start p program s started _ := by
    obtain ⟨app, request, known, rfl⟩ := started
    refine ((proper_route known request).obeys (D := admission sha256 apps) (R := fun _ => True) ?_ ?_ ?_ trivial).mono
      (fun _ _ _ => trivial) fun _ _ _ => trivial
    · exact fun _ _ _ _ => trivial
    · exact fun _ _ admitted _ _ => admitted
    · exact fun _ _ _ _ _ _ _ _ => ⟨trivial, trivial⟩
  own _ _ _ _ _ _ _ _ _ := ⟨trivial, trivial⟩
  others _ _ _ _ _ _ _ _ _ _ _ := trivial
  ambient _ _ _ _ := ⟨trivial, fun _ => trivial⟩
  crash _ _ _ := ⟨trivial, fun _ => trivial⟩

/-- An operation keeps the rows of every run consistent. -/
theorem consistent_move {op : MobileOp} {reading : MobileReading} {store next : MobileStore}
    (apart : RunRows.ScenariosApart sha256 apps) (admitted : Admitted sha256 apps op)
    (move : RunsMove sha256 reading op store next) (consistent : ∀ rows ∈ store.runs, rows.Consistent sha256 apps) :
    ∀ rows ∈ next.runs, rows.Consistent sha256 apps := by
  cases move with
  | none same => rwa [same]
  | inserted run created fresh grown =>
    subst created
    obtain ⟨app, scenario, given, mode, hash, scenarioId, known, found, hashed, rfl⟩ := admitted
    rw [grown, List.forall_mem_append, List.forall_mem_singleton]
    refine ⟨consistent, RunRows.aligned_created rfl rfl, ⟨app, scenario, known, ?_⟩, fun _ _ _ _ => RunRows.backed_created rfl⟩
    exact RunRows.compatibleScenario_ok.mpr ⟨found, hashed, rfl⟩
  | advanced app id rows new same found advanced written =>
    subst same
    intro stored there
    rw [written] at there
    rcases MobileStore.mem_replace there with rfl | old
    · exact (consistent rows (MobileStore.mem_of_rows? found).1).advance apart admitted advanced
    · exact consistent stored old
  | decided app id decision rows new same found decided written =>
    intro stored there
    rw [written] at there
    rcases MobileStore.mem_replace there with rfl | old
    · exact (consistent rows (MobileStore.mem_of_rows? found).1).decide decided
    · exact consistent stored old

theorem reachable_consistent (apart : RunRows.ScenariosApart sha256 apps)
    (reach : Machine.Reachable (mobileSystem sha256 apps) w) : ∀ rows ∈ w.state.runs, rows.Consistent sha256 apps := by
  refine reach.invariant (J := fun store => ∀ rows ∈ store.runs, rows.Consistent sha256 apps) mobile_disciplined ?_ ?_ ?_ ?_
  · rintro store rfl rows there
    cases there
  · rintro p op reading store answer next - admitted (performed | ⟨rfl, -⟩) consistent
    · have same : next = (op.apply sha256 reading store).2 := congrArg Prod.snd performed
      rw [same]
      exact consistent_move apart admitted (apply_moves op reading store) consistent
    · exact consistent
  · exact fun _ _ none => none.elim
  · exact fun _ _ consistent => consistent

/-- The rows of a run that is over stay as they are, whatever the requests do from then on. -/
theorem terminal_stays {id : Uuid} {rows : RunRows} (leads : Machine.Leads (mobileSystem sha256 apps) w v)
    (found : w.state.rows? id = some rows) (stopped : rows.run.status.terminal = true) :
    v.state.rows? id = some rows := by
  induction leads with
  | refl => exact found
  | tail _ move ih =>
    cases move with
    | start | issue | finish | crash => exact ih
    | @commit p op next reading answer t issued performed =>
      rcases performed with performed | ⟨rfl, -⟩
      · have same : t = (op.apply sha256 reading _).2 := congrArg Prod.snd performed
        rw [same]
        exact terminal_kept (apply_moves op reading _) ih stopped
      · exact ih
    | ambient moved => exact moved.elim

/-- Every attempt that was started has one end, with the same step, tool and number. -/
theorem ended_once {rows : RunRows} (aligned : rows.Aligned none) {event : MobileEvent} (inside : event ∈ rows.events)
    (starts : event.eventType = .toolAttemptStarted) :
    ∃! ended, ended ∈ rows.events ∧ ended.endsAttempt = true ∧ ended.identity = event.identity := by
  have paired : startedAttempts rows.events = endedAttempts rows.events := by simpa using aligned.paired
  have begun : event.identity ∈ endedAttempts rows.events := by
    rw [← paired]
    exact List.mem_map.mpr ⟨event, List.mem_filter.mpr ⟨inside, by simp [starts]⟩, rfl⟩
  obtain ⟨ended, there, same⟩ := List.mem_map.mp begun
  obtain ⟨inside, ends⟩ := List.mem_filter.mp there
  refine ⟨ended, ⟨inside, ends, same⟩, ?_⟩
  rintro other ⟨inside', ends', same'⟩
  have distinct : (endedAttempts rows.events).Nodup := paired ▸ aligned.distinct
  exact List.inj_on_of_nodup_map distinct (List.mem_filter.mpr ⟨inside', ends'⟩) there (same'.trans same.symm)

/-- In every interleaving of requests, with interruptions anywhere, the rows of a run agree: its events are
numbered from one on, every attempt has one end, the cursor counts the checkpoints and the announced steps are those
up to it, each of them once. The effects are those of the rollbacks before the cursor, each allowed by a decision
on this very action. Once the run is over its rows stay as they are. -/
theorem mobile_store_consistent (apart : RunRows.ScenariosApart sha256 apps)
    (reach : Machine.Reachable (mobileSystem sha256 apps) w) {rows : RunRows} (stored : rows ∈ w.state.runs) :
    NumberedFromOne rows.events ∧
    (startedAttempts rows.events).Nodup ∧ endedAttempts rows.events = startedAttempts rows.events ∧
    (∀ event ∈ rows.events, event.eventType = .toolAttemptStarted →
      ∃! ended, ended ∈ rows.events ∧ ended.endsAttempt = true ∧ ended.identity = event.identity) ∧
    checkpointCount rows.events = rows.run.currentStep ∧
    (∃ told : Nat, announcedSteps rows.events = (List.range told).map (fun step : Nat => .int step) ∧
      told = rows.run.lastAnnouncedStep + 1 ∧ (told = rows.run.currentStep ∨ told = rows.run.currentStep + 1)) ∧
    (∃ app scenario, apps app ∧ rows.compatibleScenario sha256 app = .ok scenario) ∧
    (∀ app scenario, apps app → rows.compatibleScenario sha256 app = .ok scenario → ∀ step,
      ((∃ effect ∈ rows.effects, effect.actionStep = step) ↔
        step < rows.run.currentStep ∧ ∃ action, rollbackAt scenario step = some action) ∧
      ∀ action, rollbackAt scenario step = some action → step < rows.run.currentStep →
        ∃ decision ∈ rows.decisions, decision.actionStep = step ∧ decision.allow = true ∧
          decision.actionFingerprint = sha256 (Json.obj action).canonical) ∧
    (rows.run.status.terminal = true → ∀ v, Machine.Leads (mobileSystem sha256 apps) w v →
      v.state.rows? rows.run.id = some rows) := by
  obtain ⟨aligned, origin, backed⟩ := reachable_consistent apart reach rows stored
  have paired : startedAttempts rows.events = endedAttempts rows.events := by simpa using aligned.paired
  have told : ∃ told : Nat, announcedSteps rows.events = (List.range told).map (fun step : Nat => .int step) ∧
      told = rows.run.lastAnnouncedStep + 1 ∧ (told = rows.run.currentStep ∨ told = rows.run.currentStep + 1) := by
    have cursor := aligned.cursor
    exact ⟨_, aligned.announced, by omega, by omega⟩
  refine ⟨aligned.numbered, aligned.distinct, paired.symm, fun event inside => ended_once aligned inside,
    aligned.checkpointed, told, origin, ?_, fun stopped v leads => terminal_stays leads (MobileStore.rows?_of_mem stored) stopped⟩
  intro app scenario admitted compatible step
  have backed := backed app scenario admitted compatible
  have written : (∃ effect ∈ rows.effects, effect.actionStep = step) ↔
      step < rows.run.currentStep ∧ ∃ action, rollbackAt scenario step = some action := by
    rw [backed.written, rollbackPrint, Option.isSome_map, Option.isSome_iff_exists]
  refine ⟨written, fun action here before => ?_⟩
  obtain ⟨effect, there, rfl⟩ := written.mpr ⟨before, action, here⟩
  obtain ⟨print, known, decision, decided, atStep, allow, matching⟩ := backed.allowed effect there
  rw [rollbackPrint, here] at known
  cases known
  exact ⟨decision, decided, atStep, allow, matching⟩

end System

/-! A package of six scenarios, one of which pauses. -/

namespace Sample

def finishAction : Json :=
  .obj [("type", .str "finish"), ("outcome", .str "resolved"), ("summary", .str "done"), ("evidence_refs", .arr [])]

def rollbackAction : Json :=
  .obj [("type", .str "call_tool"), ("tool_name", .str "prepare_rollback"),
    ("arguments", .obj [("deployment_id", .str "deploy-42")])]

def scenario (id : String) (actions tools : List Json) : Json :=
  .obj [("scenario", .obj [("id", .str id), ("actions", .arr actions), ("faults", .arr []), ("approval_supplied", .bool false),
    ("expected_outcome", .str "resolved"), ("expected_tool_sequence", .arr tools)])]

def scenarios : List Json :=
  scenario "paused" [rollbackAction, finishAction] [.str "prepare_rollback"] ::
    ["one", "two", "three", "four", "five"].map fun id => scenario id [finishAction] []

/-- A digest that tells traces apart by their lengths. -/
def hash (value : Json) : String :=
  let length := match value with
    | .obj fields => match fields.lookup "events" with
      | some (.arr events) => events.length
      | _ => 0
    | _ => 0
  String.ofList (List.replicate length 'e' ++ List.replicate (64 - length) 'a')

def catalog : Json := .obj [("format", .str "arl-scenarios/v1"), ("suite_hash", .str (hash .null)), ("scenarios", .arr scenarios)]

def metadata : Json := .obj [("git_revision", .str "0000000000000000000000000000000000000000"), ("version", .str "1.0.0")]

def created : Except MobileError MobileApp := MobileApp.create hash catalog metadata (by decide)

theorem created_ok : created.toOption.isSome = true := by decide +kernel

def app : MobileApp := created.toOption.get created_ok

theorem noon_inside : 63924120000000000 < maxWall := by decide

def readings (clock : Nat) : MobileReading where
  id := 2 * clock
  traceId := 2 * clock + 1
  supply := ⟨.utc 63924120000000000 noon_inside, fun number => ⟨number, number, .utc 63924120000000000 noon_inside⟩⟩

def started : MobileStore :=
  (app.serve hash readings [.startRun [] (.obj [("scenario_id", .str "paused"), ("mode", .str "fragile")])] (0, .empty)).2

theorem started_reachable :
    Machine.Reachable (mobileSystem hash (· = app)) (⟨started, fun _ => .idle⟩ :
      World Nat MobileOp MobileOp.Answer MobileError (Nat × Json) MobileReading MobileStore) :=
  (Machine.Reachable.init (M := mobileSystem hash (· = app)) (s := .empty) rfl).execute (p := 0) (fun _ _ => trivial)
    (fun _ _ _ _ => .inl rfl) rfl ⟨app, _, rfl, rfl⟩ 0

theorem apart : RunRows.ScenariosApart hash (· = app) := by
  rintro _ _ key scenario known rfl rfl found same -
  rw [Option.some.inj (found.symm.trans same)]

end Sample

theorem mobile_store_consistent_sample : ∃ rows ∈ Sample.started.runs, rows.run.status = .waitingApproval ∧
    NumberedFromOne rows.events ∧ endedAttempts rows.events = startedAttempts rows.events := by
  have paused : Sample.started.runs.any (·.run.status = .waitingApproval) = true := by decide +kernel
  obtain ⟨rows, stored, waits⟩ := List.any_eq_true.mp paused
  obtain ⟨numbered, -, paired, -⟩ := mobile_store_consistent Sample.apart Sample.started_reachable stored
  exact ⟨rows, stored, of_decide_eq_true waits, numbered, paired⟩

end ReliabilityLab
