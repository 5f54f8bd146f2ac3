import ReliabilityLab.Foundation.Confluence
import ReliabilityLab.Mobile.StoreConsistency

namespace ReliabilityLab

open Mobile MobileApp

/-! What is left of the rows of a run without their identifiers and times. -/

theorem epoch_inside : 0 < maxWall := by decide

def epoch : DateTime := .utc 0 epoch_inside

def Stamp.blank : Stamp := ⟨0, 0, epoch⟩

def MobileEvent.blank (event : MobileEvent) : MobileEvent := { event with stamp := .blank, traceId := 0 }

def MobileRun.blank (run : MobileRun) : MobileRun :=
  { run with id := 0, traceId := 0, createdAt := epoch, updatedAt := epoch }

namespace RunRows

def blank (rows : RunRows) : RunRows := { rows with run := rows.run.blank, events := rows.events.map .blank }

def Supply.blank : Supply := ⟨epoch, fun _ => .blank⟩

variable {sha256 : Json → String} {app : MobileApp} {supply : Supply} {rows next : RunRows} {scenario : Dict}

theorem blank_nextSequence : rows.blank.nextSequence = rows.nextSequence := by
  have same : (rows.events.map MobileEvent.blank).map (·.sequence) = rows.events.map (·.sequence) := by
    rw [List.map_map]
    rfl
  rw [nextSequence, nextSequence, blank, same]

/-- Everything an engine does to the rows it does to the rows without identifiers and times. -/
theorem blank_emit (rows : RunRows) (kind : MobileEventType) (payload : Dict) (status : String) :
    (rows.emit supply kind payload status).blank = rows.blank.emit .blank kind payload status := by
  have number : rows.blank.nextSequence = rows.nextSequence := blank_nextSequence
  unfold emit
  rw [number]
  simp [blank, MobileEvent.blank, MobileRun.blank, Supply.blank]

theorem blank_save : (rows.save supply).blank = rows.blank.save .blank := rfl

theorem blank_run (rows : RunRows) (run : MobileRun) :
    ({ rows with run := run } : RunRows).blank = { rows.blank with run := run.blank } := rfl

theorem blank_fail (code : Json) (reason : Option String) :
    (rows.fail supply code reason).blank = rows.blank.fail .blank code reason := by
  unfold fail
  rw [blank_emit]
  rfl

theorem blank_attemptFailed (context : Dict) (code : String) (transient : Bool) :
    (rows.attemptFailed supply context code transient).blank = rows.blank.attemptFailed .blank context code transient := by
  have emitted : (rows.emit supply .toolAttemptFailed
      (context ++ [("code", .str code), ("transient", .bool transient)]) "error").blank = _ := blank_emit ..
  unfold attemptFailed
  by_cases again : (transient && rows.run.mode = .resilient && rows.run.nextAttempt < 3) = true
  · rw [if_pos again, if_pos (show (transient && rows.blank.run.mode = .resilient && rows.blank.run.nextAttempt < 3) = true
      from again), blank_run, emitted]
    rfl
  · rw [if_neg again, if_neg (show ¬ (transient && rows.blank.run.mode = .resilient && rows.blank.run.nextAttempt < 3) = true
      from again), blank_fail, emitted]

theorem blank_attemptSucceeded (context : Dict) (output : Json) :
    (rows.attemptSucceeded supply context output).blank = rows.blank.attemptSucceeded .blank context output := by
  have emitted : (rows.emit supply .toolAttemptSucceeded (context ++ [("output", output)]) "ok").blank = _ := blank_emit ..
  unfold attemptSucceeded
  rw [blank_emit, blank_run, emitted]
  rfl

theorem blank_awaitApproval (name arguments : Json) (fingerprint : String) :
    (rows.awaitApproval supply name arguments fingerprint).blank =
      rows.blank.awaitApproval .blank name arguments fingerprint := by
  unfold awaitApproval
  rw [blank_emit]
  rfl

theorem blank_announce (action : Dict) : (rows.announce supply action).blank = rows.blank.announce .blank action := by
  have emitted : (rows.emit supply .policyAction (action.set "action_step" (.int rows.run.currentStep)) "ok").blank = _ :=
    blank_emit ..
  unfold announce
  by_cases told : rows.run.lastAnnouncedStep = rows.run.currentStep
  · rw [if_pos told, if_pos (show rows.blank.run.lastAnnouncedStep = rows.blank.run.currentStep from told)]
  · rw [if_neg told, if_neg (show ¬ rows.blank.run.lastAnnouncedStep = rows.blank.run.currentStep from told), blank_run,
      emitted]
    rfl

theorem blank_activate : (rows.activate supply).blank = rows.blank.activate .blank := by
  unfold activate
  by_cases queued : rows.run.status = .queued
  · rw [if_pos queued, if_pos (show rows.blank.run.status = .queued from queued), blank_emit]
    rfl
  · rw [if_neg queued, if_neg (show ¬ rows.blank.run.status = .queued from queued)]

theorem blank_writeEffect (name : Json) (fingerprint : String) (raw : Json) :
    (rows.writeEffect name fingerprint raw).map (fun written => (written.1.blank, written.2)) =
      rows.blank.writeEffect name fingerprint raw := by
  have known : rows.blank.effect? rows.blank.run.currentStep = rows.effect? rows.run.currentStep := rfl
  unfold writeEffect
  rw [known]
  split
  · split
    · split <;> rfl
    · rfl
  · rfl

theorem mapped_bind {ε α β γ : Type} (f : β → γ) (first : Except ε α) (later : α → Except ε β) :
    (first >>= later).map f = first >>= fun value => (later value).map f := by
  cases first <;> rfl

/-- How an attempt ends, once its fault is known. -/
def concluded (supply : Supply) (injected : RunRows) (context : Dict) (name raw : Json) (fingerprint : String)
    (code : Option String) : Except MobileError RunRows :=
  match code with
  | some code => pure (injected.attemptFailed supply context code true)
  | none =>
    if validOutput name raw then do
      let (written, output) ← injected.writeEffect name fingerprint raw
      pure (written.attemptSucceeded supply context output)
    else
      pure ((injected.emit supply .toolOutputValidationFailed
        (context ++ [("code", .str "invalid_output"), ("source", .str "output_model")]) "error").attemptFailed supply
          context "invalid_output" false)

theorem blank_concluded {injected other : RunRows} (same : injected.blank = other) (context : Dict) (name raw : Json)
    (fingerprint : String) (code : Option String) :
    (injected.concluded supply context name raw fingerprint code).map blank =
      other.concluded .blank context name raw fingerprint code := by
  subst same
  cases code with
  | some code => exact congrArg Except.ok (blank_attemptFailed ..)
  | none =>
    unfold concluded
    by_cases valid : validOutput name raw = true
    · simp only [if_pos valid, ← blank_writeEffect]
      cases written : injected.writeEffect name fingerprint raw with
      | error error => rfl
      | ok pair => exact congrArg Except.ok (blank_attemptSucceeded ..)
    · simp only [if_neg valid]
      have failed : ((injected.emit supply .toolOutputValidationFailed
          (context ++ [("code", .str "invalid_output"), ("source", .str "output_model")]) "error").attemptFailed supply
            context "invalid_output" false).blank = _ := blank_attemptFailed ..
      rw [blank_emit] at failed
      exact congrArg Except.ok failed

theorem blank_performAttempt (name arguments : Json) (fingerprint : String) :
    (rows.performAttempt supply scenario name arguments fingerprint).map blank =
      rows.blank.performAttempt .blank scenario name arguments fingerprint := by
  have context : rows.blank.attemptContext name = rows.attemptContext name := rfl
  have due : rows.blank.run.nextAttempt = rows.run.nextAttempt := rfl
  have started : (rows.emit supply .toolAttemptStarted (rows.attemptContext name) "ok").blank = _ := blank_emit ..
  unfold performAttempt
  simp only [mapped_bind, context, due]
  refine bind_congr fun declared => bind_congr fun faults => bind_congr fun fault => ?_
  cases fault with
  | none =>
    refine (mapped_bind ..).trans (bind_congr fun kind => ?_)
    refine (mapped_bind ..).trans (bind_congr fun code => ?_)
    exact blank_concluded started ..
  | some fault =>
    refine (mapped_bind ..).trans (bind_congr fun kind => ?_)
    refine (mapped_bind ..).trans (bind_congr fun code => ?_)
    have marked : ((rows.emit supply .toolAttemptStarted (rows.attemptContext name) "ok").emit supply .faultInjected
        (rows.attemptContext name ++ [("kind", kind)]) "error").blank = _ := (blank_emit ..).trans (by rw [started])
    exact blank_concluded marked ..

theorem blank_attempt (action : Dict) : (rows.attempt sha256 supply scenario action).map blank =
    rows.blank.attempt sha256 .blank scenario action := by
  have known : rows.blank.decision? rows.blank.run.currentStep = rows.decision? rows.run.currentStep := rfl
  unfold attempt
  rw [known]
  refine (mapped_bind ..).trans (bind_congr fun name => (mapped_bind ..).trans (bind_congr fun arguments =>
    (mapped_bind ..).trans (bind_congr fun valid => ?_)))
  cases valid with
  | true =>
    refine (mapped_bind ..).trans (bind_congr fun fingerprint => ?_)
    by_cases rollback : isRollback name = true
    · simp only [if_pos rollback]
      cases rows.decision? rows.run.currentStep with
      | none => exact congrArg Except.ok (blank_awaitApproval ..)
      | some approval =>
        simp only
        split
        · exact blank_performAttempt ..
        · exact congrArg Except.ok (blank_fail ..)
    · simp only [if_neg rollback]
      exact blank_performAttempt ..
  | false =>
    refine congrArg Except.ok ((blank_fail ..).trans ?_)
    rw [blank_emit]
    rfl

theorem blank_finish (action : Dict) : (rows.finish supply action).map blank = rows.blank.finish .blank action := by
  unfold finish
  refine (mapped_bind ..).trans (bind_congr fun outcome => (mapped_bind ..).trans (bind_congr fun summary =>
    (mapped_bind ..).trans (bind_congr fun evidence => ?_)))
  exact congrArg Except.ok (blank_emit ..)

theorem blank_act : (rows.act sha256 supply scenario).map blank = rows.blank.act sha256 .blank scenario := by
  have step : rows.blank.run.currentStep = rows.run.currentStep := rfl
  unfold act
  rw [step]
  refine (mapped_bind ..).trans (bind_congr fun actions => (mapped_bind ..).trans (bind_congr fun due => ?_))
  match due with
  | none => exact congrArg Except.ok (blank_fail ..)
  | some (.obj action) =>
    refine (mapped_bind ..).trans (bind_congr fun type => ?_)
    have announced : (rows.announce supply action).blank = _ := blank_announce action
    split
    · rw [blank_finish, announced]
    · split
      · refine (mapped_bind ..).trans (bind_congr fun code => ?_)
        refine congrArg Except.ok ((blank_fail ..).trans ?_)
        rw [announced]
      · rw [blank_attempt, announced]
  | some .null | some (.bool _) | some (.int _) | some (.float _) | some (.str _) | some (.arr _) => rfl

theorem blank_settled : rows.blank.settled = rows.settled := rfl

theorem blank_advance : (rows.advance sha256 app supply).map blank = rows.blank.advance sha256 app .blank := by
  have compatible : rows.blank.compatibleScenario sha256 app = rows.compatibleScenario sha256 app := rfl
  unfold advance
  rw [blank_settled, compatible]
  split
  · rfl
  · refine (mapped_bind ..).trans (bind_congr fun scenario => (mapped_bind ..).trans ?_)
    rw [← blank_activate, ← blank_act]
    cases (rows.activate supply).act sha256 supply scenario <;> rfl

theorem blank_decided (decision : MobileDecision) : (rows.decided supply decision).blank = rows.blank.decided .blank decision := by
  unfold decided
  extract_lets recorded run cleared last recorded' run' cleared' last'
  have same : recorded.blank = recorded' :=
    blank_emit { rows with decisions := rows.decisions ++ [decision] } .approvalRecorded decision.payload "ok"
  have kept : cleared.blank = cleared' := by
    simp only [cleared, cleared', run, run', ← same]
    rfl
  split
  · rw [blank_run, kept]
    simp only [last, last', ← kept]
    rfl
  · rw [blank_fail, blank_emit, kept]

theorem blank_decide (decision : MobileDecision) : (rows.decide sha256 app supply decision).map blank =
    rows.blank.decide sha256 app .blank decision := by
  have compatible : rows.blank.compatibleScenario sha256 app = rows.compatibleScenario sha256 app := rfl
  have known : rows.blank.decision? decision.actionStep = rows.decision? decision.actionStep := rfl
  have awaits : rows.blank.awaits decision = rows.awaits decision := rfl
  unfold decide
  rw [compatible, known, awaits]
  refine (mapped_bind ..).trans (bind_congr fun scenario => ?_)
  split
  · split <;> rfl
  · split
    · refine congrArg Except.ok ?_
      rw [blank_save, blank_decided]
    · rfl

/-! The decisions and the mode of a run are not the engine's. -/

theorem attemptFailed_mode (context : Dict) (code : String) (transient : Bool) :
    (rows.attemptFailed supply context code transient).run.mode = rows.run.mode := by
  unfold attemptFailed
  split <;> rfl

theorem performAttempt_kept {name arguments : Json} {fingerprint : String}
    (performed : rows.performAttempt supply scenario name arguments fingerprint = .ok next) :
    next.decisions = rows.decisions ∧ next.run.mode = rows.run.mode := by
  obtain ⟨middle, still, same, ended⟩ := performAttempt_cases performed
  have decisions : middle.decisions = rows.decisions := still.decisions
  rcases ended with ⟨code, transient, rfl⟩ | ⟨raw, written, output, wrote, rfl⟩
  · have kept := (attemptFailed_rows supply middle (rows.attemptContext name) code transient).2.1
    exact ⟨kept.trans decisions, by rw [attemptFailed_mode, same]⟩
  · have kept : written.decisions = middle.decisions ∧ written.run = middle.run := by
      rcases writeEffect_cases wrote with ⟨rfl, -⟩ | ⟨-, rfl⟩ <;> exact ⟨rfl, rfl⟩
    refine ⟨kept.1.trans decisions, ?_⟩
    rw [← same, ← kept.2]
    rfl

theorem attempt_kept {action : Dict} (attempted : rows.attempt sha256 supply scenario action = .ok next) :
    next.decisions = rows.decisions ∧ next.run.mode = rows.run.mode := by
  unfold attempt at attempted
  obtain ⟨name, -, attempted⟩ := Check.bind_ok.mp attempted
  obtain ⟨arguments, -, attempted⟩ := Check.bind_ok.mp attempted
  obtain ⟨valid, -, attempted⟩ := Check.bind_ok.mp attempted
  split at attempted
  · obtain ⟨fingerprint, -, attempted⟩ := Check.bind_ok.mp attempted
    split at attempted
    · split at attempted
      · cases attempted
        exact ⟨rfl, rfl⟩
      · split at attempted
        · exact performAttempt_kept attempted
        · cases attempted
          exact ⟨rfl, rfl⟩
    · exact performAttempt_kept attempted
  · cases attempted
    exact ⟨rfl, rfl⟩

theorem announce_kept (action : Dict) : (rows.announce supply action).decisions = rows.decisions ∧
    (rows.announce supply action).run.mode = rows.run.mode := by
  unfold announce
  split <;> exact ⟨rfl, rfl⟩

theorem act_kept (acted : rows.act sha256 supply scenario = .ok next) :
    next.decisions = rows.decisions ∧ next.run.mode = rows.run.mode := by
  unfold act at acted
  obtain ⟨actions, -, acted⟩ := Check.bind_ok.mp acted
  obtain ⟨due, -, acted⟩ := Check.bind_ok.mp acted
  split at acted
  · cases acted
    exact ⟨rfl, rfl⟩
  · rename_i action
    have told : (rows.announce supply action).decisions = rows.decisions ∧
        (rows.announce supply action).run.mode = rows.run.mode := announce_kept action
    obtain ⟨type, -, acted⟩ := Check.bind_ok.mp acted
    split at acted
    · unfold finish at acted
      obtain ⟨outcome, -, acted⟩ := Check.bind_ok.mp acted
      obtain ⟨summary, -, acted⟩ := Check.bind_ok.mp acted
      obtain ⟨evidence, -, acted⟩ := Check.bind_ok.mp acted
      cases acted
      exact told
    · split at acted
      · obtain ⟨code, -, acted⟩ := Check.bind_ok.mp acted
        cases acted
        exact told
      · have kept := attempt_kept acted
        exact ⟨kept.1.trans told.1, kept.2.trans told.2⟩
  · cases acted

theorem advance_kept (advanced : rows.advance sha256 app supply = .ok next) :
    next.decisions = rows.decisions ∧ next.run.mode = rows.run.mode := by
  unfold advance at advanced
  split at advanced
  · cases advanced
    exact ⟨rfl, rfl⟩
  · obtain ⟨scenario, -, advanced⟩ := Check.bind_ok.mp advanced
    obtain ⟨acted, ended, advanced⟩ := Check.bind_ok.mp advanced
    cases advanced
    have active : (rows.activate supply).decisions = rows.decisions ∧ (rows.activate supply).run.mode = rows.run.mode := by
      unfold activate
      split <;> exact ⟨rfl, rfl⟩
    have kept := act_kept ended
    exact ⟨kept.1.trans active.1, kept.2.trans active.2⟩

theorem decided_kept (decision : MobileDecision) : (rows.decided supply decision).decisions = rows.decisions ++ [decision] ∧
    (rows.decided supply decision).run.mode = rows.run.mode := by
  unfold decided
  split <;> exact ⟨rfl, rfl⟩

/-- How the rows of a run go on without identifiers and times: on their own, or with a decision. -/
def Turn (sha256 : Json → String) (app : MobileApp) (rows : RunRows) (decision : Option MobileDecision) (next : RunRows) :
    Prop :=
  match decision with
  | none => rows.settled = false ∧ rows.advance sha256 app .blank = .ok next
  | some decision => rows.awaits decision = true ∧ rows.decision? decision.actionStep = none ∧
      rows.decide sha256 app .blank decision = .ok next

/-- A run goes on by itself or waits for a decision. -/
theorem turn_driven : Driven (Turn sha256 app) where
  determined := by
    intro rows decision next other first second
    cases decision with
    | none => exact Except.ok.inj (first.2.symm.trans second.2)
    | some decision => exact Except.ok.inj (first.2.2.symm.trans second.2.2)
  waits := by
    intro rows next decision other first second
    have waiting := waiting_of_awaits second.1
    have settled : rows.settled = true := by simp [settled, waiting]
    rw [first.1] at settled
    cases settled

/-- The rows that a run of this scenario starts with. -/
def first (scenarioId : Json) (hash : String) (mode : Mode) : RunRows :=
  .created .blank (newRun ⟨0, 0, .blank⟩ scenarioId hash mode)

/-- The rows come from the first ones with the decisions that they hold. -/
def Replays (sha256 : Json → String) (app : MobileApp) (rows : RunRows) : Prop :=
  Runs (Turn sha256 app) (first rows.run.scenarioId rows.run.scenarioHash rows.run.mode) rows.decisions rows.blank

theorem Replays.advance (replays : rows.Replays sha256 app) (advanced : rows.advance sha256 app supply = .ok next) :
    next.Replays sha256 app := by
  by_cases settled : rows.settled = true
  · rwa [advance_settled settled advanced]
  · obtain ⟨-, scenarioId, hash, -⟩ : next.run.id = rows.run.id ∧ next.run.scenarioId = rows.run.scenarioId ∧
        next.run.scenarioHash = rows.run.scenarioHash ∧ next.run.engineVersion = rows.run.engineVersion := by
      simpa [MobileRun.origin] using advance_origin advanced
    obtain ⟨decisions, mode⟩ := advance_kept advanced
    have blanked : (rows.advance sha256 app supply).map blank = rows.blank.advance sha256 app .blank := blank_advance
    rw [advanced] at blanked
    have turn : Turn sha256 app rows.blank none next.blank :=
      ⟨blank_settled.trans (Bool.eq_false_iff.mpr settled), blanked.symm⟩
    unfold Replays
    rw [scenarioId, hash, decisions, mode]
    exact replays.snoc_silent turn

theorem Replays.decide {decision : MobileDecision} (replays : rows.Replays sha256 app)
    (decided : rows.decide sha256 app supply decision = .ok next) : next.Replays sha256 app := by
  have blanked : (rows.decide sha256 app supply decision).map blank = rows.blank.decide sha256 app .blank decision :=
    blank_decide decision
  rw [decided] at blanked
  obtain ⟨-, scenarioId, hash, -⟩ : next.run.id = rows.run.id ∧ next.run.scenarioId = rows.run.scenarioId ∧
      next.run.scenarioHash = rows.run.scenarioHash ∧ next.run.engineVersion = rows.run.engineVersion := by
    simpa [MobileRun.origin] using decide_origin decided
  rcases decide_cases decided with rfl | ⟨awaited, new, same⟩
  · exact replays
  · obtain ⟨decisions, mode⟩ : next.decisions = rows.decisions ++ [decision] ∧ next.run.mode = rows.run.mode := by
      rw [same]
      exact decided_kept decision
    have turn : Turn sha256 app rows.blank (some decision) next.blank := ⟨awaited, new, blanked.symm⟩
    unfold Replays
    rw [scenarioId, hash, decisions, mode]
    exact replays.snoc_labelled turn

/-- The engine has nothing more to do: the run is over, or it waits, or every further round raises. -/
def AtRest (sha256 : Json → String) (app : MobileApp) (rows : RunRows) : Prop :=
  rows.settled = true ∨ ∀ supply, ∃ error, rows.advance sha256 app supply = .error error

theorem AtRest.stopped (rest : rows.AtRest sha256 app) : Stopped (Turn sha256 app) rows.blank := by
  rintro next ⟨due, advanced⟩
  rcases rest with settled | raises
  · rw [blank_settled, settled] at due
    cases due
  · obtain ⟨error, raised⟩ := raises .blank
    have blanked : (rows.advance sha256 app .blank).map blank = rows.blank.advance sha256 app .blank := blank_advance
    rw [raised, advanced] at blanked
    cases blanked

end RunRows

section System
variable {sha256 : Json → String} {app : MobileApp}
  {w v : World Nat MobileOp MobileOp.Answer MobileError (Nat × Json) MobileReading MobileStore}

/-- What the first rows of a run have, and rounds and decisions keep. -/
structure RowsInvariant (sha256 : Json → String) (app : MobileApp) (I : RunRows → Prop) : Prop where
  created : ∀ {supply given scenarioId hash mode}, I (.created supply (newRun given scenarioId hash mode))
  advance : ∀ {supply rows next}, I rows → rows.advance sha256 app supply = .ok next → I next
  decide : ∀ {supply decision rows next}, I rows → rows.decide sha256 app supply decision = .ok next → I next

theorem RowsInvariant.move {I : RunRows → Prop} (invariant : RowsInvariant sha256 app I) {op : MobileOp}
    {reading : MobileReading} {store next : MobileStore} (admitted : Admitted sha256 (· = app) op)
    (move : RunsMove sha256 reading op store next) (held : ∀ rows ∈ store.runs, I rows) : ∀ rows ∈ next.runs, I rows := by
  cases move with
  | none same => rwa [same]
  | inserted run created fresh grown =>
    subst created
    obtain ⟨_, scenario, given, mode, hash, scenarioId, rfl, found, hashed, rfl⟩ := admitted
    rw [grown, List.forall_mem_append, List.forall_mem_singleton]
    exact ⟨held, invariant.created⟩
  | advanced other id rows new same found advanced written =>
    subst same
    cases admitted
    intro stored there
    rw [written] at there
    rcases MobileStore.mem_replace there with rfl | old
    · exact invariant.advance (held rows (MobileStore.mem_of_rows? found).1) advanced
    · exact held stored old
  | decided other id decision rows new same found decided written =>
    subst same
    cases admitted
    intro stored there
    rw [written] at there
    rcases MobileStore.mem_replace there with rfl | old
    · exact invariant.decide (held rows (MobileStore.mem_of_rows? found).1) decided
    · exact held stored old

/-- The stored rows have it, whatever was requested and interrupted. -/
theorem RowsInvariant.reachable {I : RunRows → Prop} (invariant : RowsInvariant sha256 app I)
    (reach : Machine.Reachable (mobileSystem sha256 (· = app)) w) : ∀ rows ∈ w.state.runs, I rows := by
  refine reach.invariant (J := fun store => ∀ rows ∈ store.runs, I rows) mobile_disciplined ?_ ?_ ?_ ?_
  · rintro store rfl rows there
    cases there
  · rintro p op reading store answer next - admitted (performed | ⟨rfl, -⟩) held
    · have same : next = (op.apply sha256 reading store).2 := congrArg Prod.snd performed
      rw [same]
      exact invariant.move admitted (apply_moves op reading store) held
    · exact held
  · exact fun _ _ none => none.elim
  · exact fun _ _ held => held

/-- Every run is a replay of its decisions. -/
theorem replays_invariant : RowsInvariant sha256 app (RunRows.Replays sha256 app) where
  created := by
    intro supply given scenarioId hash mode
    have created : (RunRows.created supply (newRun given scenarioId hash mode)).blank = .first scenarioId hash mode :=
      RunRows.blank_emit ..
    unfold RunRows.Replays
    rw [created]
    exact .refl
  advance := RunRows.Replays.advance
  decide := RunRows.Replays.decide

/-- Whatever the order of the requests and wherever they were interrupted: two runs of one scenario and one mode
that are at rest with the same decisions agree on everything but identifiers and times. -/
theorem mobile_runs_converge (reach : Machine.Reachable (mobileSystem sha256 (· = app)) w)
    (reach' : Machine.Reachable (mobileSystem sha256 (· = app)) v) {rows other : RunRows} (stored : rows ∈ w.state.runs)
    (stored' : other ∈ v.state.runs) (scenarioId : other.run.scenarioId = rows.run.scenarioId)
    (hash : other.run.scenarioHash = rows.run.scenarioHash) (mode : other.run.mode = rows.run.mode)
    (decisions : other.decisions = rows.decisions) (rest : rows.AtRest sha256 app) (rest' : other.AtRest sha256 app) :
    other.blank = rows.blank := by
  have replays := replays_invariant.reachable reach rows stored
  have replays' := replays_invariant.reachable reach' other stored'
  unfold RunRows.Replays at replays replays'
  rw [scenarioId, hash, mode, decisions] at replays'
  exact RunRows.turn_driven.meet replays' rest'.stopped replays rest.stopped

/-- Requests that are served one after another are one of the orders. -/
theorem reachable_serve (readings : Nat → MobileReading) (requests : List MobileRequest) {here : Nat × MobileStore}
    (reach : Machine.Reachable (mobileSystem sha256 (· = app)) (⟨here.2, fun _ => .idle⟩ :
      World Nat MobileOp MobileOp.Answer MobileError (Nat × Json) MobileReading MobileStore)) :
    Machine.Reachable (mobileSystem sha256 (· = app)) (⟨(app.serve sha256 readings requests here).2, fun _ => .idle⟩ :
      World Nat MobileOp MobileOp.Answer MobileError (Nat × Json) MobileReading MobileStore) := by
  induction requests generalizing here with
  | nil => exact reach
  | cons request rest ih =>
    refine ih ?_
    have served : Machine.Reachable (mobileSystem sha256 (· = app))
        (⟨((app.route sha256 request).execute (MobileOp.apply sha256) readings here).2.2, fun _ => .idle⟩ :
          World Nat MobileOp MobileOp.Answer MobileError (Nat × Json) MobileReading MobileStore) :=
      reach.execute (p := 0) (fun _ _ => trivial) (fun _ _ _ _ => .inl rfl) rfl ⟨app, request, rfl, rfl⟩ here.1
    exact served

end System

/-- The same scenario is started twice. -/
def Sample.twice : MobileStore :=
  let request : MobileRequest := .startRun [] (.obj [("scenario_id", .str "paused"), ("mode", .str "fragile")])
  (Sample.app.serve Sample.hash Sample.readings [request, request] (0, MobileStore.empty)).2

theorem mobile_runs_converge_twice : ∃ rows ∈ Sample.twice.runs, ∃ other ∈ Sample.twice.runs,
    rows.run.id ≠ other.run.id ∧ rows.run.status = .waitingApproval ∧ other.blank = rows.blank := by
  have reach : Machine.Reachable (mobileSystem Sample.hash (· = Sample.app)) (⟨Sample.twice, fun _ => .idle⟩ :
      World Nat MobileOp MobileOp.Answer MobileError (Nat × Json) MobileReading MobileStore) :=
    reachable_serve Sample.readings _ (.init (M := mobileSystem Sample.hash (· = Sample.app)) (s := MobileStore.empty) rfl)
  have pair : Sample.twice.runs.any (fun rows => Sample.twice.runs.any fun other =>
      rows.run.id ≠ other.run.id && rows.run.status = .waitingApproval && other.run.status = .waitingApproval &&
        other.run.scenarioHash = rows.run.scenarioHash && other.run.mode = rows.run.mode &&
        other.decisions = rows.decisions && named rows.run.scenarioId "paused" && named other.run.scenarioId "paused") =
      true := by decide +kernel
  obtain ⟨rows, stored, pair⟩ := List.any_eq_true.mp pair
  obtain ⟨other, stored', pair⟩ := List.any_eq_true.mp pair
  simp only [Bool.and_eq_true, decide_eq_true_eq, named_iff] at pair
  obtain ⟨⟨⟨⟨⟨⟨⟨apart, waits⟩, waits'⟩, hash⟩, mode⟩, decisions⟩, paused⟩, paused'⟩ := pair
  have scenarioId : other.run.scenarioId = rows.run.scenarioId := paused'.trans paused.symm
  have rest : rows.AtRest Sample.hash Sample.app := .inl (by simp [RunRows.settled, waits])
  have rest' : other.AtRest Sample.hash Sample.app := .inl (by simp [RunRows.settled, waits'])
  exact ⟨rows, stored, other, stored', apart, waits,
    mobile_runs_converge reach reach stored stored' scenarioId hash mode decisions rest rest'⟩

end ReliabilityLab
