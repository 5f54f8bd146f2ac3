import ReliabilityLab.Mobile.Convergence
import ReliabilityLab.Mobile.Refusals

namespace ReliabilityLab

open Mobile MobileApp

/-- How many actions a scenario lists. -/
def actionCount (scenario : Dict) : Nat :=
  match scenario.lookup "actions" with
  | some (.arr actions) => actions.length
  | _ => 0

/-- No scenario of the package lists more actions. -/
def MobileApp.Short (limit : Nat) (app : MobileApp) : Prop :=
  ∀ key scenario, app.scenario? key = some scenario → actionCount scenario ≤ limit

namespace RunRows
variable {sha256 : Json → String} {app : MobileApp} {supply : Supply} {rows next : RunRows} {scenario action : Dict}
  {limit : Nat}

theorem actionAt_lt {step : Nat} (listed : actionAt scenario step = some action) :
    step < actionCount scenario := by
  unfold actionAt at listed
  split at listed
  · rename_i actions found
    have count : actionCount scenario = actions.length := by simp only [actionCount, found]
    rw [count]
    obtain ⟨due, there, -⟩ := Option.bind_eq_some_iff.mp listed
    exact (List.getElem?_eq_some_iff.mp there).1
  · cases listed

/-- The run may still pause at its step. -/
def pausable (rows : RunRows) : Bool :=
  rows.run.status ≠ .waitingApproval && (rows.decision? rows.run.currentStep).isNone

/-- What may still be ahead of a run that is not over: at every step three attempts and a pause. -/
def work (limit : Nat) (rows : RunRows) : Nat :=
  4 * (limit - rows.run.currentStep) + (4 - rows.run.nextAttempt) + rows.pausable.toNat

/-- The attempts of a step are numbered up to three, and a pause is one at the current step. -/
structure Paced (rows : RunRows) : Prop where
  attempt : rows.run.nextAttempt ≤ 3
  pending : ∀ pending, rows.run.status = .waitingApproval → rows.run.pendingApproval = some pending →
    pending.actionStep = rows.run.currentStep

/-- The round ended the run, or less is left to do. -/
def Progress (limit : Nat) (rows next : RunRows) : Prop :=
  next.Paced ∧ (next.run.status.terminal = true ∨ next.work limit < rows.work limit)

theorem progress_over (paced : rows.Paced) (attempt : next.run.nextAttempt = rows.run.nextAttempt)
    (stopped : next.run.status.terminal = true) : Progress limit rows next := by
  refine ⟨⟨attempt ▸ paced.attempt, fun pending waiting => ?_⟩, .inl stopped⟩
  rw [waiting] at stopped
  cases stopped

theorem progress_attemptFailed (context : Dict) (code : String) (transient : Bool) (paced : rows.Paced)
    (going : rows.run.status ≠ .waitingApproval) :
    Progress limit rows (rows.attemptFailed supply context code transient) := by
  unfold attemptFailed
  split
  · rename_i again
    have early : rows.run.nextAttempt < 3 := by
      simp only [Bool.and_eq_true, decide_eq_true_eq] at again
      exact again.2
    refine ⟨⟨early, fun pending waiting => absurd waiting going⟩, .inr ?_⟩
    show 4 * (limit - rows.run.currentStep) + (4 - (rows.run.nextAttempt + 1)) + rows.pausable.toNat <
      4 * (limit - rows.run.currentStep) + (4 - rows.run.nextAttempt) + rows.pausable.toNat
    omega
  · exact progress_over paced rfl rfl

theorem progress_attemptSucceeded (context : Dict) (output : Json) (paced : rows.Paced)
    (inside : rows.run.currentStep < limit) (going : rows.run.status ≠ .waitingApproval) :
    Progress limit rows (rows.attemptSucceeded supply context output) := by
  have few := paced.attempt
  have paused : (rows.attemptSucceeded supply context output).pausable.toNat ≤ 1 := Bool.toNat_le _
  have step : (rows.attemptSucceeded supply context output).run.currentStep = rows.run.currentStep + 1 := rfl
  have first : (rows.attemptSucceeded supply context output).run.nextAttempt = 1 := rfl
  refine ⟨⟨by omega, fun pending waiting => absurd waiting going⟩, .inr ?_⟩
  unfold work
  omega

theorem work_congr (run : next.run = rows.run) (decisions : next.decisions = rows.decisions) :
    next.work limit = rows.work limit := by
  unfold work pausable decision?
  rw [run, decisions]

theorem Progress.congr {before : RunRows} (progress : Progress limit rows next)
    (same : rows.work limit = before.work limit) : Progress limit before next := by
  obtain ⟨paced, ends⟩ := progress
  exact ⟨paced, ends.imp_right fun less => same ▸ less⟩

theorem Paced.congr (paced : rows.Paced) (run : next.run = rows.run) : next.Paced := by
  refine ⟨run ▸ paced.attempt, fun pending waiting set => ?_⟩
  rw [run] at waiting set ⊢
  exact paced.pending pending waiting set

theorem progress_performAttempt {name arguments : Json} {fingerprint : String} (paced : rows.Paced)
    (inside : rows.run.currentStep < limit) (going : rows.run.status ≠ .waitingApproval)
    (performed : rows.performAttempt supply scenario name arguments fingerprint = .ok next) :
    Progress limit rows next := by
  obtain ⟨middle, still, same, ended⟩ := performAttempt_cases performed
  have decisions : middle.decisions = rows.decisions := still.decisions
  rcases ended with ⟨code, transient, rfl⟩ | ⟨raw, written, output, wrote, rfl⟩
  · have going' : middle.run.status ≠ .waitingApproval := by rwa [same]
    exact (progress_attemptFailed _ code transient (paced.congr same) going').congr (work_congr same decisions)
  · have kept : written.run = middle.run ∧ written.decisions = middle.decisions := by
      rcases writeEffect_cases wrote with ⟨rfl, -⟩ | ⟨-, rfl⟩ <;> exact ⟨rfl, rfl⟩
    have run : written.run = rows.run := kept.1.trans same
    have inside' : written.run.currentStep < limit := by rwa [run]
    have going' : written.run.status ≠ .waitingApproval := by rwa [run]
    exact (progress_attemptSucceeded _ output (paced.congr run) inside' going').congr
      (work_congr run (kept.2.trans decisions))

theorem progress_attempt (paced : rows.Paced) (inside : rows.run.currentStep < limit)
    (going : rows.run.status ≠ .waitingApproval)
    (attempted : rows.attempt sha256 supply scenario action = .ok next) : Progress limit rows next := by
  unfold attempt at attempted
  obtain ⟨name, -, attempted⟩ := Check.bind_ok.mp attempted
  obtain ⟨arguments, -, attempted⟩ := Check.bind_ok.mp attempted
  obtain ⟨valid, -, attempted⟩ := Check.bind_ok.mp attempted
  split at attempted
  · obtain ⟨fingerprint, -, attempted⟩ := Check.bind_ok.mp attempted
    split at attempted
    · split at attempted
      · rename_i undecided
        cases attempted
        -- the pause of this step
        have before : rows.pausable = true := by simp [pausable, going, undecided]
        have after : (rows.awaitApproval supply name arguments fingerprint).pausable = false := rfl
        refine ⟨⟨paced.attempt, fun pending _ set => ?_⟩, .inr ?_⟩
        · cases set
          rfl
        · unfold work
          rw [before, after]
          exact Nat.lt_succ_self _
      · split at attempted
        · exact progress_performAttempt paced inside going attempted
        · cases attempted
          exact progress_over paced rfl rfl
    · exact progress_performAttempt paced inside going attempted
  · cases attempted
    exact progress_over paced rfl rfl

theorem announce_same (action : Dict) : (rows.announce supply action).work limit = rows.work limit ∧
    (rows.announce supply action).run.currentStep = rows.run.currentStep ∧
    (rows.announce supply action).run.status = rows.run.status ∧ (rows.Paced → (rows.announce supply action).Paced) := by
  unfold announce
  split
  · exact ⟨rfl, rfl, rfl, id⟩
  · exact ⟨rfl, rfl, rfl, fun paced => ⟨paced.attempt, paced.pending⟩⟩

theorem progress_act (paced : rows.Paced) (going : rows.run.status ≠ .waitingApproval)
    (short : actionCount scenario ≤ limit) (acted : rows.act sha256 supply scenario = .ok next) : Progress limit rows next := by
  unfold act at acted
  obtain ⟨actions, listed, acted⟩ := Check.bind_ok.mp acted
  obtain ⟨due, found, acted⟩ := Check.bind_ok.mp acted
  split at acted
  · cases acted
    exact progress_over paced rfl rfl
  · rename_i action
    have inside : rows.run.currentStep < limit := (actionAt_lt (actionAt_eq listed found)).trans_le short
    obtain ⟨same, step, status, kept⟩ : (rows.announce supply action).work limit = rows.work limit ∧
        (rows.announce supply action).run.currentStep = rows.run.currentStep ∧
        (rows.announce supply action).run.status = rows.run.status ∧ (rows.Paced → (rows.announce supply action).Paced) :=
      announce_same action
    have told := kept paced
    obtain ⟨type, -, acted⟩ := Check.bind_ok.mp acted
    split at acted
    · unfold finish at acted
      obtain ⟨outcome, -, acted⟩ := Check.bind_ok.mp acted
      obtain ⟨summary, -, acted⟩ := Check.bind_ok.mp acted
      obtain ⟨evidence, -, acted⟩ := Check.bind_ok.mp acted
      cases acted
      exact Progress.congr (progress_over told rfl rfl) same
    · split at acted
      · obtain ⟨code, -, acted⟩ := Check.bind_ok.mp acted
        cases acted
        exact Progress.congr (progress_over told rfl rfl) same
      · exact (progress_attempt told (step ▸ inside) (status ▸ going) acted).congr same
  · cases acted

/-- A round of an unsettled run makes progress. -/
theorem progress_advance (paced : rows.Paced) (due : rows.settled = false)
    (short : app.Short limit)
    (advanced : rows.advance sha256 app supply = .ok next) : Progress limit rows next := by
  unfold advance at advanced
  rw [due, if_neg (by simp)] at advanced
  obtain ⟨scenario, compatible, advanced⟩ := Check.bind_ok.mp advanced
  obtain ⟨known, -, -⟩ := compatibleScenario_ok.mp compatible
  obtain ⟨acted, ended, advanced⟩ := Check.bind_ok.mp advanced
  cases advanced
  have going : rows.run.status ≠ .waitingApproval := by
    intro waiting
    simp [settled, waiting] at due
  have active : (rows.activate supply).work limit = rows.work limit ∧
      (rows.activate supply).run.status ≠ .waitingApproval ∧ (rows.activate supply).Paced := by
    unfold activate
    split
    · rename_i queued
      refine ⟨?_, by simp, ⟨paced.attempt, by simp⟩⟩
      simp only [work, pausable, queued]
      rfl
    · exact ⟨rfl, going, paced⟩
  obtain ⟨same, going', paced'⟩ := active
  obtain ⟨kept, ends⟩ := (progress_act paced' going' (short _ _ known) ended).congr same
  exact ⟨⟨kept.attempt, kept.pending⟩, ends⟩

/-- The rounds that are enough for a run to be over or to wait, the last of which only finds it so. -/
def left (limit : Nat) (rows : RunRows) : Nat := if rows.run.status.terminal then 1 else rows.work limit + 2

theorem left_pos : 0 < rows.left limit := by
  unfold left
  split <;> omega

theorem left_le : rows.left limit ≤ 4 * limit + 7 := by
  have paused : rows.pausable.toNat ≤ 1 := Bool.toNat_le _
  unfold left work
  split <;> omega

theorem left_advance (paced : rows.Paced) (due : rows.settled = false) (short : app.Short limit)
    (advanced : rows.advance sha256 app supply = .ok next) : next.Paced ∧ next.left limit < rows.left limit := by
  obtain ⟨kept, ends⟩ := progress_advance paced due short advanced
  have going : rows.run.status.terminal = false := by
    simp only [settled, Bool.or_eq_false_iff] at due
    exact due.1
  refine ⟨kept, ?_⟩
  unfold left
  rcases ends with stopped | less
  · simp [going, stopped]
  · rw [going]
    split
    · simp
    · simpa using less

/-- A decision leaves no more to do than there was. -/
theorem left_decide {decision : MobileDecision} (paced : rows.Paced)
    (ruled : rows.decide sha256 app supply decision = .ok next) :
    next.Paced ∧ next.left limit ≤ rows.left limit := by
  rcases decide_cases ruled with rfl | ⟨awaited, -, rfl⟩
  · exact ⟨paced, le_rfl⟩
  · have waiting := waiting_of_awaits awaited
    have here : decision.actionStep = rows.run.currentStep := by
      simp only [awaits, Bool.and_eq_true, decide_eq_true_eq, Option.any_eq_true] at awaited
      obtain ⟨-, pending, set, step, -⟩ := awaited
      exact step.symm.trans (paced.pending pending waiting set)
    have cursor : ((rows.decided supply decision).save supply).run.currentStep = rows.run.currentStep ∧
        ((rows.decided supply decision).save supply).run.nextAttempt = rows.run.nextAttempt ∧
        ((rows.decided supply decision).save supply).run.status ≠ .waitingApproval := by
      unfold decided
      split <;> exact ⟨rfl, rfl, by simp [save, fail]⟩
    obtain ⟨step, attempt, going⟩ := cursor
    have known : (((rows.decided supply decision).save supply).decision?
        ((rows.decided supply decision).save supply).run.currentStep).isSome = true := by
      have listed : ((rows.decided supply decision).save supply).decisions = rows.decisions ++ [decision] :=
        (decided_kept decision).1
      unfold decision?
      rw [listed, step, List.find?_isSome]
      exact ⟨decision, by simp, by simpa using here⟩
    have spent : ((rows.decided supply decision).save supply).pausable = false := by
      unfold pausable
      rw [Option.isNone_eq_false_iff.mpr known]
      exact Bool.and_false _
    have less : ((rows.decided supply decision).save supply).work limit ≤ rows.work limit := by
      unfold work
      rw [step, attempt, spent]
      exact Nat.le_add_right _ _
    have unsettled : rows.run.status.terminal = false := by
      rw [waiting]
      rfl
    refine ⟨⟨attempt ▸ paced.attempt, fun pending waiting => absurd waiting going⟩, ?_⟩
    unfold left
    rw [unsettled]
    split
    · simp
    · simpa using less

end RunRows

/-- Every stored run is as near to its end as it was, or nearer. -/
def MobileStore.Nearer (limit : Nat) (store next : MobileStore) : Prop :=
  ∀ id rows, store.rows? id = some rows → ∃ new, next.rows? id = some new ∧ new.left limit ≤ rows.left limit

/-- The bodies of all runs are in step with their scenarios. -/
def MobileStore.Paced (store : MobileStore) : Prop := ∀ rows ∈ store.runs, rows.Paced

section Moves
variable {sha256 : Json → String} {apps : MobileApp → Prop} {limit : Nat} {op : MobileOp} {reading : MobileReading}
  {store next : MobileStore}

theorem left_settled {app : MobileApp} {supply : RunRows.Supply} {rows new : RunRows} (paced : rows.Paced)
    (short : app.Short limit) (advanced : rows.advance sha256 app supply = .ok new) :
    new.Paced ∧ new.left limit ≤ rows.left limit := by
  by_cases settled : rows.settled = true
  · rw [RunRows.advance_settled settled advanced]
    exact ⟨paced, le_rfl⟩
  · obtain ⟨kept, less⟩ := RunRows.left_advance paced (Bool.eq_false_iff.mpr settled) short advanced
    exact ⟨kept, less.le⟩

theorem nearer_move (short : ∀ app, apps app → app.Short limit) (admitted : Admitted sha256 apps op)
    (move : RunsMove sha256 reading op store next) (paced : store.Paced) : store.Nearer limit next := by
  intro id rows found
  have here := paced rows (MobileStore.mem_of_rows? found).1
  obtain ⟨new, after, rfl | ⟨app, same, advanced⟩ | ⟨app, decision, same, decided⟩⟩ := rows_move move found
  · exact ⟨new, after, le_rfl⟩
  · subst same
    exact ⟨new, after, (left_settled here (short app admitted) advanced).2⟩
  · exact ⟨new, after, (RunRows.left_decide here decided).2⟩

theorem paced_move (short : ∀ app, apps app → app.Short limit) (admitted : Admitted sha256 apps op)
    (move : RunsMove sha256 reading op store next) (paced : store.Paced) : next.Paced := by
  cases move with
  | none same =>
    intro rows there
    rw [same] at there
    exact paced rows there
  | inserted run created fresh grown =>
    subst created
    obtain ⟨app, scenario, given, mode, hash, scenarioId, -, -, -, rfl⟩ := admitted
    intro rows there
    rw [grown, List.mem_append, List.mem_singleton] at there
    rcases there with old | rfl
    · exact paced rows old
    · have first : (RunRows.created reading.supply (newRun given scenarioId hash mode)).run.nextAttempt = 1 := rfl
      exact ⟨by omega, fun pending waiting => by cases waiting⟩
  | advanced app id rows new same found advanced written =>
    subst same
    intro stored there
    rw [written] at there
    rcases MobileStore.mem_replace there with rfl | old
    · exact (left_settled (paced rows (MobileStore.mem_of_rows? found).1) (short app admitted) advanced).1
    · exact paced stored old
  | decided app id decision rows new same found decided written =>
    intro stored there
    rw [written] at there
    rcases MobileStore.mem_replace there with rfl | old
    · have kept : stored.Paced ∧ stored.left limit ≤ rows.left limit :=
        RunRows.left_decide (paced rows (MobileStore.mem_of_rows? found).1) decided
      exact kept.1
    · exact paced stored old

theorem rows?_created {run : MobileRun} (done : store.insertRun (.created reading.supply run) = .ok next) :
    ∃ rows, next.rows? run.id = some rows := by
  obtain ⟨-, grown⟩ := insertRun_ok done
  have there : RunRows.created reading.supply run ∈ next.runs := by simp [grown]
  exact ⟨_, MobileStore.rows?_of_mem there⟩

theorem rows?_decided {app : MobileApp} {id : Uuid} {decision : MobileDecision}
    (done : store.transact id (RunRows.decide sha256 app reading.supply · decision) = .ok next) :
    ∃ rows, next.rows? id = some rows := by
  obtain ⟨rows, new, found, decided, rfl⟩ := transact_ok done
  have same : new.run.id = id :=
    (run_id_of_origin (RunRows.decide_origin decided)).trans (MobileStore.mem_of_rows? found).2
  exact ⟨new, by rw [MobileStore.rows?_replace found same, if_pos rfl]⟩

theorem rows?_loaded {id : Uuid} {run : MobileRun}
    (done : (MobileOp.loadRun id).apply sha256 reading store = (.ok run, next)) : ∃ rows, next.rows? id = some rows := by
  simp only [MobileOp.apply] at done
  split at done
  · rename_i rows found
    cases done
    exact ⟨rows, found⟩
  · cases done

end Moves

/-- Requests to these instances, of which an interrupted operation raises an exception of Python. -/
def interruptedSystem (sha256 : Json → String) (apps : MobileApp → Prop) :
    Machine Nat MobileOp MobileOp.Answer MobileError (Nat × Json) MobileReading MobileStore :=
  { mobileSystem sha256 apps with
    perform := fun _ op reading store answer next =>
      (answer, next) = op.apply sha256 reading store ∨ next = store ∧ ∃ error, answer = .error (.raised error) }

/-- The runs only come nearer to their ends. -/
def pacing (limit : Nat) (sha256 : Json → String) (apps : MobileApp → Prop) :
    Discipline MobileOp MobileOp.Answer MobileStore where
  inv := MobileStore.Paced
  rely := MobileStore.Nearer limit
  pre op _ := Admitted sha256 apps op
  step op store answer next := (∃ reading, (answer, next) = op.apply sha256 reading store) ∨
    next = store ∧ ∃ error, answer = .error (.raised error)
  rely_refl _ := fun _ rows found => ⟨rows, found, le_rfl⟩
  rely_trans := by
    intro store middle next first second id rows found
    obtain ⟨between, there, less⟩ := first id rows found
    obtain ⟨new, after, fewer⟩ := second id between there
    exact ⟨new, after, fewer.trans less⟩

section Foreseen
variable {sha256 : Json → String} {apps : MobileApp → Prop} {app : MobileApp} {limit : Nat} {α β : Type}
  {store : MobileStore}

/-- The program fails in an expected way only, whatever the others do. -/
abbrev Foreseen (limit : Nat) (sha256 : Json → String) (apps : MobileApp → Prop) {α : Type} (program : MobileProgram α)
    (store : MobileStore) : Prop :=
  program.Obeys (pacing limit sha256 apps) (fun _ _ => True) (fun error _ => error.Expected) store

theorem foreseen_bind {p : MobileProgram α} {f : α → MobileProgram β} (first : Foreseen limit sha256 apps p store)
    (later : ∀ value next, Foreseen limit sha256 apps (f value) next) : Foreseen limit sha256 apps (p >>= f) store :=
  Program.obeys_bind.mpr (first.mono (fun value next _ => later value next) fun _ _ raised => raised)

theorem foreseen_ofExcept {result : Except MobileError α} (refuses : Refuses result) :
    Foreseen limit sha256 apps (.ofExcept result : MobileProgram α) store := by
  cases result with
  | ok value => trivial
  | error error => exact refuses error rfl

theorem foreseen_check {result : Except MobileError α} {f : α → MobileProgram β} (refuses : Refuses result)
    (later : ∀ value, Foreseen limit sha256 apps (f value) store) :
    Foreseen limit sha256 apps (.ofExcept result >>= f) store := by
  cases result with
  | ok value => exact later value
  | error error => exact refuses error rfl

theorem foreseen_refuse {status : Nat} {code message : String} (listed : (status, code) ∈ refusals) :
    Foreseen limit sha256 apps (refuse status code message : MobileProgram α) store := listed

/-- An operation and what follows: where it raised nothing, the rest is about the database that it left. -/
theorem foreseen_operation {op : MobileOp} {f : op.Value → MobileProgram β} (admitted : Admitted sha256 apps op)
    (later : ∀ reading before value next, before.Paced → store.Nearer limit before →
      op.apply sha256 reading before = (.ok value, next) → Foreseen limit sha256 apps (f value) next) :
    Foreseen limit sha256 apps (request op >>= f) store := by
  intro before others paced
  refine ⟨admitted, fun answer next step _ => ?_⟩
  rcases step with ⟨reading, done⟩ | ⟨rfl, error, rfl⟩
  · cases answer with
    | ok value => exact later reading before value next paced others done.symm
    | error error =>
      have raised : (op.apply sha256 reading before).1 = .error error := congrArg Prod.fst done.symm
      exact refuses_apply op reading error raised
  · exact expected_raised error

theorem foreseen_request {op : MobileOp} (admitted : Admitted sha256 apps op) :
    Foreseen limit sha256 apps (request op) store := by
  intro before others paced
  refine ⟨admitted, fun answer next step _ => ?_⟩
  rcases step with ⟨reading, done⟩ | ⟨rfl, error, rfl⟩
  · have raised : (op.apply sha256 reading before).1 = answer := congrArg Prod.fst done.symm
    exact foreseen_ofExcept (raised ▸ refuses_apply op reading)
  · exact expected_raised error

/-- The rounds suffice: each of them ends the loop, or brings the run nearer to its end. -/
theorem foreseen_advanceRun (known : apps app) (short : app.Short limit) {id : Uuid} {rounds : Nat} {rows : RunRows}
    (found : store.rows? id = some rows) (enough : rows.left limit ≤ rounds) :
    Foreseen limit sha256 apps (app.advanceRun id rounds) store := by
  induction rounds generalizing store rows with
  | zero =>
    have some_left : 0 < rows.left limit := RunRows.left_pos
    omega
  | succ rounds ih =>
    refine foreseen_operation known fun reading before value next paced others done => ?_
    obtain ⟨old, there, nearer⟩ := others id rows found
    cases value with
    | some run => trivial
    | none =>
      simp only [MobileOp.apply, MobileStore.transact, there] at done
      cases advanced : old.advance sha256 app reading.supply with
      | error error =>
        rw [advanced] at done
        cases done
      | ok new =>
        rw [advanced] at done
        have due : old.settled = false := by
          cases settled : old.settled with
          | false => rfl
          | true => simp [committed, Except.map, Option.filter, settled] at done
        have written : next = before.replace new := (congrArg Prod.snd done).symm
        obtain ⟨at_id, same⟩ := MobileStore.mem_of_rows? there
        obtain ⟨-, less⟩ := RunRows.left_advance (paced old at_id) due short advanced
        have same' : new.run.id = id := (run_id_of_origin (RunRows.advance_origin advanced)).trans same
        have after : next.rows? id = some new := by
          rw [written, MobileStore.rows?_replace there same', if_pos rfl]
        exact ih after (by omega)

theorem foreseen_engine (known : apps app) (short : app.Short 14) {id : Uuid} (found : ∃ rows, store.rows? id = some rows) :
    Foreseen 14 sha256 apps (app.advanceRun id 64) store := by
  obtain ⟨rows, there⟩ := found
  have bound : rows.left 14 ≤ 4 * 14 + 7 := RunRows.left_le
  exact foreseen_advanceRun known short there (by omega)


theorem foreseen_start (known : apps app) (short : app.Short 14) (scenarioId : Json) (mode : Mode) :
    Foreseen 14 sha256 apps (app.start sha256 scenarioId mode) store := by
  unfold start
  split
  · exact foreseen_refuse (by decide)
  · rename_i scenario found
    refine foreseen_operation trivial fun _ _ reading _ _ _ _ => ?_
    cases hashed : digest sha256 (.obj scenario) with
    | error error => exact refuses_digest sha256 _ error hashed
    | ok hash =>
      have first : Admitted sha256 apps (.create (newRun reading scenarioId hash mode)) :=
        ⟨app, scenario, reading, mode, hash, scenarioId, known, found, hashed, rfl⟩
      refine foreseen_operation first fun stamps before _ next _ _ done => ?_
      exact foreseen_engine known short (rows?_created (committed_ok done))

theorem foreseen_approve (known : apps app) (short : app.Short 14) (id : Uuid) (decision : MobileDecision) :
    Foreseen 14 sha256 apps (app.approve id decision) store := by
  refine foreseen_bind (foreseen_ofExcept (refuses_checkDecision decision)) fun normalized _ => ?_
  exact foreseen_operation known fun stamps before _ next _ _ done =>
    foreseen_engine known short (rows?_decided (committed_ok done))

theorem foreseen_evidence (run : MobileRun) : Foreseen limit sha256 apps (evidence sha256 run) store :=
  foreseen_bind (foreseen_request trivial) fun _ _ => foreseen_ofExcept (refuses_digest _ _)

theorem foreseen_verifiedCases (references : List (Uuid × String)) :
    Foreseen limit sha256 apps (app.verifiedCases sha256 references) store := by
  induction references generalizing store with
  | nil => trivial
  | cons reference rest ih =>
    refine foreseen_bind (foreseen_bind (foreseen_request trivial) fun run _ => foreseen_bind (foreseen_evidence run) fun found _ => ?_)
      fun _ _ => foreseen_bind ih fun _ _ => trivial
    split
    · exact foreseen_bind (foreseen_request trivial) fun _ _ => foreseen_bind (foreseen_request trivial) fun _ _ =>
        foreseen_ofExcept (refuses_gradeCase _ _)
    · exact foreseen_refuse (by decide)

theorem foreseen_report (evaluation : MobileEvaluation) : Foreseen limit sha256 apps (app.report sha256 evaluation) store := by
  unfold report
  split
  · exact foreseen_bind (foreseen_verifiedCases _) fun _ _ => foreseen_ofExcept (refuses_reportJson _ _)
  · exact foreseen_refuse (by decide)

theorem foreseen_reports (evaluations : List MobileEvaluation) :
    Foreseen limit sha256 apps (app.reports sha256 evaluations) store := by
  induction evaluations generalizing store with
  | nil => trivial
  | cons evaluation rest ih =>
    exact foreseen_bind (foreseen_report evaluation) fun _ _ => foreseen_bind ih fun _ _ => trivial

theorem foreseen_evaluateScenario (known : apps app) (short : app.Short 14) (mode : Mode) (scenario : Dict) :
    Foreseen 14 sha256 apps (app.evaluateScenario sha256 mode scenario) store := by
  refine foreseen_bind (foreseen_ofExcept (refuses_item _ _)) fun id _ =>
    foreseen_bind (foreseen_start known short id mode) fun started _ => ?_
  extract_lets conclude supply
  have concludes : ∀ run next, Foreseen 14 sha256 apps (conclude run) next :=
    fun run _ => foreseen_bind (foreseen_evidence run) fun _ _ => trivial
  have supplies : ∀ supplied next, Foreseen 14 sha256 apps (supply supplied) next := by
    intro supplied next
    simp only [supply]
    split
    · refine foreseen_bind (foreseen_request trivial) fun paused _ => ?_
      split
      · exact foreseen_bind (foreseen_approve known short _ _) concludes
      · exact foreseen_bind (foreseen_ofExcept (refuses_raised _)) concludes
    · exact concludes started next
  split
  · exact foreseen_bind (foreseen_ofExcept (refuses_item _ _)) supplies
  · exact supplies .null _

theorem foreseen_evaluateScenarios (known : apps app) (short : app.Short 14) (cases : List (Mode × Dict)) :
    Foreseen 14 sha256 apps (app.evaluateScenarios sha256 cases) store := by
  induction cases generalizing store with
  | nil => trivial
  | cons case rest ih =>
    exact foreseen_bind (foreseen_evaluateScenario known short _ _) fun _ _ => foreseen_bind ih fun _ _ => trivial

theorem foreseen_evaluate (known : apps app) (short : app.Short 14) : Foreseen 14 sha256 apps (app.evaluate sha256) store :=
  foreseen_bind (foreseen_request trivial) fun _ _ => foreseen_bind (foreseen_ofExcept refuses_provenance) fun _ _ =>
    foreseen_bind (foreseen_ofExcept refuses_sortedScenarios) fun _ _ =>
    foreseen_bind (foreseen_evaluateScenarios known short _) fun _ _ =>
    foreseen_bind (foreseen_request trivial) fun _ _ => foreseen_report _

theorem foreseen_publicRun (run : MobileRun) : Foreseen limit sha256 apps (publicRun run) store :=
  foreseen_bind (foreseen_request trivial) fun _ _ => trivial

theorem foreseen_route (known : apps app) (short : app.Short 14) (request : MobileRequest) :
    Foreseen 14 sha256 apps (app.route sha256 request) store := by
  cases request with
  | startRun query body =>
    refine foreseen_bind (foreseen_ofExcept (refuses_noQuery _)) fun _ _ =>
      foreseen_bind (foreseen_ofExcept (refuses_shape _ _ _)) fun items _ => ?_
    dsimp only
    split
    · split
      · exact foreseen_bind (foreseen_start known short _ _) fun _ _ => foreseen_bind (foreseen_publicRun _) fun _ _ => trivial
      · exact foreseen_ofExcept refuses_invalid
    · exact foreseen_ofExcept refuses_invalid
  | evaluate query body =>
    refine foreseen_bind (foreseen_ofExcept (refuses_noQuery _)) fun _ _ =>
      foreseen_bind (foreseen_ofExcept (refuses_shape _ _ _)) fun items _ => ?_
    dsimp only
    split
    · split
      · exact foreseen_bind (foreseen_evaluate known short) fun _ _ => trivial
      · exact foreseen_refuse (by decide)
    · exact foreseen_ofExcept refuses_invalid
  | listEvaluations query =>
    exact foreseen_bind (foreseen_ofExcept (refuses_limitQuery _ _ _ _)) fun _ _ => foreseen_bind (foreseen_request trivial) fun _ _ =>
      foreseen_bind (foreseen_reports _) fun _ _ => trivial
  | getEvaluation id query =>
    exact foreseen_bind (foreseen_ofExcept (refuses_noQuery _)) fun _ _ => foreseen_bind (foreseen_request trivial) fun _ _ =>
      foreseen_bind (foreseen_report _) fun _ _ => trivial
  | approveRun id query body =>
    exact foreseen_bind (foreseen_request trivial) fun _ _ => foreseen_bind (foreseen_ofExcept (refuses_noQuery _)) fun _ _ =>
      foreseen_bind (foreseen_ofExcept (refuses_readDecision _)) fun _ _ =>
      foreseen_bind (foreseen_approve known short _ _) fun _ _ => foreseen_bind (foreseen_publicRun _) fun _ _ => trivial
  | resumeRun id query body =>
    refine foreseen_operation trivial fun _ before run next _ _ loaded => ?_
    refine foreseen_check (refuses_noQuery _) fun _ => ?_
    split
    · split
      · exact foreseen_refuse (by decide)
      · exact foreseen_bind (foreseen_engine known short (rows?_loaded loaded)) fun _ _ =>
          foreseen_bind (foreseen_publicRun _) fun _ _ => trivial
    · exact foreseen_ofExcept refuses_invalid

theorem paced_disciplined (short : ∀ app, apps app → app.Short 14) :
    (interruptedSystem sha256 apps).Disciplined (fun _ => pacing 14 sha256 apps) MobileStore.Paced where
  same _ := rfl
  init store empty := by
    subst empty
    intro rows there
    cases there
  start p program store started _ := by
    obtain ⟨app, request, known, rfl⟩ := started
    exact (foreseen_route known (short app known) request).mono (fun _ _ _ => trivial) fun _ _ _ => trivial
  own p op reading store answer next paced admitted performed := by
    rcases performed with performed | ⟨rfl, raised⟩
    · refine ⟨?_, .inl ⟨reading, performed⟩⟩
      have same : next = (op.apply sha256 reading store).2 := congrArg Prod.snd performed
      rw [same]
      exact paced_move short admitted (apply_moves op reading store) paced
    · exact ⟨paced, .inr ⟨rfl, raised⟩⟩
  others p q op reading store answer next _ paced admitted performed := by
    rcases performed with performed | ⟨rfl, -⟩
    · have same : next = (op.apply sha256 reading store).2 := congrArg Prod.snd performed
      rw [same]
      exact nearer_move short admitted (apply_moves op reading store) paced
    · exact fun _ rows found => ⟨rows, found, le_rfl⟩
  ambient _ _ _ none := none.elim
  crash _ store paced := ⟨paced, fun _ _ rows found => ⟨rows, found, le_rfl⟩⟩

/-- Every request that is under way fails in an expected way only. -/
theorem reachable_foreseen (short : ∀ app, apps app → app.Short 14)
    {w : World Nat MobileOp MobileOp.Answer MobileError (Nat × Json) MobileReading MobileStore}
    (reach : Machine.Reachable (interruptedSystem sha256 apps) w) : w.state.Paced ∧
      Machine.Keeps (fun _ => pacing 14 sha256 apps) (fun _ _ _ => True) (fun _ error _ => error.Expected) w := by
  have rules : (interruptedSystem sha256 apps).Disciplined (fun _ => pacing 14 sha256 apps) MobileStore.Paced :=
    paced_disciplined short
  induction reach with
  | init start => exact ⟨rules.init _ start, fun party program rest => by simp [Process.rest] at rest⟩
  | step _ move ih =>
    refine move.keeps rules (fun _ _ _ _ _ holds => holds) (fun _ _ _ _ _ holds => holds) ?_ ih.1 ih.2
    rintro party program store ⟨app, request, known, rfl⟩ -
    exact foreseen_route known (short app known) request

end Foreseen

theorem Sample.short : ∀ app, app = Sample.app → app.Short 14 := by
  rintro _ rfl key scenario found
  have all : Sample.app.scenarios.all (fun entry => actionCount entry.2 ≤ 14) = true := by decide +kernel
  obtain ⟨entry, there, rfl⟩ := Option.map_eq_some_iff.mp found
  exact of_decide_eq_true (List.all_eq_true.mp all entry (List.mem_of_find?_eq_some there))

end ReliabilityLab
