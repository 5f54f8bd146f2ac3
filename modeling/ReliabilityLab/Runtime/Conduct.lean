import ReliabilityLab.Runtime.GatewayConduct

namespace ReliabilityLab

variable {dep : Deployment} {allowed : Allowed} {p : Pid} {s : SystemState}

/-- The stored form of a run after an owned save. -/
def Run.bumped (run prior : Run) : Run := { run with version := prior.version + 1 }

theorem holds_of_updateOwned {now : DateTime} {run prior saved : Run} {owner : Uuid} {t : SystemState} {after : Store}
    (clean : List TraceEvent)
    (done : Store.updateOwned now run owner prior.version t.store = .ok (saved, after)) :
    saved = run.bumped prior ∧ Holds p (run.bumped prior) { t with store := after.insertEvents clean } := by
  obtain ⟨row, lease, stored, version, -, -, -, rfl, rfl⟩ := Store.updateOwned_ok done
  refine ⟨rfl, ⟨⟨run.traceId, prior.version + 1, run.bumped prior⟩, ?_, le_rfl, rfl, fun _ => rfl⟩, fun _ =>
    ⟨⟨run.traceId, prior.version + 1, run.bumped prior⟩, ?_, rfl⟩⟩ <;>
  simp [Run.bumped, Store.setRun]

section Save
variable {run prior : Run} {owner : Uuid} {Q : Run → SystemState → Prop} {E : Exn → SystemState → Prop}

/-- An owned save either raises the held run to its successor or changes nothing. -/
theorem saveEvents_obeys {events : List TraceEvent} (drawn : s.drawn owner = some p) (holds : Holds p prior s)
    (advance : ∀ t, Rely p s t → Advance dep allowed p t prior run events)
    (returns : ∀ u, u.drawn owner = some p → Holds p (run.bumped prior) u → Q (run.bumped prior) u)
    (raises : ∀ error u, u.drawn owner = some p → E error u) :
    (saveRunOwnedWithEvents run events owner prior.version).Obeys (discipline dep allowed p) Q E s := by
  intro t others _
  have named := others.drawn _ _ drawn
  refine ⟨⟨named, prior, rfl, holds.rely others, advance t others⟩, ?_⟩
  rintro answer u ⟨now, ⟨after, settled, rfl⟩, -⟩ _
  cases answer with
  | error error =>
    cases settled.error
    exact raises error t named
  | ok saved =>
    obtain ⟨updated, result, rfl⟩ := Store.saveRunOwnedWithEvents_ok settled.ok
    obtain ⟨rfl, held⟩ := holds_of_updateOwned (p := p) (events.map (Store.cleanEvent dep.store)) result
    exact returns _ named held

theorem save_obeys (drawn : s.drawn owner = some p) (holds : Holds p prior s)
    (advance : ∀ t, Rely p s t → Advance dep allowed p t prior run [])
    (returns : ∀ u, u.drawn owner = some p → Holds p (run.bumped prior) u → Q (run.bumped prior) u)
    (raises : ∀ error u, u.drawn owner = some p → E error u) :
    (save run prior owner).Obeys (discipline dep allowed p) Q E s := by
  intro t others _
  have named := others.drawn _ _ drawn
  refine ⟨⟨named, prior, rfl, holds.rely others, advance t others⟩, ?_⟩
  rintro answer u ⟨now, ⟨after, settled, rfl⟩, -⟩ _
  cases answer with
  | error error =>
    cases settled.error
    exact raises error t named
  | ok saved =>
    obtain ⟨rfl, held⟩ := holds_of_updateOwned (p := p) [] settled.ok
    exact returns _ named held

end Save

theorem transition_ok_of {run : Run} {status : RunStatus} (allowed : status ∈ allowedTransitions run.status) :
    run.transition status = .ok { run with status := status } := if_pos allowed

section Execute
variable {run : Run} {owner : Uuid} {scenario : Scenario} {policyName : String}

theorem terminalFailure_obeys {code : String} {explanation : Option String} {nextStep : Bool}
    {Q : Run → SystemState → Prop} {E : Exn → SystemState → Prop} (drawn : s.drawn owner = some p)
    (holds : Holds p run s) (running : run.status = .running) (cause : Cause dep allowed p run code s)
    (returns : ∀ failed u, u.drawn owner = some p → Q failed u)
    (raises : ∀ error u, u.drawn owner = some p → E error u) :
    (dep.terminalFailure run code explanation owner nextStep).Obeys (discipline dep allowed p) Q E s := by
  unfold Deployment.terminalFailure
  rw [transition_ok_of (by rw [running]; decide)]
  exact saveEvents_obeys drawn holds
    (fun t others => .fail code explanation nextStep running (cause.rely others))
    (fun u named _ => returns _ u named) raises

/-- How many turns of the loop a run has left at most. -/
def Deployment.turnsNeeded (dep : Deployment) (run : Run) : Nat :=
  dep.maxActionSteps + 1 - run.budgetUsed + run.pendingAction.isSome.toNat

/-- An action to take comes from the held run or from the policy. -/
structure Chosen (dep : Deployment) (run : Run) (action : AgentAction) : Prop where
  proposes : ∀ call, action = .callTool call → Proposes run call
  foreign : ∀ failure, action = .fail failure → ForeignCode dep failure.code

theorem chooseAction_obeys {Q : Progress (Run × AgentAction) → SystemState → Prop} {E : Exn → SystemState → Prop}
    {scenarioId : String} (loaded : dep.loadScenario scenarioId = .ok scenario) (drawn : s.drawn owner = some p) (holds : Holds p run s) (running : run.status = .running)
    (continues : ∀ next action u, u.drawn owner = some p → Holds p next u → next.status = .running →
      Chosen dep next action → dep.maxActionSteps + 1 - next.budgetUsed < dep.turnsNeeded run →
      Q (.continued (next, action)) u)
    (stops : ∀ stopped u, u.drawn owner = some p → Q (.stopped stopped) u)
    (raises : ∀ error u, u.drawn owner = some p → E error u) :
    (dep.chooseAction run scenario policyName owner).Obeys (discipline dep allowed p) Q E s := by
  unfold Deployment.chooseAction
  split
  · rename_i pending stored
    refine continues run (.callTool pending) s drawn holds running ⟨?_, fun _ impossible => by cases impossible⟩ ?_
    · rintro call same other atOther
      cases same
      exact Option.some.inj (stored.symm.trans atOther)
    · simp [Deployment.turnsNeeded, stored]
  · rename_i unset
    split
    · exact Program.obeys_bind.mpr (terminalFailure_obeys drawn holds running (.plain (by decide))
        (fun failed u named => stops failed u named) raises)
    · rename_i budget
      refine Program.obeys_bind.mpr (save_obeys drawn holds
        (fun t _ => .reserve running unset (Nat.lt_of_not_le budget)) (fun u named held => ?_) raises)
      refine Program.obeys_bind.mpr (Program.obeys_attempt.mpr (obeys_quiet_except rfl (fun _ _ => ?_)
        (fun _ t answer v action _ performed _ since result => ?_) fun _ _ _ v error _ _ since _ => ?_))
      · trivial
      · subst result
        refine continues _ action v (since.drawn _ _ named) (held.rely since) running ⟨?_, ?_⟩ ?_
        · intro call _ pending stored
          exact absurd (unset.symm.trans stored) (by simp)
        · rintro failure rfl
          exact .inr ⟨_, _, _, _, failure.explanation, loaded, performed.1⟩
        · simp only [Deployment.turnsNeeded, unset, Run.budgetUsed, Run.bumped, Run.reserved] at budget ⊢
          simp
          omega
      · have failing : (dep.terminalFailure (run.reserved.bumped run) "policy_error" (some error.className) owner
            false).Obeys (discipline dep allowed p) (fun failed w => Q (.stopped failed) w) E v :=
          terminalFailure_obeys (since.drawn _ _ named) (held.rely since) running (.plain (by decide))
            (fun failed w named => stops failed w named) raises
        cases error with
        | cancelled => exact raises _ v (since.drawn _ _ named)
        | _ => exact Program.obeys_bind.mpr failing

theorem reviewAction_obeys {proposed : CallToolAction} {Q : Option Run → SystemState → Prop}
    {E : Exn → SystemState → Prop} (drawn : s.drawn owner = some p) (holds : Holds p run s)
    (running : run.status = .running) (proposes : Proposes run proposed)
    (passes : ∀ u, Rely p s u → Q none u)
    (stops : ∀ stopped u, u.drawn owner = some p → Q (some stopped) u)
    (raises : ∀ error u, u.drawn owner = some p → E error u) :
    (dep.reviewAction run (dep.stabilizeAction run proposed) owner).Obeys (discipline dep allowed p) Q E s := by
  unfold Deployment.reviewAction
  split
  · rename_i required
    refine Program.obeys_bind.mpr (obeys_quiet_except rfl (fun _ _ => ?_)
      (fun now t answer u approval others performed met since result => ?_)
      fun _ _ _ u error _ _ since _ => raises error u (since.drawn _ _ drawn))
    · trivial
    subst result
    have own : Rely p t u := (Op.quiet.untouched rfl performed).rely p
    obtain ⟨after, settled, rfl⟩ := performed
    cases settled.ok
    have named := since.drawn _ _ drawn
    have held := holds.rely since
    cases read : t.store.approvals run.id run.currentStep with
    | none =>
      simp only [transition_ok_of (show RunStatus.waitingApproval ∈ allowedTransitions run.status by rw [running]; decide),
        Program.ofExcept_ok, Program.bind_eq, Program.ret_bind]
      refine Program.obeys_bind.mpr (saveEvents_obeys named held (fun v later => ?_)
        (fun v named _ => stops _ v named) raises)
      refine .pause proposed running proposes required fun mine => ?_
      -- no decision can have come in while the lease stayed here and the run stayed `running`
      obtain ⟨mineThen, runs⟩ := (own.trans later).lease _ mine
      obtain ⟨row, stored, payload⟩ := (holds.rely others).2 mineThen
      rw [(own.trans later).decisions _ row stored (runs.trans stored) (by rw [payload, running]; decide)]
      exact read
    | some row =>
      simp only
      split
      · exact Program.obeys_bind.mpr (terminalFailure_obeys named held running (.plain (by decide))
          (fun failed v named => stops failed v named) raises)
      · split
        · rename_i denial
          refine Program.obeys_bind.mpr (terminalFailure_obeys named held running
            ⟨fun _ => .inr ⟨now, t, row, met, read, by simpa using denial, own⟩, fun blocked => absurd blocked (by decide)⟩
            (fun failed v named => stops failed v named) raises)
        · exact passes _ since
  · exact passes s (.refl p s)

theorem settleResult_obeys {proposed : CallToolAction} {result : ToolCallResult}
    {Q : Progress Run → SystemState → Prop} {E : Exn → SystemState → Prop} (drawn : s.drawn owner = some p)
    (holds : Holds p run s) (running : run.status = .running) (proposes : Proposes run proposed)
    (approved : dep.requiresApproval (dep.stabilizeAction run proposed) = true →
      Approved dep run (dep.stabilizeAction run proposed) s)
    (causes : ∀ code count retryable, result = .failed code count retryable → Cause dep allowed p run code s)
    (continues : ∀ output u, u.drawn owner = some p → Holds p ((run.checkpointed output).bumped run) u →
      Q (.continued ((run.checkpointed output).bumped run)) u)
    (stops : ∀ stopped u, u.drawn owner = some p → Q (.stopped stopped) u)
    (raises : ∀ error u, u.drawn owner = some p → E error u) :
    (dep.settleResult run owner result).Obeys (discipline dep allowed p) Q E s := by
  cases result with
  | failed code count retryable =>
    exact Program.obeys_bind.mpr (terminalFailure_obeys drawn holds running
      (orText_cause (causes code count retryable rfl) (by decide)) (fun failed u named => stops failed u named) raises)
  | succeeded output count cached =>
    simp only [Deployment.settleResult, Program.bind_eq]
    cases canonicalJsonDigest dep.sha256 output with
    | error error => exact raises error s drawn
    | ok outputDigest =>
      cases canonicalJsonDigest dep.sha256 (.obj (run.contextWith output)) with
      | error error => exact raises error s drawn
      | ok contextDigest =>
        simp only [Program.ofExcept_ok, Program.ret_bind]
        exact Program.obeys_bind.mpr (saveEvents_obeys drawn holds
          (fun t others => .checkpoint proposed output count cached outputDigest contextDigest running proposes
            fun required => (approved required).rely others)
          (fun u named held => continues output u named held) raises)

theorem executeTool_obeys {proposed : CallToolAction} {Q : Progress Run → SystemState → Prop}
    {E : Exn → SystemState → Prop} (drawn : s.drawn owner = some p) (holds : Holds p run s)
    (running : run.status = .running) (proposes : Proposes run proposed)
    (continues : ∀ output u, u.drawn owner = some p → Holds p ((run.checkpointed output).bumped run) u →
      Q (.continued ((run.checkpointed output).bumped run)) u)
    (stops : ∀ stopped u, u.drawn owner = some p → Q (.stopped stopped) u)
    (raises : ∀ error u, u.drawn owner = some p → E error u) :
    (dep.executeTool run proposed scenario owner).Obeys (discipline dep allowed p) Q E s := by
  refine Program.obeys_bind.mpr (preflight_obeys (fun definition input u since _ _ _ _ => ?_)
    (fun code u since cause => ?_) fun error u since => raises error u (since.drawn _ _ drawn))
  · refine Program.obeys_bind.mpr (reviewAction_obeys (since.drawn _ _ drawn) (holds.rely since) running proposes
      (fun v later => ?_) (fun stopped v named => stops stopped v named) raises)
    have whole := since.trans later
    refine Program.obeys_bind.mpr (call_obeys running (holds.rely whole)
      (fun output count cached w last approved => ?_) (fun code count retryable w last cause => ?_)
      fun error w last => raises error w ((whole.trans last).drawn _ _ drawn))
    · rw [stabilizeAction_stable] at approved
      exact settleResult_obeys ((whole.trans last).drawn _ _ drawn) (holds.rely (whole.trans last)) running proposes
        approved (fun _ _ _ impossible => by cases impossible) continues stops raises
    · refine Program.obeys_bind.mpr (terminalFailure_obeys ((whole.trans last).drawn _ _ drawn)
        (holds.rely (whole.trans last)) running (orText_cause cause (by decide))
        (fun failed x named => stops failed x named) raises)
  · refine Program.obeys_bind.mpr (record_obeys (holds.rely since) running rfl (fun v later => ?_)
      fun error v later _ => raises error v ((since.trans later).drawn _ _ drawn))
    exact Program.obeys_bind.mpr (terminalFailure_obeys ((since.trans later).drawn _ _ drawn)
      (holds.rely (since.trans later)) running (orText_cause (cause.rely later) (by decide))
      (fun failed w named => stops failed w named) raises)

theorem takeAction_obeys {action : AgentAction} {Q : Progress Run → SystemState → Prop}
    {E : Exn → SystemState → Prop} (drawn : s.drawn owner = some p) (holds : Holds p run s)
    (running : run.status = .running) (chosen : Chosen dep run action)
    (continues : ∀ output u, u.drawn owner = some p → Holds p ((run.checkpointed output).bumped run) u →
      Q (.continued ((run.checkpointed output).bumped run)) u)
    (stops : ∀ stopped u, u.drawn owner = some p → Q (.stopped stopped) u)
    (raises : ∀ error u, u.drawn owner = some p → E error u) :
    (dep.takeAction run action scenario owner).Obeys (discipline dep allowed p) Q E s := by
  refine Program.obeys_bind.mpr (record_obeys holds running rfl (fun u since => ?_)
    fun error u since _ => raises error u (since.drawn _ _ drawn))
  replace drawn := since.drawn _ _ drawn
  replace holds := holds.rely since
  cases action with
  | finish action =>
    simp only [transition_ok_of (show RunStatus.succeeded ∈ allowedTransitions run.status by rw [running]; decide),
      Program.ofExcept_ok, Program.bind_eq, Program.ret_bind]
    exact Program.obeys_bind.mpr (saveEvents_obeys drawn holds (fun _ _ => .succeed action running)
      (fun v named _ => stops _ v named) raises)
  | fail action =>
    exact Program.obeys_bind.mpr (terminalFailure_obeys drawn holds running (.foreign (chosen.foreign action rfl))
      (fun failed v named => stops failed v named) raises)
  | callTool action => exact executeTool_obeys drawn holds running (chosen.proposes action rfl) continues stops raises

theorem beginExecution_obeys {Q : Run → SystemState → Prop} {E : Exn → SystemState → Prop}
    (drawn : s.drawn owner = some p) (holds : Holds p run s)
    (returns : ∀ next u, u.drawn owner = some p → Holds p next u → Q next u)
    (raises : ∀ error u, u.drawn owner = some p → E error u) :
    (dep.beginExecution run owner).Obeys (discipline dep allowed p) Q E s := by
  unfold Deployment.beginExecution
  split
  · rename_i stopped
    rw [transition_ok_of (by rcases stopped with status | status <;> rw [status] <;> decide)]
    exact saveEvents_obeys drawn holds (fun _ _ => .begin stopped) (fun u named held => returns _ u named held) raises
  · split
    · rename_i running
      exact Program.obeys_bind.mpr (record_obeys holds running rfl
        (fun u since => returns run u (since.drawn _ _ drawn) (holds.rely since))
        fun error u since _ => raises error u (since.drawn _ _ drawn))
    · exact returns run s drawn holds

/-- The loop of `execute`; its bound is not reached. -/
theorem executeLoop_obeys {turns : Nat} {Q : Run → SystemState → Prop} {E : Exn → SystemState → Prop}
    {scenarioId : String} (loaded : dep.loadScenario scenarioId = .ok scenario) (drawn : s.drawn owner = some p) (holds : Holds p run s) (bound : dep.turnsNeeded run ≤ turns)
    (returns : ∀ stopped u, u.drawn owner = some p → Q stopped u)
    (raises : ∀ error u, u.drawn owner = some p → E error u) :
    (dep.executeLoop scenario policyName owner turns run).Obeys (discipline dep allowed p) Q E s := by
  induction turns generalizing run s with
  | zero =>
    unfold Deployment.executeLoop
    split
    · exact raises _ s drawn
    · exact returns run s drawn
  | succ turns ih =>
    unfold Deployment.executeLoop
    split
    · rename_i running
      refine Program.obeys_bind.mpr (chooseAction_obeys loaded drawn holds running
        (fun next action u named held active chosen fewer => ?_) returns raises)
      refine Program.obeys_bind.mpr (takeAction_obeys named held active chosen
        (fun output v named held => ih named held ?_) returns raises)
      have later : next.budgetUsed ≤ ((next.checkpointed output).bumped next).budgetUsed := by
        simp only [Run.budgetUsed, Run.bumped, Run.checkpointed]
        omega
      have unset : ((next.checkpointed output).bumped next).pendingAction = none := rfl
      simp only [Deployment.turnsNeeded, unset] at fewer bound ⊢
      simp only [Option.isSome_none, Bool.toNat_false]
      omega
    · exact returns run s drawn

theorem execute_obeys {Q : Run → SystemState → Prop} {E : Exn → SystemState → Prop}
    {scenarioId : String} (loaded : dep.loadScenario scenarioId = .ok scenario) (drawn : s.drawn owner = some p) (holds : Holds p run s)
    (returns : ∀ stopped u, u.drawn owner = some p → Q stopped u)
    (raises : ∀ error u, u.drawn owner = some p → E error u) :
    (dep.execute run scenario policyName owner).Obeys (discipline dep allowed p) Q E s := by
  refine Program.obeys_bind.mpr (beginExecution_obeys drawn holds (fun next u named held => ?_) raises)
  refine executeLoop_obeys loaded named held ?_ returns raises
  have one : next.pendingAction.isSome.toNat ≤ 1 := Bool.toNat_le _
  simp only [Deployment.turnsNeeded]
  omega

end Execute

end ReliabilityLab
