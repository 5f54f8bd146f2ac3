import ReliabilityLab.Runtime.RunFile

namespace ReliabilityLab

/-- `execute` with so many turns of its loop. -/
def Deployment.executeWithin (dep : Deployment) (turns : Nat) (run : Run) (scenario : Scenario) (policyName : String)
    (owner : Uuid) : Prog Run := do
  let run ← dep.beginExecution run owner
  dep.executeLoop scenario policyName owner turns run

/-- The answers that the system can give at all. -/
def Deployment.Answers (dep : Deployment) (op : Op) (answer : op.Answer) : Prop :=
  ∃ p now s t, dep.perform p op now s answer t

/-- Every step has its policy call, the one set aside as well. -/
structure Run.Budgeted (dep : Deployment) (run : Run) : Prop where
  covered : run.currentStep + run.pendingAction.isSome.toNat ≤ run.policyCallsStarted
  limit : run.policyCallsStarted ≤ dep.maxActionSteps

/-- The reservations are all that the counter counts. -/
structure RunFile.Budgeted (dep : Deployment) (f : RunFile) : Prop where
  run : f.run.Budgeted dep
  counted : f.run.policyCallsStarted = f.reservations

variable {dep : Deployment} {run : Run} {owner : Uuid} {scenario : Scenario} {policyName : String}

theorem Run.Budgeted.used (budgeted : run.Budgeted dep) : run.budgetUsed = run.policyCallsStarted := by
  have covered := budgeted.covered
  simp only [Run.budgetUsed]
  omega

theorem FileStep.budgeted {f f' : RunFile} (step : FileStep dep f f') (budgeted : f.Budgeted dep) : f'.Budgeted dep := by
  have covered := budgeted.run.covered
  have limit := budgeted.run.limit
  cases step with
  | appended | decided => exact ⟨budgeted.run, budgeted.counted⟩
  | reserved running unset budget =>
    have used := budgeted.run.used
    refine ⟨⟨?_, ?_⟩, ?_⟩
    · simp only [Run.bumped, Run.reserved, used, unset, Option.isSome_none, Bool.toNat_false] at covered ⊢
      omega
    · simp only [Run.bumped, Run.reserved]
      omega
    · simp only [Run.bumped, Run.reserved, used, budgeted.counted]
  | advanced p s next events declined nonempty advance failing stepping =>
    have sameCalls : next.policyCallsStarted = f.run.policyCallsStarted := by
      cases advance with
      | reserve => exact absurd rfl nonempty
      | _ => rfl
    have still : ∀ {run : Run}, run.currentStep = f.run.currentStep → run.pendingAction = none →
        run.currentStep + run.pendingAction.isSome.toNat ≤ f.run.policyCallsStarted := by
      intro run same unset
      rw [same, unset]
      exact (Nat.le_add_right _ _).trans covered
    have spent : f.run.stepsTo next → f.run.currentStep + 1 ≤ f.run.policyCallsStarted := by
      intro steps
      rcases stepping steps with pending | lower
      · rwa [pending] at covered
      · exact lower
    refine ⟨⟨?_, ?_⟩, ?_⟩
    · show next.currentStep + next.pendingAction.isSome.toNat ≤ next.policyCallsStarted
      rw [sameCalls]
      cases advance with
      | begin => exact covered
      | reserve => exact absurd rfl nonempty
      | succeed action => exact spent (.inl (Nat.lt_succ_self _))
      | fail code explanation nextStep =>
        cases nextStep with
        | true => exact spent (.inl (Nat.lt_succ_self _))
        | false => exact still rfl rfl
      | pause => exact spent (.inr rfl)
      | checkpoint => exact spent (.inl (Nat.lt_succ_self _))
      | deny => exact still rfl rfl
    · exact sameCalls.trans_le limit
    · exact sameCalls.trans budgeted.counted

section Turns
variable {α : Type}

/-- Whatever the answers are. -/
abbrev Ever (dep : Deployment) (Q : α → Prop) (program : Prog α) : Prop :=
  program.Within (fun _ => True) dep.Answers Q (fun _ => True)

theorem ever_free (program : Prog α) : Ever dep (fun _ => True) program :=
  Program.obeys_free (fun _ _ => trivial) program ()

/-- An owned save answers the run that it was given, in its next version. -/
theorem saveRunOwned_ever {changed : Run} {version : Nat} :
    Ever dep (· = { changed with version := version + 1 }) (saveRunOwned changed owner version) := by
  refine Program.within_ask trivial ?_ fun _ _ _ _ => trivial
  rintro _ saved ⟨_, _, _, _, _, settled, -⟩ rfl
  obtain ⟨_, _, -, -, -, -, -, same, -⟩ := Store.updateOwned_ok settled.ok
  exact same

theorem saveWithEvent_ever {changed previous : Run} {eventType : EventType} {payload : Dict} {status : String} :
    Ever dep (· = changed.bumped previous) (dep.saveWithEvent changed previous owner eventType payload status) := by
  refine Program.within_ask trivial ?_ fun _ _ _ _ => trivial
  rintro _ saved ⟨_, _, _, _, _, settled, -⟩ rfl
  obtain ⟨_, result, -⟩ := Store.saveRunOwnedWithEvents_ok settled.ok
  obtain ⟨_, _, -, -, -, -, -, same, -⟩ := Store.updateOwned_ok result
  exact same

/-- The run that a turn goes on with, if it does. -/
def Progress.Continues (Q : α → Prop) (progress : Progress α) : Prop := ∀ value, progress = .continued value → Q value

theorem stopped_continues {Q : α → Prop} (stopped : Run) : (Progress.stopped stopped).Continues Q := nofun

theorem stopping_ever {Q : α → Prop} (program : Prog Run) :
    Ever dep (Progress.Continues Q) (program.bind fun stopped => .ret (.stopped stopped)) :=
  Program.within_bind (ever_free program) fun stopped _ => stopped_continues stopped

/-- What is taken up is covered by a policy call, and leaves fewer of them. -/
theorem chooseAction_ever (budgeted : run.Budgeted dep) :
    Ever dep (Progress.Continues fun chosen => chosen.1.currentStep < chosen.1.policyCallsStarted ∧
        chosen.1.policyCallsStarted ≤ dep.maxActionSteps ∧
        dep.maxActionSteps + 1 - chosen.1.policyCallsStarted < dep.turnsNeeded run)
      (dep.chooseAction run scenario policyName owner) := by
  have covered := budgeted.covered
  have limit := budgeted.limit
  have used := budgeted.used
  unfold Deployment.chooseAction
  split
  · rename_i pending stored
    rintro _ ⟨⟩
    rw [stored] at covered
    simp only [Deployment.turnsNeeded, used, stored, Option.isSome_some, Bool.toNat_true] at covered ⊢
    omega
  · rename_i unset
    split
    · exact stopping_ever _
    · rename_i budget
      refine Program.within_bind saveRunOwned_ever ?_
      rintro _ rfl
      refine Program.within_bind (ever_free _) fun chosen _ => ?_
      cases chosen with
      | error error =>
        cases error with
        | cancelled => trivial
        | _ => exact stopping_ever _
      | ok action =>
        rintro _ ⟨⟩
        simp only [Deployment.turnsNeeded, used, unset, Run.reserved, Option.isSome_none, Bool.toNat_false] at budget ⊢
        simp only [unset, Option.isSome_none, Bool.toNat_false] at covered
        omega

/-- A turn goes on with the checkpoint of its step. -/
abbrev Checkpoints (run : Run) : Progress Run → Prop := Progress.Continues fun next =>
  next.currentStep = run.currentStep + 1 ∧ next.policyCallsStarted = run.policyCallsStarted ∧ next.pendingAction = none

theorem settleResult_ever {result : ToolCallResult} : Ever dep (Checkpoints run) (dep.settleResult run owner result) := by
  cases result with
  | failed code count retryable => exact stopping_ever _
  | succeeded output count cached =>
    refine Program.within_bind (ever_free _) fun outputDigest _ => ?_
    refine Program.within_bind (ever_free _) fun contextDigest _ => ?_
    refine Program.within_bind saveWithEvent_ever ?_
    rintro _ rfl _ ⟨⟩
    exact ⟨rfl, rfl, rfl⟩

theorem executeTool_ever {proposed : CallToolAction} :
    Ever dep (Checkpoints run) (dep.executeTool run proposed scenario owner) := by
  refine Program.within_bind (ever_free _) fun failure _ => ?_
  cases failure with
  | none =>
    refine Program.within_bind (ever_free _) fun reviewed _ => ?_
    cases reviewed with
    | some stopped => exact stopped_continues stopped
    | none => exact Program.within_bind (ever_free _) fun result _ => settleResult_ever
  | some result =>
    cases result with
    | succeeded => trivial
    | failed code count retryable => exact Program.within_bind (ever_free _) fun _ _ => stopping_ever _

theorem takeAction_ever {action : AgentAction} :
    Ever dep (Checkpoints run) (dep.takeAction run action scenario owner) := by
  refine Program.within_bind (ever_free _) fun _ _ => ?_
  cases action with
  | finish action => exact Program.within_bind (ever_free _) fun _ _ => stopping_ever _
  | fail action => exact stopping_ever _
  | callTool action => exact executeTool_ever

/-- Turns beyond those that the budget of the run needs are never taken. -/
theorem executeLoop_turns {turns : Nat} (more : Nat) (budgeted : run.Budgeted dep) (enough : dep.turnsNeeded run ≤ turns) :
    Program.Same dep.Answers (dep.executeLoop scenario policyName owner turns run)
      (dep.executeLoop scenario policyName owner (turns + more) run) := by
  induction turns generalizing run with
  | zero =>
    have limit := budgeted.limit
    have used := budgeted.used
    simp only [Deployment.turnsNeeded] at enough
    omega
  | succ turns ih =>
    rw [Nat.add_right_comm]
    unfold Deployment.executeLoop
    split
    · refine Program.same_bind (chooseAction_ever budgeted) fun chosen continues => ?_
      cases chosen with
      | stopped stopped => exact .refl _
      | continued pair =>
        obtain ⟨next, action⟩ := pair
        obtain ⟨covered, limit, fewer⟩ := continues _ rfl
        refine Program.same_bind takeAction_ever fun progress continues => ?_
        cases progress with
        | stopped stopped => exact .refl _
        | continued checkpointed =>
          obtain ⟨step, calls, unset⟩ := continues _ rfl
          have budgeted : checkpointed.Budgeted dep := by
            constructor
            · rw [step, calls, unset]
              exact covered
            · rw [calls]
              exact limit
          refine ih budgeted ?_
          simp only [Deployment.turnsNeeded, budgeted.used, calls, unset, Option.isSome_none, Bool.toNat_false]
          simp only at fewer
          omega
    · exact .refl _

/-- One call of `execute` takes at most one turn more than the budget allows policy calls. -/
theorem execute_turns (more : Nat) (budgeted : run.Budgeted dep) :
    Program.Same dep.Answers (dep.executeWithin (dep.maxActionSteps + 1) run scenario policyName owner)
      (dep.executeWithin (dep.maxActionSteps + 1 + more) run scenario policyName owner) := by
  have begun : Ever dep (Run.Budgeted dep) (dep.beginExecution run owner) := by
    unfold Deployment.beginExecution
    split
    · refine Program.within_bind (ever_free _) fun _ _ => saveWithEvent_ever.mono ?_ fun _ _ _ => trivial
      rintro _ _ rfl
      exact ⟨budgeted.covered, budgeted.limit⟩
    · split
      · exact Program.within_bind (ever_free _) fun _ _ => budgeted
      · exact budgeted
  refine Program.same_bind begun fun next budgeted => executeLoop_turns more budgeted ?_
  have covered := budgeted.covered
  have limit := budgeted.limit
  have used := budgeted.used
  simp only [Deployment.turnsNeeded]
  omega

end Turns

section Calls
variable {history : List ServiceEntry} {w : ServiceWorld} {p : Pid} {id : Uuid}

/-- An open reservation is the latest entry of its party. -/
theorem reserved_latest (covered : ((accounts dep).account p history).reserved = some run) :
    ∃ changed owner version, latest Entry.party p history =
      some (.answered p (.saveRunOwned changed owner version) (.ok run)) := by
  induction history with
  | nil => cases covered
  | cons entry earlier ih =>
    by_cases own : entry.party = p
    · subst own
      rw [latest_cons_self]
      cases entry with
      | started q =>
        simp only [Entry.party, Protocol.account_started_self] at covered
        cases covered
      | asked q op =>
        simp only [Entry.party, Protocol.account_asked_self] at covered
        cases covered
      | answered q op answer =>
        simp only [Entry.party, Protocol.account_answered_self] at covered
        cases op with
        | saveRunOwned changed owner version =>
          cases answer with
          | error error => cases covered
          | ok saved =>
            cases Option.some.inj covered
            exact ⟨changed, owner, version, rfl⟩
        | claimRunExecution | saveRunOwnedWithEvents | nextAction => cases answer <;> cases covered
        | _ => cases covered
    · rw [Protocol.account_of_ne own] at covered
      rw [latest_cons_of_ne own]
      exact ih covered

/-- The latest entry of a party is a reservation only while the reservation is open. -/
theorem latest_reserved {changed : Run} {version : Nat} (last : latest Entry.party p history =
    some (.answered p (.saveRunOwned changed owner version) (.ok run))) :
    ((accounts dep).account p history).reserved = some run := by
  induction history with
  | nil => cases last
  | cons entry earlier ih =>
    by_cases own : entry.party = p
    · subst own
      rw [latest_cons_self] at last
      have same := Option.some.inj last
      rw [same]
      simp only [Entry.party, Protocol.account_answered_self]
      rfl
    · rw [latest_cons_of_ne own] at last
      rw [Protocol.account_of_ne own]
      exact ih last

theorem Machine.Recorded.budgeted (recorded : Machine.Recorded dep.system history w) (id : Uuid) :
    Filed dep (RunFile.Budgeted dep) history w.state id := by
  refine file_invariant recorded (fun run fresh => ?_) fun f f' step => step.budgeted
  obtain ⟨_, _, _, _, _, _, rfl⟩ := fresh
  exact ⟨⟨le_rfl, Nat.zero_le _⟩, rfl⟩

theorem reservation_increments (recorded : Machine.Recorded dep.system history w) {later earlier : List ServiceEntry}
    {changed saved : Run} {version : Nat}
    (made : history = later ++ .answered p (.saveRunOwned changed owner version) (.ok saved) :: earlier) :
    ∃ prior : Run, changed = prior.reserved ∧ prior.pendingAction = none ∧ prior.status = .running ∧
      saved = changed.bumped prior ∧ saved.policyCallsStarted = prior.policyCallsStarted + 1 := by
  subst made
  obtain ⟨v, next, reading, t, before, issued, performed⟩ := recorded.answered
  have rules := system_disciplined dep fun _ _ _ _ => True
  have owed : Pre dep (fun _ _ _ _ => True) p (.saveRunOwned changed owner version) v.state :=
    before.reachable.unrestricted.owed rules
      (show (v.procs p).rest = some (.perform (.saveRunOwned changed owner version) next) by rw [issued]; rfl)
  obtain ⟨after, settled, rfl⟩ := performed
  obtain ⟨prior, row, rfl, -, advance, rfl, rfl, raised⟩ := raised_of_updateOwned owed.1 owed.2 settled.ok []
  obtain ⟨rfl, running, unset, -⟩ := advance.silent
  have used := ((before.budgeted _).present row raised.stored).run.used
  exact ⟨row.payload, rfl, unset, running, rfl, congrArg (· + 1) used⟩

end Calls

/-- The budget of policy calls of one run, over the record of a run of the system. -/
structure PolicyBudget (dep : Deployment) (history : List ServiceEntry) (st : Store) (id : Uuid) : Prop where
  calls : history.countP (consults id) ≤ dep.maxActionSteps
  preceded : ∀ p name run scenario earlier, .asked p (.nextAction name run scenario) :: earlier <:+ history →
    ∃ changed owner version, latest Entry.party p earlier =
      some (.answered p (.saveRunOwned changed owner version) (.ok run))
  increments : ∀ p changed owner version (saved : Run) earlier,
    .answered p (.saveRunOwned changed owner version) (Except.ok saved) :: earlier <:+ history →
    ∃ prior : Run, changed = prior.reserved ∧ prior.pendingAction = none ∧ prior.status = .running ∧
      saved = changed.bumped prior ∧ saved.policyCallsStarted = prior.policyCallsStarted + 1
  spent : ∀ p op changed owner version (saved : Run) earlier, .asked p op :: earlier <:+ history →
    latest Entry.party p earlier = some (.answered p (.saveRunOwned changed owner version) (Except.ok saved)) →
    ∃ name scenario, op = .nextAction name saved scenario
  counted : ∀ row, st.runs id = some row → row.payload.policyCallsStarted = history.countP (reserves id)
  turns : ∀ p (owner : Uuid) (run : Run), .answered p (.claimRunExecution id owner) (.ok run) ∈ history →
    ∀ scenario policyName,
      Program.Same dep.Answers (dep.executeWithin (dep.maxActionSteps + 1) run scenario policyName owner)
        (dep.execute run scenario policyName owner) ∧
      ∀ more, Program.Same dep.Answers (dep.executeWithin (dep.maxActionSteps + 1) run scenario policyName owner)
        (dep.executeWithin (dep.maxActionSteps + 1 + more) run scenario policyName owner)

/-- Whoever asks for an operation other than the policy call has no open reservation. -/
theorem Account.owes.unreserved {account : Account} {op : Op} (owes : account.owes dep op)
    (other : ∀ name run scenario, op ≠ .nextAction name run scenario) : account.reserved = none := by
  cases op with
  | nextAction name run scenario => exact absurd rfl (other name run scenario)
  | saveRunOwnedWithEvents | appendEvent => exact owes.1
  | _ => exact owes

/-- The policy calls of a run stay within the budget, whatever its executions, crashes and approvals. -/
theorem policy_call_budget {history : List ServiceEntry} {w : ServiceWorld}
    (recorded : Machine.Recorded dep.system history w) (id : Uuid) : PolicyBudget dep history w.state.store id := by
  have filed := recorded.budgeted id
  have preceded : ∀ p name run scenario earlier, .asked p (.nextAction name run scenario) :: earlier <:+ history →
      ∃ changed owner version, latest Entry.party p earlier =
        some (.answered p (.saveRunOwned changed owner version) (.ok run)) := by
    rintro p name run scenario earlier ⟨later, rfl⟩
    exact reserved_latest (recorded.asked (system_accounted dep))
  constructor
  case preceded => exact preceded
  case increments =>
    rintro p changed owner version saved earlier ⟨later, split⟩
    exact reservation_increments recorded split.symm
  case counted => exact fun row stored => (filed.present row stored).counted
  case calls =>
    have fewer : history.countP (consults id) ≤ history.countP (reserves id) := by
      refine @countP_le_of_latest _ _ _ Entry.party _ _ _ ?_ ?_
      · intro entry uses
        unfold consults at uses
        split at uses
        · rfl
        · cases uses
      · intro later entry earlier split uses
        unfold consults at uses
        split at uses
        · obtain ⟨changed, owner, version, last⟩ := preceded _ _ _ _ _ ⟨later, split.symm⟩
          exact ⟨_, last, uses⟩
        · cases uses
    cases stored : w.state.store.runs id with
    | none => exact fewer.trans (((filed.absent stored).1).le.trans (Nat.zero_le _))
    | some row =>
      have budgeted := filed.present row stored
      exact fewer.trans (budgeted.counted.symm.le.trans budgeted.run.limit)
  case spent =>
    rintro p op changed owner version saved earlier ⟨later, rfl⟩ last
    have owed := recorded.asked (system_accounted dep)
    have covered : ((accounts dep).account p earlier).reserved = some saved := latest_reserved last
    by_cases call : ∃ name run scenario, op = .nextAction name run scenario
    · obtain ⟨name, run, scenario, rfl⟩ := call
      have same : ((accounts dep).account p earlier).reserved = some run := owed
      cases Option.some.inj (covered.symm.trans same)
      exact ⟨name, scenario, rfl⟩
    · push Not at call
      have unreserved := Account.owes.unreserved owed call
      rw [covered] at unreserved
      cases unreserved
  case turns =>
    intro p owner run claimed scenario policyName
    obtain ⟨later, earlier, rfl⟩ := List.append_of_mem claimed
    obtain ⟨v, next, reading, t, before, -, after, settled, rfl⟩ := recorded.answered
    obtain ⟨row, expires, -, stored, rfl, -, -⟩ := Store.claimRunExecution_ok settled.ok
    have budgeted := ((before.budgeted id).present row stored).run
    exact ⟨execute_turns 1 budgeted, fun more => execute_turns more budgeted⟩

def calledOnce (w : ServiceWorld) : Bool :=
  match w.state.store.runs 0 with
  | some row => row.payload.policyCallsStarted = 1
  | none => false

/-- The demo run, behind its first policy call. -/
theorem policy_call_budget_demo : ∃ (history : List ServiceEntry) (w : ServiceWorld) (row : RunRow),
    Machine.Recorded demo.system history w ∧ w.state.store.runs 0 = some row ∧ row.payload.policyCallsStarted = 1 ∧
      history.countP (reserves 0) = 1 ∧ history.countP (consults 0) ≤ 64 := by
  obtain ⟨w, reach, called⟩ := schedule_reaches demo_fits (demoClock 0 demoStart_inside)
    [.request 0 Run.demo, .turns 0 14] calledOnce (by decide +kernel)
  obtain ⟨history, recorded⟩ := reach.recorded
  have budget := policy_call_budget recorded 0
  unfold calledOnce at called
  split at called
  · rename_i row stored
    have once : row.payload.policyCallsStarted = 1 := by simpa using called
    exact ⟨history, w, row, recorded, stored, once, (budget.counted row stored).symm.trans once, budget.calls⟩
  · cases called

end ReliabilityLab
