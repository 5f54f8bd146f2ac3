import ReliabilityLab.Runtime.Account
import ReliabilityLab.Runtime.Dossier

namespace ReliabilityLab

abbrev ServiceEntry := Entry Pid Op Op.Answer

/-- An invocation of `policy.next_action` for the run. -/
def consults (id : Uuid) : ServiceEntry → Bool
  | .asked _ (.nextAction _ run _) => run.id = id
  | _ => false

/-- A committed increment of `policy_calls_started`. -/
def reserves (id : Uuid) : ServiceEntry → Bool
  | .answered _ (.saveRunOwned _ _ _) (.ok saved) => saved.id = id
  | _ => false

/-- A committed change of the run with a `run.failed` event. -/
def failsRun (id : Uuid) : ServiceEntry → Bool
  | .answered _ (.saveRunOwnedWithEvents run events _ _) (.ok _) =>
      run.id = id && events.any (·.eventType = .runFailed)
  | _ => false

/-- The failures of a run by a party whose last answer from the policy was a fail action. -/
def failActions (dep : Deployment) (id : Uuid) : List ServiceEntry → Nat
  | [] => 0
  | entry :: earlier =>
    (failsRun id entry && ((accounts dep).account entry.party earlier).declined).toNat + failActions dep id earlier

/-- The tool results that a run was created with. -/
def initialResults (id : Uuid) : List ServiceEntry → Dict
  | [] => []
  | .answered _ (.saveRun run) (.ok _) :: earlier => if run.id = id then run.toolResults else initialResults id earlier
  | _ :: earlier => initialResults id earlier

/-- What the database and the record of the way to it hold about one run. -/
structure RunFile where
  run : Run
  trace : List EventContent
  initial : Dict
  reservations : Nat
  failActions : Nat

def runFile (dep : Deployment) (id : Uuid) (history : List ServiceEntry) (st : Store) (row : RunRow) : RunFile where
  run := row.payload
  trace := st.traceContents row.payload.traceId
  initial := initialResults id history
  reservations := history.countP (reserves id)
  failActions := failActions dep id history

/-- What one transaction can do to the file of a run. -/
inductive FileStep (dep : Deployment) : RunFile → RunFile → Prop
  | appended {f : RunFile} (event : TraceEvent) :
      event.eventType.rejection = true ∨ event.eventType.appended = true →
      (event.eventType = .runRunning → event = stillRunning dep event.traceId) →
      FileStep dep f { f with trace := f.trace ++ [dep.stored event] }
  | decided {f : RunFile} (step : Nat) (row : ApprovalRow) :
      FileStep dep f { f with trace := f.trace ++ [dep.stored (Store.recordedEvent f.run.traceId step row)] }
  | reserved {f : RunFile} : f.run.status = .running → f.run.pendingAction = none →
      f.run.budgetUsed < dep.maxActionSteps →
      FileStep dep f { f with run := f.run.reserved.bumped f.run, reservations := f.reservations + 1 }
  | advanced {f : RunFile} (p : Pid) (s : SystemState) (next : Run) (events : List TraceEvent) (declined : Bool) :
      events ≠ [] → Advance dep (fun _ _ _ _ => True) p s f.run next events →
      (∀ event ∈ events, event.eventType = .runFailed →
        next.currentStep = f.run.currentStep + declined.toNat) →
      (f.run.stepsTo next → f.run.pendingAction.isSome = true ∨ f.run.currentStep < f.run.policyCallsStarted) →
      FileStep dep f { f with
        run := next.bumped f.run
        trace := f.trace ++ events.map dep.stored
        failActions := (events.any (·.eventType = .runFailed) && declined).toNat + f.failActions }

variable {dep : Deployment} {history : List ServiceEntry} {w : ServiceWorld} {s t : SystemState} {p : Pid}

/-- Entries that leave no mark in any file. -/
def Entry.unmarked : ServiceEntry → Prop
  | .answered _ (.saveRun _) (.ok _) | .answered _ (.saveRunOwned _ _ _) (.ok _)
  | .answered _ (.saveRunOwnedWithEvents _ _ _ _) (.ok _) => False
  | _ => True

theorem Entry.unmarked.reserves {entry : ServiceEntry} (unmarked : entry.unmarked) (id : Uuid) :
    reserves id entry = false := by
  unfold ReliabilityLab.reserves
  split
  · exact unmarked.elim
  · rfl

theorem Entry.unmarked.failsRun {entry : ServiceEntry} (unmarked : entry.unmarked) (id : Uuid) :
    failsRun id entry = false := by
  unfold ReliabilityLab.failsRun
  split
  · exact unmarked.elim
  · rfl

theorem Entry.unmarked.initial {entry : ServiceEntry} (unmarked : entry.unmarked) (id : Uuid) :
    initialResults id (entry :: history) = initialResults id history := by
  rw [initialResults]
  rintro q run saved rfl
  exact unmarked

/-- What holds of the file of a run, or of one that is not there yet. -/
structure Filed (dep : Deployment) (R : RunFile → Prop) (history : List ServiceEntry) (s : SystemState) (id : Uuid) :
    Prop where
  absent : s.store.runs id = none → history.countP (reserves id) = 0 ∧ failActions dep id history = 0
  present : ∀ row, s.store.runs id = some row → R (runFile dep id history s.store row)

section Filed
variable {R : RunFile → Prop} {id : Uuid} {entry : ServiceEntry}

theorem runFile_unmarked (unmarked : entry.unmarked) (row : RunRow) (contents : t.store.contents = s.store.contents) :
    runFile dep id (entry :: history) t.store row = runFile dep id history s.store row := by
  simp only [runFile, unmarked.initial, Store.traceContents_eq, contents, failActions, unmarked.failsRun,
    List.countP_cons, unmarked.reserves, Bool.false_and, Bool.toNat_false, Nat.zero_add, Bool.false_eq_true,
    if_false, Nat.add_zero]

theorem Filed.unmarked (filed : Filed dep R history s id) (unmarked : entry.unmarked)
    (runs : t.store.runs = s.store.runs) (contents : t.store.contents = s.store.contents) :
    Filed dep R (entry :: history) t id := by
  constructor
  · intro absent
    rw [runs] at absent
    obtain ⟨first, second⟩ := filed.absent absent
    simp [failActions, unmarked.failsRun, unmarked.reserves, first, second]
  · intro row stored
    rw [runs] at stored
    rw [runFile_unmarked unmarked row contents]
    exact filed.present row stored

theorem Filed.still (filed : Filed dep R history s id) (still : Still s t) : Filed dep R history t id := by
  obtain ⟨runs, -, contents⟩ := still
  constructor
  · rw [runs]
    exact filed.absent
  · intro row stored
    rw [runs] at stored
    simp only [runFile, Store.traceContents_eq, contents]
    rw [← Store.traceContents_eq]
    exact filed.present row stored

/-- A transaction that only appends one event, to the file of its trace. -/
theorem Filed.appends (filed : Filed dep R history s id) (unmarked : entry.unmarked) (event : TraceEvent)
    (runs : t.store.runs = s.store.runs) (contents : t.store.contents = s.store.contents ++ [event].map dep.stored)
    (own : ∀ row, s.store.runs id = some row → event.traceId = row.payload.traceId →
      R (runFile dep id history s.store row) → R { runFile dep id history s.store row with
        trace := s.store.traceContents row.payload.traceId ++ [dep.stored event] }) :
    Filed dep R (entry :: history) t id := by
  constructor
  · intro absent
    rw [runs] at absent
    obtain ⟨first, second⟩ := filed.absent absent
    simp [failActions, unmarked.failsRun, unmarked.reserves, first, second]
  · intro row stored
    rw [runs] at stored
    have kept : runFile dep id (entry :: history) t.store row =
        { runFile dep id history s.store row with trace := t.store.traceContents row.payload.traceId } := by
      simp [runFile, unmarked.initial, failActions, unmarked.failsRun, unmarked.reserves]
    rw [kept]
    by_cases same : event.traceId = row.payload.traceId
    · rw [traceContents_own contents (by simpa using same)]
      exact own row stored same (filed.present row stored)
    · rw [traceContents_foreign contents (by simp) (Ne.symm same)]
      exact filed.present row stored

/-- A transaction about another run leaves a file alone. -/
theorem Filed.foreign (filed : Filed dep R history s id) (events : List TraceEvent) (traceId : Uuid)
    (reserves : reserves id entry = false) (fails : failsRun id entry = false)
    (initial : initialResults id (entry :: history) = initialResults id history)
    (runs : t.store.runs id = s.store.runs id) (contents : t.store.contents = s.store.contents ++ events.map dep.stored)
    (traces : ∀ event ∈ events, event.traceId = traceId)
    (apart : ∀ row, s.store.runs id = some row → row.payload.traceId ≠ traceId) :
    Filed dep R (entry :: history) t id := by
  constructor
  · intro absent
    rw [runs] at absent
    obtain ⟨first, second⟩ := filed.absent absent
    simp [failActions, fails, reserves, first, second]
  · intro row stored
    rw [runs] at stored
    have kept : runFile dep id (entry :: history) t.store row = runFile dep id history s.store row := by
      simp [runFile, initial, failActions, fails, reserves,
        traceContents_foreign contents traces (apart row stored)]
    rw [kept]
    exact filed.present row stored

end Filed

/-- What an owned save stored is what the database has. -/
theorem snapshot_of_updateOwned {now : DateTime} {run saved : Run} {owner version : Nat} {after : Store}
    (clean : List TraceEvent) (done : Store.updateOwned now run owner version s.store = .ok (saved, after)) :
    Snapshot saved { s with store := after.insertEvents clean } := by
  obtain ⟨row, lease, -, -, -, -, -, rfl, rfl⟩ := Store.updateOwned_ok done
  refine ⟨⟨run.traceId, version + 1, { run with version := version + 1 }⟩, ?_, le_rfl, rfl, fun _ => rfl⟩
  simp [Store.setRun]

/-- A save without events is a reservation. -/
theorem Advance.silent {allowed : Allowed} {run next : Run} (advance : Advance dep allowed p s run next []) :
    next = run.reserved ∧ run.status = .running ∧ run.pendingAction = none ∧ run.budgetUsed < dep.maxActionSteps := by
  cases advance with
  | reserve running unset budget => exact ⟨rfl, running, unset, budget⟩

/-- The run at hand is one the database had, and a reservation for its step is counted in it. -/
structure Account.Backed (account : Account) (s : SystemState) : Prop where
  held : ∀ run, account.held = some run → Snapshot run s
  slot : account.slot = true → ∃ run, account.held = some run ∧ run.currentStep < run.policyCallsStarted

theorem Account.Backed.asked {account : Account} (backed : account.Backed s) : account.asked.Backed s :=
  ⟨backed.held, backed.slot⟩

theorem Account.Backed.rely {account : Account} {q : Pid} (backed : account.Backed s) (others : Rely q s t) :
    account.Backed t := ⟨fun run held => (backed.held run held).rely others, backed.slot⟩

/-- An account of a stored run without a reservation. -/
theorem Account.Backed.of_snapshot {account : Account} {run : Run} (seen : Snapshot run s)
    (held : account.held = some run) (slot : account.slot = true → run.currentStep < run.policyCallsStarted) :
    account.Backed s := by
  refine ⟨fun other same => ?_, fun covered => ⟨run, held, slot covered⟩⟩
  cases Option.some.inj (held.symm.trans same)
  exact seen

theorem Account.Backed.heard {op : Op} {now : DateTime} {answer : op.Answer} {account : Account}
    (valid : Consistent s) (owed : Pre dep (fun _ _ _ _ => True) p op s) (performed : dep.perform p op now s answer t)
    (backed : account.Backed t) : (account.hear op answer).Backed t := by
  cases op with
  | claimRunExecution id owner =>
    cases answer with
    | error error => exact backed.asked
    | ok claimed =>
      obtain ⟨after, settled, rfl⟩ := performed
      obtain ⟨row, expires, -, stored, rfl, rfl, -⟩ := Store.claimRunExecution_ok settled.ok
      obtain ⟨sameId, version, -⟩ := valid.rows id row stored
      refine .of_snapshot ⟨row, ?_, version.le, rfl, fun _ => rfl⟩ rfl fun covered => absurd covered Bool.false_ne_true
      rw [sameId]
      exact stored
  | saveRunOwned changed owner version =>
    cases answer with
    | error error => exact backed.asked
    | ok saved =>
      obtain ⟨after, settled, rfl⟩ := performed
      have seen := snapshot_of_updateOwned (s := s) [] settled.ok
      obtain ⟨prior, row, rfl, -, advance, -, rfl, -⟩ := raised_of_updateOwned owed.1 owed.2 settled.ok []
      obtain ⟨rfl, -⟩ := advance.silent
      refine .of_snapshot seen rfl fun _ => ?_
      simp only [Run.reserved, Run.budgetUsed]
      omega
  | saveRunOwnedWithEvents changed events owner version =>
    cases answer with
    | error error => exact backed.asked
    | ok saved =>
      obtain ⟨after, settled, rfl⟩ := performed
      obtain ⟨updated, result, rfl⟩ := Store.saveRunOwnedWithEvents_ok settled.ok
      exact .of_snapshot (snapshot_of_updateOwned _ result) rfl fun covered => absurd covered Bool.false_ne_true
  | nextAction => cases answer <;> exact ⟨backed.held, backed.slot⟩
  | _ => exact backed.asked

/-- Every account is backed by the database. -/
theorem Machine.Recorded.backed (recorded : Machine.Recorded dep.system history w) :
    ((accounts dep).account p history).Backed w.state := by
  have rules := system_disciplined dep fun _ _ _ _ => True
  have blank : ∀ s, Account.blank.Backed s := fun s => ⟨nofun, nofun⟩
  induction recorded generalizing p with
  | init => exact blank _
  | @start history w q program _ _ _ ih =>
    by_cases own : q = p
    · subst own
      rw [Protocol.account_started_self]
      exact blank _
    · rw [Protocol.account_of_ne]
      · exact ih
      · exact own
  | @issue history w q op next reading _ _ _ ih =>
    by_cases own : q = p
    · subst own
      rw [Protocol.account_asked_self]
      exact ih.asked
    · rw [Protocol.account_of_ne]
      · exact ih
      · exact own
  | finish _ _ _ ih => exact ih
  | @crash history w q previous ih =>
    exact ih.rely ((rules.crash q _ (previous.reachable.unrestricted.disciplined rules).1).2 p)
  | ambient previous moved ih =>
    exact ih.rely ((rules.ambient _ _ (previous.reachable.unrestricted.disciplined rules).1 moved).2 p)
  | @commit history w q op next reading answer t previous issued performed ih =>
    have valid := (previous.reachable.unrestricted.disciplined rules).1
    have owed : Pre dep (fun _ _ _ _ => True) q op w.state := previous.reachable.unrestricted.owed rules
      (show (w.procs q).rest = some (.perform op next) by rw [issued]; rfl)
    -- anybody else's reliance will do, snapshots belong to no party
    have others : Rely (q + 1) w.state t := (guarantee valid owed performed).2 (q + 1) (Nat.succ_ne_self q)
    by_cases own : q = p
    · subst own
      rw [Protocol.account_answered_self]
      exact (ih.rely others).heard valid owed performed
    · rw [Protocol.account_of_ne]
      · exact ih.rely others
      · exact own

section Commit
variable {R : RunFile → Prop} {id : Uuid} {entry : ServiceEntry}

/-- An owned save, told for every file. -/
theorem Filed.advances (filed : Filed dep R history s id) (valid : Consistent s) {next : Run} {events : List TraceEvent}
    {row : RunRow} (advance : Advance dep (fun _ _ _ _ => True) p s row.payload next events)
    (stored : s.store.runs row.payload.id = some row)
    (runs : t.store.runs = Function.update s.store.runs row.payload.id
      (some ⟨row.payload.traceId, row.payload.version + 1, next.bumped row.payload⟩))
    (contents : t.store.contents = s.store.contents ++ events.map dep.stored)
    (foreign : id ≠ row.payload.id → reserves id entry = false ∧ failsRun id entry = false)
    (initial : initialResults id (entry :: history) = initialResults id history)
    (own : id = row.payload.id → R (runFile dep id history s.store row) → R { runFile dep id history s.store row with
      run := next.bumped row.payload
      trace := s.store.traceContents row.payload.traceId ++ events.map dep.stored
      reservations := (entry :: history).countP (reserves id)
      failActions := failActions dep id (entry :: history) }) : Filed dep R (entry :: history) t id := by
  by_cases same : id = row.payload.id
  · constructor
    · intro absent
      rw [runs, same, Function.update_self] at absent
      cases absent
    · intro found there
      rw [runs, same, Function.update_self] at there
      cases Option.some.inj there
      have sameTrace : (next.bumped row.payload).traceId = row.payload.traceId := advance.identity.2
      simp only [runFile, sameTrace, traceContents_own contents advance.trace, initial]
      exact own same (filed.present row (same ▸ stored))
  · obtain ⟨reserved, failed⟩ := foreign same
    refine filed.foreign events row.payload.traceId reserved failed initial ?_ contents advance.trace fun found there equal =>
      same (valid.traces _ _ _ _ there stored equal)
    rw [runs, Function.update_of_ne same]

/-- One committed operation, told for every file. -/
theorem Filed.commit {op : Op} {now : DateTime} {answer : op.Answer} (valid : Consistent s) (anchored : Anchored s)
    (owed : Pre dep (fun _ _ _ _ => True) p op s) (performed : dep.perform p op now s answer t)
    {before : Account} (account : (accounts dep).account p history = before.asked) (agreed : before.owes dep op)
    (backed : before.Backed s)
    (created : ∀ run : Run, run.fresh → R ⟨{ run with version := 1 }, [], run.toolResults, 0, 0⟩)
    (step : ∀ f f', FileStep dep f f' → R f → R f') (filed : Filed dep R history s id) :
    Filed dep R (.answered p op answer :: history) t id := by
  cases op with
  | saveRun run =>
    obtain ⟨fresh, -, -, unsaved, unused⟩ := owed
    obtain ⟨after, settled, rfl⟩ := performed
    cases answer with
    | error error =>
      cases settled.error
      exact filed.unmarked trivial rfl rfl
    | ok saved =>
      obtain ⟨-, rfl, rfl⟩ := Store.saveRun_ok settled.ok
      by_cases same : id = run.id
      · subst same
        constructor
        · intro absent
          simp at absent
        · intro row stored
          obtain ⟨reservations, failed⟩ := filed.absent unsaved
          simp only [Store.setRun_runs_self, Option.some.injEq] at stored
          subst stored
          have silent : s.store.traceContents run.traceId = [] := by
            rw [Store.traceContents_eq]
            refine List.filter_eq_nil_iff.mpr fun content member trace => unused ?_
            have sameTrace : content.traceId = run.traceId := by simpa using trace
            exact sameTrace ▸ anchored.used content member
          have file : runFile dep run.id (.answered p (.saveRun run) (.ok { run with version := 1 }) :: history)
              (s.store.setRun run.id ⟨run.traceId, 1, { run with version := 1 }⟩)
              ⟨run.traceId, 1, { run with version := 1 }⟩ =
              ⟨{ run with version := 1 }, [], run.toolResults, 0, 0⟩ := by
            simp only [runFile, initialResults, failActions, failsRun, Store.traceContents_eq, Store.contents_setRun]
            rw [← Store.traceContents_eq, silent, List.countP_cons_of_neg (by simp [reserves]), reservations, failed]
            simp
          rw [file]
          exact created run fresh
      · refine filed.foreign [] run.traceId rfl rfl ?_ ?_ ?_ nofun ?_
        · simp [initialResults, Ne.symm same]
        · simp [Store.setRun, Function.update_of_ne same]
        · simp
        · exact fun row stored equal => unused ⟨id, row, stored, equal⟩
  | saveRunOwned changed owner version =>
    obtain ⟨after, settled, rfl⟩ := performed
    cases answer with
    | error error =>
      cases settled.error
      exact filed.unmarked trivial rfl rfl
    | ok saved =>
      obtain ⟨prior, row, rfl, -, advance, rfl, rfl, raised⟩ := raised_of_updateOwned owed.1 owed.2 settled.ok []
      obtain ⟨rfl, running, unset, budget⟩ := advance.silent
      refine filed.advances valid advance raised.stored raised.runs ?_ ?_ rfl ?_
      · obtain ⟨_, _, _, _, _, _, _, _, rfl⟩ := Store.updateOwned_ok settled.ok
        simp
      · exact fun other => ⟨by simp [reserves, Run.reserved, Ne.symm other], rfl⟩
      · rintro rfl holds
        have stepped := step _ _ (.reserved (f := runFile dep row.payload.id history s.store row) running unset budget)
          holds
        simpa [runFile, reserves, Run.reserved, failActions, failsRun] using stepped
  | saveRunOwnedWithEvents changed events owner version =>
    obtain ⟨after, settled, rfl⟩ := performed
    cases answer with
    | error error =>
      cases settled.error
      exact filed.unmarked trivial rfl rfl
    | ok saved =>
      obtain ⟨updated, result, rfl⟩ := Store.saveRunOwnedWithEvents_ok settled.ok
      obtain ⟨prior, row, rfl, -, advance, rfl, rfl, raised⟩ := raised_of_updateOwned owed.1 owed.2 result
        (events.map (Store.cleanEvent dep.store))
      obtain ⟨-, held, atHeld, sameId, sameVersion, failing, stepping⟩ := agreed
      have current : row.payload = held := by
        refine (backed.held held atHeld).current ?_ ?_
        · rw [sameId]
          exact raised.stored
        · rw [sameVersion]
          exact (valid.rows _ _ raised.stored).2.1.symm
      subst current
      obtain ⟨identity, sameTrace⟩ := advance.identity
      have nonempty := Store.saveRunOwnedWithEvents_nonempty settled.ok
      have declined : ((accounts dep).account p history).declined = before.declined := by rw [account]; rfl
      have covered : before.slot = true → row.payload.currentStep < row.payload.policyCallsStarted := by
        intro slot
        obtain ⟨run, same, lower⟩ := backed.slot slot
        cases Option.some.inj (atHeld.symm.trans same)
        exact lower
      refine filed.advances valid advance (identity ▸ raised.stored) ?_ ?_ ?_ rfl ?_
      · rw [raised.runs, ← identity, ← sameTrace]
        rfl
      · obtain ⟨_, _, _, _, _, _, _, _, rfl⟩ := Store.updateOwned_ok result
        simp [Deployment.stored]
      · exact fun other => ⟨rfl, by simp [failsRun, identity, Ne.symm other]⟩
      · rintro rfl holds
        have stepped := step _ _ (.advanced (f := runFile dep row.payload.id history s.store row) p s changed events
          before.declined nonempty advance failing fun steps => (stepping steps).imp_right covered) holds
        simpa [runFile, reserves, failActions, failsRun, identity, Entry.party, declined] using stepped
  | appendEvent event =>
    obtain ⟨after, settled, rfl⟩ := performed
    cases answer with
    | error error =>
      cases settled.error
      exact filed.unmarked trivial rfl rfl
    | ok =>
      rw [Store.appendEvent_ok settled.ok]
      refine filed.appends trivial event rfl (by simp [Deployment.stored]) fun row _ own holds => ?_
      exact step _ _ (.appended event (EventType.reported owed) agreed.2) holds
  | recordPendingApproval at_id at_step row =>
    obtain ⟨after, settled, rfl⟩ := performed
    cases answer with
    | error error =>
      cases settled.error
      exact filed.unmarked trivial rfl rfl
    | ok decision =>
      obtain ⟨-, ⟨-, rfl⟩ | ⟨absent, run, stored, paused, rfl⟩⟩ := Store.recordPendingApproval_ok settled.ok
      · exact filed.unmarked trivial rfl rfl
      · refine filed.appends trivial (Store.recordedEvent run.traceId at_step row) rfl
          (by simp [Deployment.stored]) fun found _ own holds => ?_
        have same : found.payload.traceId = run.traceId := own.symm
        rw [← same]
        exact step _ _ (.decided at_step row) holds
  | _ =>
    have still := Op.still rfl performed
    exact filed.unmarked trivial still.runs still.contents

/-- The rule for what holds of the file of every run, over every run of the system. -/
theorem file_invariant {w : ServiceWorld} (recorded : Machine.Recorded dep.system history w)
    (created : ∀ run : Run, run.fresh → R ⟨{ run with version := 1 }, [], run.toolResults, 0, 0⟩)
    (step : ∀ f f', FileStep dep f f' → R f → R f') : Filed dep R history w.state id := by
  have rules := system_disciplined dep fun _ _ _ _ => True
  induction recorded with
  | init start =>
    constructor
    · exact fun _ => ⟨rfl, rfl⟩
    · intro row stored
      rw [start.1] at stored
      cases stored
  | start _ _ _ ih => exact ih.unmarked trivial rfl rfl
  | issue _ _ _ ih => exact ih.unmarked trivial rfl rfl
  | finish _ _ _ ih => exact ih
  | crash _ ih => exact ih.still ⟨rfl, rfl, rfl⟩
  | ambient _ moved ih => exact ih.still (ambient_still moved)
  | @commit history w p op next reading answer t previous issued performed ih =>
    have reach := previous.reachable.unrestricted
    have valid := (reach.disciplined rules).1
    have owed : Pre dep (fun _ _ _ _ => True) p op w.state :=
      reach.owed rules (show (w.procs p).rest = some (.perform op next) by rw [issued]; rfl)
    obtain ⟨before, account, agreed⟩ := previous.owed_issued (system_accounted dep) issued
    have backed : ((accounts dep).account p history).Backed w.state := previous.backed
    rw [account] at backed
    exact ih.commit valid (system_anchored reach) owed performed account agreed ⟨backed.held, backed.slot⟩ created step

end Commit

end ReliabilityLab
