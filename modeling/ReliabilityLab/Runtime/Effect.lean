import ReliabilityLab.Runtime.ServiceConduct
import ReliabilityLab.Storage.TraceNumbers

namespace ReliabilityLab

/-- Runs, decisions and events are as they were. -/
structure Still (s t : SystemState) : Prop where
  runs : t.store.runs = s.store.runs
  approvals : t.store.approvals = s.store.approvals
  contents : t.store.contents = s.store.contents

/-- What the store of a deployment keeps of an event. -/
def Deployment.stored (dep : Deployment) (event : TraceEvent) : EventContent :=
  (Store.cleanEvent dep.store event).content

/-- Everything that an operation can do to the runs, the decisions and the events. -/
inductive Effect (dep : Deployment) (allowed : Allowed) (p : Pid) (op : Op) (s t : SystemState) : Prop
  | still : Still s t → Effect dep allowed p op s t
  | created (run : Run) : run.fresh → s.store.runs run.id = none → ¬ TraceUsed run.traceId s →
      t.store.runs = Function.update s.store.runs run.id (some ⟨run.traceId, 1, { run with version := 1 }⟩) →
      t.store.approvals = s.store.approvals → t.store.contents = s.store.contents → Effect dep allowed p op s t
  | appended (event : TraceEvent) : op = .appendEvent event → Reported p event s →
      t.store.runs = s.store.runs → t.store.approvals = s.store.approvals →
      t.store.contents = s.store.contents ++ [dep.stored event] → Effect dep allowed p op s t
  | advanced (prior next : Run) (events : List TraceEvent) (row : RunRow) : Mine p prior.id s →
      s.store.runs prior.id = some row → row.payload = prior → Advance dep allowed p s prior next events →
      t.store.runs = Function.update s.store.runs prior.id
        (some ⟨prior.traceId, prior.version + 1, next.bumped prior⟩) →
      t.store.approvals = s.store.approvals →
      t.store.contents = s.store.contents ++ events.map dep.stored → Effect dep allowed p op s t
  | decided (id : Uuid) (step : Nat) (row : ApprovalRow) (run : RunRow) : s.store.approvals id step = none →
      Store.canonicalFingerprint row.actionFingerprint = true → s.store.runs id = some run → run.payload.status = .waitingApproval → run.payload.currentStep = step →
      run.payload.pendingActionFingerprint = some row.actionFingerprint → t.store.runs = s.store.runs →
      t.store.approvals = (s.store.setApproval id step row).approvals →
      t.store.contents = s.store.contents ++ [dep.stored (Store.recordedEvent run.payload.traceId step row)] →
      Effect dep allowed p op s t

variable {dep : Deployment} {allowed : Allowed} {p : Pid} {s t : SystemState}

theorem traceContents_append {added : List EventContent} (contents : t.store.contents = s.store.contents ++ added)
    (traceId : Uuid) : t.store.traceContents traceId =
      s.store.traceContents traceId ++ added.filter (·.traceId = traceId) := by
  rw [Store.traceContents_eq, Store.traceContents_eq, contents, List.filter_append]

@[simp] theorem stored_eventType (event : TraceEvent) : (dep.stored event).eventType = event.eventType := rfl

@[simp] theorem buildEvent_eventType {traceId : Uuid} {eventType : EventType} {payload : Json} {span : Option Uuid}
    {status : String} : (buildEvent dep traceId eventType payload span status).eventType = eventType := rfl

/-- A text field of a built event, as the trail has it. -/
theorem field_stored {traceId : Uuid} {eventType : EventType} {payload : Dict} {span : Option Uuid} {status key : String}
    (plain : isSensitiveKey dep.store.tables key = false) :
    (dep.stored (buildEvent dep traceId eventType (.obj payload) span status)).field key =
      (payload.lookup key).map fun item => sanitizePayload dep.store.tables dep.store.secretValues
        (sanitizePayload dep.store.tables dep.recorderSecrets item) := by
  simp [EventContent.field, Deployment.stored, Store.cleanEvent, TraceEvent.content, buildEvent, Store.sanitize,
    sanitizePayload, Json.obj?, lookup_sanitizeItems, plain, Function.comp_def]

theorem Still.refl (s : SystemState) : Still s s := ⟨rfl, rfl, rfl⟩

theorem effect_of_commits {α : Type} {tx : Tx α} {op : Op} {answer : Except Exn α}
    (commits : s.Commits tx answer t)
    (committed : ∀ value after, tx s.store = .ok (value, after) →
      Effect dep allowed p op s { s with store := after }) : Effect dep allowed p op s t := by
  obtain ⟨after, settled, rfl⟩ := commits
  cases settled with
  | committed done => exact committed _ _ done
  | refused => exact .still (.refl s)
  | broken => exact .still (.refl s)

theorem effect_of_updateOwned {op : Op} {now : DateTime} {run saved : Run} {owner version : Nat}
    {events : List TraceEvent} {after : Store} (drawn : s.drawn owner = some p)
    (advances : Advances dep allowed p run events version s)
    (done : Store.updateOwned now run owner version s.store = .ok (saved, after)) :
    Effect dep allowed p op s { s with store := after.insertEvents (events.map (Store.cleanEvent dep.store)) } := by
  obtain ⟨prior, row, rfl, holds, advance, payload, rfl, raised⟩ := raised_of_updateOwned drawn advances done
    (events.map (Store.cleanEvent dep.store))
  obtain ⟨sameId, sameTrace⟩ := advance.identity
  have contents : after.contents = s.store.contents := by
    obtain ⟨_, _, _, _, _, _, _, _, rfl⟩ := Store.updateOwned_ok done
    rfl
  refine .advanced prior run events row (sameId ▸ raised.mine) (sameId ▸ raised.stored) payload advance ?_
    raised.approvals ?_
  · rw [raised.runs, ← sameId, ← sameTrace]
    rfl
  · simp only [Store.contents_insertEvents, contents, List.map_map]
    rfl

/-- The operations that write runs, decisions or events. -/
def Op.records : Op → Bool
  | .saveRun _ | .saveRunOwned _ _ _ | .saveRunOwnedWithEvents _ _ _ _ | .appendEvent _
  | .recordPendingApproval _ _ _ => true
  | _ => false

theorem still_of_commits {α : Type} {tx : Tx α} {answer : Except Exn α} (commits : s.Commits tx answer t)
    (committed : ∀ value after, tx s.store = .ok (value, after) → Still s { s with store := after }) : Still s t := by
  obtain ⟨after, settled, rfl⟩ := commits
  cases settled with
  | committed done => exact committed _ _ done
  | refused => exact .refl s
  | broken => exact .refl s

theorem Op.still {op : Op} {now : DateTime} {answer : op.Answer} (other : op.records = false)
    (performed : dep.perform p op now s answer t) : Still s t := by
  cases op with
  | saveRun | saveRunOwned | saveRunOwnedWithEvents | appendEvent | recordPendingApproval => cases other
  | uuid4 => obtain ⟨-, rfl⟩ := performed; exact ⟨rfl, rfl, rfl⟩
  | getRun | getApproval =>
    refine still_of_commits performed fun found after done => ?_
    cases done
    exact .refl s
  | claimRunExecution id owner =>
    refine still_of_commits performed fun run after done => ?_
    obtain ⟨_, _, -, -, -, rfl, -⟩ := Store.claimRunExecution_ok done
    exact ⟨rfl, rfl, rfl⟩
  | releaseRunExecution id owner =>
    refine still_of_commits performed fun run after done => ?_
    obtain ⟨_, _, -, -, -, -, rfl⟩ := Store.releaseRunExecution_ok done
    exact ⟨rfl, rfl, rfl⟩
  | claimToolExecution =>
    refine still_of_commits performed fun claim after done => ?_
    obtain ⟨_, rfl⟩ := Store.claimToolExecution_frame done
    exact ⟨rfl, rfl, rfl⟩
  | completeToolResult =>
    refine still_of_commits performed fun _ after done => ?_
    obtain ⟨_, rfl⟩ := Store.completeToolResult_frame done
    exact ⟨rfl, rfl, rfl⟩
  | failToolExecution =>
    refine still_of_commits performed fun _ after done => ?_
    obtain ⟨_, rfl⟩ := Store.failToolExecution_frame done
    exact ⟨rfl, rfl, rfl⟩
  | nextAction | invokeHandler | sleep => obtain ⟨-, rfl⟩ := performed; exact .refl _
  | startHeartbeat | stopHeartbeat => cases performed; exact ⟨rfl, rfl, rfl⟩

/-- The inversion of one operation under its precondition. -/
theorem effect {op : Op} {now : DateTime} {answer : op.Answer} (valid : Consistent s)
    (owed : Pre dep allowed p op s) (performed : dep.perform p op now s answer t) :
    Effect dep allowed p op s t := by
  cases op with
  | saveRun run =>
    obtain ⟨fresh, -, -, unsaved, unused⟩ := owed
    refine effect_of_commits performed fun saved after done => ?_
    obtain ⟨-, rfl, rfl⟩ := Store.saveRun_ok done
    exact .created run fresh unsaved unused rfl rfl rfl
  | saveRunOwned run owner version =>
    refine effect_of_commits performed fun saved after done => ?_
    exact effect_of_updateOwned owed.1 owed.2 done
  | saveRunOwnedWithEvents run events owner version =>
    refine effect_of_commits performed fun saved after done => ?_
    obtain ⟨updated, result, rfl⟩ := Store.saveRunOwnedWithEvents_ok done
    exact effect_of_updateOwned owed.1 owed.2 result
  | appendEvent event =>
    refine effect_of_commits performed fun _ after done => ?_
    rw [Store.appendEvent_ok done]
    exact .appended event rfl owed rfl rfl (by simp [Deployment.stored])
  | recordPendingApproval id step row =>
    refine effect_of_commits performed fun decision after done => ?_
    obtain ⟨-, ⟨-, rfl⟩ | ⟨absent, run, stored, paused, rfl⟩⟩ := Store.recordPendingApproval_ok done
    · exact .still (.refl s)
    · obtain ⟨row', atRow, status, -, cursor, fingerprint⟩ := Store.pausedOn_ok paused
      cases Option.some.inj (stored.symm.trans atRow)
      refine .decided id step row run absent (Store.recordPendingApproval_canonical done) stored status cursor
        fingerprint rfl rfl ?_
      simp [Deployment.stored, (valid.rows id run stored).2.2.1]
  | _ => exact .still (Op.still rfl performed)

theorem ambient_still (moved : Deployment.Ambient dep s t) : Still s t := by
  rcases moved with ⟨clock⟩ | ⟨-, commits⟩
  · exact ⟨rfl, rfl, rfl⟩
  · obtain ⟨after, settled, rfl⟩ := commits
    cases settled with
    | refused => exact .refl s
    | broken => exact .refl s
    | committed done =>
      obtain ⟨_, _, _, -, -, -, -, -, rfl⟩ := Store.renewRunExecution_ok done
      exact ⟨rfl, rfl, rfl⟩

/-- The rule for what holds of runs, decisions and events in every restricted run. -/
theorem system_invariant {J : SystemState → Prop} {w : ServiceWorld}
    (reach : Machine.Reachable (dep.system.restrict allowed) w)
    (start : ∀ s, s.store = Store.empty → J s) (still : ∀ s t, Still s t → J s → J t)
    (step : ∀ p op now s t, Consistent s → allowed p op now s → Effect dep allowed p op s t → J s → J t) :
    J w.state := by
  refine reach.invariant (system_disciplined dep allowed) (fun s initial => start s initial.1) ?_ ?_ ?_
  · exact fun p op now s answer t valid owed performed =>
      step p op now s t valid performed.2 (effect valid owed performed.1)
  · exact fun s t moved => still s t (ambient_still moved)
  · exact fun p s => still s _ ⟨rfl, rfl, rfl⟩

/-- The inversion of one step of the whole system. -/
theorem system_step {w v : ServiceWorld} (reach : Machine.Reachable (dep.system.restrict allowed) w)
    (move : Machine.Step (dep.system.restrict allowed) w v) :
    Still w.state v.state ∨ ∃ p op now, allowed p op now w.state ∧ Effect dep allowed p op w.state v.state := by
  cases move with
  | start | issue | finish => exact .inl (.refl _)
  | crash => exact .inl ⟨rfl, rfl, rfl⟩
  | @commit p op next reading answer t issued performed =>
    have owed : (discipline dep allowed p).pre op w.state :=
      reach.owed (system_disciplined dep allowed) (show (w.procs p).rest = some (.perform op next) by rw [issued]; rfl)
    have valid := (reach.disciplined (system_disciplined dep allowed)).1
    exact .inr ⟨p, op, reading, performed.2, effect valid owed performed.1⟩
  | @ambient t moved => exact .inl (ambient_still moved)

theorem Machine.Reachable.unrestricted {w : ServiceWorld} (reach : Machine.Reachable dep.system w) :
    Machine.Reachable (dep.system.restrict fun _ _ _ _ => True) w := by
  have same : dep.system.restrict (fun _ _ _ _ => True) = dep.system := by simp [Machine.restrict]
  rwa [same]

theorem Machine.Step.unrestricted {w v : ServiceWorld} (move : Machine.Step dep.system w v) :
    Machine.Step (dep.system.restrict fun _ _ _ _ => True) w v := by
  have same : dep.system.restrict (fun _ _ _ _ => True) = dep.system := by simp [Machine.restrict]
  rwa [same]

/-- Every operation of a service is one transaction of a writer. -/
theorem perform_writes {op : Op} {now : DateTime} {answer : op.Answer} (performed : dep.perform p op now s answer t) :
    EventWrite dep.store s.store t.store := by
  have elsewhere : ∀ {α : Type} {tx : Tx α} {result : Except Exn α}, s.Commits tx result t →
      (∀ value after, tx s.store = .ok (value, after) →
        after.events = s.store.events ∧ after.counters = s.store.counters) → EventWrite dep.store s.store t.store := by
    intro α tx result commits frame
    obtain ⟨after, settled, rfl⟩ := commits
    cases settled with
    | committed done =>
      obtain ⟨events, counters⟩ := frame _ _ done
      exact .elsewhere events counters
    | refused | broken => exact .elsewhere rfl rfl
  cases op with
  | appendEvent event =>
    obtain ⟨after, settled, rfl⟩ := performed
    exact .append event answer settled
  | saveRunOwnedWithEvents run events owner version =>
    obtain ⟨after, settled, rfl⟩ := performed
    exact .save now run events owner version answer settled
  | recordPendingApproval id step row =>
    obtain ⟨after, settled, rfl⟩ := performed
    exact .decide id step row answer settled
  | uuid4 =>
    obtain ⟨-, rfl⟩ := performed
    exact .elsewhere rfl rfl
  | nextAction | invokeHandler | sleep =>
    obtain ⟨-, rfl⟩ := performed
    exact .elsewhere rfl rfl
  | startHeartbeat | stopHeartbeat =>
    cases performed
    exact .elsewhere rfl rfl
  | getRun | getApproval =>
    refine elsewhere performed fun found after done => ?_
    cases done
    exact ⟨rfl, rfl⟩
  | saveRun run =>
    refine elsewhere performed fun saved after done => ?_
    obtain ⟨-, -, rfl⟩ := Store.saveRun_ok done
    exact ⟨rfl, rfl⟩
  | claimRunExecution id owner =>
    refine elsewhere performed fun run after done => ?_
    obtain ⟨_, _, -, -, -, rfl, -⟩ := Store.claimRunExecution_ok done
    exact ⟨rfl, rfl⟩
  | releaseRunExecution id owner =>
    refine elsewhere performed fun run after done => ?_
    obtain ⟨_, _, -, -, -, -, rfl⟩ := Store.releaseRunExecution_ok done
    exact ⟨rfl, rfl⟩
  | saveRunOwned run owner version =>
    refine elsewhere performed fun saved after done => ?_
    obtain ⟨_, _, -, -, -, -, -, -, rfl⟩ := Store.updateOwned_ok done
    exact ⟨rfl, rfl⟩
  | claimToolExecution =>
    refine elsewhere performed fun claim after done => ?_
    obtain ⟨_, rfl⟩ := Store.claimToolExecution_frame done
    exact ⟨rfl, rfl⟩
  | completeToolResult =>
    refine elsewhere performed fun _ after done => ?_
    obtain ⟨_, rfl⟩ := Store.completeToolResult_frame done
    exact ⟨rfl, rfl⟩
  | failToolExecution =>
    refine elsewhere performed fun _ after done => ?_
    obtain ⟨_, rfl⟩ := Store.failToolExecution_frame done
    exact ⟨rfl, rfl⟩

/-- The service only ever writes to its traces that way. -/
theorem system_writes {w : ServiceWorld} (reach : Machine.Reachable dep.system w) :
    EventWrites dep.store Store.empty w.state.store := by
  induction reach with
  | init start => rw [start.1]
  | @step w v previous move ih =>
    cases move with
    | start | issue | finish => exact ih
    | commit issued performed => exact ih.tail (perform_writes performed)
    | crash => exact ih
    | ambient moved =>
      refine ih.tail ?_
      rcases moved with ⟨clock⟩ | ⟨-, commits⟩
      · exact .elsewhere rfl rfl
      · obtain ⟨after, settled, rfl⟩ := commits
        cases settled with
        | refused | broken => exact .elsewhere rfl rfl
        | committed done =>
          obtain ⟨_, _, _, -, -, -, -, -, rfl⟩ := Store.renewRunExecution_ok done
          exact .elsewhere rfl rfl

end ReliabilityLab
