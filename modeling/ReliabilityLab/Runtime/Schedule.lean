import ReliabilityLab.Runtime.System

namespace ReliabilityLab

/-- Policies and handlers that answer by a function. -/
structure Responder where
  policy : String → Run → Scenario → Except Exn AgentAction
  handler : Invocation → Except Exn Json

/-- The transaction as it ends when the database does not fail. -/
def settle {α : Type} (tx : Tx α) (st : Store) : Except Exn α × Store :=
  match tx st with
  | .ok (value, after) => (.ok value, after)
  | .error error => (.error error, st)

theorem settles_settle {α : Type} (tx : Tx α) (st : Store) : Settles tx st (settle tx st).1 (settle tx st).2 := by
  unfold settle
  cases result : tx st with
  | ok pair => exact .committed result
  | error error => exact .refused result

namespace SystemState

def commit {α : Type} (s : SystemState) (tx : Tx α) : Except Exn α × SystemState :=
  ((settle tx s.store).1, { s with store := (settle tx s.store).2 })

theorem commits_commit {α : Type} (s : SystemState) (tx : Tx α) : s.Commits tx (s.commit tx).1 (s.commit tx).2 :=
  ⟨_, settles_settle tx s.store, rfl⟩

end SystemState

/-- One operation, carried out. -/
def Responder.act (env : Responder) (cfg : StoreSettings) (p : Pid) (now : DateTime) (s : SystemState) :
    (op : Op) → op.Answer × SystemState
  | .uuid4 => (s.store.nextUuid, s.draw p)
  | .saveRun run => s.commit (Store.saveRun run)
  | .getRun id => s.commit (Store.getRun id)
  | .claimRunExecution id owner => s.commit (Store.claimRunExecution cfg now id owner)
  | .releaseRunExecution id owner => s.commit (Store.releaseRunExecution id owner)
  | .saveRunOwned run owner version => s.commit (Store.saveRunOwned now run owner version)
  | .saveRunOwnedWithEvents run events owner version =>
      s.commit (Store.saveRunOwnedWithEvents cfg now run events owner version)
  | .appendEvent event => s.commit (Store.appendEvent cfg event)
  | .getApproval id step => s.commit (Store.getApproval id step)
  | .recordPendingApproval id step row => s.commit (Store.recordPendingApproval cfg id step row)
  | .claimToolExecution id key owner fingerprint allowReclaim =>
      s.commit (Store.claimToolExecution cfg now id key owner fingerprint allowReclaim)
  | .completeToolResult id key payload owner => s.commit (Store.completeToolResult id key payload owner)
  | .failToolExecution id key owner error disposition =>
      s.commit (Store.failToolExecution id key owner error disposition)
  | .nextAction policyName run scenario => (env.policy policyName run scenario, s)
  | .invokeHandler invocation => (env.handler invocation, s)
  | .sleep _ => (.ok (), s)
  | .startHeartbeat id owner => ((), s.setHeartbeat p (some (id, owner)))
  | .stopHeartbeat => (none, s.setHeartbeat p none)

/-- The responder gives answers that the deployment admits. -/
structure Responder.Fits (env : Responder) (dep : Deployment) : Prop where
  policy : ∀ name run scenario, dep.policyAnswers name run scenario (env.policy name run scenario)
  handler : ∀ invocation, dep.handlerAnswers invocation (env.handler invocation)

theorem Responder.Fits.perform {env : Responder} {dep : Deployment} (fits : env.Fits dep) (p : Pid) (now : DateTime)
    (s : SystemState) (op : Op) :
    dep.perform p op now s (env.act dep.store p now s op).1 (env.act dep.store p now s op).2 := by
  cases op with
  | uuid4 => exact ⟨rfl, rfl⟩
  | nextAction policyName run scenario => exact ⟨fits.policy _ _ _, rfl⟩
  | invokeHandler invocation => exact ⟨fits.handler _, rfl⟩
  | sleep => exact ⟨.inl rfl, rfl⟩
  | startHeartbeat id owner => rfl
  | stopHeartbeat => rfl
  | _ => exact s.commits_commit _

/-- What a schedule does next. `turns` lets a party perform that many operations. -/
inductive Move where
  | request (p : Pid) (request : Request)
  | turns (p : Pid) (count : Nat)
  | finish (p : Pid)
  | crash (p : Pid)
  | clock (now : DateTime)

section Schedule
variable (env : Responder) (dep : Deployment) (permits : Pid → Op → DateTime → SystemState → Bool)

/-- Worlds whose programs end in an `α`. -/
abbrev OpWorld (α : Type) := World Pid Op Op.Answer Exn α DateTime SystemState

def takeTurn {α : Type} (p : Pid) (w : OpWorld α) : Option (OpWorld α) :=
  match w.procs p with
  | .ready (.perform op next) =>
    if permits p op w.state.clock w.state then
      some ⟨(env.act dep.store p w.state.clock w.state op).2, Function.update w.procs p
        (.ready (next (env.act dep.store p w.state.clock w.state op).1))⟩
    else none
  | _ => none

def takeTurns {α : Type} (p : Pid) : Nat → OpWorld α → Option (OpWorld α)
  | 0, w => some w
  | count + 1, w => (takeTurn env dep permits p w).bind (takeTurns p count)

def Move.apply (w : ServiceWorld) : Move → Option ServiceWorld
  | .request p asked =>
    match w.procs p with
    | .idle => some ⟨w.state, Function.update w.procs p (.ready (asked.program dep))⟩
    | _ => none
  | .turns p count => takeTurns env dep permits p count w
  | .finish p =>
    match w.procs p with
    | .ready (.ret _) => some ⟨w.state, Function.update w.procs p .idle⟩
    | .ready (.raise _) => some ⟨w.state, Function.update w.procs p .idle⟩
    | _ => none
  | .crash p => some ⟨w.state.setHeartbeat p none, Function.update w.procs p .idle⟩
  | .clock now => some ⟨{ w.state with clock := now }, w.procs⟩

def schedule (moves : List Move) (w : ServiceWorld) : Option ServiceWorld :=
  moves.foldlM (Move.apply env dep permits) w

end Schedule

def SystemState.initial (clock : DateTime) : SystemState := ⟨Store.empty, clock, fun _ => none, fun _ => none⟩

def ServiceWorld.initial (clock : DateTime) : ServiceWorld := ⟨.initial clock, fun _ => .idle⟩

section Sound
variable {env : Responder} {dep : Deployment} {permits : Pid → Op → DateTime → SystemState → Bool}
  {allowed : Pid → Op → DateTime → SystemState → Prop} {w v : ServiceWorld}

section Turns
variable {α : Type} {M : Machine Pid Op Op.Answer Exn α DateTime SystemState} {p : Pid} {u v : OpWorld α}

theorem takeTurn_leads (reads : ∀ s, M.reads s s.clock)
    (performs : ∀ p op s, permits p op s.clock s = true →
      M.perform p op s.clock s (env.act dep.store p s.clock s op).1 (env.act dep.store p s.clock s op).2)
    (taken : takeTurn env dep permits p u = some v) : Machine.Leads M u v := by
  unfold takeTurn at taken
  split at taken
  · rename_i op next ready
    split at taken
    · rename_i permitted
      cases taken
      exact Machine.leads_turn ready (reads _) (performs p op _ permitted)
    · cases taken
  · cases taken

theorem takeTurns_leads (reads : ∀ s, M.reads s s.clock)
    (performs : ∀ p op s, permits p op s.clock s = true →
      M.perform p op s.clock s (env.act dep.store p s.clock s op).1 (env.act dep.store p s.clock s op).2)
    {count : Nat} (taken : takeTurns env dep permits p count u = some v) : Machine.Leads M u v := by
  induction count generalizing u with
  | zero => cases taken; exact .refl
  | succ count ih =>
    obtain ⟨middle, first, rest⟩ := Option.bind_eq_some_iff.mp taken
    exact (takeTurn_leads reads performs first).trans (ih rest)

/-- The turns of one party leave the programs of the others where they are. -/
theorem takeTurns_others {count : Nat} {q : Pid} (apart : q ≠ p) (taken : takeTurns env dep permits p count u = some v) :
    v.procs q = u.procs q := by
  induction count generalizing u with
  | zero => cases taken; rfl
  | succ count ih =>
    obtain ⟨middle, first, rest⟩ := Option.bind_eq_some_iff.mp taken
    have one : middle.procs q = u.procs q := by
      unfold takeTurn at first
      split at first
      · split at first
        · cases first
          exact Function.update_of_ne apart ..
        · cases first
      · cases first
    exact (ih rest).trans one

end Turns

theorem Move.apply_reachable (fits : env.Fits dep) (sound : ∀ p op now s, permits p op now s = true → allowed p op now s)
    {move : Move} (reach : Machine.Reachable (dep.system.restrict allowed) w)
    (applied : move.apply env dep permits w = some v) : Machine.Reachable (dep.system.restrict allowed) v := by
  cases move with
  | request p request =>
    simp only [Move.apply] at applied
    split at applied
    · rename_i idle
      cases applied
      exact reach.step (.start idle ⟨request, rfl⟩)
    · cases applied
  | turns p count =>
    have leads : Machine.Leads (dep.system.restrict allowed) w v :=
      takeTurns_leads (fun _ => rfl) (fun p op s permitted =>
        ⟨fits.perform p s.clock s op, sound p op _ s permitted⟩) applied
    exact leads.reachable reach
  | finish p =>
    simp only [Move.apply] at applied
    split at applied
    · rename_i ready
      cases applied
      exact reach.step (.finish ready (by simp))
    · rename_i ready
      cases applied
      exact reach.step (.finish ready (by simp))
    · cases applied
  | crash p => cases applied; exact reach.step .crash
  | clock now => cases applied; exact reach.step (.ambient (.tick now))

/-- A schedule that can be carried out leads to a reachable world. -/
theorem schedule_reachable (fits : env.Fits dep) (sound : ∀ p op now s, permits p op now s = true → allowed p op now s)
    {moves : List Move} (reach : Machine.Reachable (dep.system.restrict allowed) w)
    (ran : schedule env dep permits moves w = some v) : Machine.Reachable (dep.system.restrict allowed) v := by
  induction moves generalizing w with
  | nil => cases ran; exact reach
  | cons move rest ih =>
    simp only [schedule, List.foldlM_cons] at ran
    obtain ⟨u, first, later⟩ := Option.bind_eq_some_iff.mp ran
    exact ih (Move.apply_reachable fits sound reach first) later

theorem restricted_reaches (fits : env.Fits dep) (sound : ∀ p op now s, permits p op now s = true → allowed p op now s)
    (clock : DateTime) (moves : List Move) (check : ServiceWorld → Bool)
    (ran : (schedule env dep permits moves (.initial clock)).any check = true) :
    ∃ w, Machine.Reachable (dep.system.restrict allowed) w ∧ check w = true := by
  cases result : schedule env dep permits moves (.initial clock) with
  | none => rw [result] at ran; cases ran
  | some w =>
    rw [result] at ran
    exact ⟨w, schedule_reachable fits sound (.init ⟨rfl, fun _ => rfl, fun _ => rfl⟩) result, ran⟩

theorem schedule_reaches (fits : env.Fits dep) (clock : DateTime) (moves : List Move) (check : ServiceWorld → Bool)
    (ran : (schedule env dep (fun _ _ _ _ => true) moves (.initial clock)).any check = true) :
    ∃ w, Machine.Reachable dep.system w ∧ check w = true := by
  have admitted : ∀ p op now s, true = true → (fun (_ : Pid) (_ : Op) (_ : DateTime) (_ : SystemState) => True) p op now s :=
    fun _ _ _ _ _ => trivial
  obtain ⟨w, reach, checked⟩ := restricted_reaches fits admitted clock moves check ran
  exact ⟨w, reach.of_restrict, checked⟩

end Sound

/-! A small deployment for runs on fixed inputs: one tool behind approval, and
a policy that calls it and finishes. -/

theorem demoDelay_range : (0 : ℚ) ≤ 1 / 10 ∧ (1 / 10 : ℚ) ≤ maxToolInitialDelaySeconds := by decide +kernel

def demoTool : ToolDefinition where
  name := "apply_change"
  inputModel arguments := some arguments
  outputModel raw := .accepted raw
  requiresApproval := true
  isWrite := true
  idempotent := true
  timeoutSeconds := 1
  maxAttempts := 2
  initialDelaySeconds := 1 / 10
  name_length := by decide
  timeout_range := defaultTimeout_range
  attempts_range := defaultAttempts_range
  delay_range := demoDelay_range
  safe_idempotent _ := rfl

def demoScenario : Scenario where
  id := "demo"
  version := 1
  initialContext := []
  actions := [.callTool ⟨"apply_change", [], some "key"⟩, .finish ⟨"done", [], "changed"⟩]
  expectedToolSequence := ["apply_change"]
  expectedOutcome := "changed"
  faults := []
  approvalSupplied := true

def demoFingerprint : String := "aaaaaaaaaaaaaaaaaaaaaaaaaaaaaaaaaaaaaaaaaaaaaaaaaaaaaaaaaaaaaaaa"

def demoResponder : Responder where
  policy _ run scenario := scriptedPolicy run scenario
  handler _ := .ok (.obj [])

/-- Thirty-second leases, as the defaults of the store. -/
def demo : Deployment where
  store := ⟨[], ⟨fun c => [c], fun _ => false⟩, 30000000, 30000000⟩
  recorderSecrets := []
  registry := ⟨[demoTool], by decide⟩
  loadScenario _ := .ok demoScenario
  policies := ["scripted"]
  maxActionSteps := 64
  steps_range := by decide
  sha256 _ := demoFingerprint
  policyAnswers name run scenario answer := answer = demoResponder.policy name run scenario
  handlerAnswers invocation answer := answer = demoResponder.handler invocation

theorem demo_fits : demoResponder.Fits demo := ⟨fun _ _ _ => rfl, fun _ => rfl⟩

/-- So many seconds after the start of a run on a fixed input. -/
def demoClock (seconds : Nat) (inside : 63924076800 * 1000000 + seconds * 1000000 < maxWall) : DateTime :=
  .utc (63924076800 * 1000000 + seconds * 1000000) inside

theorem demoStart_inside : 63924076800 * 1000000 + 0 * 1000000 < maxWall := by decide

def Run.demo : Request := .start "demo" .resilient "scripted"

def demoDecision (allow : Bool) : Request := .approve ⟨0, "reviewer", allow, 0, demoFingerprint, none⟩ 1

end ReliabilityLab
