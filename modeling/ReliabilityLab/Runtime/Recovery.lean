import ReliabilityLab.Runtime.Effect
import ReliabilityLab.Runtime.Schedule

namespace ReliabilityLab

/-- The run is stored as failed with this code in its result. -/
def Run.endsWith (run : Run) (code : String) : Prop :=
  run.status = .failed ∧ ∃ result, run.result = some result ∧ result.lookup "code" = some (.str code)

theorem Run.endsWith_iff (run : Run) (code : String) : run.endsWith code ↔
    run.status = .failed ∧ (run.result.bind (·.lookup "code")).bind Json.str? = some code := by
  refine and_congr_right fun _ => ?_
  cases run.result with
  | none => simp
  | some result =>
    cases named : result.lookup "code" with
    | none => simp [named]
    | some value => cases value <;> simp [named, Json.str?]

instance (run : Run) (code : String) : Decidable (run.endsWith code) := decidable_of_iff' _ (run.endsWith_iff code)

variable {dep : Deployment} {allowed : Allowed} {p : Pid} {s t : SystemState}

/-- Only a terminal failure with that code, or a denial, ends a run with a code. -/
theorem Advance.endsWith {run next : Run} {events : List TraceEvent} {code : String}
    (advance : Advance dep allowed p s run next events) (ended : (next.bumped run).endsWith code) :
    (∃ explanation nextStep, next = run.failedWith (failurePayload code explanation) nextStep ∧
      Cause dep allowed p run code s) ∨
    code = "approval_denied" ∧ ∃ actor reason step fingerprint, run.status = .waitingApproval ∧
      s.store.approvals run.id step = some ⟨fingerprint, actor, false, reason⟩ ∧ next = run.deniedWith reason ∧
      events = [buildEvent dep run.traceId .approvalDenied (.obj (deniedPayload actor reason step fingerprint)) none
          "error", buildEvent dep run.traceId .runFailed (.obj (denialResult reason)) none "error"] := by
  obtain ⟨failed, result, stored, named⟩ := ended
  cases advance with
  | begin | reserve running | succeed | pause | checkpoint _ _ _ _ _ _ running =>
    simp_all [Run.bumped, Run.started, Run.reserved, Run.succeededWith, Run.pausedOn, Run.checkpointed]
  | fail code' explanation nextStep running cause =>
    cases stored
    simp only [failurePayload, List.lookup_cons, beq_self_eq_true, Option.some.injEq, Json.str.injEq] at named
    subst named
    exact .inl ⟨explanation, nextStep, rfl, cause⟩
  | deny actor reason step fingerprint waiting decided =>
    cases stored
    simp only [denialResult, List.lookup_cons, beq_self_eq_true, Option.some.injEq, Json.str.injEq] at named
    exact .inr ⟨named.symm, actor, reason, step, fingerprint, waiting, decided, rfl, rfl⟩

/-- When the worker of a run claims a tool execution, a claim that another
token left for the same request has expired by its clock reading. -/
def ClaimsOutlived : Allowed := fun p op now s =>
  ∀ id key owner fingerprint allowReclaim row, op = .claimToolExecution id key owner fingerprint allowReclaim →
    Mine p id s → s.store.toolResults id key = some row → row.requestFingerprint = fingerprint →
    row.state = .claimed → row.ownerToken ≠ owner → row.leaseExpiresAt.instant ≤ now.instant

/-- No stored run has failed because of a claim in progress. -/
def NeverInProgress (s : SystemState) : Prop :=
  ∀ id row, s.store.runs id = some row → ¬ row.payload.endsWith "idempotency_in_progress"

theorem NeverInProgress.step {op : Op} (foreign : ¬ ForeignCode dep "idempotency_in_progress")
    (effect : Effect dep ClaimsOutlived p op s t) (never : NeverInProgress s) : NeverInProgress t := by
  cases effect with
  | still same => exact fun id row stored => never id row (same.runs ▸ stored)
  | appended _ _ _ runs => exact fun id row stored => never id row (runs ▸ stored)
  | decided _ _ _ _ _ _ _ _ _ _ runs => exact fun id row stored => never id row (runs ▸ stored)
  | created run fresh _ _ runs =>
    intro id row stored
    rw [runs, Function.update_apply] at stored
    split at stored
    · obtain ⟨_, _, _, _, _, _, rfl⟩ := fresh
      cases stored
      rintro ⟨failed, -⟩
      cases failed
    · exact never id row stored
  | advanced prior next events row mine _ _ advance runs =>
    intro id found stored
    rw [runs, Function.update_apply] at stored
    split at stored
    · cases stored
      intro ended
      rcases advance.endsWith ended with ⟨_, _, -, cause⟩ | ⟨impossible, -⟩
      · obtain ⟨now, s₀, key, owner, fingerprint, reclaim, met, outlived, atMet, same, state, other, live, since⟩ :=
          (cause.blocked rfl).resolve_left foreign
        exact absurd (outlived _ _ _ _ _ _ rfl (since.lease _ mine).1 atMet same state other) (not_le.mpr live)
      · exact absurd impossible (by decide)
    · exact never id found stored

/-- In every run in which the claims that a worker meets have expired, no run
ends as failed with `idempotency_in_progress`. -/
theorem recovery_not_blocked {w : ServiceWorld} (foreign : ¬ ForeignCode dep "idempotency_in_progress")
    (reach : Machine.Reachable (dep.system.restrict ClaimsOutlived) w) {id : Uuid} {row : RunRow}
    (stored : w.state.store.runs id = some row) : ¬ row.payload.endsWith "idempotency_in_progress" := by
  have never : NeverInProgress w.state := system_invariant reach
    (fun s empty id row stored => by rw [empty] at stored; cases stored)
    (fun s t still never id row stored => never id row (still.runs ▸ stored))
    fun _ _ _ _ _ _ _ effect => NeverInProgress.step foreign effect
  exact never id row stored

/-- `ClaimsOutlived`, evaluated. -/
def claimsOutlived (_ : Pid) (op : Op) (now : DateTime) (s : SystemState) : Bool :=
  match op with
  | .claimToolExecution id key _ _ _ =>
    match s.store.toolResults id key with
    | some row => row.leaseExpiresAt.instant ≤ now.instant
    | none => true
  | _ => true

theorem claimsOutlived_sound (p : Pid) (op : Op) (now : DateTime) (s : SystemState)
    (permitted : claimsOutlived p op now s = true) : ClaimsOutlived p op now s := by
  rintro id key owner fingerprint reclaim row rfl - stored - - -
  simpa [claimsOutlived, stored] using permitted

/-- The demo's policy never fails a run, and its handler never raises. -/
theorem demo_foreign (code : String) : ¬ ForeignCode demo code := by
  rintro (⟨invocation, transient, answer⟩ | ⟨policyName, run, scenarioId, scenario, explanation, loaded, answer⟩)
  · cases answer
  · cases loaded
    simp only [demo, demoResponder, scriptedPolicy] at answer
    split at answer
    · rename_i action found
      have member := List.mem_of_getElem? found
      rw [← Except.ok.inj answer] at member
      simp [demoScenario] at member
    · cases answer

/-- A crashed worker's claim outlived by the worker that takes the run over. -/
theorem recovery_not_blocked_demo : ∃ w : ServiceWorld, ∃ row, w.state.store.runs 0 = some row ∧
    row.payload.status = .succeeded ∧ ¬ row.payload.endsWith "idempotency_in_progress" := by
  obtain ⟨w, reach, finished⟩ := restricted_reaches demo_fits claimsOutlived_sound
    (demoClock 0 demoStart_inside)
    [.request 0 Run.demo, .turns 0 14, .finish 0, .request 0 (demoDecision true), .turns 0 11,
      .clock (demoClock 1 (by decide)), .turns 0 1, .crash 0, .clock (demoClock 31 (by decide)),
      .request 1 (.resume 0), .turns 1 22]
    (fun w => (w.state.store.runs 0).any (·.payload.status = .succeeded)) (by decide +kernel)
  cases stored : w.state.store.runs 0 with
  | none => simp [stored] at finished
  | some row =>
    exact ⟨w, row, stored, by simpa [stored] using finished,
      recovery_not_blocked (demo_foreign _) reach stored⟩

def failedInProgress (w : ServiceWorld) : Bool :=
  match w.state.store.runs 0, w.state.store.toolResults 0 "key", w.procs 0 with
  | some row, some claim, .idle =>
    row.payload.endsWith "idempotency_in_progress" && w.state.drawn claim.ownerToken = some 0
  | _, _, _ => false

/-- A worker takes its run lease at second 0 and its tool claim at second 1,
and crashes. The one that may take over at second 30 meets the dead claim,
which lives until second 31, and fails the run. -/
theorem recovery_blocked : ∃ w : ServiceWorld, Machine.Reachable demo.system w ∧ ∃ row claim,
    w.state.store.runs 0 = some row ∧ row.payload.endsWith "idempotency_in_progress" ∧ (w.procs 0).rest = none ∧
    w.state.store.toolResults 0 "key" = some claim ∧ w.state.drawn claim.ownerToken = some 0 := by
  obtain ⟨w, reach, failed⟩ := schedule_reaches demo_fits (demoClock 0 demoStart_inside)
    [.request 0 Run.demo, .turns 0 14, .finish 0, .request 0 (demoDecision true), .turns 0 11,
      .clock (demoClock 1 (by decide)), .turns 0 1, .crash 0, .clock (demoClock 30 (by decide)),
      .request 1 (.resume 0), .turns 1 11]
    failedInProgress (by decide +kernel)
  unfold failedInProgress at failed
  split at failed
  · rename_i row claim stored claimed idle
    simp only [Bool.and_eq_true, decide_eq_true_eq] at failed
    exact ⟨w, reach, row, claim, stored, failed.1, by rw [idle]; rfl, claimed, failed.2⟩
  · cases failed

end ReliabilityLab
