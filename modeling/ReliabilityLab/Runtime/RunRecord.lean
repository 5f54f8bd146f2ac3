import ReliabilityLab.Runtime.ApprovalSafety
import ReliabilityLab.Runtime.Dossier

namespace ReliabilityLab

/-- Which fields of a stored run go together. -/
structure Run.Coupled (dep : Deployment) (run : Run) : Prop where
  waiting : run.status = .waitingApproval ↔ run.pendingApproval = true
  paired : run.pendingAction = none ↔ run.pendingActionFingerprint = none
  active : run.pendingAction ≠ none → run.status = .waitingApproval ∨ run.status = .running
  fingerprint : ∀ action, run.pendingAction = some action →
    run.pendingActionFingerprint = some (dep.actionFingerprint action)
  result : run.result = none ↔ run.status.terminal = false

/-- The step that a `run.waiting_approval` event names. -/
def EventContent.pausedStep (content : EventContent) : Option Int :=
  (content.payload.obj?.bind (·.lookup "step")).bind Json.int?

/-- The step of the last pause in a trace. -/
def lastPause (trace : List EventContent) : Option Int :=
  (trace.filter (·.eventType = .runWaitingApproval)).getLast?.bind EventContent.pausedStep

/-- What may happen to the stored row of one run. -/
inductive RowMove : Option RunRow → Option RunRow → Prop
  | same (found : Option RunRow) : RowMove found found
  | created (row : RunRow) : row.payload.status = .queued → RowMove none (some row)
  | changed (row next : RunRow) : next.payload.status ∈ allowedTransitions row.payload.status →
      RowMove (some row) (some next)

variable {dep : Deployment} {allowed : Allowed} {p : Pid} {s t : SystemState}

theorem Run.fresh.coupled {run : Run} (fresh : run.fresh) : Run.Coupled dep { run with version := 1 } := by
  obtain ⟨_, _, _, _, _, _, rfl⟩ := fresh
  constructor <;> simp [Run.new, RunStatus.terminal]

/-- Every change of a stored run is an allowed transition. -/
theorem Advance.transition {run next : Run} {events : List TraceEvent}
    (advance : Advance dep allowed p s run next events) : next.status ∈ allowedTransitions run.status := by
  cases advance with
  | begin stopped => rcases stopped with status | status <;> simp [Run.started, status, allowedTransitions]
  | reserve running => simp [Run.reserved, running, allowedTransitions]
  | succeed _ running => simp [Run.succeededWith, running, allowedTransitions]
  | fail _ _ _ running => simp [Run.failedWith, running, allowedTransitions]
  | pause _ running => simp [Run.pausedOn, running, allowedTransitions]
  | checkpoint _ _ _ _ _ _ running => simp [Run.checkpointed, running, allowedTransitions]
  | deny _ _ _ _ waiting => simp [Run.deniedWith, waiting, allowedTransitions]

/-- A run that is still going has no result. -/
theorem Run.Coupled.pending {run : Run} (coupled : run.Coupled dep) (active : run.status.terminal = false) :
    run.result = none := coupled.result.mpr active

theorem Run.Coupled.unpaused {run : Run} (coupled : run.Coupled dep) (running : run.status = .running) :
    run.pendingApproval = false := by
  have waiting := coupled.waiting
  simpa [running] using waiting

theorem Advance.coupled {run next : Run} {events : List TraceEvent}
    (advance : Advance dep allowed p s run next events) (coupled : run.Coupled dep) :
    (next.bumped run).Coupled dep := by
  have result := coupled.pending advance.active
  cases advance with
  | begin =>
    exact ⟨by simp [Run.bumped, Run.started], coupled.paired, fun _ => .inr rfl, coupled.fingerprint,
      by simp [Run.bumped, Run.started, result, RunStatus.terminal]⟩
  | reserve running =>
    exact ⟨coupled.waiting, coupled.paired, coupled.active, coupled.fingerprint, coupled.result⟩
  | succeed _ running =>
    have unpaused := coupled.unpaused running
    constructor <;> simp [Run.bumped, Run.succeededWith, unpaused, RunStatus.terminal]
  | fail => constructor <;> simp [Run.bumped, Run.failedWith, RunStatus.terminal]
  | pause => constructor <;> simp [Run.bumped, Run.pausedOn, result, RunStatus.terminal]
  | checkpoint _ _ _ _ _ _ running =>
    constructor <;> simp [Run.bumped, Run.checkpointed, running, result, RunStatus.terminal]
  | deny => constructor <;> simp [Run.bumped, Run.deniedWith, RunStatus.terminal]

/-- The last pause of the trace is at the cursor as long as its action is pending. -/
def Dossier.Paused (d : Dossier) : Prop :=
  d.run.pendingAction ≠ none → lastPause d.trace = some (d.run.currentStep : Int)

theorem lastPause_append {trace added : List EventContent} (quiet : ∀ content ∈ added, content.eventType ≠ .runWaitingApproval) :
    lastPause (trace ++ added) = lastPause trace := by
  have none : added.filter (·.eventType = .runWaitingApproval) = [] :=
    List.filter_eq_nil_iff.mpr fun content member => by simp [quiet content member]
  rw [lastPause, List.filter_append, none, List.append_nil]
  rfl

theorem lastPause_pause {trace : List EventContent} {run : Run} {action : CallToolAction} {fingerprint : String} :
    lastPause (trace ++ [dep.stored (buildEvent dep run.traceId .runWaitingApproval
      (.obj [("tool_name", .str action.toolName), ("step", .int run.currentStep),
        ("action_fingerprint", .str fingerprint)]) none "ok")]) = some (run.currentStep : Int) := by
  have plain : isSensitiveKey dep.store.tables "step" = false := rfl
  rw [lastPause, List.filter_append]
  simp [Deployment.stored, Store.cleanEvent, TraceEvent.content, buildEvent, EventContent.pausedStep,
    Store.sanitize, sanitizePayload, Json.obj?, lookup_sanitizeItems, List.lookup_cons, plain, Json.int?]

theorem EventType.reported_unpaused {kind : EventType} (reported : kind.rejection = true ∨ kind.appended = true) :
    kind ≠ .runWaitingApproval := by
  revert reported
  cases kind <;> decide

theorem DossierStep.paused {d d' : Dossier} (step : DossierStep dep allowed d d') (paused : d.Paused) : d'.Paused := by
  cases step with
  | appended event reported =>
    intro pending
    rw [lastPause_append]
    · exact paused pending
    · intro content member
      cases List.mem_singleton.mp member
      exact EventType.reported_unpaused reported
  | decided row =>
    intro pending
    rw [lastPause_append]
    · exact paused pending
    · intro content member
      cases List.mem_singleton.mp member
      simp [Deployment.stored, Store.cleanEvent, TraceEvent.content, Store.recordedEvent]
  | advanced p s next events mine approvals advance =>
    intro pending
    cases advance with
    | pause => exact lastPause_pause
    | begin =>
      rw [lastPause_append]
      · exact paused pending
      · intro content member
        cases List.mem_singleton.mp member
        simp [Deployment.stored, Store.cleanEvent, TraceEvent.content, buildEvent]
    | reserve =>
      rw [List.map_nil, List.append_nil]
      exact paused pending
    | succeed | fail | checkpoint | deny => exact absurd rfl pending

/-- The sequence of stored rows of one run: what one step of the system does to it. -/
theorem system_rowMove {w v : ServiceWorld} (reach : Machine.Reachable (dep.system.restrict allowed) w)
    (move : Machine.Step (dep.system.restrict allowed) w v) (id : Uuid) :
    RowMove (w.state.store.runs id) (v.state.store.runs id) := by
  rcases system_step reach move with still | ⟨p, op, now, -, effect⟩
  · rw [still.runs]
    exact .same _
  · cases effect with
    | still same => rw [same.runs]; exact .same _
    | appended _ _ _ runs => rw [runs]; exact .same _
    | decided _ _ _ _ _ _ _ _ _ _ runs => rw [runs]; exact .same _
    | created run fresh unsaved _ runs =>
      by_cases same : id = run.id
      · subst same
        rw [unsaved, runs, Function.update_self]
        obtain ⟨_, _, _, _, _, _, rfl⟩ := fresh
        exact .created _ rfl
      · rw [runs, Function.update_of_ne same]
        exact .same _
    | advanced prior next events row mine stored payload advance runs =>
      subst payload
      by_cases same : id = row.payload.id
      · subst same
        rw [stored, runs, Function.update_self]
        exact .changed _ _ advance.transition
      · rw [runs, Function.update_of_ne same]
        exact .same _

theorem RowMove.terminal {row : RunRow} {found : Option RunRow} (move : RowMove (some row) found)
    (terminal : row.payload.status.terminal = true) : found = some row := by
  cases move with
  | same => rfl
  | changed _ next allowed =>
    revert terminal allowed
    cases row.payload.status <;> simp [RunStatus.terminal, allowedTransitions]

/-- The record of every run, in every reachable state and over every step. -/
theorem run_record_invariant {w : ServiceWorld} (reach : Machine.Reachable dep.system w) (id : Uuid) :
    (∀ row, w.state.store.runs id = some row → row.payload.Coupled dep ∧
      (row.payload.pendingAction ≠ none →
        lastPause (w.state.store.traceContents row.payload.traceId) = some (row.payload.currentStep : Int))) ∧
    ∀ v, Machine.Step dep.system w v → RowMove (w.state.store.runs id) (v.state.store.runs id) ∧
      ∀ row, w.state.store.runs id = some row → row.payload.status.terminal = true →
        v.state.store.runs id = some row := by
  constructor
  · intro row stored
    have invariant := dossier_invariant (R := fun d => d.run.Coupled dep ∧ d.Paused) reach.unrestricted
      (fun run fresh => ⟨fresh.coupled, fun pending => by
        obtain ⟨_, _, _, _, _, _, rfl⟩ := fresh
        exact absurd rfl pending⟩)
      (fun d d' step ⟨coupled, paused⟩ => ⟨?_, step.paused paused⟩) (dossier_some stored)
    · exact invariant
    · cases step with
      | appended | decided => exact coupled
      | advanced p s next events mine approvals advance => exact advance.coupled coupled
  · intro v move
    have moved := system_rowMove reach.unrestricted move.unrestricted id
    refine ⟨moved, fun row stored terminal => ?_⟩
    rw [stored] at moved
    exact moved.terminal terminal

def pausedRun (w : ServiceWorld) : Bool :=
  match w.state.store.runs 0 with
  | some row => row.payload.pendingAction.isSome
  | none => false

/-- The demo run, paused at its first step. -/
theorem run_record_invariant_demo : ∃ (w : ServiceWorld) (row : RunRow), Machine.Reachable demo.system w ∧
    w.state.store.runs 0 = some row ∧ row.payload.Coupled demo ∧ row.payload.pendingAction ≠ none ∧
    lastPause (w.state.store.traceContents row.payload.traceId) = some (row.payload.currentStep : Int) := by
  obtain ⟨w, reach, paused⟩ := schedule_reaches demo_fits (demoClock 0 demoStart_inside)
    [.request 0 Run.demo, .turns 0 14] pausedRun (by decide +kernel)
  unfold pausedRun at paused
  split at paused
  · rename_i row stored
    have pending : row.payload.pendingAction ≠ none := by simpa [Option.isSome_iff_ne_none] using paused
    obtain ⟨coupled, pause⟩ := (run_record_invariant reach 0).1 row stored
    exact ⟨w, row, reach, stored, coupled, pending, pause pending⟩
  · cases paused

end ReliabilityLab
