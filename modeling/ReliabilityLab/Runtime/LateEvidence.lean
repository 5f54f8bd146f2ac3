import ReliabilityLab.Runtime.Effect
import ReliabilityLab.Runtime.Schedule

namespace ReliabilityLab

/-- `run.succeeded` and `run.failed`. -/
def EventType.concludes : EventType → Bool
  | .runSucceeded | .runFailed => true
  | _ => false

/-- The events of an execution: `policy.action`, `run.running`, `run.waiting_approval`,
`run.checkpointed`, `fault.injected` and every `tool.*`. -/
def EventType.execution : EventType → Bool
  | .runWaitingApproval | .runCheckpointed => true
  | eventType => eventType.appended

/-- No execution event comes after a concluding one of its trace. -/
def NothingLate (contents : List EventContent) : Prop :=
  contents.Pairwise fun first later =>
    first.traceId = later.traceId → first.eventType.concludes = true → later.eventType.execution = false

/-- The worker that appends an execution event is the one whose token the
lease row of that run names. -/
def AppendsUnderLease : Allowed := fun p op _ s =>
  ∀ event, op = .appendEvent event → event.eventType.execution = true →
    ∃ id row, s.store.runs id = some row ∧ row.payload.traceId = event.traceId ∧ Mine p id s

/-- Concluded traces belong to runs that are over, and nothing late is in the store. -/
structure Concluded (s : SystemState) : Prop where
  terminal : ∀ content ∈ s.store.contents, content.eventType.concludes = true →
    ∃ id row, s.store.runs id = some row ∧ row.payload.traceId = content.traceId ∧ row.payload.status.terminal = true
  nothingLate : NothingLate s.store.contents

variable {dep : Deployment} {allowed : Allowed} {p : Pid} {s t : SystemState}

/-- A change that writes a concluding event ends the run, and writes no execution event. -/
theorem Advance.concludes {run next : Run} {events : List TraceEvent}
    (advance : Advance dep allowed p s run next events) :
    next.status.terminal = true ∧ (∀ event ∈ events, event.eventType.execution = false) ∨
      ∀ event ∈ events, event.eventType.concludes = false := by
  cases advance with
  | begin | reserve | pause | checkpoint => exact .inr (by simp [buildEvent, EventType.concludes])
  | succeed | fail | deny =>
    exact .inl ⟨rfl, by simp [buildEvent, EventType.execution, EventType.appended]⟩

theorem NothingLate.append {contents added : List EventContent} (before : NothingLate contents)
    (fresh : ∀ first ∈ contents, ∀ later ∈ added, first.traceId = later.traceId →
      first.eventType.concludes = true → later.eventType.execution = false)
    (within : NothingLate added) : NothingLate (contents ++ added) :=
  List.pairwise_append.mpr ⟨before, within, fresh⟩

/-- Of a run that is not over no concluding event is stored. -/
theorem Concluded.unconcluded (concluded : Concluded s) (valid : Consistent s) {id : Uuid} {row : RunRow}
    (stored : s.store.runs id = some row) (active : row.payload.status.terminal = false)
    {content : EventContent} (member : content ∈ s.store.contents)
    (trace : content.traceId = row.payload.traceId) : content.eventType.concludes = false := by
  by_contra concludes
  obtain ⟨other, found, at_other, sameTrace, terminal⟩ :=
    concluded.terminal content member (by simpa using concludes)
  have same : other = id := valid.traces _ _ _ _ at_other stored (sameTrace.trans trace)
  subst same
  cases Option.some.inj (at_other.symm.trans stored)
  rw [active] at terminal
  cases terminal

theorem Concluded.still (still : Still s t) (concluded : Concluded s) : Concluded t := by
  obtain ⟨runs, -, contents⟩ := still
  constructor
  · rw [contents, runs]; exact concluded.terminal
  · rw [contents]; exact concluded.nothingLate

theorem nothingLate_single (content : EventContent) : NothingLate [content] := List.pairwise_singleton ..

theorem Concluded.step {op : Op} {now : DateTime} (valid : Consistent s) (lease : AppendsUnderLease p op now s)
    (effect : Effect dep allowed p op s t) (concluded : Concluded s) : Concluded t := by
  cases effect with
  | still same => exact concluded.still same
  | created run fresh unsaved unused runs approvals contents =>
    refine ⟨?_, by rw [contents]; exact concluded.nothingLate⟩
    intro content member concludes
    rw [contents] at member
    obtain ⟨id, row, stored, trace, terminal⟩ := concluded.terminal content member concludes
    refine ⟨id, row, ?_, trace, terminal⟩
    have unequal : id ≠ run.id := by rintro rfl; rw [unsaved] at stored; cases stored
    rw [runs, Function.update_of_ne unequal]
    exact stored
  | appended event same reported runs approvals contents =>
    have silent : event.eventType.concludes = false := by
      rcases reported with ⟨rejection, -⟩ | ⟨appended, -⟩
      · revert rejection; cases event.eventType <;> simp [EventType.rejection, EventType.concludes]
      · revert appended; cases event.eventType <;> simp [EventType.appended, EventType.concludes]
    constructor
    · intro content member concludes
      rw [contents, List.mem_append] at member
      rw [runs]
      rcases member with before | added
      · exact concluded.terminal content before concludes
      · rw [List.mem_singleton.mp added] at concludes
        exact absurd concludes (by simp [Deployment.stored, Store.cleanEvent, TraceEvent.content, silent])
    · rw [contents]
      refine concluded.nothingLate.append ?_ (nothingLate_single _)
      intro first before later added trace concludes
      rw [List.mem_singleton.mp added] at trace ⊢
      by_contra executes
      have execution : event.eventType.execution = true := (Bool.not_eq_false _).mp executes
      rcases reported with ⟨rejection, -⟩ | ⟨-, run, holds, running, sameTrace⟩
      · revert rejection execution
        cases event.eventType <;> simp [EventType.rejection, EventType.execution, EventType.appended]
      · obtain ⟨id, row, stored, rowTrace, mine⟩ := lease event same execution
        obtain ⟨held, atHeld, -, heldTrace, -⟩ := holds.1
        have sameId : id = run.id :=
          valid.traces _ _ _ _ stored atHeld (by rw [rowTrace, sameTrace, heldTrace])
        subst sameId
        obtain ⟨current, atCurrent, payload⟩ := holds.2 mine
        have active : current.payload.status.terminal = false := by rw [payload, running]; rfl
        have unconcluded := concluded.unconcluded valid atCurrent active before
          (by rw [payload]; exact trace.trans sameTrace)
        rw [unconcluded] at concludes
        cases concludes
  | advanced prior next events row mine stored payload advance runs approvals contents =>
    have active : row.payload.status.terminal = false := by rw [payload]; exact advance.active
    have quiet : ∀ first ∈ s.store.contents, ∀ later ∈ events.map dep.stored, first.traceId = later.traceId →
        first.eventType.concludes = false := by
      intro first before later added trace
      obtain ⟨event, member, rfl⟩ := List.mem_map.mp added
      exact concluded.unconcluded valid stored active before
        (by rw [payload, trace]; exact advance.trace event member)
    constructor
    · intro content member concludes
      rw [contents, List.mem_append] at member
      rw [runs]
      rcases member with before | added
      · obtain ⟨id, found, at_id, trace, terminal⟩ := concluded.terminal content before concludes
        have unequal : id ≠ prior.id := by
          rintro rfl
          cases Option.some.inj (at_id.symm.trans stored)
          rw [active] at terminal
          cases terminal
        exact ⟨id, found, by rw [Function.update_of_ne unequal]; exact at_id, trace, terminal⟩
      · obtain ⟨event, member, rfl⟩ := List.mem_map.mp added
        refine ⟨prior.id, _, Function.update_self .., ?_, ?_⟩
        · exact advance.identity.2.trans (advance.trace event member).symm
        · rcases advance.concludes with ⟨terminal, -⟩ | silent
          · exact terminal
          · exact absurd concludes (ne_true_of_eq_false (silent event member))
    · rw [contents]
      refine concluded.nothingLate.append (fun first before later added trace concludes => ?_) ?_
      · rw [quiet first before later added trace] at concludes
        cases concludes
      · refine List.pairwise_map.mpr (List.pairwise_of_forall_mem_list ?_)
        intro first atFirst later atLater _ concludes
        rcases advance.concludes with ⟨-, none⟩ | silent
        · exact none later atLater
        · exact absurd concludes (ne_true_of_eq_false (silent first atFirst))
  | decided id step row run absent canonical stored waiting cursor fingerprint runs approvals contents =>
    constructor
    · intro content member concludes
      rw [contents, List.mem_append] at member
      rw [runs]
      rcases member with before | added
      · exact concluded.terminal content before concludes
      · rw [List.mem_singleton.mp added] at concludes
        cases concludes
    · rw [contents]
      refine concluded.nothingLate.append ?_ (nothingLate_single _)
      intro first _ later added _ _
      rw [List.mem_singleton.mp added]
      rfl

/-- No execution event is stored after the terminal event of its trace. -/
def NoEvidenceAfterTerminal (st : Store) : Prop :=
  st.events.Pairwise fun first later =>
    first.traceId = later.traceId → first.eventType.concludes = true → later.eventType.execution = false

instance (st : Store) : Decidable (NoEvidenceAfterTerminal st) := inferInstanceAs (Decidable (List.Pairwise _ _))

/-- In every run whose execution events are appended under the lease, nothing
of an execution is stored after its terminal event. -/
theorem no_evidence_after_terminal {w : ServiceWorld}
    (reach : Machine.Reachable (dep.system.restrict AppendsUnderLease) w) : NoEvidenceAfterTerminal w.state.store := by
  have concluded : Concluded w.state := system_invariant reach
    (fun s empty => ⟨by rw [empty]; simp [Store.contents, Store.empty], by rw [empty]; exact List.Pairwise.nil⟩)
    (fun _ _ still => Concluded.still still)
    fun _ _ _ _ _ valid lease effect => Concluded.step valid lease effect
  exact List.pairwise_map.mp concluded.nothingLate

/-- `AppendsUnderLease`, evaluated for the one run of the demo. -/
def appendsUnderLease (p : Pid) (op : Op) (_ : DateTime) (s : SystemState) : Bool :=
  match op with
  | .appendEvent event => !event.eventType.execution ||
      match s.store.runs 0, s.store.leases 0 with
      | some row, some lease => row.payload.traceId = event.traceId && s.drawn lease.ownerToken = some p
      | _, _ => false
  | _ => true

theorem appendsUnderLease_sound (p : Pid) (op : Op) (now : DateTime) (s : SystemState)
    (permitted : appendsUnderLease p op now s = true) : AppendsUnderLease p op now s := by
  rintro event rfl execution
  simp only [appendsUnderLease, execution, Bool.not_true, Bool.false_or] at permitted
  split at permitted
  · rename_i row lease stored named
    simp only [Bool.and_eq_true, decide_eq_true_eq] at permitted
    exact ⟨0, row, stored, permitted.1, lease, named, permitted.2⟩
  · cases permitted

def succeededIn (w : ServiceWorld) : Bool := w.state.store.events.any (·.eventType = .runSucceeded)

/-- A paused, approved and finished run of the demo. -/
theorem no_evidence_after_terminal_demo : ∃ w : ServiceWorld, succeededIn w = true ∧
    NoEvidenceAfterTerminal w.state.store := by
  obtain ⟨w, reach, succeeded⟩ := restricted_reaches demo_fits appendsUnderLease_sound (demoClock 0 demoStart_inside)
    [.request 0 Run.demo, .turns 0 14, .finish 0, .request 0 (demoDecision true), .turns 0 24] succeededIn
    (by decide +kernel)
  exact ⟨w, succeeded, no_evidence_after_terminal reach⟩

/-- A worker stands behind its handler call when its leases expire. Another one
finishes the run, and then the first appends its `tool.attempt.succeeded`. -/
theorem evidence_after_terminal : ∃ w : ServiceWorld, Machine.Reachable demo.system w ∧
    ¬ NoEvidenceAfterTerminal w.state.store := by
  obtain ⟨w, reach, late⟩ := schedule_reaches demo_fits (demoClock 0 demoStart_inside)
    [.request 0 Run.demo, .turns 0 14, .finish 0, .request 0 (demoDecision true), .turns 0 15,
      .clock (demoClock 60 (by decide)), .request 1 (.resume 0), .turns 1 20, .turns 0 1]
    (fun w => !decide (NoEvidenceAfterTerminal w.state.store)) (by decide +kernel)
  exact ⟨w, reach, by simpa using late⟩

end ReliabilityLab
