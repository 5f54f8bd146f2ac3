import ReliabilityLab.Runtime.ApprovalSafety
import ReliabilityLab.Runtime.Dossier
import ReliabilityLab.Runtime.Schedule

namespace ReliabilityLab

/-- The step that an approval event names. -/
def EventContent.decidedStep (content : EventContent) : Option Int :=
  (content.payload.obj?.bind (·.lookup "action_step")).bind Json.int?

/-- The fingerprint that an approval event carries. -/
def EventContent.decidedFingerprint (content : EventContent) : Option Json :=
  content.payload.obj?.bind (·.lookup "action_fingerprint")

/-- The records of decisions about one step in a trace. -/
def recordsAt (step : Nat) (trace : List EventContent) : List EventContent :=
  trace.filter fun content => content.eventType = .approvalRecorded ∧ content.decidedStep = some (step : Int)

/-- The decisions of a run and the records in its trace are the same ones. -/
structure Dossier.Recorded (dep : Deployment) (d : Dossier) : Prop where
  row : ∀ content ∈ d.trace, content.eventType = .approvalRecorded → ∃ step row, d.approvals step = some row ∧
    content = dep.stored (Store.recordedEvent d.run.traceId step row)
  record : ∀ step row, d.approvals step = some row → recordsAt step d.trace =
    [dep.stored (Store.recordedEvent d.run.traceId step row)]
  canonical : ∀ step row, d.approvals step = some row → Store.canonicalFingerprint row.actionFingerprint = true

variable {dep : Deployment} {allowed : Allowed} {p : Pid} {s t : SystemState}

theorem decidedStep_recordedEvent (traceId : Uuid) (step : Nat) (row : ApprovalRow) :
    (dep.stored (Store.recordedEvent traceId step row)).decidedStep = some (step : Int) := by
  have plain : isSensitiveKey dep.store.tables "action_step" = false := rfl
  simp [Deployment.stored, Store.cleanEvent, TraceEvent.content, Store.recordedEvent, EventContent.decidedStep,
    Store.sanitize, sanitizePayload, Json.obj?, lookup_sanitizeItems, List.lookup_cons, plain, Json.int?]

theorem decidedFingerprint_recordedEvent (traceId : Uuid) (step : Nat) (row : ApprovalRow) :
    (dep.stored (Store.recordedEvent traceId step row)).decidedFingerprint =
      some (Store.sanitize dep.store (.str row.actionFingerprint)) := by
  have plain : isSensitiveKey dep.store.tables "action_fingerprint" = false := rfl
  simp [Deployment.stored, Store.cleanEvent, TraceEvent.content, Store.recordedEvent, EventContent.decidedFingerprint,
    Store.sanitize, sanitizePayload, Json.obj?, lookup_sanitizeItems, List.lookup_cons, plain]

theorem recordsAt_recordedEvent (traceId : Uuid) (step : Nat) (row : ApprovalRow) :
    recordsAt step [dep.stored (Store.recordedEvent traceId step row)] =
      [dep.stored (Store.recordedEvent traceId step row)] := by
  have kind : (Store.recordedEvent traceId step row).eventType = .approvalRecorded := rfl
  simp [recordsAt, kind, decidedStep_recordedEvent]

theorem recordsAt_append (step : Nat) (trace added : List EventContent) :
    recordsAt step (trace ++ added) = recordsAt step trace ++ recordsAt step added := List.filter_append ..

theorem recordsAt_quiet {step : Nat} {added : List EventContent}
    (quiet : ∀ content ∈ added, content.eventType ≠ .approvalRecorded) : recordsAt step added = [] :=
  List.filter_eq_nil_iff.mpr fun content member => by simp [quiet content member]

/-- Events about other things leave the records as they are. -/
theorem Dossier.Recorded.extend {d : Dossier} (recorded : d.Recorded dep) {next : Run} {added : List EventContent}
    (sameTrace : next.traceId = d.run.traceId) (quiet : ∀ content ∈ added, content.eventType ≠ .approvalRecorded) :
    Dossier.Recorded dep { d with run := next, trace := d.trace ++ added } := by
  constructor
  · intro content member about
    rcases List.mem_append.mp member with before | new
    · rw [sameTrace]
      exact recorded.row content before about
    · exact absurd about (quiet content new)
  · intro step row stored
    show recordsAt step (d.trace ++ added) = [dep.stored (Store.recordedEvent next.traceId step row)]
    rw [recordsAt_append, recordsAt_quiet quiet, List.append_nil, sameTrace]
    exact recorded.record step row stored
  · exact recorded.canonical

theorem EventType.reported_undecided {kind : EventType} (reported : kind.rejection = true ∨ kind.appended = true) :
    kind ≠ .approvalRecorded := by
  revert reported
  cases kind <;> decide

theorem Advance.undecided {run next : Run} {events : List TraceEvent}
    (advance : Advance dep allowed p s run next events) : ∀ event ∈ events, event.eventType ≠ .approvalRecorded := by
  cases advance <;> simp [buildEvent]

/-- A new decision is about a step without one, and so without a record. -/
theorem Dossier.Recorded.decide {d : Dossier} (recorded : d.Recorded dep) {row : ApprovalRow}
    (absent : d.approvals d.run.currentStep = none)
    (canonical : Store.canonicalFingerprint row.actionFingerprint = true) :
    Dossier.Recorded dep { d with
      trace := d.trace ++ [dep.stored (Store.recordedEvent d.run.traceId d.run.currentStep row)]
      approvals := Function.update d.approvals d.run.currentStep (some row) } := by
  have unrecorded : recordsAt d.run.currentStep d.trace = [] := by
    refine List.filter_eq_nil_iff.mpr fun content member found => ?_
    simp only [decide_eq_true_eq] at found
    obtain ⟨step, other, stored, rfl⟩ := recorded.row content member found.1
    have same : step = d.run.currentStep := by
      have named := found.2
      rw [decidedStep_recordedEvent, Option.some.injEq] at named
      exact Int.natCast_inj.mp named
    rw [same, absent] at stored
    cases stored
  have lookup : ∀ step other, Function.update d.approvals d.run.currentStep (some row) step = some other →
      step = d.run.currentStep ∧ other = row ∨ step ≠ d.run.currentStep ∧ d.approvals step = some other := by
    intro step other stored
    by_cases same : step = d.run.currentStep
    · subst same
      exact .inl ⟨rfl, by simpa using stored.symm⟩
    · exact .inr ⟨same, by simpa [Function.update_of_ne same] using stored⟩
  constructor
  · intro content member about
    rcases List.mem_append.mp member with before | new
    · obtain ⟨step, other, stored, same⟩ := recorded.row content before about
      have unequal : step ≠ d.run.currentStep := by rintro rfl; rw [absent] at stored; cases stored
      exact ⟨step, other, (Function.update_of_ne unequal ..).trans stored, same⟩
    · exact ⟨d.run.currentStep, row, Function.update_self .., List.mem_singleton.mp new⟩
  · intro step other stored
    show recordsAt step (d.trace ++ _) = _
    rw [recordsAt_append]
    rcases lookup step other stored with ⟨rfl, rfl⟩ | ⟨unequal, before⟩
    · rw [unrecorded, List.nil_append]
      exact recordsAt_recordedEvent ..
    · have elsewhere : recordsAt step [dep.stored (Store.recordedEvent d.run.traceId d.run.currentStep row)] = [] := by
        refine List.filter_eq_nil_iff.mpr fun content member found => unequal ?_
        cases List.mem_singleton.mp member
        simp only [decide_eq_true_eq, decidedStep_recordedEvent, Option.some.injEq] at found
        exact (Int.natCast_inj.mp found.2).symm
      rw [elsewhere, List.append_nil]
      exact recorded.record step other before
  · intro step other stored
    rcases lookup step other stored with ⟨-, rfl⟩ | ⟨-, before⟩
    · exact canonical
    · exact recorded.canonical step other before

theorem DossierStep.recorded {d d' : Dossier} (step : DossierStep dep allowed d d') (recorded : d.Recorded dep) :
    d'.Recorded dep := by
  cases step with
  | appended event reported =>
    refine recorded.extend rfl fun content member => ?_
    cases List.mem_singleton.mp member
    exact EventType.reported_undecided reported
  | advanced p s next events mine approvals advance =>
    refine recorded.extend advance.identity.2 fun content member => ?_
    obtain ⟨event, among, rfl⟩ := List.mem_map.mp member
    exact advance.undecided event among
  | decided row waiting pending absent canonical => exact recorded.decide absent canonical

theorem system_recorded {w : ServiceWorld} (reach : Machine.Reachable (dep.system.restrict allowed) w) {id : Uuid}
    {row : RunRow} (stored : w.state.store.runs id = some row) :
    Dossier.Recorded dep ⟨row.payload, w.state.store.traceContents row.payload.traceId, w.state.store.approvals id⟩ :=
  dossier_invariant reach (fun _ _ => ⟨by simp, by simp, by simp⟩) (fun _ _ step recorded => step.recorded recorded)
    (dossier_some stored)

/-- A decision stays what it is, whatever the system does next. -/
theorem decision_persists {w v : ServiceWorld} {id : Uuid} {step : Nat} {decision : ApprovalRow} (reach : Machine.Reachable dep.system w)
    (move : Machine.Step dep.system w v) (stored : w.state.store.approvals id step = some decision) :
    v.state.store.approvals id step = some decision := by
  rcases system_step reach.unrestricted move.unrestricted with still | ⟨p, op, now, -, effect⟩
  · rw [still.approvals]
    exact stored
  · cases effect with
    | still same => rw [same.approvals]; exact stored
    | created _ _ _ _ _ approvals => rw [approvals]; exact stored
    | appended _ _ _ _ approvals => rw [approvals]; exact stored
    | advanced _ _ _ _ _ _ _ _ _ approvals => rw [approvals]; exact stored
    | decided other at_step row run absent _ _ _ _ _ _ approvals =>
      rw [approvals]
      by_cases same : id = other
      · subst same
        have unequal : step ≠ at_step := by rintro rfl; rw [absent] at stored; cases stored
        simpa [Store.setApproval, Function.update_of_ne unequal] using stored
      · rw [Store.setApproval_of_ne _ _ same]
        exact stored

/-- The worlds that a system can come to from a world. -/
abbrev Later (dep : Deployment) : ServiceWorld → ServiceWorld → Prop := Machine.Leads dep.system

theorem Later.keeps {w u : ServiceWorld} {id : Uuid} {step : Nat} {decision : ApprovalRow} (later : Later dep w u) (reach : Machine.Reachable dep.system w)
    (stored : w.state.store.approvals id step = some decision) : u.state.store.approvals id step = some decision := by
  induction later with
  | refl => exact stored
  | tail before move ih => exact decision_persists (Machine.Leads.reachable before reach) move ih

/-- Only a pause stores a run as waiting, and a pause meets no decision about its step. -/
theorem pause_undecided {w v : ServiceWorld} (reach : Machine.Reachable dep.system w) (move : Machine.Step dep.system w v)
    {id : Uuid} {next : RunRow} (stored : v.state.store.runs id = some next)
    (changed : w.state.store.runs id ≠ some next) (waiting : next.payload.status = .waitingApproval) :
    v.state.store.approvals id next.payload.currentStep = none := by
  rcases system_step reach.unrestricted move.unrestricted with still | ⟨p, op, now, -, effect⟩
  · rw [still.runs] at stored
    exact absurd stored changed
  · cases effect with
    | still same => rw [same.runs] at stored; exact absurd stored changed
    | appended _ _ _ runs => rw [runs] at stored; exact absurd stored changed
    | decided _ _ _ _ _ _ _ _ _ _ runs => rw [runs] at stored; exact absurd stored changed
    | created run fresh _ _ runs =>
      rw [runs, Function.update_apply] at stored
      split at stored
      · obtain ⟨_, _, _, _, _, _, rfl⟩ := fresh
        cases stored
        cases waiting
      · exact absurd stored changed
    | advanced prior after events row mine before payload advance runs approvals =>
      rw [runs, Function.update_apply] at stored
      split at stored
      · rename_i same
        cases stored
        rw [approvals, same]
        cases advance with
        | pause _ _ _ _ undecided => exact undecided mine
        | begin | succeed | fail | deny => cases waiting
        | reserve running => exact absurd (running.symm.trans waiting) (by decide)
        | checkpoint _ _ _ _ _ _ running => exact absurd (running.symm.trans waiting) (by decide)
      · exact absurd stored changed

/-- A decision comes in only for a run that waits for exactly it, and leaves that run as it is. -/
theorem decision_awaited {w v : ServiceWorld} (reach : Machine.Reachable dep.system w) (move : Machine.Step dep.system w v)
    {id : Uuid} {step : Nat} {decision : ApprovalRow} (absent : w.state.store.approvals id step = none)
    (stored : v.state.store.approvals id step = some decision) :
    ∃ run, w.state.store.runs id = some run ∧ v.state.store.runs id = some run ∧
      run.payload.status = .waitingApproval ∧ run.payload.currentStep = step ∧
      run.payload.pendingActionFingerprint = some decision.actionFingerprint := by
  have unchanged : v.state.store.approvals ≠ w.state.store.approvals := by
    intro same
    rw [same, absent] at stored
    cases stored
  rcases system_step reach.unrestricted move.unrestricted with still | ⟨p, op, now, -, effect⟩
  · exact absurd still.approvals unchanged
  · cases effect with
    | still same => exact absurd same.approvals unchanged
    | created _ _ _ _ _ approvals => exact absurd approvals unchanged
    | appended _ _ _ _ approvals => exact absurd approvals unchanged
    | advanced _ _ _ _ _ _ _ _ _ approvals => exact absurd approvals unchanged
    | decided other at_step row run _ _ there waiting here pending runs approvals =>
      rw [approvals] at stored
      by_cases same : id = other
      · subst same
        by_cases sameStep : step = at_step
        · subst sameStep
          rw [Store.setApproval_self] at stored
          cases stored
          exact ⟨run, there, by rw [runs]; exact there, waiting, here, pending⟩
        · simp [Store.setApproval, Function.update_of_ne sameStep, absent] at stored
      · rw [Store.setApproval_of_ne _ _ same, absent] at stored
        cases stored

/-- No decision is lost, between any two worlds of one run of the system. -/
theorem no_decision_lost {w u v : ServiceWorld} (reach : Machine.Reachable dep.system w) (later : Later dep w u)
    (move : Machine.Step dep.system u v) (id : Uuid) :
    (∀ step decision next, w.state.store.approvals id step = some decision → v.state.store.runs id = some next →
      u.state.store.runs id ≠ some next → next.payload.status = .waitingApproval → next.payload.currentStep ≠ step) ∧
    (∀ step decision, u.state.store.approvals id step = none → v.state.store.approvals id step = some decision →
      ∃ run, u.state.store.runs id = some run ∧ v.state.store.runs id = some run ∧
        run.payload.status = .waitingApproval ∧ run.payload.currentStep = step ∧
        run.payload.pendingActionFingerprint = some decision.actionFingerprint) ∧
    ∀ next, v.state.store.runs id = some next → u.state.store.runs id ≠ some next →
      next.payload.status = .waitingApproval → v.state.store.approvals id next.payload.currentStep = none := by
  have between := Machine.Leads.reachable later reach
  refine ⟨fun step decision next stored after changed waiting same => ?_, fun step decision => decision_awaited between move,
    fun next => pause_undecided between move⟩
  have kept := decision_persists between move (Later.keeps later reach stored)
  have undecided := pause_undecided between move after changed waiting
  rw [same, kept] at undecided
  cases undecided

def decidedAt (allow : Bool) (w : ServiceWorld) : Bool :=
  decide (w.state.store.approvals 0 0 = some ⟨demoFingerprint, "reviewer", allow, none⟩)

/-- The demo run, allowed at its first step, and the clock moves on. -/
theorem no_decision_lost_demo : ∃ (w v : ServiceWorld) (decision : ApprovalRow), Machine.Reachable demo.system w ∧
    Machine.Step demo.system w v ∧ w.state.store.approvals 0 0 = some decision ∧
    ∀ next, v.state.store.runs 0 = some next → w.state.store.runs 0 ≠ some next →
      next.payload.status = .waitingApproval → next.payload.currentStep ≠ 0 := by
  obtain ⟨w, reach, decided⟩ := schedule_reaches demo_fits (demoClock 0 demoStart_inside)
    [.request 0 Run.demo, .turns 0 14, .finish 0, .request 0 (demoDecision true), .turns 0 2] (decidedAt true)
    (by decide +kernel)
  have stored : w.state.store.approvals 0 0 = _ := of_decide_eq_true decided
  have move : Machine.Step demo.system w ⟨{ w.state with clock := demoClock 9 (by decide) }, w.procs⟩ :=
    .ambient (.tick _)
  exact ⟨w, _, _, reach, move, stored, fun next => (no_decision_lost reach .refl move 0).1 0 _ next stored⟩

namespace Store
variable {cfg : StoreSettings} {st : Store} {id : Uuid} {step : Nat} {row : ApprovalRow}

/-- Whatever the state of the run, a decision that is there is answered again. -/
theorem recordPendingApproval_repeated (stored : st.approvals id step = some row)
    (canonical : canonicalFingerprint row.actionFingerprint = true) :
    recordPendingApprovalAt cfg id step row st = .ok (row, st) := by
  have natural : ¬ ((step : Int) < 0) := by omega
  simp [recordPendingApprovalAt, natural, recordPendingApproval, canonical, stored]

/-- A decision that is malformed, that another one precedes, or that the run does not wait for. -/
def Mistargeted (st : Store) (id : Uuid) (step : Int) (row : ApprovalRow) : Prop :=
  step < 0 ∨ canonicalFingerprint row.actionFingerprint = false ∨
    st.approvals id step.toNat ≠ some row ∧
      (st.approvals id step.toNat ≠ none ∨ st.pausedOn id step.toNat row.actionFingerprint = false)

theorem recordPendingApproval_refused {step : Int} (refused : st.Mistargeted id step row) :
    recordPendingApprovalAt cfg id step row st = .error .valueError := by
  unfold recordPendingApprovalAt
  split
  · rfl
  · rename_i natural
    rcases refused with negative | malformed | ⟨unequal, elsewhere⟩
    · exact absurd negative natural
    · simp [recordPendingApproval, malformed]
    · unfold recordPendingApproval
      split
      · rfl
      · split
        · rename_i previous stored
          have other : previous ≠ row := by rintro rfl; exact unequal stored
          simp [other]
        · rename_i absent
          have unpaused : st.pausedOn id step.toNat row.actionFingerprint = false := by simpa [absent] using elsewhere
          split
          · rfl
          · simp [unpaused]

end Store

theorem Settles.refused_still {α : Type} {tx : Tx α} {st after : Store} {answer : Except Exn α} {error : Exn}
    (refused : tx st = .error error) (settled : Settles tx st answer after) : after = st := by
  cases settled with
  | committed done => rw [refused] at done; cases done
  | refused | broken => rfl

/-- The rows of the `runs` table stay, and those of the `approvals` table refer to them. -/
theorem decided_run {w : ServiceWorld} {id : Uuid} {step : Nat} {decision : ApprovalRow}
    (reach : Machine.Reachable dep.system w) (stored : w.state.store.approvals id step = some decision) :
    ∃ run, w.state.store.runs id = some run := by
  have invariant := system_invariant reach.unrestricted
    (J := fun s => ∀ id step decision, s.store.approvals id step = some decision → ∃ run, s.store.runs id = some run)
    (fun s empty id step decision stored => by rw [empty] at stored; cases stored)
    (fun s t same there => by rw [same.approvals, same.runs]; exact there) ?_
  · exact invariant id step decision stored
  · intro p op now s t _ _ effect there id step decision stored
    have kept : ∀ prior row, (∃ run, s.store.runs id = some run) →
        ∃ run, Function.update s.store.runs prior (some row) id = some run := by
      intro prior row ⟨run, before⟩
      by_cases same : id = prior
      · exact ⟨row, by rw [same, Function.update_self]⟩
      · exact ⟨run, by rw [Function.update_of_ne same, before]⟩
    cases effect with
    | still same => rw [same.runs]; exact there id step decision (same.approvals ▸ stored)
    | created _ _ _ _ runs approvals => rw [runs]; exact kept _ _ (there id step decision (approvals ▸ stored))
    | appended _ _ _ runs approvals => rw [runs]; exact there id step decision (approvals ▸ stored)
    | advanced _ _ _ _ _ _ _ _ runs approvals => rw [runs]; exact kept _ _ (there id step decision (approvals ▸ stored))
    | decided other at_step row run absent _ before _ _ _ runs approvals =>
      rw [runs]
      by_cases same : id = other
      · exact ⟨run, same ▸ before⟩
      · rw [approvals, Store.setApproval_of_ne _ _ same] at stored
        exact there id step decision stored

/-- The demo deployment with a configured secret that occurs in the fingerprint. -/
def demoRedacting : Deployment := { demo with store := { demo.store with secretValues := ["aaaa"] } }

def recordsAnother (w : ServiceWorld) : Bool :=
  match w.state.store.runs 0, w.state.store.approvals 0 0 with
  | some run, some decision => (w.state.store.traceContents run.payload.traceId).all fun content =>
      (content.decidedFingerprint.bind Json.str?).all fun text => text ≠ decision.actionFingerprint
  | _, _ => false

end ReliabilityLab
