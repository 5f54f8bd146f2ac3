import ReliabilityLab.Runtime.LateEvidence
import ReliabilityLab.Runtime.Recovery

namespace ReliabilityLab

/-- An `approval.recorded` event of a denial. -/
def EventContent.deniedRecord (content : EventContent) : Bool :=
  content.eventType = .approvalRecorded &&
    (content.payload.obj?.bind (·.lookup "allow")).bind Json.bool? = some false

def deniedEvent (dep : Deployment) (traceId : Uuid) (step : Nat) (decision : ApprovalRow) : TraceEvent :=
  buildEvent dep traceId .approvalDenied
    (.obj (deniedPayload decision.actor decision.reason step decision.actionFingerprint)) none "error"

def deniedFailure (dep : Deployment) (traceId : Uuid) (reason : Option String) : TraceEvent :=
  buildEvent dep traceId .runFailed (.obj (denialResult reason)) none "error"

/-- The full evidence of a denial: one record of it, one `approval.denied` for
the same step and fingerprint, and the failure after both, with its reason. -/
def Audited (dep : Deployment) (id : Uuid) (run : Run) (s : SystemState) : Prop :=
  ∃ step decision, s.store.approvals id step = some decision ∧ decision.allow = false ∧
    run.result = some (denialResult decision.reason) ∧
    (s.store.traceContents run.traceId).filter (·.deniedRecord) =
      [dep.stored (Store.recordedEvent run.traceId step decision)] ∧
    (s.store.traceContents run.traceId).filter (·.eventType = .approvalDenied) =
      [dep.stored (deniedEvent dep run.traceId step decision)] ∧
    (s.store.traceContents run.traceId).filter (·.eventType.concludes) =
      [dep.stored (deniedFailure dep run.traceId decision.reason)] ∧
    [dep.stored (Store.recordedEvent run.traceId step decision), dep.stored (deniedEvent dep run.traceId step decision),
      dep.stored (deniedFailure dep run.traceId decision.reason)].Sublist (s.store.traceContents run.traceId)

/-- A worker that a run's lease names reads no denial: the denial is carried
out by the request that recorded it. -/
def NoDenialRead : Allowed := fun p op _ s =>
  ∀ id step row, op = .getApproval id step → Mine p id s → s.store.approvals id step = some row → row.allow = true

/-- A stored pending action waits for an approval, under its fingerprint. -/
structure Run.Coherent (dep : Deployment) (run : Run) : Prop where
  pending : ∀ action, run.pendingAction = some action → dep.requiresApproval action = true
  paired : run.pendingAction.isSome = run.pendingActionFingerprint.isSome

/-- What the events and decisions about one run say of its denial. -/
structure Trail (dep : Deployment) (id : Uuid) (run : Run) (s : SystemState) : Prop where
  coherent : run.Coherent dep
  cursor : ∀ step decision, s.store.approvals id step = some decision → decision.allow = false →
    run.status.terminal = false → run.currentStep = step ∧ run.pendingAction.isSome = true
  recorded : ∀ step decision, s.store.approvals id step = some decision → decision.allow = false →
    (s.store.traceContents run.traceId).filter (·.deniedRecord) =
      [dep.stored (Store.recordedEvent run.traceId step decision)]
  unrecorded : (∀ step decision, s.store.approvals id step = some decision → decision.allow = true) →
    (s.store.traceContents run.traceId).filter (·.deniedRecord) = []
  quiet : run.status.terminal = false → ∀ content ∈ s.store.traceContents run.traceId,
    content.eventType ≠ .approvalDenied ∧ content.eventType.concludes = false
  audited : run.endsWith "approval_denied" → Audited dep id run s

structure DenialTrail (dep : Deployment) (s : SystemState) : Prop where
  used : ∀ content ∈ s.store.contents, TraceUsed content.traceId s
  decided : ∀ id step, s.store.approvals id step ≠ none → s.store.runs id ≠ none
  trails : ∀ id row, s.store.runs id = some row → Trail dep id row.payload s

variable {dep : Deployment} {allowed : Allowed} {p : Pid} {s t : SystemState}

theorem recordedEvent_deniedRecord (traceId : Uuid) (step : Nat) (decision : ApprovalRow) :
    (dep.stored (Store.recordedEvent traceId step decision)).deniedRecord = !decision.allow := by
  have plain : isSensitiveKey dep.store.tables "allow" = false := rfl
  cases allow : decision.allow <;>
  simp [Deployment.stored, Store.cleanEvent, TraceEvent.content, Store.recordedEvent, EventContent.deniedRecord,
    Store.sanitize, sanitizePayload, Json.obj?, lookup_sanitizeItems, List.lookup_cons, plain, Json.bool?, allow]

/-- An event that says nothing about denials or the end of a run. -/
def EventContent.Plain (content : EventContent) : Prop :=
  content.deniedRecord = false ∧ content.eventType ≠ .approvalDenied ∧ content.eventType.concludes = false

/-- Plain events and nothing new about the run's decisions keep its trail. -/
theorem Trail.extend {id : Uuid} {run : Run} (trail : Trail dep id run s)
    (approvals : t.store.approvals id = s.store.approvals id) (extra : List EventContent)
    (contents : t.store.traceContents run.traceId = s.store.traceContents run.traceId ++ extra)
    (plain : ∀ content ∈ extra, content.Plain) : Trail dep id run t := by
  have records : extra.filter (·.deniedRecord) = [] :=
    List.filter_eq_nil_iff.mpr fun content member => by simp [(plain content member).1]
  have denials : extra.filter (·.eventType = .approvalDenied) = [] :=
    List.filter_eq_nil_iff.mpr fun content member => by simp [(plain content member).2.1]
  have endings : extra.filter (·.eventType.concludes) = [] :=
    List.filter_eq_nil_iff.mpr fun content member => by simp [(plain content member).2.2]
  constructor
  · exact trail.coherent
  · rw [approvals]; exact trail.cursor
  · rw [approvals, contents, List.filter_append, records, List.append_nil]; exact trail.recorded
  · rw [approvals, contents, List.filter_append, records, List.append_nil]; exact trail.unrecorded
  · intro active content member
    rw [contents, List.mem_append] at member
    rcases member with before | added
    · exact trail.quiet active content before
    · exact ⟨(plain content added).2.1, (plain content added).2.2⟩
  · intro ended
    obtain ⟨step, decision, stored, denial, result, record, denied, failed, order⟩ := trail.audited ended
    refine ⟨step, decision, by rw [approvals]; exact stored, denial, result, ?_, ?_, ?_, ?_⟩
    · rw [contents, List.filter_append, records, List.append_nil]; exact record
    · rw [contents, List.filter_append, denials, List.append_nil]; exact denied
    · rw [contents, List.filter_append, endings, List.append_nil]; exact failed
    · rw [contents]; exact order.trans (List.sublist_append_left _ _)

theorem Advance.unrecorded {run next : Run} {events : List TraceEvent}
    (advance : Advance dep allowed p s run next events) : ∀ event ∈ events,
      (dep.stored event).deniedRecord = false := by
  cases advance <;> simp [Deployment.stored, Store.cleanEvent, TraceEvent.content, EventContent.deniedRecord, buildEvent]

theorem Advance.coherent {run next : Run} {events : List TraceEvent}
    (advance : Advance dep allowed p s run next events) (coherent : run.Coherent dep) : next.Coherent dep := by
  cases advance with
  | begin | reserve => exact ⟨coherent.pending, coherent.paired⟩
  | succeed | fail | checkpoint | deny => exact ⟨fun _ impossible => (by cases impossible), rfl⟩
  | pause proposed _ _ required =>
    refine ⟨fun action same => ?_, rfl⟩
    cases same
    exact required

/-- As long as it is not over, a run with a recorded denial stays where it is. -/
theorem Advance.cursor {run next : Run} {events : List TraceEvent} (mine : Mine p run.id s)
    (advance : Advance dep allowed p s run next events) (trail : Trail dep run.id run s) {step : Nat}
    {decision : ApprovalRow} (stored : s.store.approvals run.id step = some decision) (denial : decision.allow = false)
    (active : next.status.terminal = false) : next.currentStep = step ∧ next.pendingAction.isSome = true := by
  obtain ⟨here, pending⟩ := trail.cursor step decision stored denial advance.active
  cases advance with
  | begin => exact ⟨here, pending⟩
  | reserve _ unset => rw [unset] at pending; cases pending
  | succeed | fail | deny => cases active
  | pause proposed _ _ _ undecided =>
    have absent := undecided mine
    rw [here, stored] at absent
    cases absent
  | checkpoint proposed _ _ _ _ _ _ proposes approved =>
    obtain ⟨action, set⟩ := Option.isSome_iff_exists.mp pending
    have required : dep.requiresApproval (dep.stabilizeAction run proposed) = true := by
      have := trail.coherent.pending action set
      rw [proposes action set]
      simpa only [Deployment.requiresApproval, stabilizeAction_toolName] using this
    obtain ⟨row, found, allow, -⟩ := approved required
    rw [here, stored] at found
    cases found
    rw [denial] at allow
    cases allow

theorem DenialTrail.still (still : Still s t) (trail : DenialTrail dep s) : DenialTrail dep t := by
  obtain ⟨runs, approvals, contents⟩ := still
  constructor
  · intro content member
    rw [contents] at member
    simpa only [TraceUsed, runs] using trail.used content member
  · rw [approvals, runs]; exact trail.decided
  · intro id row stored
    rw [runs] at stored
    refine (trail.trails id row stored).extend (by rw [approvals]) [] ?_ (by simp)
    rw [Store.traceContents_eq, Store.traceContents_eq, contents, List.append_nil]

/-- The run that a step advances keeps its trail. -/
theorem Trail.advanced {run next : Run} {events : List TraceEvent} (mine : Mine p run.id s)
    (foreign : ¬ ForeignCode dep "approval_denied") (advance : Advance dep NoDenialRead p s run next events)
    (trail : Trail dep run.id run s) (approvals : t.store.approvals = s.store.approvals)
    (contents : t.store.traceContents run.traceId = s.store.traceContents run.traceId ++ events.map dep.stored) :
    Trail dep run.id (next.bumped run) t := by
  have records : (events.map dep.stored).filter (·.deniedRecord) = [] := by
    refine List.filter_eq_nil_iff.mpr fun content member => ?_
    obtain ⟨event, among, rfl⟩ := List.mem_map.mp member
    simp [advance.unrecorded event among]
  have sameTrace : (next.bumped run).traceId = run.traceId := advance.identity.2
  constructor
  · exact ⟨(advance.coherent trail.coherent).pending, (advance.coherent trail.coherent).paired⟩
  · intro step decision stored denial active
    rw [approvals] at stored
    exact advance.cursor mine trail stored denial active
  · rw [approvals, sameTrace, contents, List.filter_append, records, List.append_nil]; exact trail.recorded
  · rw [approvals, sameTrace, contents, List.filter_append, records, List.append_nil]; exact trail.unrecorded
  · intro active content member
    rw [sameTrace, contents, List.mem_append] at member
    rcases member with before | added
    · exact trail.quiet advance.active content before
    · obtain ⟨event, among, rfl⟩ := List.mem_map.mp added
      cases advance with
      | succeed | fail | deny => cases active
      | reserve => cases among
      | begin | pause | checkpoint =>
        cases List.mem_singleton.mp among
        exact ⟨by simp [Deployment.stored, Store.cleanEvent, TraceEvent.content, buildEvent], rfl⟩
  · intro ended
    rcases advance.endsWith ended with ⟨_, _, -, cause⟩ | ⟨-, actor, reason, step, fingerprint, waiting, stored, rfl, rfl⟩
    · obtain ⟨now, s₀, row, unread, atRead, denial, since⟩ := (cause.denied rfl).resolve_left foreign
      rw [unread _ _ row rfl (since.lease _ mine).1 atRead] at denial
      cases denial
    · have silent : ∀ content ∈ s.store.traceContents run.traceId, content.eventType ≠ .approvalDenied ∧
          content.eventType.concludes = false := trail.quiet (by rw [waiting]; rfl)
      have record := trail.recorded step _ stored rfl
      refine ⟨step, ⟨fingerprint, actor, false, reason⟩, by rw [approvals]; exact stored, rfl, rfl, ?_, ?_, ?_, ?_⟩
      · rw [sameTrace, contents, List.filter_append, records, List.append_nil]
        exact record
      · rw [sameTrace, contents, List.filter_append,
          List.filter_eq_nil_iff.mpr fun content member => by simp [(silent content member).1], List.nil_append]
        rfl
      · rw [sameTrace, contents, List.filter_append,
          List.filter_eq_nil_iff.mpr fun content member => by simp [(silent content member).2], List.nil_append]
        rfl
      · rw [sameTrace, contents]
        refine @List.Sublist.append _ [_] _ _ _ ?_ (List.Sublist.refl _)
        rw [List.singleton_sublist]
        exact (List.mem_filter.mp (by rw [record]; exact List.mem_singleton_self _)).1

/-- A decision for the run that waits for it is the first one at its step. -/
theorem Trail.decided {id : Uuid} {step : Nat} {row : ApprovalRow} {run : Run} (trail : Trail dep id run s)
    (absent : s.store.approvals id step = none) (waiting : run.status = .waitingApproval)
    (here : run.currentStep = step) (pending : run.pendingActionFingerprint = some row.actionFingerprint)
    (approvals : t.store.approvals = (s.store.setApproval id step row).approvals)
    (contents : t.store.traceContents run.traceId = s.store.traceContents run.traceId ++
      [dep.stored (Store.recordedEvent run.traceId step row)]) : Trail dep id run t := by
  have active : run.status.terminal = false := by rw [waiting]; rfl
  have permitted : ∀ other decision, s.store.approvals id other = some decision → decision.allow = true := by
    intro other decision stored
    by_contra denial
    obtain ⟨cursor, -⟩ := trail.cursor other decision stored (by simpa using denial) active
    rw [← cursor, here, absent] at stored
    cases stored
  have lookup : ∀ other decision, t.store.approvals id other = some decision →
      other = step ∧ decision = row ∨ s.store.approvals id other = some decision := by
    intro other decision stored
    rw [approvals] at stored
    by_cases same : other = step
    · subst same; exact .inl ⟨rfl, by simpa using stored.symm⟩
    · exact .inr (by simpa [Store.setApproval, Function.update_of_ne same] using stored)
  have records : (t.store.traceContents run.traceId).filter (·.deniedRecord) =
      [dep.stored (Store.recordedEvent run.traceId step row)].filter (·.deniedRecord) := by
    rw [contents, List.filter_append, trail.unrecorded permitted, List.nil_append]
  constructor
  · exact trail.coherent
  · intro other decision stored denial _
    rcases lookup other decision stored with ⟨rfl, rfl⟩ | before
    · exact ⟨here, by rw [trail.coherent.paired, pending]; rfl⟩
    · rw [permitted other decision before] at denial
      cases denial
  · intro other decision stored denial
    rcases lookup other decision stored with ⟨rfl, rfl⟩ | before
    · rw [records, List.filter_singleton, recordedEvent_deniedRecord, denial]
      rfl
    · rw [permitted other decision before] at denial
      cases denial
  · intro allowed
    have allow := allowed step row (by rw [approvals]; simp)
    rw [records, List.filter_singleton, recordedEvent_deniedRecord, allow]
    rfl
  · intro _ content member
    rw [contents, List.mem_append] at member
    rcases member with before | added
    · exact trail.quiet active content before
    · cases List.mem_singleton.mp added
      exact ⟨by simp [Deployment.stored, Store.cleanEvent, TraceEvent.content, Store.recordedEvent], rfl⟩
  · rintro ⟨failed, -⟩
    rw [waiting] at failed
    cases failed

theorem Trail.created {run : Run} (fresh : run.fresh) (undecided : ∀ step, t.store.approvals run.id step = none)
    (silent : t.store.traceContents run.traceId = []) : Trail dep run.id { run with version := 1 } t := by
  obtain ⟨_, _, _, _, _, _, rfl⟩ := fresh
  constructor
  · exact ⟨fun _ impossible => (by cases impossible), rfl⟩
  · intro step decision stored; rw [undecided] at stored; cases stored
  · intro step decision stored; rw [undecided] at stored; cases stored
  · intro _; rw [silent]; rfl
  · intro _ content member; rw [silent] at member; cases member
  · rintro ⟨failed, -⟩; cases failed

theorem EventType.appended_plain {kind : EventType} (appended : kind.rejection = true ∨ kind.appended = true) :
    kind ≠ .approvalRecorded ∧ kind ≠ .approvalDenied ∧ kind.concludes = false := by
  revert appended
  cases kind <;> decide

theorem reported_plain {event : TraceEvent} (reported : Reported p event s) : (dep.stored event).Plain := by
  obtain ⟨notRecorded, notDenied, silent⟩ := EventType.appended_plain (reported.imp And.left And.left)
  exact ⟨by simp [EventContent.deniedRecord, Deployment.stored, Store.cleanEvent, TraceEvent.content, notRecorded],
    notDenied, silent⟩

theorem reported_used {event : TraceEvent} (reported : Reported p event s) : TraceUsed event.traceId s := by
  rcases reported with ⟨-, used⟩ | ⟨-, run, holds, -, same⟩
  · exact used
  · rw [same]; exact holds.1.used

theorem DenialTrail.step {op : Op} (valid : Consistent s) (foreign : ¬ ForeignCode dep "approval_denied")
    (effect : Effect dep NoDenialRead p op s t) (trail : DenialTrail dep s) : DenialTrail dep t := by
  cases effect with
  | still same => exact trail.still same
  | created run fresh unsaved unused runs approvals contents =>
    have kept : ∀ {id row}, s.store.runs id = some row → t.store.runs id = some row := by
      intro id row stored
      have unequal : id ≠ run.id := by rintro rfl; rw [unsaved] at stored; cases stored
      rw [runs, Function.update_of_ne unequal]; exact stored
    have same : ∀ traceId, t.store.traceContents traceId = s.store.traceContents traceId := fun traceId => by
      rw [Store.traceContents_eq, Store.traceContents_eq, contents]
    refine ⟨fun content member => ?_, fun id step known => ?_, fun id row stored => ?_⟩
    · rw [contents] at member
      obtain ⟨id, row, stored, trace⟩ := trail.used content member
      exact ⟨id, row, kept stored, trace⟩
    · rw [approvals] at known
      obtain ⟨row, stored⟩ := Option.ne_none_iff_exists'.mp (trail.decided id step known)
      simp [kept stored]
    · rw [runs, Function.update_apply] at stored
      split at stored
      · rename_i equal
        subst equal
        cases stored
        refine Trail.created fresh (fun step => ?_) ?_
        · by_contra known
          rw [approvals] at known
          exact trail.decided run.id step known unsaved
        · rw [same]
          refine List.eq_nil_iff_forall_not_mem.mpr fun content member => ?_
          rw [Store.traceContents_eq, List.mem_filter] at member
          have sameTrace : content.traceId = run.traceId := by simpa using member.2
          exact unused (sameTrace ▸ trail.used content member.1)
      · exact (trail.trails id row stored).extend (by rw [approvals]) []
          (by rw [same, List.append_nil]) (by simp)
  | appended event _ reported runs approvals contents =>
    refine ⟨fun content member => ?_, by rw [approvals, runs]; exact trail.decided, fun id row stored => ?_⟩
    · rw [contents, List.mem_append] at member
      simp only [TraceUsed, runs]
      rcases member with before | added
      · exact trail.used content before
      · cases List.mem_singleton.mp added
        exact reported_used reported
    · rw [runs] at stored
      refine (trail.trails id row stored).extend (by rw [approvals]) _ (traceContents_append contents _)
        fun content member => ?_
      cases List.mem_singleton.mp (List.mem_filter.mp member).1
      exact reported_plain reported
  | advanced prior next events row mine stored payload advance runs approvals contents =>
    have traces : ∀ content ∈ events.map dep.stored, content.traceId = prior.traceId := by
      intro content member
      obtain ⟨event, among, rfl⟩ := List.mem_map.mp member
      exact advance.trace event among
    have raised : t.store.runs prior.id = some ⟨prior.traceId, prior.version + 1, next.bumped prior⟩ := by
      rw [runs, Function.update_self]
    have kept : ∀ {id found}, id ≠ prior.id → s.store.runs id = some found → t.store.runs id = some found := by
      intro id found unequal there
      rw [runs, Function.update_of_ne unequal]; exact there
    refine ⟨fun content member => ?_, fun id step known => ?_, fun id found there => ?_⟩
    · rw [contents, List.mem_append] at member
      have nextTrace : (next.bumped prior).traceId = prior.traceId := advance.identity.2
      rcases member with before | added
      · obtain ⟨id, found, there, trace⟩ := trail.used content before
        by_cases equal : id = prior.id
        · subst equal
          cases Option.some.inj (there.symm.trans stored)
          exact ⟨prior.id, _, raised, nextTrace.trans (payload ▸ trace)⟩
        · exact ⟨id, found, kept equal there, trace⟩
      · exact ⟨prior.id, _, raised, nextTrace.trans (traces content added).symm⟩
    · rw [approvals] at known
      by_cases equal : id = prior.id
      · subst equal; simp [raised]
      · obtain ⟨found, there⟩ := Option.ne_none_iff_exists'.mp (trail.decided id step known)
        simp [kept equal there]
    · rw [runs, Function.update_apply] at there
      split at there
      · rename_i equal
        subst equal
        cases there
        refine Trail.advanced mine foreign advance (payload ▸ trail.trails prior.id row stored) approvals ?_
        rw [traceContents_append contents, List.filter_eq_self.mpr fun content member => by simp [traces content member]]
      · rename_i unequal
        refine (trail.trails id found there).extend (by rw [approvals]) _ (traceContents_append contents _) ?_
        intro content member
        obtain ⟨among, sameTrace⟩ := List.mem_filter.mp member
        refine absurd (valid.traces _ _ _ _ there stored ?_) unequal
        rw [payload, ← traces content among]
        exact (of_decide_eq_true sameTrace).symm
  | decided id step row run absent canonical stored waiting here pending runs approvals contents =>
    refine ⟨fun content member => ?_, fun other at_step known => ?_, fun other found there => ?_⟩
    · rw [contents, List.mem_append] at member
      simp only [TraceUsed, runs]
      rcases member with before | added
      · exact trail.used content before
      · cases List.mem_singleton.mp added
        exact ⟨id, run, stored, rfl⟩
    · rw [runs]
      by_cases equal : other = id
      · subst equal; simp [stored]
      · refine trail.decided other at_step ?_
        rw [approvals] at known
        simpa [Store.setApproval, Function.update_of_ne equal] using known
    · rw [runs] at there
      by_cases equal : other = id
      · subst equal
        cases Option.some.inj (there.symm.trans stored)
        refine (trail.trails other run stored).decided absent waiting here pending approvals ?_
        rw [traceContents_append contents]
        congr 1
        simp [Deployment.stored, Store.cleanEvent, TraceEvent.content, Store.recordedEvent]
      · refine (trail.trails other found there).extend ?_ _ (traceContents_append contents _) ?_
        · rw [approvals]
          simp [Store.setApproval, Function.update_of_ne equal]
        · intro content member
          obtain ⟨among, sameTrace⟩ := List.mem_filter.mp member
          cases List.mem_singleton.mp among
          refine absurd (valid.traces _ _ _ _ there stored ?_) equal
          exact (of_decide_eq_true sameTrace).symm

/-- In every run in which no worker that the lease names reads a denial, a run
that ends with `approval_denied` has the full evidence of it. -/
theorem denial_audited {w : ServiceWorld} (foreign : ¬ ForeignCode dep "approval_denied")
    (reach : Machine.Reachable (dep.system.restrict NoDenialRead) w) {id : Uuid} {row : RunRow}
    (stored : w.state.store.runs id = some row) (denied : row.payload.endsWith "approval_denied") :
    Audited dep id row.payload w.state := by
  have trail : DenialTrail dep w.state := system_invariant reach
    (fun s empty => by
      constructor <;> rw [empty]
      · intro content member; cases member
      · intro id step known; exact absurd rfl known
      · intro id row stored; cases stored)
    (fun _ _ still => DenialTrail.still still)
    fun _ _ _ _ _ valid _ effect => DenialTrail.step valid foreign effect
  exact (trail.trails id row stored).audited denied

/-- `NoDenialRead`, evaluated. -/
def noDenialRead (_ : Pid) (op : Op) (_ : DateTime) (s : SystemState) : Bool :=
  match op with
  | .getApproval id step => (s.store.approvals id step).all (·.allow)
  | _ => true

theorem noDenialRead_sound (p : Pid) (op : Op) (now : DateTime) (s : SystemState)
    (permitted : noDenialRead p op now s = true) : NoDenialRead p op now s := by
  rintro id step row rfl - stored
  simpa [noDenialRead, stored] using permitted

def endsDenied (w : ServiceWorld) : Bool :=
  (w.state.store.runs 0).any fun row => row.payload.endsWith "approval_denied"

theorem endsDenied_sound {w : ServiceWorld} (denied : endsDenied w = true) :
    ∃ row, w.state.store.runs 0 = some row ∧ row.payload.endsWith "approval_denied" := by
  unfold endsDenied at denied
  cases stored : w.state.store.runs 0 with
  | none => rw [stored] at denied; cases denied
  | some row => rw [stored] at denied; exact ⟨row, rfl, of_decide_eq_true denied⟩

/-- The reviewer's own request carries the denial out. -/
theorem denial_audited_demo : ∃ w : ServiceWorld, ∃ row, w.state.store.runs 0 = some row ∧
    row.payload.endsWith "approval_denied" ∧ Audited demo 0 row.payload w.state := by
  obtain ⟨w, reach, denied⟩ := restricted_reaches demo_fits noDenialRead_sound (demoClock 0 demoStart_inside)
    [.request 0 Run.demo, .turns 0 14, .finish 0, .request 0 (demoDecision false), .turns 0 6] endsDenied (by decide +kernel)
  obtain ⟨row, stored, ended⟩ := endsDenied_sound denied
  exact ⟨w, row, stored, ended, denial_audited (demo_foreign _) reach stored ended⟩

/-- The denial is committed and its request crashes. The resume that follows
ends the run as denied, without an `approval.denied` event and without a reason. -/
theorem denial_unaudited : ∃ w : ServiceWorld, Machine.Reachable demo.system w ∧ ∃ row,
    w.state.store.runs 0 = some row ∧ row.payload.endsWith "approval_denied" ∧
    (∀ event ∈ w.state.store.events, event.eventType ≠ .approvalDenied) ∧ ¬ Audited demo 0 row.payload w.state := by
  obtain ⟨w, reach, checked⟩ := schedule_reaches demo_fits (demoClock 0 demoStart_inside)
    [.request 0 Run.demo, .turns 0 14, .finish 0, .request 0 (demoDecision false), .turns 0 2, .crash 0,
      .request 1 (.resume 0), .turns 1 8]
    (fun w => endsDenied w && w.state.store.events.all (·.eventType ≠ .approvalDenied)) (by decide +kernel)
  simp only [Bool.and_eq_true, List.all_eq_true, decide_eq_true_eq] at checked
  obtain ⟨row, stored, ended⟩ := endsDenied_sound checked.1
  refine ⟨w, reach, row, stored, ended, checked.2, ?_⟩
  rintro ⟨step, decision, -, -, -, -, denied, -⟩
  have member : demo.stored (deniedEvent demo row.payload.traceId step decision) ∈
      w.state.store.traceContents row.payload.traceId := by
    refine (List.mem_filter (p := fun content => decide (content.eventType = .approvalDenied)).mp ?_).1
    rw [denied]
    exact List.mem_singleton_self _
  obtain ⟨event, among, same⟩ := List.mem_map.mp member
  refine checked.2 event (List.mem_filter.mp among).1 ?_
  exact congrArg EventContent.eventType same

end ReliabilityLab
