import ReliabilityLab.Foundation.Sessions
import ReliabilityLab.Runtime.Effect
import ReliabilityLab.Runtime.Schedule
import ReliabilityLab.Tools.Incident

namespace ReliabilityLab

def IncidentBackend.answer (backend : IncidentBackend) (invocation : Invocation) : Except Exn Json × IncidentBackend :=
  backend.handler invocation.action.toolName invocation.validatedInput invocation.context.idempotencyToken

/-- Scripted scenarios over the deterministic incident tools, with no secret configured. -/
structure Deployment.Incident (dep : Deployment) : Prop where
  registry : dep.registry = incidentRegistry
  storeSecrets : dep.store.secretValues = []
  recorderSecrets : dep.recorderSecrets = []
  policies : "scripted" ∈ dep.policies
  policy : ∀ name run scenario, dep.policyAnswers name run scenario (scriptedPolicy run scenario)
  handler : ∀ (backend : IncidentBackend) invocation, dep.handlerAnswers invocation (backend.answer invocation).1
  digests : ∀ value, Store.canonicalFingerprint (dep.sha256 value) = true
  lease : 0 < dep.store.runLease

/-- The shared state, and the incident backend in the memory of the process. -/
structure Site where
  system : SystemState
  backend : IncidentBackend

def IncidentBackend.responder (backend : IncidentBackend) : Responder where
  policy _ run scenario := scriptedPolicy run scenario
  handler invocation := (backend.answer invocation).1

/-- The state after a transaction. -/
def Site.stored (s : Site) (store : Store) : Site := { s with system := { s.system with store := store } }

def IncidentBackend.after (backend : IncidentBackend) : Op → IncidentBackend
  | .invokeHandler invocation => (backend.answer invocation).2
  | _ => backend

def Site.act (dep : Deployment) (p : Pid) (op : Op) (s : Site) : op.Answer × Site :=
  let acted := s.backend.responder.act dep.store p s.system.clock s.system op
  (acted.1, ⟨acted.2, s.backend.after op⟩)

/-- Leases can still be added to a clock reading before the calendar ends. -/
def Deployment.Inside (dep : Deployment) (clock : DateTime) : Prop :=
  (clock.plus dep.store.claimLease).isSome ∧ (clock.plus dep.store.runLease).isSome

/-- The lease of the run is `owner`'s, and live. -/
def Site.Owns (id owner : Uuid) (s : Site) : Prop :=
  Store.leaseIsOwned (s.system.store.leases id) owner s.system.clock.isoformat = true

/-- Time passes while a party executes run `id`: its clock goes forward in its zone, and its heartbeat keeps
the lease alive. -/
structure Drift (dep : Deployment) (id : Uuid) (s t : Site) : Prop where
  moved : Relation.ReflTransGen (Deployment.Ambient dep) s.system t.system
  backend : t.backend = s.backend
  forward : s.system.clock.instant ≤ t.system.clock.instant
  zone : t.system.clock.offset = s.system.clock.offset
  inside : dep.Inside s.system.clock → dep.Inside t.system.clock
  kept : ∀ owner, s.Owns id owner → t.Owns id owner

/-- Party `p`, alone with run `id`. -/
def Deployment.alone (dep : Deployment) (p : Pid) (id : Uuid) : Solo Op Op.Answer Site where
  drift := Drift dep id
  act := Site.act dep p
  drift_refl _ := ⟨.refl, rfl, le_rfl, rfl, fun inside => inside, fun _ owned => owned⟩
  drift_trans first second :=
    ⟨first.moved.trans second.moved, second.backend.trans first.backend, first.forward.trans second.forward,
      second.zone.trans first.zone, fun inside => second.inside (first.inside inside),
      fun owner owned => second.kept owner (first.kept owner owned)⟩

/-- What an event shows of an attempt or of a fault. -/
structure TraceMark where
  eventType : EventType
  actionStep : Option Json
  toolName : Option Json
  attempt : Option Json
  kind : Option Json

def EventType.marks : EventType → Bool
  | .toolAttemptStarted | .toolAttemptFailed | .toolAttemptSucceeded | .faultInjected => true
  | _ => false

def EventContent.mark (content : EventContent) : Option TraceMark :=
  if content.eventType.marks then
    some ⟨content.eventType, content.field "action_step", content.field "tool_name", content.field "attempt",
      content.field "kind"⟩
  else none

/-- What one run has in the database, and the process in its memory. -/
structure Slate where
  run : Run
  claims : String → Option ToolResultRow
  approvals : Nat → Option ApprovalRow
  marks : List TraceMark
  backend : IncidentBackend

namespace Slate
variable (slate : Slate)

def withRun (run : Run) : Slate := { slate with run := run }

def withClaim (key : String) (row : ToolResultRow) : Slate :=
  { slate with claims := Function.update slate.claims key (some row) }

def decided (step : Nat) (row : ApprovalRow) : Slate :=
  { slate with approvals := Function.update slate.approvals step (some row) }

def marked (marks : List TraceMark) : Slate := { slate with marks := slate.marks ++ marks }

def handled (backend : IncidentBackend) : Slate := { slate with backend := backend }

@[simp] theorem marked_nil : slate.marked [] = slate := by simp [marked]

theorem marked_marked (first later : List TraceMark) : (slate.marked first).marked later = slate.marked (first ++ later) := by
  simp [marked]

theorem handled_marked (backend : IncidentBackend) (marks : List TraceMark) :
    (slate.handled backend).marked marks = (slate.marked marks).handled backend := rfl

end Slate

/-- The run `id` stands in the database as the slate says, and no other party has a heartbeat. -/
structure Stands (dep : Deployment) (p : Pid) (id : Uuid) (slate : Slate) (s : Site) : Prop where
  row : s.system.store.runs id = some ⟨slate.run.traceId, slate.run.version, slate.run⟩
  claims : s.system.store.toolResults id = slate.claims
  approvals : s.system.store.approvals id = slate.approvals
  marks : (s.system.store.traceContents slate.run.traceId).filterMap EventContent.mark = slate.marks
  backend : s.backend = slate.backend
  inside : dep.Inside s.system.clock
  beats : ∀ q, q ≠ p → s.system.heartbeats q = none

/-- What a party has of the lease: it may take it, it holds it, or it holds it with its heartbeat stopped. -/
inductive Tenure where
  | free
  | owned (owner : Uuid)
  | leaving (owner : Uuid)

def Tenure.Holds (p : Pid) (id : Uuid) (s : Site) : Tenure → Prop
  | .free => s.system.heartbeats p = none ∧
      ∀ lease, s.system.store.leases id = some lease → lease.leaseExpiresAt ≤ s.system.clock.isoformat
  | .owned owner => s.Owns id owner
  | .leaving owner => s.system.heartbeats p = none ∧ s.Owns id owner

structure Live (dep : Deployment) (p : Pid) (id : Uuid) (tenure : Tenure) (slate : Slate) (s : Site) : Prop where
  stands : Stands dep p id slate s
  tenure : tenure.Holds p id s

variable {dep : Deployment} {id : Uuid} {p : Pid} {slate : Slate} {s t : Site} {tenure : Tenure}

@[simp] theorem stored_store (store : Store) : (s.stored store).system.store = store := rfl
@[simp] theorem stored_clock (store : Store) : (s.stored store).system.clock = s.system.clock := rfl
@[simp] theorem stored_beats (store : Store) : (s.stored store).system.heartbeats = s.system.heartbeats := rfl

theorem ambient_leases {s t : SystemState} (moved : Deployment.Ambient dep s t) :
    t.heartbeats = s.heartbeats ∧ (∃ leases, t.store = { s.store with leases := leases }) ∧
      ((∀ q, s.heartbeats q = none) → t.store = s.store) := by
  rcases moved with ⟨clock⟩ | ⟨beating, commits⟩
  · exact ⟨rfl, ⟨s.store.leases, rfl⟩, fun _ => rfl⟩
  · obtain ⟨after, settled, rfl⟩ := commits
    refine ⟨rfl, ?_, fun silent => ?_⟩
    · cases settled with
      | refused => exact ⟨s.store.leases, rfl⟩
      | broken => exact ⟨s.store.leases, rfl⟩
      | committed done =>
        obtain ⟨_, _, _, -, -, -, -, -, rfl⟩ := Store.renewRunExecution_ok done
        exact ⟨_, rfl⟩
    · rw [silent] at beating
      cases beating

theorem Drift.frame (moved : Drift dep id s t) : t.system.heartbeats = s.system.heartbeats ∧
    (∃ leases, t.system.store = { s.system.store with leases := leases }) ∧
      ((∀ q, s.system.heartbeats q = none) → t.system.store = s.system.store) := by
  obtain ⟨steps, -⟩ := moved
  generalize s.system = first at steps
  generalize t.system = last at steps
  induction steps with
  | refl => exact ⟨rfl, ⟨first.store.leases, rfl⟩, fun _ => rfl⟩
  | tail _ step ih =>
    obtain ⟨beats, ⟨_, earlier⟩, silent⟩ := ih
    obtain ⟨beatsAfter, ⟨leases, later⟩, silentAfter⟩ := ambient_leases step
    refine ⟨beatsAfter.trans beats, ⟨leases, by rw [later, earlier]⟩, fun none => ?_⟩
    rw [silentAfter (by rw [beats]; exact none), silent none]

theorem Drift.stands (moved : Drift dep id s t) (stands : Stands dep p id slate s) : Stands dep p id slate t := by
  obtain ⟨beats, ⟨leases, store⟩, -⟩ := moved.frame
  constructor
  · rw [store]; exact stands.row
  · rw [store]; exact stands.claims
  · rw [store]; exact stands.approvals
  · rw [store]; exact stands.marks
  · rw [moved.backend]; exact stands.backend
  · exact moved.inside stands.inside
  · rw [beats]; exact stands.beats

/-- A clock that goes forward in its zone goes forward as SQL reads it. -/
theorem Drift.isoformat (moved : Drift dep id s t) : s.system.clock.isoformat ≤ t.system.clock.isoformat :=
  (DateTime.isoformat_le_iff moved.zone.symm).mpr moved.forward

theorem Drift.live (moved : Drift dep id s t) (live : Live dep p id tenure slate s) :
    Live dep p id tenure slate t := by
  refine ⟨moved.stands live.stands, ?_⟩
  have held := live.tenure
  obtain ⟨beats, -, silent⟩ := moved.frame
  cases tenure with
  | free =>
    obtain ⟨quiet, lapsed⟩ := held
    have none : ∀ q, s.system.heartbeats q = none := by
      intro q
      by_cases own : q = p
      · exact own ▸ quiet
      · exact live.stands.beats q own
    refine ⟨by rw [beats]; exact quiet, fun lease named => ?_⟩
    rw [silent none] at named
    exact (lapsed lease named).trans moved.isoformat
  | owned owner => exact moved.kept owner held
  | leaving owner => exact ⟨by rw [beats]; exact held.1, moved.kept owner held.2⟩

/-- The operations of a party on its own are operations of the system. -/
theorem Deployment.Incident.hosts (incident : dep.Incident) :
    Machine.Hosts dep.system (dep.alone p id) p Site.system fun s => s.system.clock where
  drift _ _ moved := moved.moved
  reads _ := rfl
  perform op s := by
    have fits : s.backend.responder.Fits dep := ⟨incident.policy, incident.handler s.backend⟩
    exact fits.perform p s.system.clock s.system op

/-- A program of a party on its own, that leaves a `J` wherever it is cut off. -/
abbrev Recovers (dep : Deployment) (p : Pid) (id : Uuid) (J : Site → Prop) {α : Type} (program : Prog α)
    (Q : α → Site → Prop) (E : Exn → Site → Prop) (s : Site) : Prop :=
  program.Obeys ((dep.alone p id).recovering J) Q E s

/-- Another state with the same rows of the run. -/
theorem Live.still (live : Live dep p id tenure slate s) (runs : t.system.store.runs id = s.system.store.runs id)
    (claims : t.system.store.toolResults id = s.system.store.toolResults id)
    (approvals : t.system.store.approvals id = s.system.store.approvals id)
    (contents : t.system.store.traceContents slate.run.traceId = s.system.store.traceContents slate.run.traceId)
    (leases : t.system.store.leases id = s.system.store.leases id) (clock : t.system.clock = s.system.clock)
    (beats : t.system.heartbeats = s.system.heartbeats) (backend : t.backend = s.backend) :
    Live dep p id tenure slate t := by
  obtain ⟨⟨row, atClaims, atApprovals, marks, atBackend, inside, others⟩, held⟩ := live
  refine ⟨⟨runs.trans row, claims.trans atClaims, approvals.trans atApprovals, ?_, backend.trans atBackend, ?_, ?_⟩, ?_⟩
  · exact (congrArg _ contents).trans marks
  · rw [clock]; exact inside
  · rw [beats]; exact others
  · cases tenure with
    | free | owned | leaving =>
      unfold Tenure.Holds at held ⊢
      unfold Site.Owns at *
      rw [leases, clock]
      try rw [beats]
      exact held

theorem marks_append {before after : Store} {added : List EventContent} {traceId : Uuid}
    (contents : after.contents = before.contents ++ added) (own : ∀ content ∈ added, content.traceId = traceId) :
    (after.traceContents traceId).filterMap EventContent.mark =
      (before.traceContents traceId).filterMap EventContent.mark ++ added.filterMap EventContent.mark := by
  have kept : added.filter (·.traceId = traceId) = added := List.filter_eq_self.mpr (by simpa using own)
  rw [Store.traceContents_eq, Store.traceContents_eq, contents, List.filter_append, List.filterMap_append, kept]

end ReliabilityLab
