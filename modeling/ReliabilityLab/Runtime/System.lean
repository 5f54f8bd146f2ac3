import ReliabilityLab.Runtime.Service

namespace ReliabilityLab

/-- Everything that the service instances of one deployment share. `drawn`
remembers who drew an identifier; a heartbeat belongs to the party that runs it. -/
structure SystemState where
  store : Store
  clock : DateTime
  drawn : Uuid → Option Pid
  heartbeats : Pid → Option (Uuid × Uuid)

namespace SystemState

/-- One transaction on the shared database. -/
def Commits {α : Type} (s : SystemState) (tx : Tx α) (answer : Except Exn α) (t : SystemState) : Prop :=
  ∃ after, Settles tx s.store answer after ∧ t = { s with store := after }

def draw (s : SystemState) (p : Pid) : SystemState :=
  { s with
    store := { s.store with nextUuid := s.store.nextUuid + 1 }
    drawn := Function.update s.drawn s.store.nextUuid (some p) }

def setHeartbeat (s : SystemState) (p : Pid) (heartbeat : Option (Uuid × Uuid)) : SystemState :=
  { s with heartbeats := Function.update s.heartbeats p heartbeat }

end SystemState

namespace Deployment

/-- One operation of party `p`, with the clock reading it was given. -/
def perform (dep : Deployment) (p : Pid) :
    (op : Op) → DateTime → SystemState → op.Answer → SystemState → Prop
  | .uuid4, _, s, answer, t => answer = s.store.nextUuid ∧ t = s.draw p
  | .saveRun run, _, s, answer, t => s.Commits (Store.saveRun run) answer t
  | .getRun id, _, s, answer, t => s.Commits (Store.getRun id) answer t
  | .claimRunExecution id owner, now, s, answer, t =>
      s.Commits (Store.claimRunExecution dep.store now id owner) answer t
  | .releaseRunExecution id owner, _, s, answer, t => s.Commits (Store.releaseRunExecution id owner) answer t
  | .saveRunOwned run owner version, now, s, answer, t =>
      s.Commits (Store.saveRunOwned now run owner version) answer t
  | .saveRunOwnedWithEvents run events owner version, now, s, answer, t =>
      s.Commits (Store.saveRunOwnedWithEvents dep.store now run events owner version) answer t
  | .appendEvent event, _, s, answer, t => s.Commits (Store.appendEvent dep.store event) answer t
  | .getApproval id step, _, s, answer, t => s.Commits (Store.getApproval id step) answer t
  | .recordPendingApproval id step row, _, s, answer, t =>
      s.Commits (Store.recordPendingApproval dep.store id step row) answer t
  | .claimToolExecution id key owner fingerprint allowReclaim, now, s, answer, t =>
      s.Commits (Store.claimToolExecution dep.store now id key owner fingerprint allowReclaim) answer t
  | .completeToolResult id key payload owner, _, s, answer, t =>
      s.Commits (Store.completeToolResult id key payload owner) answer t
  | .failToolExecution id key owner error disposition, _, s, answer, t =>
      s.Commits (Store.failToolExecution id key owner error disposition) answer t
  | .nextAction policyName run scenario, _, s, answer, t =>
      dep.policyAnswers policyName run scenario answer ∧ t = s
  | .invokeHandler invocation, _, s, answer, t => dep.handlerAnswers invocation answer ∧ t = s
  | .sleep _, _, s, answer, t => (answer = .ok () ∨ answer = .error .cancelled) ∧ t = s
  | .startHeartbeat id owner, _, s, _, t => t = s.setHeartbeat p (some (id, owner))
  | .stopHeartbeat, _, s, _, t => t = s.setHeartbeat p none

/-- What happens without a request: the clock moves, and live heartbeats renew
their leases with the reading they took. -/
inductive Ambient (dep : Deployment) : SystemState → SystemState → Prop
  | tick {s} (clock : DateTime) : Ambient dep s { s with clock := clock }
  | renew {s t p id owner now answer} : s.heartbeats p = some (id, owner) →
      s.Commits (Store.renewRunExecution dep.store now id owner) answer t → Ambient dep s t

/-- Any number of parties serving any requests on one database. A crash loses
a party's program and its heartbeat, and nothing that was committed. -/
def system (dep : Deployment) : Machine Pid Op Op.Answer Exn Run DateTime SystemState where
  init s := s.store = Store.empty ∧ (∀ u, s.drawn u = none) ∧ ∀ p, s.heartbeats p = none
  starts program := ∃ request : Request, program = request.program dep
  reads s reading := reading = s.clock
  perform := dep.perform
  ambient := Ambient dep
  crash p s := s.setHeartbeat p none

end Deployment

abbrev ServiceWorld := World Pid Op Op.Answer Exn Run DateTime SystemState

/-- The lease row of the run names a token that `p` drew. -/
def Mine (p : Pid) (id : Uuid) (s : SystemState) : Prop :=
  ∃ lease, s.store.leases id = some lease ∧ s.drawn lease.ownerToken = some p

/-- `u` is the trace of a stored run. -/
def TraceUsed (u : Uuid) (s : SystemState) : Prop :=
  ∃ id row, s.store.runs id = some row ∧ row.payload.traceId = u

/-- What no step of the others, and no quiet step of its own, does to party `p`. -/
structure Rely (p : Pid) (s t : SystemState) : Prop where
  drawn : ∀ u q, s.drawn u = some q → t.drawn u = some q
  approvals : ∀ id step row, s.store.approvals id step = some row → t.store.approvals id step = some row
  rows : ∀ id row, s.store.runs id = some row → ∃ later, t.store.runs id = some later ∧
    row.version ≤ later.version ∧ later.payload.traceId = row.payload.traceId ∧
      (later.version = row.version → later = row)
  lease : ∀ id, Mine p id t → Mine p id s ∧ t.store.runs id = s.store.runs id
  decisions : ∀ id row, s.store.runs id = some row → t.store.runs id = some row →
    row.payload.status ≠ .waitingApproval → t.store.approvals id = s.store.approvals id
  fresh : ∀ u, s.drawn u = some p → (TraceUsed u t → TraceUsed u s) ∧
    (s.store.runs u = none → t.store.runs u = none)

theorem Rely.refl (p : Pid) (s : SystemState) : Rely p s s where
  drawn _ _ drawn := drawn
  approvals _ _ _ stored := stored
  rows _ row stored := ⟨row, stored, le_rfl, rfl, fun _ => rfl⟩
  lease _ mine := ⟨mine, rfl⟩
  decisions _ _ _ _ _ := rfl
  fresh _ _ := ⟨fun used => used, fun unused => unused⟩

theorem Rely.trans {p : Pid} {s t u : SystemState} (first : Rely p s t) (second : Rely p t u) : Rely p s u where
  drawn v q drawn := second.drawn v q (first.drawn v q drawn)
  approvals id step row stored := second.approvals id step row (first.approvals id step row stored)
  rows id row stored := by
    obtain ⟨middle, atMiddle, older, trace, same⟩ := first.rows id row stored
    obtain ⟨later, atLater, newer, traceLater, kept⟩ := second.rows id middle atMiddle
    refine ⟨later, atLater, older.trans newer, traceLater.trans trace, fun equal => ?_⟩
    have unmoved : middle.version = row.version := le_antisymm (equal ▸ newer) older
    rw [kept (equal.trans unmoved.symm), same unmoved]
  lease id mine := by
    obtain ⟨mineMiddle, laterRuns⟩ := second.lease id mine
    obtain ⟨mineFirst, runs⟩ := first.lease id mineMiddle
    exact ⟨mineFirst, laterRuns.trans runs⟩
  decisions id row stored later active := by
    obtain ⟨middle, atMiddle, older, -, same⟩ := first.rows id row stored
    obtain ⟨last, atLast, newer, -, -⟩ := second.rows id middle atMiddle
    cases (Option.some.inj (atLast.symm.trans later))
    have unmoved : middle = row := same (le_antisymm newer older)
    subst unmoved
    exact (second.decisions id _ atMiddle later active).trans (first.decisions id _ stored atMiddle active)
  fresh v drawn := by
    obtain ⟨usedFirst, unusedFirst⟩ := first.fresh v drawn
    obtain ⟨usedSecond, unusedSecond⟩ := second.fresh v (first.drawn v p drawn)
    exact ⟨fun used => usedFirst (usedSecond used), fun unused => unusedSecond (unusedFirst unused)⟩

/-- `run` is what the store had under its version, and has unless it moved on. -/
def Snapshot (run : Run) (s : SystemState) : Prop :=
  ∃ row, s.store.runs run.id = some row ∧ run.version ≤ row.version ∧ row.payload.traceId = run.traceId ∧
    (row.version = run.version → row.payload = run)

/-- A snapshot that is current for as long as the lease is the party's own. -/
def Holds (p : Pid) (run : Run) (s : SystemState) : Prop :=
  Snapshot run s ∧ (Mine p run.id s → ∃ row, s.store.runs run.id = some row ∧ row.payload = run)

theorem Snapshot.rely {p : Pid} {run : Run} {s t : SystemState} (seen : Snapshot run s) (others : Rely p s t) :
    Snapshot run t := by
  obtain ⟨row, stored, older, trace, same⟩ := seen
  obtain ⟨later, atLater, newer, traceLater, kept⟩ := others.rows _ row stored
  refine ⟨later, atLater, older.trans newer, traceLater.trans trace, fun equal => ?_⟩
  have unmoved : row.version = run.version := le_antisymm (equal ▸ newer) older
  rw [kept (equal.trans unmoved.symm), same unmoved]

theorem Snapshot.used {run : Run} {s : SystemState} (seen : Snapshot run s) : TraceUsed run.traceId s := by
  obtain ⟨row, stored, -, trace, -⟩ := seen
  exact ⟨run.id, row, stored, trace⟩

theorem Holds.rely {p : Pid} {run : Run} {s t : SystemState} (holds : Holds p run s) (others : Rely p s t) :
    Holds p run t := by
  obtain ⟨seen, current⟩ := holds
  refine ⟨seen.rely others, fun mine => ?_⟩
  obtain ⟨earlier, runs⟩ := others.lease _ mine
  obtain ⟨row, stored, payload⟩ := current earlier
  exact ⟨row, runs.trans stored, payload⟩

end ReliabilityLab
