import Mathlib.Logic.Relation
import ReliabilityLab.Foundation.Interleaving
import ReliabilityLab.Storage.Transactions

namespace ReliabilityLab

/-- The lease and save operations that workers share, without the owner token. -/
inductive LeaseOp where
  | claimRunExecution (id : Uuid)
  | renewRunExecution (id : Uuid)
  | releaseRunExecution (id : Uuid)
  | saveRunOwned (run : Run) (expectedVersion : Nat)
  | saveRunOwnedWithEvents (run : Run) (events : List TraceEvent) (expectedVersion : Nat)

abbrev LeaseOp.Answer (_ : LeaseOp) : Type := Except Exn Run

/-- The run that an operation is about. -/
def LeaseOp.target : LeaseOp → Uuid
  | .claimRunExecution id => id
  | .renewRunExecution id => id
  | .releaseRunExecution id => id
  | .saveRunOwned run _ => run.id
  | .saveRunOwnedWithEvents run _ _ => run.id

def LeaseOp.claims : LeaseOp → Bool
  | .claimRunExecution _ => true
  | _ => false

/-- The version a save expects, for the saves. -/
def LeaseOp.expects : LeaseOp → Option Nat
  | .saveRunOwned _ version => some version
  | .saveRunOwnedWithEvents _ _ version => some version
  | _ => none

def LeaseOp.transaction (cfg : StoreSettings) (owner : Uuid) (now : DateTime) : LeaseOp → Tx Run
  | .claimRunExecution id => Store.claimRunExecution cfg now id owner
  | .renewRunExecution id => Store.renewRunExecution cfg now id owner
  | .releaseRunExecution id => Store.releaseRunExecution id owner
  | .saveRunOwned run version => Store.saveRunOwned now run owner version
  | .saveRunOwnedWithEvents run events version => Store.saveRunOwnedWithEvents cfg now run events owner version

structure LeaseState where
  store : Store
  clock : DateTime

/-- Every lease row carries the text of a UTC expiry. -/
def LeaseState.UtcLeases (s : LeaseState) : Prop :=
  ∀ id lease, s.store.leases id = some lease →
    ∃ expiry : DateTime, expiry.offset = 0 ∧ lease.leaseExpiresAt = expiry.isoformat

/-- Workers that run any programs over the operations, each under its own
token, with a UTC clock that never goes back. A worker reads the clock before
its transaction. -/
def leaseSystem (cfg : StoreSettings) (token : Nat → Uuid) :
    Machine Nat LeaseOp LeaseOp.Answer Exn Unit DateTime LeaseState where
  init s := s.clock.offset = 0 ∧ s.UtcLeases
  starts _ := True
  reads s now := now = s.clock
  perform p op now s answer t :=
    ∃ after, Settles (op.transaction cfg (token p) now) s.store answer after ∧ t = { s with store := after }
  ambient s t := ∃ clock : DateTime, clock.offset = 0 ∧ s.clock.instant ≤ clock.instant ∧ t = { s with clock := clock }
  crash _ s := s

abbrev LeaseWorld := World Nat LeaseOp LeaseOp.Answer Exn Unit DateTime LeaseState

/-- Worker `p` performs `op` with that clock reading and answer, in this step. -/
def Performs (cfg : StoreSettings) (token : Nat → Uuid) (p : Nat) (op : LeaseOp) (now : DateTime)
    (answer : Except Exn Run) (w v : LeaseWorld) : Prop :=
  (∃ next, w.procs p = .issued (.perform op next) now) ∧
    (leaseSystem cfg token).perform p op now w.state answer v.state

/-- From `w` on, `p` does not succeed in claiming `id`. -/
inductive Unclaimed (cfg : StoreSettings) (token : Nat → Uuid) (p : Nat) (id : Uuid) (w : LeaseWorld) :
    LeaseWorld → Prop
  | refl : Unclaimed cfg token p id w w
  | step {u v} : Unclaimed cfg token p id w u → Machine.Step (leaseSystem cfg token) u v →
      (∀ now run, ¬ Performs cfg token p (.claimRunExecution id) now (.ok run) u v) →
      Unclaimed cfg token p id w v

variable {cfg : StoreSettings} {token : Nat → Uuid}

/-- What one operation under token `owner` does: nothing, a new lease row of
its run, or the next version of its run. -/
inductive LeaseEffect (cfg : StoreSettings) (owner : Uuid) (op : LeaseOp) (now : DateTime) (st after : Store) : Prop
  | nothing : after = st → LeaseEffect cfg owner op now st after
  | leased (expiry : DateTime) : now.plus cfg.runLease = some expiry →
      op.claims = true ∨ (∃ lease, st.leases op.target = some lease ∧ lease.ownerToken = owner) →
      after = st.setLease op.target (some ⟨owner, expiry.isoformat⟩) → LeaseEffect cfg owner op now st after
  | released (lease : RunExecutionLeaseRow) : st.leases op.target = some lease → lease.ownerToken = owner →
      after = st.setLease op.target none → LeaseEffect cfg owner op now st after
  | saved (row next : RunRow) (lease : RunExecutionLeaseRow) : op.expects = some row.version →
      st.runs op.target = some row → next.version = row.version + 1 → st.leases op.target = some lease →
      lease.ownerToken = owner → now.isoformat < lease.leaseExpiresAt →
      after.runs = Function.update st.runs op.target (some next) → after.leases = st.leases →
      LeaseEffect cfg owner op now st after

section Effect
variable {owner : Uuid} {op : LeaseOp} {now : DateTime} {st after : Store}

theorem save_effect {run saved : Run} {version : Nat} (events : List TraceEvent) (target : run.id = op.target)
    (expects : op.expects = some version)
    (done : Store.updateOwned now run owner version st = .ok (saved, after)) :
    LeaseEffect cfg owner op now st (after.insertEvents events) ∧ saved.version = version + 1 ∧
      (after.insertEvents events).runs op.target = some ⟨run.traceId, version + 1, saved⟩ := by
  obtain ⟨row, lease, stored, rfl, claimed, named, live, rfl, rfl⟩ := Store.updateOwned_ok done
  rw [target] at stored claimed
  refine ⟨.saved row ⟨run.traceId, row.version + 1, { run with version := row.version + 1 }⟩ lease expects stored rfl
    claimed named live ?_ ?_, rfl, ?_⟩
  · rw [Store.insertEvents_runs, ← target]; rfl
  · rw [Store.insertEvents_leases]; rfl
  · rw [Store.insertEvents_runs, ← target]; simp

theorem lease_effect {answer : Except Exn Run} (settled : Settles (op.transaction cfg owner now) st answer after) :
    LeaseEffect cfg owner op now st after := by
  cases settled with
  | refused => exact .nothing rfl
  | broken => exact .nothing rfl
  | committed done =>
    cases op with
    | claimRunExecution id =>
      obtain ⟨_, expiry, sum, -, -, rfl, -⟩ := Store.claimRunExecution_ok done
      exact .leased expiry sum (.inl rfl) rfl
    | renewRunExecution id =>
      obtain ⟨_, lease, expiry, sum, -, -, claimed, named, rfl⟩ := Store.renewRunExecution_ok done
      exact .leased expiry sum (.inr ⟨lease, claimed, named⟩) rfl
    | releaseRunExecution id =>
      obtain ⟨_, lease, -, -, claimed, named, rfl⟩ := Store.releaseRunExecution_ok done
      exact .released lease claimed named rfl
    | saveRunOwned run version => exact (save_effect [] rfl rfl done).1
    | saveRunOwnedWithEvents run events version =>
      obtain ⟨updated, result, rfl⟩ := Store.saveRunOwnedWithEvents_ok done
      exact (save_effect _ rfl rfl result).1

/-- Without the lease in its name a token can only claim. -/
theorem LeaseEffect.powerless {answer : Except Exn Run}
    (settled : Settles (op.transaction cfg owner now) st answer after) (notClaim : op.claims = false)
    (foreign : ∀ lease, st.leases op.target = some lease → lease.ownerToken ≠ owner) :
    ∃ error, answer = .error error := by
  cases answer with
  | error error => exact ⟨error, rfl⟩
  | ok run =>
    have done := settled.ok
    cases op with
    | claimRunExecution id => cases notClaim
    | renewRunExecution id =>
      obtain ⟨_, lease, _, -, -, -, claimed, named, -⟩ := Store.renewRunExecution_ok done
      exact absurd named (foreign lease claimed)
    | releaseRunExecution id =>
      obtain ⟨_, lease, -, -, claimed, named, -⟩ := Store.releaseRunExecution_ok done
      exact absurd named (foreign lease claimed)
    | saveRunOwned saving version =>
      obtain ⟨_, lease, -, -, claimed, named, -⟩ := Store.updateOwned_ok done
      exact absurd named (foreign lease claimed)
    | saveRunOwnedWithEvents saving events version =>
      obtain ⟨_, result, -⟩ := Store.saveRunOwnedWithEvents_ok done
      obtain ⟨_, lease, -, -, claimed, named, -⟩ := Store.updateOwned_ok result
      exact absurd named (foreign lease claimed)

/-- A lease row after an operation was there before, or is the owner's. -/
theorem LeaseEffect.leases (effect : LeaseEffect cfg owner op now st after) {id : Uuid} {lease : RunExecutionLeaseRow}
    (named : after.leases id = some lease) : st.leases id = some lease ∨
      id = op.target ∧ lease.ownerToken = owner ∧ (∃ expiry, now.plus cfg.runLease = some expiry ∧
        lease.leaseExpiresAt = expiry.isoformat) ∧
        (op.claims = true ∨ ∃ before, st.leases id = some before ∧ before.ownerToken = owner) := by
  cases effect with
  | nothing same => exact .inl (same ▸ named)
  | saved _ _ _ _ _ _ _ _ _ _ leases => exact .inl (leases ▸ named)
  | leased expiry sum entitled same =>
    subst same
    by_cases equal : id = op.target
    · subst equal
      simp only [Store.setLease_leases_self, Option.some.injEq] at named
      subst named
      exact .inr ⟨rfl, rfl, ⟨expiry, sum, rfl⟩, entitled⟩
    · exact .inl (by simpa [Store.setLease, Function.update_of_ne equal] using named)
  | released before there own same =>
    subst same
    by_cases equal : id = op.target
    · subst equal; simp at named
    · exact .inl (by simpa [Store.setLease, Function.update_of_ne equal] using named)

/-- A run is left alone by an operation, or raised by one version. -/
theorem LeaseEffect.runs (effect : LeaseEffect cfg owner op now st after) {id : Uuid} {row : RunRow}
    (stored : st.runs id = some row) : after.runs id = some row ∨
      ∃ next, after.runs id = some next ∧ next.version = row.version + 1 := by
  cases effect with
  | nothing same => exact .inl (same ▸ stored)
  | leased _ _ _ same => subst same; exact .inl stored
  | released _ _ _ same => subst same; exact .inl stored
  | saved found next _ _ there raised _ _ _ runs _ =>
    by_cases equal : id = op.target
    · subst equal
      cases Option.some.inj (stored.symm.trans there)
      exact .inr ⟨next, by rw [runs]; simp, raised⟩
    · exact .inl (by rw [runs, Function.update_of_ne equal]; exact stored)

end Effect

/-- The clock and all pending readings are UTC, and so are the lease rows. -/
structure UtcWorld (w : LeaseWorld) : Prop where
  clock : w.state.clock.offset = 0
  leases : w.state.UtcLeases
  readings : ∀ p program now, w.procs p = .issued program now → now.offset = 0 ∧ now.instant ≤ w.state.clock.instant

theorem UtcWorld.update {w : LeaseWorld} {state : LeaseState} {p : Nat}
    {process : Process LeaseOp LeaseOp.Answer Exn Unit DateTime} (utc : UtcWorld w)
    (clock : state.clock = w.state.clock) (leases : state.UtcLeases)
    (reading : ∀ program now, process = .issued program now → now.offset = 0 ∧ now.instant ≤ w.state.clock.instant) :
    UtcWorld ⟨state, Function.update w.procs p process⟩ := by
  refine ⟨by rw [clock]; exact utc.clock, leases, ?_⟩
  intro q program now issued
  rw [clock]
  by_cases same : q = p
  · subst same; exact reading program now (by simpa using issued)
  · exact utc.readings q program now (by simpa [Function.update_of_ne same] using issued)

theorem UtcWorld.of_reachable {w : LeaseWorld} (reach : Machine.Reachable (leaseSystem cfg token) w) : UtcWorld w := by
  induction reach with
  | init initial => exact ⟨initial.1, initial.2, fun _ _ _ impossible => by cases impossible⟩
  | @step w v _ move utc =>
    cases move with
    | start | finish | crash => exact utc.update rfl utc.leases fun _ _ impossible => by cases impossible
    | issue ready reads =>
      cases reads
      exact utc.update rfl utc.leases fun _ _ same => by cases same; exact ⟨utc.clock, le_rfl⟩
    | commit issued performed =>
      obtain ⟨after, settled, rfl⟩ := performed
      refine utc.update rfl (fun id lease named => ?_) fun _ _ impossible => by cases impossible
      rcases (lease_effect settled).leases named with before | ⟨-, -, ⟨expiry, sum, text⟩, -⟩
      · exact utc.leases id lease before
      · exact ⟨expiry, (DateTime.plus_some sum).2.trans (utc.readings _ _ _ issued).1, text⟩
    | ambient moved =>
      obtain ⟨clock, zone, later, rfl⟩ := moved
      exact ⟨zone, utc.leases, fun p program now issued =>
        ⟨(utc.readings p program now issued).1, (utc.readings p program now issued).2.trans later⟩⟩

/-- A stored run stays as it is for as long as its version does. -/
theorem version_fixes_row {u w : LeaseWorld} (path : Relation.ReflTransGen (Machine.Step (leaseSystem cfg token)) u w)
    {id : Uuid} {seen : RunRow} (stored : u.state.store.runs id = some seen) :
    ∃ row, w.state.store.runs id = some row ∧ seen.version ≤ row.version ∧
      (row.version = seen.version → row = seen) := by
  induction path with
  | refl => exact ⟨seen, stored, le_rfl, fun _ => rfl⟩
  | @tail w v _ move ih =>
    obtain ⟨row, there, older, same⟩ := ih
    have unmoved : ∀ {st : Store}, st.runs = w.state.store.runs → ∃ row, st.runs id = some row ∧
        seen.version ≤ row.version ∧ (row.version = seen.version → row = seen) :=
      fun equal => ⟨row, by rw [equal]; exact there, older, same⟩
    cases move with
    | start | issue | finish | crash => exact unmoved rfl
    | ambient moved => obtain ⟨_, -, -, rfl⟩ := moved; exact unmoved rfl
    | commit issued performed =>
      obtain ⟨after, settled, rfl⟩ := performed
      rcases (lease_effect settled).runs there with kept | ⟨next, raised, version⟩
      · exact ⟨row, kept, older, same⟩
      · exact ⟨next, raised, by omega, fun equal => by omega⟩

/-- Once the lease names another worker, it does not name `p` before `p` claims again. -/
theorem Unclaimed.foreign {p : Nat} {id : Uuid} {w v : LeaseWorld} (distinct : Function.Injective token)
    (unclaimed : Unclaimed cfg token p id w v)
    (taken : ∀ lease, w.state.store.leases id = some lease → lease.ownerToken ≠ token p) :
    ∀ lease, v.state.store.leases id = some lease → lease.ownerToken ≠ token p := by
  induction unclaimed with
  | refl => exact taken
  | @step u v _ move unsuccessful ih =>
    cases move with
    | start | issue | finish | crash => exact ih
    | ambient moved => obtain ⟨_, -, -, rfl⟩ := moved; exact ih
    | @commit q op next now answer t issued performed =>
      obtain ⟨after, settled, rfl⟩ := performed
      intro lease named own
      rcases (lease_effect settled).leases named with before | ⟨rfl, owner, -, claim | ⟨before, there, owned⟩⟩
      · exact ih lease before own
      · have same : q = p := distinct (owner.symm.trans own)
        subst same
        cases op with
        | claimRunExecution id =>
          cases answer with
          | ok run => exact unsuccessful now run ⟨⟨next, issued⟩, after, settled, rfl⟩
          | error error =>
            cases settled.error
            exact ih lease named own
        | _ => cases claim
      · exact ih before there (owned.trans (owner.symm.trans own))

/-- Fencing: an owned save needs a live lease in its token's name and the
stored version; it raises that version by one, from the row that any holder of
the version has seen; and a token that lost the lease can only claim again. -/
theorem lease_fencing (distinct : Function.Injective token) {w : LeaseWorld}
    (reach : Machine.Reachable (leaseSystem cfg token) w) :
    (∀ p op now saved v version, Performs cfg token p op now (.ok saved) w v → op.expects = some version →
      ∃ (row next : RunRow) (lease : RunExecutionLeaseRow) (expiry : DateTime), w.state.store.leases op.target = some lease ∧
        lease.ownerToken = token p ∧ lease.leaseExpiresAt = expiry.isoformat ∧ now.instant < expiry.instant ∧
        w.state.store.runs op.target = some row ∧ row.version = version ∧
        v.state.store.runs op.target = some next ∧ next.version = version + 1 ∧ next.payload = saved ∧
        (∀ u seen, Relation.ReflTransGen (Machine.Step (leaseSystem cfg token)) u w →
          u.state.store.runs op.target = some seen → seen.version = version → row = seen)) ∧
    (∀ v id row, Machine.Step (leaseSystem cfg token) w v → w.state.store.runs id = some row →
      ∃ next, v.state.store.runs id = some next ∧ (next = row ∨ next.version = row.version + 1)) ∧
    (∀ p q id lease, p ≠ q → w.state.store.leases id = some lease → lease.ownerToken = token q →
      ∀ v, Unclaimed cfg token p id w v → ∀ op now answer v', op.target = id → op.claims = false →
        Performs cfg token p op now answer v v' → (∃ error, answer = .error error) ∧ v'.state = v.state) := by
  refine ⟨?_, ?_, ?_⟩
  · rintro p op now saved v version ⟨⟨next, issued⟩, after, settled, same⟩ expects
    have utc := UtcWorld.of_reachable reach
    have shape : ∃ run updated events, Store.updateOwned now run (token p) version w.state.store = .ok (saved, updated) ∧
        after = updated.insertEvents events ∧ run.id = op.target := by
      cases op with
      | claimRunExecution | renewRunExecution | releaseRunExecution => cases expects
      | saveRunOwned run expected =>
        cases expects
        exact ⟨run, after, [], settled.ok, rfl, rfl⟩
      | saveRunOwnedWithEvents run events expected =>
        cases expects
        obtain ⟨updated, result, rfl⟩ := Store.saveRunOwnedWithEvents_ok settled.ok
        exact ⟨run, updated, _, result, rfl, rfl⟩
    obtain ⟨run, updated, events, done, rfl, target⟩ := shape
    obtain ⟨row, lease, stored, atVersion, claimed, named, live, -, -⟩ := Store.updateOwned_ok done
    obtain ⟨-, -, after⟩ := @save_effect cfg _ _ _ _ _ _ _ _ events target expects done
    obtain ⟨expiry, zone, text⟩ := utc.leases _ _ claimed
    have reading := (utc.readings p _ now issued).1
    rw [target] at stored claimed
    refine ⟨row, _, lease, expiry, claimed, named, text, ?_, stored, atVersion, by rw [same]; exact after, rfl, rfl, ?_⟩
    · rw [text] at live
      exact (DateTime.isoformat_lt_iff (reading.trans zone.symm)).mp live
    · intro u seen path there version
      obtain ⟨current, atCurrent, -, fixed⟩ := version_fixes_row path there
      cases Option.some.inj (atCurrent.symm.trans stored)
      exact fixed (atVersion.trans version.symm)
  · intro v id row move stored
    cases move with
    | start | issue | finish | crash => exact ⟨row, stored, .inl rfl⟩
    | ambient moved => obtain ⟨_, -, -, rfl⟩ := moved; exact ⟨row, stored, .inl rfl⟩
    | commit issued performed =>
      obtain ⟨after, settled, rfl⟩ := performed
      rcases (lease_effect settled).runs stored with kept | ⟨next, raised, version⟩
      · exact ⟨row, kept, .inl rfl⟩
      · exact ⟨next, raised, .inr version⟩
  · rintro p q id lease other claimed named v unclaimed op now answer v' rfl notClaim ⟨-, after, settled, same⟩
    have foreign := unclaimed.foreign distinct fun found there own => by
      cases Option.some.inj (there.symm.trans claimed)
      exact other (distinct (own.symm.trans named))
    obtain ⟨error, rfl⟩ := LeaseEffect.powerless settled notClaim foreign
    refine ⟨⟨error, rfl⟩, ?_⟩
    rw [same, settled.error]

def fencedRun : Run := { Run.new 0 1 "demo" .resilient with version := 1 }

def fencedStore : Store := Store.empty.setRun 0 ⟨1, 1, fencedRun⟩

def fencedClock : DateTime := .utc 63924076800000000 (by decide)

def fencedSettings : StoreSettings := ⟨[], ⟨fun c => [c], fun _ => false⟩, 30000000, 30000000⟩

/-- A worker claims run 0 and saves it from version 1. -/
def fencedProgram : Program LeaseOp LeaseOp.Answer Exn Unit :=
  .perform (.claimRunExecution 0) fun _ => .perform (.saveRunOwned fencedRun 1) fun _ => .ret ()

def fencedExpiry : DateTime := .utc 63924076830000000 (by decide)

def fencedLease : RunExecutionLeaseRow := ⟨7, fencedExpiry.isoformat⟩

/-- A world in which nobody but worker 0 has anything to do. -/
def aloneWorld (st : Store) (process : Process LeaseOp LeaseOp.Answer Exn Unit DateTime) : LeaseWorld :=
  ⟨⟨st, fencedClock⟩, Function.update (fun _ => .idle) 0 process⟩

theorem aloneWorld_procs (st : Store) (process : Process LeaseOp LeaseOp.Answer Exn Unit DateTime) :
    (aloneWorld st process).procs 0 = process := by
  simp [aloneWorld]

theorem aloneWorld_update (st after : Store) (old new : Process LeaseOp LeaseOp.Answer Exn Unit DateTime) :
    ⟨⟨after, fencedClock⟩, Function.update (aloneWorld st old).procs 0 new⟩ = aloneWorld after new := by
  simp only [aloneWorld, Function.update_idem]

def fencedSaving : LeaseWorld :=
  aloneWorld (fencedStore.setLease 0 (some fencedLease))
    (.issued (.perform (.saveRunOwned fencedRun 1) fun _ => .ret ()) fencedClock)

abbrev fencedSystem : Machine Nat LeaseOp LeaseOp.Answer Exn Unit DateTime LeaseState :=
  leaseSystem fencedSettings (· + 7)

theorem fencedSaving_reachable : Machine.Reachable fencedSystem fencedSaving := by
  have initial : fencedSystem.init ⟨fencedStore, fencedClock⟩ := ⟨rfl, fun _ _ impossible => by cases impossible⟩
  have started : Machine.Reachable fencedSystem (aloneWorld fencedStore (.ready fencedProgram)) :=
    (Machine.Reachable.init initial).step (.start rfl trivial)
  have performed : fencedSystem.perform 0 (.claimRunExecution 0) fencedClock ⟨fencedStore, fencedClock⟩
      (.ok fencedRun) ⟨fencedStore.setLease 0 (some fencedLease), fencedClock⟩ :=
    ⟨fencedStore.setLease 0 (some fencedLease), .committed rfl, rfl⟩
  have claimed := started.turn (aloneWorld_procs ..) rfl performed
  rw [aloneWorld_update] at claimed
  have saving := claimed.step (.issue (aloneWorld_procs ..) rfl)
  rwa [show (aloneWorld _ _).state = ⟨_, fencedClock⟩ from rfl, aloneWorld_update] at saving

def fencedSaved : Store :=
  (fencedStore.setLease 0 (some fencedLease)).setRun 0 ⟨1, 2, { fencedRun with version := 2 }⟩

theorem fencedSaving_saves : Performs fencedSettings (· + 7) 0 (.saveRunOwned fencedRun 1) fencedClock
    (.ok { fencedRun with version := 2 }) fencedSaving
    (aloneWorld fencedSaved (.ready (.ret ()))) :=
  ⟨⟨_, aloneWorld_procs ..⟩, _, .committed rfl, rfl⟩

/-- The owner of the lease saves version 2 over the version 1 it was given. -/
theorem lease_fencing_first_save : ∃ row, fencedSaving.state.store.runs 0 = some row ∧ row.version = 1 ∧
    ∃ next, fencedSaved.runs 0 = some next ∧ next.version = 2 := by
  obtain ⟨row, next, _, _, -, -, -, -, stored, version, after, raised, -⟩ :=
    (lease_fencing (add_left_injective 7) fencedSaving_reachable).1 _ _ _ _ _ _ fencedSaving_saves rfl
  exact ⟨row, stored, version, next, after, raised⟩

end ReliabilityLab
