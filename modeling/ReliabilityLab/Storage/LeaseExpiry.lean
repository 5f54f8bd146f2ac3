import ReliabilityLab.Storage.Fencing

namespace ReliabilityLab

open DateTime

namespace Store
variable {cfg : StoreSettings} {st : Store} {expiry now : DateTime} {owner : Uuid}

/-! Each decision on a run lease is one comparison of texts. -/

theorem leaseIsOwned_text (expiry now : DateTime) (owner : Uuid) :
    leaseIsOwned (some ⟨owner, expiry.isoformat⟩) owner now.isoformat = true ↔ ¬ expiry.isoformat ≤ now.isoformat := by
  simp [leaseIsOwned]

/-- Another worker takes the execution over. -/
theorem claimRunExecution_text {id holder : Uuid} {row : RunRow} {expires : DateTime}
    (sum : now.plus cfg.runLease = some expires) (stored : st.runs id = some row)
    (held : st.leases id = some ⟨holder, expiry.isoformat⟩) (foreign : holder ≠ owner) :
    claimRunExecution cfg now id owner st = .error .runExecutionConflict ↔ ¬ expiry.isoformat ≤ now.isoformat := by
  simp only [claimRunExecution, sum, stored, held, foreign, false_or]
  split
  · rename_i expired
    simp [expired]
  · rename_i live
    simp [live]

/-- The owner of the lease saves, at whatever version. -/
theorem updateOwned_text {run : Run} {expectedVersion : Nat}
    (rendered : { run with version := expectedVersion + 1 }.dumpable = true)
    (held : st.leases run.id = some ⟨owner, expiry.isoformat⟩) :
    updateOwned now run owner expectedVersion st = .error .runExecutionConflict ↔ expiry.isoformat ≤ now.isoformat := by
  have live := leaseIsOwned_text expiry now owner
  by_cases expired : expiry.isoformat ≤ now.isoformat
  · have lost : leaseIsOwned (some ⟨owner, expiry.isoformat⟩) owner now.isoformat = false := by
      rw [Bool.eq_false_iff, ne_eq, live]
      exact not_not.mpr expired
    refine iff_of_true ?_ expired
    cases stored : st.runs run.id <;> simp [updateOwned, rendered, stored, held, lost]
  · have kept := live.mpr expired
    refine iff_of_false ?_ expired
    cases stored : st.runs run.id with
    | none => simp [updateOwned, rendered, stored, held, kept]
    | some row => by_cases current : row.version = expectedVersion <;> simp [updateOwned, rendered, stored, held, kept, current]

theorem saveRunOwnedWithEvents_text {run : Run} {events : List TraceEvent} {expectedVersion : Nat}
    (rendered : { run with version := expectedVersion + 1 }.dumpable = true) (some : events ≠ [])
    (own : ∀ event ∈ events, event.traceId = run.traceId) (held : st.leases run.id = .some ⟨owner, expiry.isoformat⟩) :
    saveRunOwnedWithEvents cfg now run events owner expectedVersion st = .error .runExecutionConflict ↔
      expiry.isoformat ≤ now.isoformat := by
  have sound : (events.isEmpty || events.any (·.traceId ≠ run.traceId)) = false := by
    simpa [some] using own
  have owned : updateOwned now run owner expectedVersion st = .error .runExecutionConflict ↔
      expiry.isoformat ≤ now.isoformat := updateOwned_text rendered held
  rw [← owned]
  simp only [saveRunOwnedWithEvents, sound, Bool.false_eq_true, if_false]
  split
  · rename_i error refused
    simp [refused]
  · rename_i saved updated done
    rw [done]
    split <;> simp

/-- A tool claim under the same expiry is taken over by comparing the instants. -/
theorem claimToolExecution_instant {id : Uuid} {key : String} {row : ToolResultRow} {expires : DateTime}
    (sum : now.plus cfg.claimLease = some expires) (present : st.toolResults id key = some row)
    (request : row.requestFingerprint ≠ "") (claimed : row.state = .claimed) (foreign : row.ownerToken ≠ owner) :
    claimToolExecution cfg now id key owner row.requestFingerprint true st = .ok (.row row, st) ↔
      now.instant < row.leaseExpiresAt.instant := by
  rcases lt_or_ge now.instant row.leaseExpiresAt.instant with live | expired
  · refine iff_of_true ?_ live
    simp [claimToolExecution, request, sum, present, claimed, not_le.mpr live]
  · refine iff_of_false ?_ (not_lt.mpr expired)
    intro same
    simp only [claimToolExecution, request, sum, present, claimed, expired, and_self, if_true, if_false, ne_eq,
      not_true, Except.ok.injEq, Prod.mk.injEq, ToolClaim.row.injEq] at same
    have token := congrArg ToolResultRow.ownerToken same.1
    exact foreign token.symm

/-- The run-lease decisions compare texts, so they treat a lease as live by the instants
exactly where the wall clocks are ordered as the instants are; a tool claim always does. -/
theorem run_lease_by_instants (expiry now : DateTime) :
    (∀ owner : Uuid,
        (leaseIsOwned (some ⟨owner, expiry.isoformat⟩) owner now.isoformat = true ↔ now.instant < expiry.instant) ↔
          WallOrdered expiry now) ∧
      (∀ (cfg : StoreSettings) (st : Store) (id holder owner : Uuid) (row : RunRow) (expires : DateTime),
        now.plus cfg.runLease = some expires → st.runs id = some row →
        st.leases id = some ⟨holder, expiry.isoformat⟩ → holder ≠ owner →
        ((claimRunExecution cfg now id owner st = .error .runExecutionConflict ↔ now.instant < expiry.instant) ↔
          WallOrdered expiry now)) ∧
      (∀ (st : Store) (run : Run) (owner : Uuid) (expectedVersion : Nat),
        { run with version := expectedVersion + 1 }.dumpable = true →
        st.leases run.id = some ⟨owner, expiry.isoformat⟩ →
        ((saveRunOwned now run owner expectedVersion st ≠ .error .runExecutionConflict ↔ now.instant < expiry.instant) ↔
          WallOrdered expiry now)) ∧
      (∀ (cfg : StoreSettings) (st : Store) (run : Run) (events : List TraceEvent) (owner : Uuid) (expectedVersion : Nat),
        { run with version := expectedVersion + 1 }.dumpable = true → events ≠ [] →
        (∀ event ∈ events, event.traceId = run.traceId) → st.leases run.id = some ⟨owner, expiry.isoformat⟩ →
        ((saveRunOwnedWithEvents cfg now run events owner expectedVersion st ≠ .error .runExecutionConflict ↔
            now.instant < expiry.instant) ↔
          WallOrdered expiry now)) ∧
      ∀ (cfg : StoreSettings) (st : Store) (id owner : Uuid) (key : String) (row : ToolResultRow) (expires : DateTime),
        now.plus cfg.claimLease = some expires → st.toolResults id key = some row → row.requestFingerprint ≠ "" →
        row.state = .claimed → row.ownerToken ≠ owner → row.leaseExpiresAt = expiry →
        (claimToolExecution cfg now id key owner row.requestFingerprint true st = .ok (.row row, st) ↔
          now.instant < expiry.instant) := by
  have agree : ∀ {live : Prop}, (live ↔ ¬ expiry.isoformat ≤ now.isoformat) →
      ((live ↔ now.instant < expiry.instant) ↔ WallOrdered expiry now) := by
    intro live decided
    rw [decided, ← not_le, not_iff_not]
    exact isoformat_le_agrees expiry now
  refine ⟨?_, ?_, ?_, ?_, ?_⟩
  · intro owner
    exact agree (leaseIsOwned_text expiry now owner)
  · intro cfg st id holder owner row expires sum stored held foreign
    exact agree (claimRunExecution_text sum stored held foreign)
  · intro st run owner expectedVersion rendered held
    exact agree (not_congr (updateOwned_text rendered held))
  · intro cfg st run events owner expectedVersion rendered some own held
    exact agree (not_congr (saveRunOwnedWithEvents_text rendered some own held))
  · intro cfg st id owner key row expires sum present request claimed foreign same
    rw [← same]
    exact claimToolExecution_instant sum present request claimed foreign

/-- One o'clock in a zone two hours east of UTC. -/
def eastReading : DateTime := ⟨63924123600000000, 7200000000, by decide, by decide⟩

def eastExpiry : DateTime := ⟨63924123630000000, 7200000000, by decide, by decide⟩

theorem utc_inside : (0 : Int).natAbs < 86400 * 1000000 := by decide

/-- Noon of UTC, an hour after the other reading. -/
def noonReading : DateTime := ⟨63924120000000000, 0, by decide, utc_inside⟩

def eastStore : Store := fencedStore.setLease 0 (some ⟨7, eastExpiry.isoformat⟩)

/-- A worker claims a run while the clock shows a zone east of UTC. The lease ends, and an
hour later by a UTC clock it still keeps another worker out, and its owner may save. -/
theorem expired_lease_live :
    claimRunExecution fencedSettings eastReading 0 7 fencedStore = .ok (fencedRun, eastStore) ∧
      eastExpiry.instant < noonReading.instant ∧
      claimRunExecution fencedSettings noonReading 0 8 eastStore = .error .runExecutionConflict ∧
      saveRunOwned noonReading fencedRun 7 1 eastStore ≠ .error .runExecutionConflict := by
  have later : noonReading.isoformat < eastExpiry.isoformat := isoformat_lt (by decide)
  have held : eastStore.leases 0 = some ⟨7, eastExpiry.isoformat⟩ := rfl
  have sum : ∃ expires, noonReading.plus fencedSettings.runLease = some expires := ⟨_, dif_pos (by decide)⟩
  obtain ⟨expires, sum⟩ := sum
  have refused : claimRunExecution fencedSettings noonReading 0 8 eastStore = .error .runExecutionConflict :=
    (claimRunExecution_text sum rfl held (by decide)).mpr later.not_ge
  have saved : updateOwned noonReading fencedRun 7 1 eastStore ≠ .error .runExecutionConflict :=
    (updateOwned_text rfl held).not.mpr later.not_ge
  exact ⟨rfl, by decide, refused, saved⟩

end Store

end ReliabilityLab
