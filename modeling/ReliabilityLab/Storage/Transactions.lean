import ReliabilityLab.Storage.Sanitization
import ReliabilityLab.Storage.Tables

namespace ReliabilityLab

/-- How a store was constructed; leases in microseconds. -/
structure StoreSettings where
  secretValues : List String
  tables : CharTables
  claimLease : Nat
  runLease : Nat

/-- One transaction: an exception rolls every table back. -/
abbrev Tx (α : Type) := Store → Except Exn (α × Store)

/-- How a transaction may end: committed, refused and rolled back, or failed
in the database. -/
inductive Settles {α : Type} (tx : Tx α) (st : Store) : Except Exn α → Store → Prop
  | committed {value after} : tx st = .ok (value, after) → Settles tx st (.ok value) after
  | refused {error} : tx st = .error error → Settles tx st (.error error) st
  | broken : Settles tx st (.error .database) st

theorem Settles.ok {α : Type} {tx : Tx α} {st after : Store} {value : α}
    (settled : Settles tx st (.ok value) after) : tx st = .ok (value, after) := by
  cases settled with
  | committed result => exact result

theorem Settles.error {α : Type} {tx : Tx α} {st after : Store} {error : Exn}
    (settled : Settles tx st (.error error) after) : after = st := by
  cases settled <;> rfl

namespace Store
variable (cfg : StoreSettings)

def sanitize (payload : Json) : Json := sanitizePayload cfg.tables cfg.secretValues payload

def cleanEvent (event : TraceEvent) : TraceEvent :=
  { event with payload := sanitize cfg event.payload, attributes := sanitize cfg event.attributes }

def dumpableEvent (event : TraceEvent) : Bool := event.payload.printable && event.attributes.printable

/-- `save_run` of a run that is not there yet; the runtime never updates with it. -/
def saveRun (run : Run) : Tx Run := fun st =>
  match st.runs run.id with
  | some _ => .error .concurrentUpdate
  | none =>
    let persisted := { run with version := 1 }
    if persisted.dumpable then .ok (persisted, st.setRun run.id ⟨run.traceId, 1, persisted⟩)
    else .error .valueError

def getRun (id : Uuid) : Tx (Option Run) := fun st => .ok ((st.runs id).map (·.payload), st)

/-- The lease row names `owner` with an expiry text after `now`. -/
def leaseIsOwned (lease : Option RunExecutionLeaseRow) (owner : Uuid) (now : String) : Bool :=
  match lease with
  | none => false
  | some lease => lease.ownerToken = owner && now < lease.leaseExpiresAt

def claimRunExecution (now : DateTime) (id owner : Uuid) : Tx Run := fun st =>
  match now.plus cfg.runLease with
  | none => .error .overflow
  | some expires =>
    match st.runs id with
    | none => .error .lookupError
    | some row =>
      let claimed := st.setLease id (some ⟨owner, expires.isoformat⟩)
      match st.leases id with
      | none => .ok (row.payload, claimed)
      | some lease =>
        if lease.ownerToken = owner ∨ lease.leaseExpiresAt ≤ now.isoformat then .ok (row.payload, claimed)
        else .error .runExecutionConflict

def renewRunExecution (now : DateTime) (id owner : Uuid) : Tx Run := fun st =>
  match now.plus cfg.runLease with
  | none => .error .overflow
  | some expires =>
    match st.leases id with
    | none => .error .runExecutionConflict
    | some lease =>
      if lease.ownerToken = owner then
        match st.runs id with
        | none => .error .lookupError
        | some row => .ok (row.payload, st.setLease id (some ⟨owner, expires.isoformat⟩))
      else .error .runExecutionConflict

def releaseRunExecution (id owner : Uuid) : Tx Run := fun st =>
  match st.runs id with
  | none => .error .lookupError
  | some row =>
    match st.leases id with
    | none => .error .runExecutionConflict
    | some lease =>
      if lease.ownerToken = owner then .ok (row.payload, st.setLease id none)
      else .error .runExecutionConflict

/-- The guarded update shared by both owned saves: version and live lease in
its WHERE clause, and the exception that tells which of them failed. -/
def updateOwned (now : DateTime) (run : Run) (owner : Uuid) (expectedVersion : Nat) : Tx Run := fun st =>
  let persisted := { run with version := expectedVersion + 1 }
  if !persisted.dumpable then .error .valueError
  else
    let owned := leaseIsOwned (st.leases run.id) owner now.isoformat
    match st.runs run.id with
    | some row =>
      if row.version = expectedVersion ∧ owned = true then
        .ok (persisted, st.setRun run.id ⟨run.traceId, expectedVersion + 1, persisted⟩)
      else .error (if owned then .concurrentUpdate else .runExecutionConflict)
    | none => .error (if owned then .concurrentUpdate else .runExecutionConflict)

def saveRunOwned (now : DateTime) (run : Run) (owner : Uuid) (expectedVersion : Nat) : Tx Run :=
  updateOwned now run owner expectedVersion

def saveRunOwnedWithEvents (now : DateTime) (run : Run) (events : List TraceEvent) (owner : Uuid)
    (expectedVersion : Nat) : Tx Run := fun st =>
  if events.isEmpty || events.any (·.traceId ≠ run.traceId) then .error .valueError
  else
    match updateOwned now run owner expectedVersion st with
    | .error error => .error error
    | .ok (saved, updated) =>
      let clean := events.map (cleanEvent cfg)
      if clean.all dumpableEvent then .ok (saved, updated.insertEvents clean) else .error .valueError

def appendEvent (event : TraceEvent) : Tx Unit := fun st =>
  let clean := cleanEvent cfg event
  if dumpableEvent clean then .ok ((), st.insertEvent clean) else .error .valueError

/-- `len(fingerprint) == 64` and every character a lowercase hex digit. -/
def canonicalFingerprint (fingerprint : String) : Bool :=
  fingerprint.length = 64 && fingerprint.toList.all fun c => "0123456789abcdef".toList.contains c

/-- The run row is paused on exactly this action. -/
def pausedOn (st : Store) (id : Uuid) (step : Nat) (fingerprint : String) : Bool :=
  match st.runs id with
  | none => false
  | some row => row.payload.status = .waitingApproval && row.payload.pendingApproval &&
      row.payload.currentStep = step && row.payload.pendingActionFingerprint = some fingerprint

def recordedEvent (traceId : Uuid) (step : Nat) (row : ApprovalRow) : TraceEvent where
  traceId := traceId
  spanId := none
  parentSpanId := some traceId
  eventType := .approvalRecorded
  payload := .obj [("actor", .str row.actor), ("allow", .bool row.allow), ("action_step", .int step),
    ("action_fingerprint", .str row.actionFingerprint)]
  attributes := .obj []
  status := "ok"

/-- `record_pending_approval`: the insert only sees a run paused on the action,
and its audit event is written in the same transaction. -/
def recordPendingApproval (id : Uuid) (step : Nat) (row : ApprovalRow) : Tx ApprovalRow := fun st =>
  if !canonicalFingerprint row.actionFingerprint then .error .valueError
  else
    match st.approvals id step with
    | some previous => if previous = row then .ok (previous, st) else .error .valueError
    | none =>
      match st.runs id with
      | none => .error .valueError
      | some run =>
        if st.pausedOn id step row.actionFingerprint then
          .ok (row, (st.setApproval id step row).insertEvent (cleanEvent cfg (recordedEvent run.traceId step row)))
        else .error .valueError

/-- `record_pending_approval` as its callers reach it: a negative step is refused first. -/
def recordPendingApprovalAt (id : Uuid) (step : Int) (row : ApprovalRow) : Tx ApprovalRow :=
  if step < 0 then fun _ => .error .valueError else recordPendingApproval cfg id step.toNat row

def getApproval (id : Uuid) (step : Nat) : Tx (Option ApprovalRow) := fun st => .ok (st.approvals id step, st)

def claimToolExecution (now : DateTime) (id : Uuid) (key : String) (owner : Uuid) (requestFingerprint : String)
    (allowReclaim : Bool) : Tx ToolClaim := fun st =>
  if requestFingerprint = "" then .error .valueError
  else
    match now.plus cfg.claimLease with
    | none => .error .overflow
    | some expires =>
      match st.toolResults id key with
      | none =>
        let row : ToolResultRow := ⟨.claimed, owner, requestFingerprint, none, none, none, expires⟩
        .ok (.row row, st.setToolResult id key row)
      | some row =>
        if row.requestFingerprint ≠ requestFingerprint then .ok (.conflict row.requestFingerprint, st)
        else if row.state = .claimed ∧ row.leaseExpiresAt.instant ≤ now.instant then
          if allowReclaim then
            let taken := { row with ownerToken := owner, leaseExpiresAt := expires }
            .ok (.row taken, st.setToolResult id key taken)
          else
            let abandoned := { row with
              state := .failed
              error := some "abandoned execution requires manual review"
              failureDisposition := some .indeterminate }
            .ok (.row abandoned, st.setToolResult id key abandoned)
        else if row.state = .failed ∧ row.failureDisposition = some .retryable ∧ allowReclaim = true then
          let taken : ToolResultRow := ⟨.claimed, owner, row.requestFingerprint, none, none, none, expires⟩
          .ok (.row taken, st.setToolResult id key taken)
        else .ok (.row row, st)

/-- The update of `complete_tool_result`, after its payload was rendered. -/
def completeToolResult (id : Uuid) (key : String) (payload : Json) (owner : Uuid) : Tx Unit := fun st =>
  match st.toolResults id key with
  | none => .error .valueError
  | some row =>
    if row.state = .claimed ∧ row.ownerToken = owner then
      .ok ((), st.setToolResult id key { row with state := .completed, payload := some payload })
    else .error .valueError

def failToolExecution (id : Uuid) (key : String) (owner : Uuid) (error : String)
    (disposition : ToolFailureDisposition) : Tx Unit := fun st =>
  match st.toolResults id key with
  | none => .error .valueError
  | some row =>
    if row.state = .claimed ∧ row.ownerToken = owner then
      .ok ((), st.setToolResult id key
        { row with state := .failed, error := some error, failureDisposition := some disposition })
    else .error .valueError

theorem saveRun_ok {run saved : Run} {st after : Store} (done : saveRun run st = .ok (saved, after)) :
    st.runs run.id = none ∧ saved = { run with version := 1 } ∧
      after = st.setRun run.id ⟨run.traceId, 1, saved⟩ := by
  simp only [saveRun] at done
  split at done
  · cases done
  · rename_i unsaved
    split at done
    · cases done; exact ⟨unsaved, rfl, rfl⟩
    · cases done

/-- An execution is claimed from nobody, from itself, or from an expired owner. -/
theorem claimRunExecution_ok {cfg : StoreSettings} {now : DateTime} {id owner : Uuid} {run : Run} {st after : Store}
    (done : claimRunExecution cfg now id owner st = .ok (run, after)) :
    ∃ row expires, now.plus cfg.runLease = some expires ∧ st.runs id = some row ∧ run = row.payload ∧
      after = st.setLease id (some ⟨owner, expires.isoformat⟩) ∧
      ∀ lease, st.leases id = some lease → lease.ownerToken = owner ∨ lease.leaseExpiresAt ≤ now.isoformat := by
  simp only [claimRunExecution] at done
  split at done
  · cases done
  · rename_i expires expiry
    split at done
    · cases done
    · rename_i row stored
      split at done
      · rename_i unclaimed
        cases done
        exact ⟨row, expires, expiry, stored, rfl, rfl, by simp [unclaimed]⟩
      · rename_i lease claimed
        split at done
        · rename_i takeover
          cases done
          refine ⟨row, expires, expiry, stored, rfl, rfl, fun other named => ?_⟩
          cases Option.some.inj (claimed.symm.trans named)
          exact takeover
        · cases done

theorem renewRunExecution_ok {cfg : StoreSettings} {now : DateTime} {id owner : Uuid} {run : Run} {st after : Store}
    (done : renewRunExecution cfg now id owner st = .ok (run, after)) :
    ∃ row lease expires, now.plus cfg.runLease = some expires ∧ st.runs id = some row ∧ run = row.payload ∧
      st.leases id = some lease ∧ lease.ownerToken = owner ∧
      after = st.setLease id (some ⟨owner, expires.isoformat⟩) := by
  simp only [renewRunExecution] at done
  split at done
  · cases done
  · rename_i expires expiry
    split at done
    · cases done
    · rename_i lease claimed
      split at done
      · rename_i named
        split at done
        · cases done
        · rename_i row stored
          cases done
          exact ⟨row, lease, expires, expiry, stored, rfl, claimed, named, rfl⟩
      · cases done

theorem releaseRunExecution_ok {id owner : Uuid} {run : Run} {st after : Store}
    (done : releaseRunExecution id owner st = .ok (run, after)) :
    ∃ row lease, st.runs id = some row ∧ run = row.payload ∧ st.leases id = some lease ∧
      lease.ownerToken = owner ∧ after = st.setLease id none := by
  simp only [releaseRunExecution] at done
  split at done
  · cases done
  · rename_i row stored
    split at done
    · cases done
    · rename_i lease claimed
      split at done
      · rename_i named
        cases done
        exact ⟨row, lease, stored, rfl, claimed, named, rfl⟩
      · cases done

theorem leaseIsOwned_iff {lease : Option RunExecutionLeaseRow} {owner : Uuid} {now : String} :
    leaseIsOwned lease owner now = true ↔
      ∃ row, lease = some row ∧ row.ownerToken = owner ∧ now < row.leaseExpiresAt := by
  cases lease with
  | none => simp [leaseIsOwned]
  | some row => simp [leaseIsOwned]

/-- An owned save meets the expected version under a live lease of its owner,
and raises that version by one. -/
theorem updateOwned_ok {now : DateTime} {run saved : Run} {owner : Uuid} {expectedVersion : Nat} {st after : Store}
    (done : updateOwned now run owner expectedVersion st = .ok (saved, after)) :
    ∃ row lease, st.runs run.id = some row ∧ row.version = expectedVersion ∧ st.leases run.id = some lease ∧
      lease.ownerToken = owner ∧ now.isoformat < lease.leaseExpiresAt ∧
      saved = { run with version := expectedVersion + 1 } ∧
      after = st.setRun run.id ⟨run.traceId, expectedVersion + 1, saved⟩ := by
  simp only [updateOwned] at done
  split at done
  · cases done
  · split at done
    · rename_i row stored
      split at done
      · rename_i met
        obtain ⟨lease, claimed, named, live⟩ := leaseIsOwned_iff.mp met.2
        cases done
        exact ⟨row, lease, stored, met.1, claimed, named, live, rfl, rfl⟩
      · cases done
    · cases done

theorem saveRunOwnedWithEvents_ok {cfg : StoreSettings} {now : DateTime} {run saved : Run}
    {events : List TraceEvent} {owner : Uuid} {expectedVersion : Nat} {st after : Store}
    (done : saveRunOwnedWithEvents cfg now run events owner expectedVersion st = .ok (saved, after)) :
    ∃ updated, updateOwned now run owner expectedVersion st = .ok (saved, updated) ∧
      after = updated.insertEvents (events.map (cleanEvent cfg)) := by
  simp only [saveRunOwnedWithEvents] at done
  split at done
  · cases done
  · split at done
    · cases done
    · rename_i saved' updated result
      split at done
      · cases done; exact ⟨updated, result, rfl⟩
      · cases done

theorem saveRunOwnedWithEvents_nonempty {cfg : StoreSettings} {now : DateTime} {run saved : Run}
    {events : List TraceEvent} {owner : Uuid} {expectedVersion : Nat} {st after : Store}
    (done : saveRunOwnedWithEvents cfg now run events owner expectedVersion st = .ok (saved, after)) : events ≠ [] := by
  rintro rfl
  cases done

/-- All events of an owned save are of its run's trace. -/
theorem saveRunOwnedWithEvents_own {cfg : StoreSettings} {now : DateTime} {run saved : Run}
    {events : List TraceEvent} {owner : Uuid} {expectedVersion : Nat} {st after : Store}
    (done : saveRunOwnedWithEvents cfg now run events owner expectedVersion st = .ok (saved, after)) :
    ∀ event ∈ events, event.traceId = run.traceId := by
  simp only [saveRunOwnedWithEvents] at done
  split at done
  · cases done
  · rename_i sound
    simp only [Bool.or_eq_true, List.any_eq_true, decide_eq_true_eq, not_or, not_exists, not_and, not_not] at sound
    exact sound.2

/-- A claim touches nothing but the claims. -/
theorem claimToolExecution_frame {cfg : StoreSettings} {now : DateTime} {id owner : Uuid}
    {key fingerprint : String} {allowReclaim : Bool} {st after : Store} {claim : ToolClaim}
    (done : claimToolExecution cfg now id key owner fingerprint allowReclaim st = .ok (claim, after)) :
    ∃ results, after = { st with toolResults := results } := by
  unfold claimToolExecution at done
  repeat' split at done
  all_goals cases done
  all_goals exact ⟨_, rfl⟩

/-- A claim that answers with the row of another token met that row alive. -/
theorem claimToolExecution_foreign {cfg : StoreSettings} {now : DateTime} {id owner : Uuid}
    {key fingerprint : String} {allowReclaim : Bool} {st after : Store} {row : ToolResultRow}
    (done : claimToolExecution cfg now id key owner fingerprint allowReclaim st = .ok (.row row, after))
    (state : row.state = .claimed) (foreign : row.ownerToken ≠ owner) :
    st.toolResults id key = some row ∧ row.requestFingerprint = fingerprint ∧
      now.instant < row.leaseExpiresAt.instant := by
  simp only [claimToolExecution] at done
  split at done
  · cases done
  · split at done
    · cases done
    · split at done
      · cases done; exact absurd rfl foreign
      · rename_i found present
        split at done
        · cases done
        · rename_i same
          split at done
          · split at done
            · cases done; exact absurd rfl foreign
            · cases done; cases state
          · rename_i dead
            split at done
            · cases done; exact absurd rfl foreign
            · cases done
              exact ⟨present, by simpa using same, by simpa [state] using dead⟩

theorem completeToolResult_frame {id owner : Uuid} {key : String} {payload : Json} {st after : Store}
    {answer : Unit} (done : completeToolResult id key payload owner st = .ok (answer, after)) :
    ∃ results, after = { st with toolResults := results } := by
  unfold completeToolResult at done
  repeat' split at done
  all_goals cases done
  exact ⟨_, rfl⟩

theorem failToolExecution_frame {id owner : Uuid} {key error : String}
    {disposition : ToolFailureDisposition} {st after : Store} {answer : Unit}
    (done : failToolExecution id key owner error disposition st = .ok (answer, after)) :
    ∃ results, after = { st with toolResults := results } := by
  unfold failToolExecution at done
  repeat' split at done
  all_goals cases done
  exact ⟨_, rfl⟩

theorem appendEvent_ok {cfg : StoreSettings} {event : TraceEvent} {st after : Store} {answer : Unit}
    (done : appendEvent cfg event st = .ok (answer, after)) :
    after = st.insertEvent (cleanEvent cfg event) := by
  simp only [appendEvent] at done
  split at done
  · exact (Prod.mk.inj (Except.ok.inj done)).2.symm
  · cases done

theorem appendEvent_error {cfg : StoreSettings} {event : TraceEvent} {st : Store} {error : Exn}
    (failed : appendEvent cfg event st = .error error) : error = .valueError := by
  simp only [appendEvent] at failed
  split at failed
  · cases failed
  · exact (Except.error.inj failed).symm

/-- A decision is the one that is there, or a new one for a run paused on
exactly its action, together with its audit event. -/
theorem recordPendingApproval_ok {cfg : StoreSettings} {id : Uuid} {step : Nat} {row decision : ApprovalRow}
    {st after : Store} (done : recordPendingApproval cfg id step row st = .ok (decision, after)) :
    decision = row ∧ (st.approvals id step = some row ∧ after = st ∨
      st.approvals id step = none ∧ ∃ run, st.runs id = some run ∧
        st.pausedOn id step row.actionFingerprint = true ∧
        after = (st.setApproval id step row).insertEvent (cleanEvent cfg (recordedEvent run.traceId step row))) := by
  simp only [recordPendingApproval] at done
  split at done
  · cases done
  · split at done
    · rename_i previous present
      split at done
      · rename_i same
        cases done
        exact ⟨same, .inl ⟨same ▸ present, rfl⟩⟩
      · cases done
    · rename_i absent
      split at done
      · cases done
      · rename_i run stored
        split at done
        · rename_i paused
          cases done
          exact ⟨rfl, .inr ⟨absent, run, stored, paused, rfl⟩⟩
        · cases done

theorem recordPendingApproval_canonical {cfg : StoreSettings} {id : Uuid} {step : Nat} {row decision : ApprovalRow}
    {st after : Store} (done : recordPendingApproval cfg id step row st = .ok (decision, after)) :
    canonicalFingerprint row.actionFingerprint = true := by
  by_contra refused
  simp only [recordPendingApproval, Bool.not_eq_true] at done refused
  rw [refused] at done
  cases done

theorem pausedOn_ok {st : Store} {id : Uuid} {step : Nat} {fingerprint : String}
    (paused : st.pausedOn id step fingerprint = true) :
    ∃ row, st.runs id = some row ∧ row.payload.status = .waitingApproval ∧ row.payload.pendingApproval = true ∧
      row.payload.currentStep = step ∧ row.payload.pendingActionFingerprint = some fingerprint := by
  simp only [pausedOn] at paused
  split at paused
  · cases paused
  · rename_i row stored
    simp only [Bool.and_eq_true, decide_eq_true_eq] at paused
    exact ⟨row, stored, paused.1.1.1, paused.1.1.2, paused.1.2, paused.2⟩

end Store

end ReliabilityLab
