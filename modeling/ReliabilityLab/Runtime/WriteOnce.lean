import ReliabilityLab.Runtime.Invocations

namespace ReliabilityLab

/-- Nobody is cancelled, and no claim is met behind its lease: none outlives it, and none is left by a dead worker. -/
def Undisturbed (op : Op) (now : DateTime) (s : SystemState) (answer : op.Answer) : Prop :=
  op.uncancelled answer ∧ ∀ id key owner fingerprint allowReclaim,
    op = .claimToolExecution id key owner fingerprint allowReclaim → ∀ row, s.store.toolResults id key = some row →
      row.state = .claimed → now.instant < row.leaseExpiresAt.instant

/-- The gateway calls of one deployment, undisturbed. -/
def Deployment.undisturbed (dep : Deployment) : Machine Pid Op Op.Answer Exn ToolCallResult DateTime SystemState :=
  { dep.gateway with
    perform := fun p op now s answer t => dep.perform p op now s answer t ∧ Undisturbed op now s answer }

/-- The call writes under this key of this run. -/
def GatewayCall.Writes (dep : Deployment) (call : GatewayCall) (id : Uuid) (key : String) : Prop :=
  call.run.id = id ∧ (call.action dep).idempotencyKey = some key ∧
    ∃ definition, dep.registry.get (call.action dep).toolName = some definition ∧ definition.isWrite = true

/-- A fingerprint of a request to a tool that writes. -/
def WriteRequest (dep : Deployment) (fingerprint : String) : Prop :=
  ∃ toolName definition input, dep.registry.get toolName = some definition ∧ definition.isWrite = true ∧
    fingerprint = dep.requestFingerprint toolName input

/-- The call was turned away by the claim of another one, or before it looked for one. -/
def ToolCallResult.turnedAway (result : ToolCallResult) : Prop :=
  (∃ output, result = .succeeded output 0 true) ∨ result.refused ∨
    ∃ code ∈ ["idempotency_in_progress", "idempotency_conflict", "idempotency_indeterminate", "invalid_cached_output"],
      result = .failed code 0 false

/-- The party stands in front of its handler, or returns something that only an execution returns. -/
def Executes (dep : Deployment) (calls : Pid → GatewayCall) (id : Uuid) (key : String) (p : Pid) (w : GatewayWorld) :
    Prop :=
  (calls p).Writes dep id key ∧
    ((∃ invocation next, (w.procs p).rest = some (.perform (.invokeHandler invocation) next)) ∨
      ∃ result, (w.procs p).rest = some (.ret result) ∧ ¬ result.turnedAway)

/-- The row under the key is of a write, and `p` drew the token that it names. -/
def WrittenBy (dep : Deployment) (id : Uuid) (key : String) (p : Pid) (s : SystemState) : Prop :=
  ∃ row, s.store.toolResults id key = some row ∧ WriteRequest dep row.requestFingerprint ∧
    s.drawn row.ownerToken = some p

/-- No write under the key was given up in a way that lets it be done again. -/
structure WriteState (dep : Deployment) (id : Uuid) (key : String) (s : SystemState) : Prop where
  supply : ∀ u, s.drawn u ≠ none → u < s.store.nextUuid
  failed : ∀ row, s.store.toolResults id key = some row → WriteRequest dep row.requestFingerprint →
    row.state = .failed → row.failureDisposition = some .indeterminate

/-- What no step does to the others: a row of a write keeps its token. -/
structure WriteRely (dep : Deployment) (id : Uuid) (key : String) (s t : SystemState) : Prop where
  drawn : ∀ u q, s.drawn u = some q → t.drawn u = some q
  row : ∀ row, s.store.toolResults id key = some row → ∃ next, t.store.toolResults id key = some next ∧
    next.requestFingerprint = row.requestFingerprint ∧
    (WriteRequest dep row.requestFingerprint → next.ownerToken = row.ownerToken)

theorem WriteRely.refl (dep : Deployment) (id : Uuid) (key : String) (s : SystemState) : WriteRely dep id key s s where
  drawn _ _ drawn := drawn
  row row stored := ⟨row, stored, rfl, fun _ => rfl⟩

theorem WriteRely.trans {dep : Deployment} {id : Uuid} {key : String} {s t u : SystemState}
    (first : WriteRely dep id key s t) (second : WriteRely dep id key t u) : WriteRely dep id key s u where
  drawn v q drawn := second.drawn v q (first.drawn v q drawn)
  row row stored := by
    obtain ⟨middle, atMiddle, same, owner⟩ := first.row row stored
    obtain ⟨last, atLast, sameLast, ownerLast⟩ := second.row middle atMiddle
    refine ⟨last, atLast, sameLast.trans same, fun write => ?_⟩
    exact (ownerLast (by rw [same]; exact write)).trans (owner write)

/-- What a call owes: it calls its handler under its own claim, and gives up no claim of a write for another try. -/
def writePre (dep : Deployment) (calls : Pid → GatewayCall) (id : Uuid) (key : String) (p : Pid) : Op → SystemState → Prop
  | .invokeHandler _, s => (calls p).Writes dep id key → WrittenBy dep id key p s
  | .failToolExecution id' key' owner _ disposition, s => id' = id → key' = key → ∀ row,
      s.store.toolResults id key = some row → row.ownerToken = owner → WriteRequest dep row.requestFingerprint →
        disposition = .indeterminate
  | op, _ => op.ofGateway = true

def writeDiscipline (dep : Deployment) (calls : Pid → GatewayCall) (id : Uuid) (key : String) (p : Pid) :
    Discipline Op Op.Answer SystemState where
  inv := WriteState dep id key
  rely := WriteRely dep id key
  pre := writePre dep calls id key p
  step op s answer t := ∃ now, dep.perform p op now s answer t ∧ Undisturbed op now s answer
  rely_refl := .refl dep id key
  rely_trans := .trans

section Step
variable {dep : Deployment} {calls : Pid → GatewayCall} {id : Uuid} {key : String} {p : Pid} {s t : SystemState}

theorem write_kept {after : Store} (valid : WriteState dep id key s)
    (rows : after.toolResults id key = s.store.toolResults id key) (supply : s.store.nextUuid ≤ after.nextUuid) :
    WriteState dep id key { s with store := after } ∧ WriteRely dep id key s { s with store := after } := by
  refine ⟨⟨fun u known => (valid.supply u known).trans_le supply, ?_⟩, ⟨fun _ _ drawn => drawn, ?_⟩⟩
  · show ∀ row, after.toolResults id key = some row → _
    rw [rows]
    exact valid.failed
  · show ∀ row, _ → ∃ next, after.toolResults id key = some next ∧ _
    rw [rows]
    exact fun row stored => ⟨row, stored, rfl, fun _ => rfl⟩

/-- Writing a row of any key, where a row of a write under this one keeps its token. -/
theorem write_changed {row next : ToolResultRow} {id' : Uuid} {key' : String} (valid : WriteState dep id key s)
    (stored : s.store.toolResults id' key' = some row) (fingerprint : next.requestFingerprint = row.requestFingerprint)
    (write : id' = id → key' = key → WriteRequest dep row.requestFingerprint →
      next.ownerToken = row.ownerToken ∧ (next.state = .failed → next.failureDisposition = some .indeterminate)) :
    WriteState dep id key { s with store := s.store.setToolResult id' key' next } ∧
      WriteRely dep id key s { s with store := s.store.setToolResult id' key' next } := by
  by_cases same : id = id' ∧ key = key'
  · obtain ⟨rfl, rfl⟩ := same
    refine ⟨⟨valid.supply, fun found present => ?_⟩, ⟨fun _ _ drawn => drawn, fun found present => ?_⟩⟩
    · cases Option.some.inj (present.symm.trans (Store.setToolResult_self ..))
      rw [fingerprint]
      exact fun request => (write rfl rfl request).2
    · cases Option.some.inj (present.symm.trans stored)
      exact ⟨next, Store.setToolResult_self .., fingerprint, fun request => (write rfl rfl request).1⟩
  · exact write_kept valid (Store.setToolResult_of_ne _ _ (not_and_or.mp same)) le_rfl

theorem write_commits {α : Type} {tx : Tx α} {answer : Except Exn α} (valid : WriteState dep id key s)
    (commits : s.Commits tx answer t)
    (done : ∀ value after, tx s.store = .ok (value, after) →
      WriteState dep id key { s with store := after } ∧ WriteRely dep id key s { s with store := after }) :
    WriteState dep id key t ∧ WriteRely dep id key s t := by
  obtain ⟨after, settled, rfl⟩ := commits
  cases settled with
  | committed committed => exact done _ _ committed
  | refused | broken => exact ⟨valid, .refl dep id key s⟩

/-- What one operation of an undisturbed call leaves to all. -/
theorem write_step {op : Op} {now : DateTime} {answer : op.Answer} (valid : WriteState dep id key s)
    (owed : writePre dep calls id key p op s) (performed : dep.perform p op now s answer t)
    (calm : Undisturbed op now s answer) : WriteState dep id key t ∧ WriteRely dep id key s t := by
  cases op with
  | saveRun | getRun | claimRunExecution | releaseRunExecution | saveRunOwned | saveRunOwnedWithEvents
  | recordPendingApproval | nextAction | startHeartbeat | stopHeartbeat => cases owed
  | sleep | invokeHandler =>
    obtain ⟨-, rfl⟩ := performed
    exact ⟨valid, .refl dep id key t⟩
  | uuid4 =>
    obtain ⟨-, rfl⟩ := performed
    have older : ∀ u, s.drawn u ≠ none → u ≠ s.store.nextUuid := fun u known => (valid.supply u known).ne
    refine ⟨⟨fun u known => ?_, valid.failed⟩, ⟨fun u q drawn => ?_, fun row stored => ⟨row, stored, rfl, fun _ => rfl⟩⟩⟩
    · by_cases new : u = s.store.nextUuid
      · rw [new]
        exact Nat.lt_succ_self _
      · simp only [SystemState.draw, Function.update_of_ne new] at known
        exact Nat.lt_succ_of_lt (valid.supply u known)
    · simp only [SystemState.draw]
      rw [Function.update_of_ne (older u (by rw [drawn]; simp))]
      exact drawn
  | appendEvent =>
    refine write_commits valid performed fun value after done => ?_
    rw [Store.appendEvent_ok done]
    exact write_kept valid (by rw [Store.insertEvent_toolResults]) (Nat.le_add_right _ 2)
  | getApproval =>
    refine write_commits valid performed fun value after done => ?_
    cases done
    exact write_kept valid rfl le_rfl
  | claimToolExecution id' key' owner fingerprint allowReclaim =>
    refine write_commits valid performed fun claim after done => ?_
    obtain ⟨expires, vacant, -, rfl⟩ | ⟨row, present, ⟨-, -, rfl⟩ | ⟨-, found⟩⟩ := Store.claimToolExecution_cases done
    · by_cases same : id = id' ∧ key = key'
      · obtain ⟨rfl, rfl⟩ := same
        refine ⟨⟨valid.supply, fun found present _ failed => ?_⟩, ⟨fun _ _ drawn => drawn, fun found present => ?_⟩⟩
        · cases Option.some.inj (present.symm.trans (Store.setToolResult_self ..))
          cases failed
        · rw [vacant] at present
          cases present
      · exact write_kept valid (Store.setToolResult_of_ne _ _ (not_and_or.mp same)) le_rfl
    · exact write_kept valid rfl le_rfl
    · obtain ⟨_, claimed, expired, -, -, rfl⟩ | ⟨-, _, rfl, -, rfl⟩ | ⟨_, failed, retryable, -, -, rfl⟩ | ⟨-, rfl⟩ := found
      · exact absurd expired (not_le.mpr (calm.2 _ _ _ _ _ rfl row present claimed))
      · exact write_changed valid present rfl fun _ _ _ => ⟨rfl, fun _ => rfl⟩
      · refine write_changed valid present rfl fun sameId sameKey request => ?_
        subst sameId sameKey
        have given := valid.failed row present request failed
        rw [retryable] at given
        cases given
      · exact write_kept valid rfl le_rfl
  | completeToolResult =>
    refine write_commits valid performed fun value after done => ?_
    obtain ⟨row, present, -, -, rfl⟩ := Store.completeToolResult_ok done
    exact write_changed valid present rfl fun _ _ _ => ⟨rfl, fun impossible => by cases impossible⟩
  | failToolExecution id' key' owner error disposition =>
    refine write_commits valid performed fun value after done => ?_
    obtain ⟨row, present, -, named, rfl⟩ := Store.failToolExecution_ok done
    refine write_changed valid present rfl fun sameId sameKey request => ⟨rfl, fun _ => ?_⟩
    subst sameId sameKey
    rw [owed rfl rfl row present named request]

theorem undisturbed_disciplined : dep.undisturbed.Disciplined (writeDiscipline dep calls id key) (WriteState dep id key) where
  same _ := rfl
  init _ impossible := impossible.elim
  start _ _ _ impossible := impossible.elim
  own p op now s answer t valid owed performed :=
    ⟨(write_step valid owed performed.1 performed.2).1, now, performed⟩
  others p q op now s answer t _ valid owed performed := (write_step valid owed performed.1 performed.2).2
  ambient s t valid moved := by
    refine ⟨⟨fun u known => ?_, ?_⟩, fun q => ⟨?_, ?_⟩⟩
    · rw [moved.drawn] at known
      exact (valid.supply u known).trans_le moved.supply
    · rw [moved.toolResults]
      exact valid.failed
    · rw [moved.drawn]
      exact fun _ _ drawn => drawn
    · rw [moved.toolResults]
      exact fun row stored => ⟨row, stored, rfl, fun _ => rfl⟩
  crash _ s valid := ⟨valid, fun _ => .refl dep id key s⟩

end Step

/-- Requests to different tools have different fingerprints. -/
def RequestsApart (dep : Deployment) : Prop :=
  ∀ toolName other definition otherDefinition input otherInput, dep.registry.get toolName = some definition →
    dep.registry.get other = some otherDefinition →
    dep.requestFingerprint toolName input = dep.requestFingerprint other otherInput → toolName = other

/-- What a call knows once its claim is its own. -/
def ClaimHeld (dep : Deployment) (calls : Pid → GatewayCall) (id : Uuid) (key : String) (p : Pid)
    (key' fingerprint : String) (s : SystemState) : Prop :=
  ((calls p).run.id = id → key' = key → ∃ row, s.store.toolResults id key = some row ∧
    row.requestFingerprint = fingerprint) ∧ ((calls p).Writes dep id key → WrittenBy dep id key p s)

section Call
variable {dep : Deployment} {calls : Pid → GatewayCall} {id : Uuid} {key : String} {p : Pid} {s t : SystemState}
  {key' fingerprint : String} {owner : Uuid} {definition : ToolDefinition}

theorem WrittenBy.rely (written : WrittenBy dep id key p s) (others : WriteRely dep id key s t) :
    WrittenBy dep id key p t := by
  obtain ⟨row, stored, request, drawn⟩ := written
  obtain ⟨next, found, same, token⟩ := others.row row stored
  exact ⟨next, found, by rw [same]; exact request, by rw [token request]; exact others.drawn _ _ drawn⟩

theorem ClaimHeld.stable : (writeDiscipline dep calls id key p).Stable (ClaimHeld dep calls id key p key' fingerprint) := by
  rintro s t others ⟨requested, written⟩
  refine ⟨fun sameRun sameKey => ?_, fun writes => (written writes).rely others⟩
  obtain ⟨row, stored, request⟩ := requested sameRun sameKey
  obtain ⟨next, found, same, -⟩ := others.row row stored
  exact ⟨next, found, same.trans request⟩

/-- Own operations are no worse than those of the others. -/
theorem writeDiscipline_step {op : Op} {answer : op.Answer} {R : SystemState → Prop}
    (stable : (writeDiscipline dep calls id key p).Stable R) (valid : WriteState dep id key s)
    (owed : writePre dep calls id key p op s) (step : (writeDiscipline dep calls id key p).step op s answer t)
    (holds : R s) : R t := by
  obtain ⟨now, performed, calm⟩ := step
  exact stable s t (write_step valid owed performed calm).2 holds

theorem failToolExecution_held {error : String} {disposition : ToolFailureDisposition}
    (held : ClaimHeld dep calls id key p key' fingerprint s)
    (given : WriteRequest dep fingerprint → disposition = .indeterminate)
    {Q : Unit → SystemState → Prop} {E : Exn → SystemState → Prop}
    (returns : ∀ t, ClaimHeld dep calls id key p key' fingerprint t → Q () t)
    (raises : ∀ error t, ClaimHeld dep calls id key p key' fingerprint t → E error t) :
    (failToolExecution (calls p).run.id key' owner error disposition).Obeys (writeDiscipline dep calls id key p) Q E s := by
  refine Program.obeys_bind.mpr ?_
  intro u others valid
  have here := ClaimHeld.stable s u others held
  have owed : writePre dep calls id key p
      (.failToolExecution (calls p).run.id key' owner error disposition) u := by
    intro sameRun sameKey row stored _ request
    obtain ⟨found, present, same⟩ := here.1 sameRun sameKey
    cases Option.some.inj (stored.symm.trans present)
    exact given (by rw [← same]; exact request)
  refine ⟨owed, fun answer v step _ => ?_⟩
  have later := writeDiscipline_step ClaimHeld.stable valid owed step here
  cases answer with
  | ok => exact returns v later
  | error error => exact raises error v later

/-- A write that was executed: only its one party gets this far. -/
def Executed (dep : Deployment) (calls : Pid → GatewayCall) (id : Uuid) (key : String) (p : Pid)
    (result : ToolCallResult) (s : SystemState) : Prop :=
  (calls p).Writes dep id key → result.turnedAway ∨ WrittenBy dep id key p s

theorem ClaimHeld.executed {result : ToolCallResult} (held : ClaimHeld dep calls id key p key' fingerprint s) :
    Executed dep calls id key p result s := fun writes => .inr (held.2 writes)

theorem persistClaimResult_held {result : ToolCallResult}
    (write : WriteRequest dep fingerprint → definition.isWrite = true)
    (held : ClaimHeld dep calls id key p key' fingerprint s) :
    (dep.persistClaimResult (calls p).run key' owner result definition).Obeys (writeDiscipline dep calls id key p)
      (Executed dep calls id key p) (fun _ _ => True) s := by
  cases result with
  | failed code count retryable =>
    refine Program.obeys_bind.mpr (failToolExecution_held held (fun request => by rw [if_pos (write request)])
      (fun t kept => kept.executed) fun _ _ _ => trivial)
  | succeeded output count cached =>
    have refusing : ∀ error t, ClaimHeld dep calls id key p key' fingerprint t →
        Program.Obeys (writeDiscipline dep calls id key p)
          (if Exn.isValueError error = true then .ret (.failed
              (if definition.isWrite = true then "idempotency_indeterminate" else "result_serialization_failed") count
              (!definition.isWrite))
            else .raise error : Prog ToolCallResult) (Executed dep calls id key p) (fun _ _ => True) t := by
      intro error t kept
      split
      · exact kept.executed
      · trivial
    refine Program.obeys_bind.mpr (Program.obeys_attempt.mpr ?_)
    simp only [completeToolResult]
    split
    · refine Program.obeys_bind.mpr ?_
      intro u others valid
      have owed : writePre dep calls id key p
          (.completeToolResult (calls p).run.id key' (Store.sanitize dep.store output) owner) u := rfl
      refine ⟨owed, fun answer v step _ => ?_⟩
      have later := writeDiscipline_step ClaimHeld.stable valid owed step (ClaimHeld.stable s u others held)
      cases answer with
      | error error => exact refusing error v later
      | ok => exact later.executed
    · exact Program.obeys_bind.mpr (failToolExecution_held held (fun request => by rw [if_pos (write request)])
        (fun t kept => refusing .valueError t kept) refusing)

theorem executeClaimed_held {action : CallToolAction} {input : Dict} {plan : FaultPlan}
    (write : WriteRequest dep fingerprint → definition.isWrite = true)
    (held : ClaimHeld dep calls id key p key' fingerprint s) :
    (dep.executeClaimed (calls p).run action definition input fingerprint plan key' owner).Obeys
      (writeDiscipline dep calls id key p) (Executed dep calls id key p) (fun _ _ => True) s := by
  have within : (dep.attempts (calls p).run action definition input
      ⟨(calls p).run.id, action.toolName, key', fingerprint⟩ plan (Deployment.maxAttempts (calls p).run definition) 1).Within
      (AttemptOp ⟨(calls p).run, action, definition, input, ⟨(calls p).run.id, action.toolName, key', fingerprint⟩⟩)
      (CalmAnswer True) (fun _ => True) (CalmError True) :=
    attempts_within .draw (fun event _ => .append event) .handle .sleep
  have owed : ∀ op s, AttemptOp ⟨(calls p).run, action, definition, input,
      ⟨(calls p).run.id, action.toolName, key', fingerprint⟩⟩ op → ClaimHeld dep calls id key p key' fingerprint s →
      writePre dep calls id key p op s := by
    intro op s kind here
    cases kind with
    | handle => exact here.2
    | draw | append | sleep => rfl
  refine Program.obeys_bind.mpr (Program.obeys_attempt.mpr ((within.obeys ClaimHeld.stable
    (fun op s kind _ here => owed op s kind here) (fun op s answer t kind valid here step =>
      ⟨fun _ => step.elim fun _ performed => performed.2.1,
        writeDiscipline_step ClaimHeld.stable valid (owed op s kind here) step here⟩) held).mono ?_ ?_))
  · intro result t kept
    exact persistClaimResult_held write kept.2
  · intro error t kept
    have apart : error ≠ .cancelled := kept.1 trivial
    split
    · contradiction
    · rename_i same
      cases same
      exact absurd rfl apart
    · trivial

/-- The answer to a claim decides: a call that is not turned away holds the claim. -/
theorem callClaimed_held {action : CallToolAction} {input : Dict} {plan : FaultPlan} {claim : ToolClaim}
    (write : WriteRequest dep fingerprint → definition.isWrite = true)
    (writes : (calls p).Writes dep id key → key' = key ∧ WriteRequest dep fingerprint) (valid : WriteState dep id key s)
    (drawn : s.drawn owner = some p)
    (atRow : ∀ row, claim = .row row → s.store.toolResults (calls p).run.id key' = some row ∧
      row.requestFingerprint = fingerprint) :
    (dep.callClaimed (calls p).run action definition input fingerprint plan key' owner claim).Obeys
      (writeDiscipline dep calls id key p) (Executed dep calls id key p) (fun _ _ => True) s := by
  have turned : ∀ result : ToolCallResult, result.turnedAway → Executed dep calls id key p result s :=
    fun _ away _ => .inl away
  cases claim with
  | conflict fingerprint => exact turned _ (.inr (.inr ⟨_, by decide, rfl⟩))
  | row row =>
    obtain ⟨present, request⟩ := atRow row rfl
    have here : (calls p).Writes dep id key → s.store.toolResults id key = some row := by
      intro writing
      rw [← writing.1, ← (writes writing).1]
      exact present
    simp only [Deployment.callClaimed]
    cases state : row.state with
    | completed =>
      simp only
      cases definition.outputModel (row.payload.getD .null) with
      | accepted output => exact turned _ (.inl ⟨output, rfl⟩)
      | rejected => exact turned _ (.inr (.inr ⟨_, by decide, rfl⟩))
      | unserializable => trivial
    | failed =>
      intro writing
      have given := valid.failed row (here writing) (by rw [request]; exact (writes writing).2) state
      exact .inl (.inr (.inr ⟨"idempotency_indeterminate", by decide, by rw [if_pos given]⟩))
    | claimed =>
      simp only
      split
      · exact turned _ (.inr (.inr ⟨_, by decide, rfl⟩))
      · rename_i own
        refine executeClaimed_held write ⟨fun sameRun sameKey => ⟨row, ?_, request⟩, fun writing => ⟨row, here writing, ?_, ?_⟩⟩
        · rw [← sameRun, ← sameKey]
          exact present
        · rw [request]
          exact (writes writing).2
        · rw [not_not.mp own]
          exact drawn

theorem attempts_unconcerned {action : CallToolAction} {input : Dict} {context : ToolExecutionContext} {plan : FaultPlan}
    {left number : Nat} (unconcerned : ¬ (calls p).Writes dep id key) :
    (dep.attempts (calls p).run action definition input context plan left number).Obeys
      (writeDiscipline dep calls id key p) (Executed dep calls id key p) (fun _ _ => True) s := by
  have within : (dep.attempts (calls p).run action definition input context plan left number).Within
      (AttemptOp ⟨(calls p).run, action, definition, input, context⟩) (CalmAnswer False) (fun _ => True)
      (CalmError False) := attempts_within .draw (fun event _ => .append event) .handle .sleep
  refine (within.obeys (R := fun _ => True) (fun _ _ _ _ => trivial) (fun op s kind _ _ => ?_)
    (fun _ _ _ _ _ _ _ _ => ⟨False.elim, trivial⟩) trivial).mono
    (fun _ _ _ writing => absurd writing unconcerned) fun _ _ _ => trivial
  cases kind with
  | handle => exact fun writing => absurd writing unconcerned
  | draw | append | sleep => rfl

/-- A call of any tool under any key, among the writes under one key. -/
theorem call_executed (apart : RequestsApart dep) :
    ((calls p).program dep).Obeys (writeDiscipline dep calls id key p) (Executed dep calls id key p)
      (fun _ _ => True) s := by
  refine Program.obeys_bind.mpr ((preflight_within.obeys (R := fun _ => True) (fun _ _ _ _ => trivial)
    (fun op s same _ _ => by rw [same]; rfl) (fun _ _ _ _ _ _ _ _ => ⟨trivial, trivial⟩) trivial).mono ?_
    fun _ _ _ => trivial)
  rintro failure t ⟨⟨refused, keyed⟩, -⟩
  cases failure with
  | some result => exact fun _ => .inl (.inr (.inl (refused result rfl)))
  | none =>
    simp only
    cases registered : dep.registry.get (dep.stabilizeAction (calls p).run (calls p).proposed).toolName with
    | none => trivial
    | some definition =>
      simp only
      cases definition.inputModel (dep.stabilizeAction (calls p).run (calls p).proposed).arguments with
      | none => trivial
      | some input =>
        simp only
        cases named : (dep.stabilizeAction (calls p).run (calls p).proposed).idempotencyKey with
        | none =>
          have unkeyed : ¬ (calls p).Writes dep id key := by
            rintro ⟨-, same, -⟩
            cases same.symm.trans named
          refine Program.obeys_bind.mpr ?_
          intro u others valid
          refine ⟨rfl, fun token v step _ => ?_⟩
          exact attempts_unconcerned unkeyed
        | some key' =>
          have write : WriteRequest dep (dep.requestFingerprint
              (dep.stabilizeAction (calls p).run (calls p).proposed).toolName input) → definition.isWrite = true := by
            rintro ⟨other, otherDefinition, otherInput, there, writes, same⟩
            have tool := apart _ _ _ _ _ _ registered there same
            rw [← tool, registered] at there
            cases there
            exact writes
          have writes : (calls p).Writes dep id key → key' = key ∧ WriteRequest dep (dep.requestFingerprint
              (dep.stabilizeAction (calls p).run (calls p).proposed).toolName input) := by
            rintro ⟨-, same, other, there, writes⟩
            exact ⟨Option.some.inj (named.symm.trans same), _, other, input, there, writes, rfl⟩
          refine Program.obeys_bind.mpr ?_
          intro u others valid
          refine ⟨rfl, fun owner v step _ => ?_⟩
          have drawn : v.drawn owner = some p := by
            obtain ⟨now, ⟨rfl, rfl⟩, -⟩ := step
            simp [SystemState.draw]
          refine Program.obeys_bind.mpr (Program.obeys_bind.mpr ?_)
          intro u' others' valid'
          refine ⟨rfl, fun answer v' step' validV' => ?_⟩
          cases answer with
          | error error => trivial
          | ok claim =>
            obtain ⟨now, performed, calm⟩ := step'
            have owed : writePre dep calls id key p (.claimToolExecution (calls p).run.id key' owner
              (dep.requestFingerprint (dep.stabilizeAction (calls p).run (calls p).proposed).toolName input)
              (!definition.isWrite || definition.idempotent)) u' := rfl
            have token := (write_step valid' owed performed calm).2.drawn _ _ (others'.drawn _ _ drawn)
            obtain ⟨after, settled, rfl⟩ := performed
            refine callClaimed_held write writes validV' token fun row same => ?_
            subst same
            exact Store.claimToolExecution_row settled.ok

end Call

section Once
variable {dep : Deployment} {calls : Pid → GatewayCall} {id : Uuid} {key : String} {w v : GatewayWorld}

/-- Every call keeps to the discipline of the writes under the key, up to its end. -/
abbrev KeepsWrites (dep : Deployment) (calls : Pid → GatewayCall) (id : Uuid) (key : String) (w : GatewayWorld) : Prop :=
  Machine.Keeps (writeDiscipline dep calls id key) (Executed dep calls id key) (fun _ _ _ => True) w

theorem keepsWrites_step (move : Machine.Step dep.undisturbed w v) (valid : WriteState dep id key w.state)
    (keeps : KeepsWrites dep calls id key w) : WriteState dep id key v.state ∧ KeepsWrites dep calls id key v := by
  refine move.keeps undisturbed_disciplined ?_ (fun _ _ _ _ _ _ => trivial) (fun _ _ _ impossible => impossible.elim)
    valid keeps
  intro p result s t others executed writes
  exact (executed writes).imp_right fun written => written.rely others

/-- Every step is one that all calls rely on, the acting one among them. -/
theorem writeRely_step (move : Machine.Step dep.undisturbed w v) (valid : WriteState dep id key w.state)
    (keeps : KeepsWrites dep calls id key w) : WriteRely dep id key w.state v.state := by
  cases move with
  | start _ impossible => exact impossible.elim
  | issue | finish | crash => exact .refl dep id key w.state
  | @commit p op next reading answer t issued performed =>
    have owed := (keeps p (.perform op next) (by rw [issued]; rfl) w.state (.refl dep id key w.state) valid).1
    exact (write_step valid owed performed.1 performed.2).2
  | @ambient t moved =>
    have disciplined : dep.undisturbed.Disciplined (writeDiscipline dep calls id key) (WriteState dep id key) :=
      undisturbed_disciplined
    exact (disciplined.ambient _ _ valid moved).2 0

theorem executes_written {p : Pid} (valid : WriteState dep id key w.state) (keeps : KeepsWrites dep calls id key w)
    (executes : Executes dep calls id key p w) : WrittenBy dep id key p w.state := by
  obtain ⟨writes, ⟨invocation, next, calling⟩ | ⟨result, returned, unturned⟩⟩ := executes
  · exact (keeps p _ calling w.state (.refl dep id key w.state) valid).1 writes
  · rcases keeps p _ returned writes with away | written
    · exact absurd away unturned
    · exact written

theorem keepsWrites_leads (leads : Machine.Leads dep.undisturbed w v) (valid : WriteState dep id key w.state)
    (keeps : KeepsWrites dep calls id key w) : WriteState dep id key v.state ∧ KeepsWrites dep calls id key v ∧
      WriteRely dep id key w.state v.state := by
  induction leads with
  | refl => exact ⟨valid, keeps, .refl dep id key w.state⟩
  | tail _ move ih =>
    obtain ⟨validThen, keepsThen, since⟩ := ih
    obtain ⟨validNow, keepsNow⟩ := keepsWrites_step move validThen keepsThen
    exact ⟨validNow, keepsNow, since.trans (writeRely_step move validThen keepsThen)⟩

theorem keepsWrites_opening (apart : RequestsApart dep) {store : Store} (fresh : store.toolResults id key = none)
    (clock : DateTime) : WriteState dep id key (opening dep calls store clock).state ∧
      KeepsWrites dep calls id key (opening dep calls store clock) := by
  refine ⟨⟨fun _ known => absurd rfl known, fun row stored => ?_⟩, fun p program rest => ?_⟩
  · rw [show (opening dep calls store clock).state.store.toolResults id key = none from fresh] at stored
    cases stored
  · cases Option.some.inj rest
    exact call_executed apart

/-- Of all undisturbed calls that write under one key of one run, at most one reaches
its handler, and every other one returns that it was turned away. -/
theorem write_executed_once (apart : RequestsApart dep) {store : Store} {clock : DateTime}
    (fresh : store.toolResults id key = none)
    (before : Machine.Leads dep.undisturbed (opening dep calls store clock) w)
    (after : Machine.Leads dep.undisturbed w v) {p q : Pid} (first : Executes dep calls id key p w)
    (second : Executes dep calls id key q v) : p = q := by
  have opened : WriteState dep id key (opening dep calls store clock).state ∧
      KeepsWrites dep calls id key (opening dep calls store clock) := keepsWrites_opening apart fresh clock
  obtain ⟨validStart, keepsStart⟩ := opened
  obtain ⟨validThen, keepsThen, -⟩ := keepsWrites_leads before validStart keepsStart
  obtain ⟨validNow, keepsNow, since⟩ := keepsWrites_leads after validThen keepsThen
  obtain ⟨row, stored, -, token⟩ := (executes_written validThen keepsThen first).rely since
  obtain ⟨other, found, -, otherToken⟩ := executes_written validNow keepsNow second
  cases Option.some.inj (stored.symm.trans found)
  exact Option.some.inj (token.symm.trans otherToken)

end Once

/-- A claim is carried out only before the lease of a claimed row. -/
def unexpired (_ : Pid) (op : Op) (now : DateTime) (s : SystemState) : Bool :=
  match op with
  | .claimToolExecution id key _ _ _ => (s.store.toolResults id key).all fun row =>
      row.state ≠ .claimed || now.instant < row.leaseExpiresAt.instant
  | _ => true

theorem demoStates_performs (tool : ToolDefinition) (secrets : List String) (p : Pid) (op : Op) (s : SystemState)
    (permitted : unexpired p op s.clock s = true) :
    (demoStates tool secrets).undisturbed.perform p op s.clock s
      (demoStateResponder.act (demoStates tool secrets).store p s.clock s op).1
      (demoStateResponder.act (demoStates tool secrets).store p s.clock s op).2 := by
  refine ⟨(demoStates_fits tool secrets).perform p s.clock s op, ?_, ?_⟩
  · cases op with
    | appendEvent event =>
      intro cancelled
      change (settle (Store.appendEvent (demoStates tool secrets).store event) s.store).1 = .error .cancelled at cancelled
      unfold settle at cancelled
      split at cancelled
      · cases cancelled
      · rename_i failed
        cases cancelled
        cases Store.appendEvent_error failed
    | invokeHandler | sleep => exact fun cancelled => by cases cancelled
    | _ => trivial
  · rintro id key owner fingerprint allowReclaim rfl row stored claimed
    simpa [unexpired, stored, claimed] using permitted

abbrev demoWriting (outputModel : Json → OutputCheck) (secrets : List String) : Deployment :=
  demoStates (demoStateTool true outputModel) secrets

def writeOpening (outputModel : Json → OutputCheck) (secrets : List String) : GatewayWorld :=
  opening (demoWriting outputModel secrets) demoCalls Store.empty (demoClock 0 demoStart_inside)

theorem demoCalls_writes (outputModel : Json → OutputCheck) (secrets : List String) (p : Pid) :
    (demoCalls p).Writes (demoWriting outputModel secrets) 0 "key" :=
  ⟨rfl, (demoCalls_request outputModel secrets p).key, _, (demoCalls_request outputModel secrets p).registered, rfl⟩

def atHandler (p : Pid) (w : GatewayWorld) : Bool :=
  match w.procs p with
  | .ready (.perform (.invokeHandler _) _) => true
  | _ => false

theorem atHandler_sound {p : Pid} {w : GatewayWorld} (there : atHandler p w = true) :
    ∃ invocation next, (w.procs p).rest = some (.perform (.invokeHandler invocation) next) := by
  unfold atHandler at there
  split at there
  · rename_i invocation next ready
    exact ⟨invocation, next, by rw [ready]; rfl⟩
  · cases there

/-- The first party writes, and then the second one calls. -/
theorem write_then {outputModel : Json → OutputCheck} {secrets : List String} {turns : Nat} {check : GatewayWorld → Bool}
    (ran : ((takeTurns demoStateResponder (demoWriting outputModel secrets) unexpired 0 4
      (writeOpening outputModel secrets)).bind fun w => if atHandler 0 w then
        (takeTurns demoStateResponder (demoWriting outputModel secrets) unexpired 0 3 w).bind
          (takeTurns demoStateResponder (demoWriting outputModel secrets) unexpired 1 turns) else none).any check = true) :
    ∃ w v : GatewayWorld,
      Machine.Leads (demoWriting outputModel secrets).undisturbed (writeOpening outputModel secrets) w ∧
      Executes (demoWriting outputModel secrets) demoCalls 0 "key" 0 w ∧
      Machine.Leads (demoWriting outputModel secrets).undisturbed w v ∧ check v = true := by
  have reads : ∀ s, (demoWriting outputModel secrets).undisturbed.reads s s.clock := fun _ => rfl
  have performs := demoStates_performs (demoStateTool true outputModel) secrets
  obtain ⟨v, second, checked⟩ := (Option.any_eq_true _ _).mp ran
  obtain ⟨w, first, rest⟩ := Option.bind_eq_some_iff.mp second
  split at rest
  · rename_i there
    obtain ⟨middle, own, other⟩ := Option.bind_eq_some_iff.mp rest
    exact ⟨w, v, takeTurns_leads reads performs first,
      ⟨demoCalls_writes outputModel secrets 0, .inl (atHandler_sound there)⟩,
      (takeTurns_leads reads performs own).trans (takeTurns_leads reads performs other), checked⟩
  · cases rest

def returnsOwn (w : GatewayWorld) : Bool :=
  match w.procs 0 with
  | .ready (.ret (.succeeded _ count false)) => count = 1
  | _ => false

theorem demoWriting_apart (outputModel : Json → OutputCheck) (secrets : List String) :
    RequestsApart (demoWriting outputModel secrets) := by
  have only : ∀ toolName definition, (demoWriting outputModel secrets).registry.get toolName = some definition →
      toolName = "state" := by
    intro toolName definition found
    have named := ToolRegistry.get_name found
    have member := List.mem_of_find?_eq_some found
    rw [List.mem_singleton.mp member] at named
    exact named.symm
  intro toolName other definition otherDefinition _ _ found foundOther _
  rw [only _ _ found, only _ _ foundOther]

/-- The party at its handler is the one that returns an execution of its own. -/
theorem write_executed_once_demo : ∃ (w v : GatewayWorld) (p q : Pid),
    Executes (demoWriting .accepted []) demoCalls 0 "key" p w ∧
    Executes (demoWriting .accepted []) demoCalls 0 "key" q v ∧ p = q := by
  obtain ⟨w, v, before, first, after, returned⟩ :=
    @write_then .accepted [] 2 returnsOwn (by decide +kernel)
  have second : Executes (demoWriting .accepted []) demoCalls 0 "key" 0 v := by
    refine ⟨demoCalls_writes _ _ 0, .inr ?_⟩
    unfold returnsOwn at returned
    split at returned
    · rename_i output count ready
      refine ⟨_, by rw [ready]; rfl, ?_⟩
      rintro (⟨_, impossible⟩ | ⟨_, -, impossible⟩ | ⟨_, -, impossible⟩) <;> cases impossible
    · cases returned
  exact ⟨w, v, 0, 0, first, second, write_executed_once (demoWriting_apart _ _) rfl before after first second⟩

/-- An output model for one state only. -/
def acceptsDone (raw : Json) : OutputCheck := if raw == demoState "done" then .accepted raw else .rejected

def returnsInvalid (w : GatewayWorld) : Bool :=
  match w.procs 1 with
  | .ready (.ret (.failed code 0 false)) => code = "invalid_cached_output"
  | _ => false

/-- Redaction of the stored state turns the second call away with a code of its own. -/
theorem cached_write_rejected : ∃ w v : GatewayWorld,
    Machine.Leads (demoWriting acceptsDone ["done"]).undisturbed (writeOpening acceptsDone ["done"]) w ∧
    Executes (demoWriting acceptsDone ["done"]) demoCalls 0 "key" 0 w ∧
    Machine.Leads (demoWriting acceptsDone ["done"]).undisturbed w v ∧
    (demoCalls 1).Writes (demoWriting acceptsDone ["done"]) 0 "key" ∧
    (v.procs 1).rest = some (.ret (.failed "invalid_cached_output" 0 false)) := by
  obtain ⟨w, v, before, first, after, returned⟩ :=
    @write_then acceptsDone ["done"] 2 returnsInvalid (by decide +kernel)
  unfold returnsInvalid at returned
  split at returned
  · rename_i code ready
    simp only [decide_eq_true_eq] at returned
    subst returned
    exact ⟨w, v, before, first, after, demoCalls_writes _ _ 1, by rw [ready]; rfl⟩
  · cases returned

end ReliabilityLab
