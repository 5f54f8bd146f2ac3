import Mathlib.Logic.Relation
import ReliabilityLab.Storage.Transactions

namespace ReliabilityLab

/-- What one transaction can make of the row under a key. -/
inductive RowStep : Option ToolResultRow → Option ToolResultRow → Prop
  | stay (row : Option ToolResultRow) : RowStep row row
  | opened (owner : Uuid) (fingerprint : String) (expires : DateTime) :
      RowStep none (some ⟨.claimed, owner, fingerprint, none, none, none, expires⟩)
  | takenOver (row : ToolResultRow) (owner : Uuid) (expires : DateTime) : row.state = .claimed →
      RowStep (some row) (some { row with ownerToken := owner, leaseExpiresAt := expires })
  | retried (row : ToolResultRow) (owner : Uuid) (expires : DateTime) : row.state = .failed →
      row.failureDisposition = some .retryable →
      RowStep (some row) (some ⟨.claimed, owner, row.requestFingerprint, none, none, none, expires⟩)
  | completed (row : ToolResultRow) (payload : Json) : row.state = .claimed →
      RowStep (some row) (some { row with state := .completed, payload := some payload })
  | failed (row : ToolResultRow) (error : String) (disposition : ToolFailureDisposition) : row.state = .claimed →
      RowStep (some row)
        (some { row with state := .failed, error := some error, failureDisposition := some disposition })

/-- No later claim may have the work again. -/
def ToolResultRow.settled (row : ToolResultRow) : Bool :=
  match row.state with
  | .completed => true
  | .failed => row.failureDisposition ≠ some .retryable
  | .claimed => false

/-- A payload is there when the row is completed, and only then. -/
def ToolResultRow.coherent (row : ToolResultRow) : Prop := row.payload.isSome = true → row.state = .completed

/-- The row is claimed under this token. -/
def ClaimedBy (owner : Uuid) (found : Option ToolResultRow) : Prop :=
  ∃ row, found = some row ∧ row.state = .claimed ∧ row.ownerToken = owner

/-- When a claim may take the row for its own token. -/
def Acquirable (now : DateTime) (allowReclaim : Bool) : Option ToolResultRow → Prop
  | none => True
  | some row => allowReclaim = true ∧ (row.state = .failed ∧ row.failureDisposition = some .retryable ∨
      row.state = .claimed ∧ row.leaseExpiresAt.instant ≤ now.instant)

/-- One of the three calls on the table of claims. A result that cannot be
rendered reaches the table as a `fail`. -/
inductive ClaimCall where
  | claim (id : Uuid) (key : String) (owner : Uuid) (requestFingerprint : String) (allowReclaim : Bool)
  | complete (id : Uuid) (key : String) (payload : Json) (owner : Uuid)
  | fail (id : Uuid) (key : String) (owner : Uuid) (error : String) (disposition : ToolFailureDisposition)

/-- The call is a claim of this key for this token. -/
def ClaimCall.claimsFor (owner id : Uuid) (key : String) : ClaimCall → Prop
  | .claim id' key' owner' _ _ => id' = id ∧ key' = key ∧ owner' = owner
  | _ => False

/-- One call, with the clock reading it took, from one state of the database to the next. -/
def ClaimCall.Moves (cfg : StoreSettings) (now : DateTime) (st after : Store) : ClaimCall → Prop
  | .claim id key owner fingerprint allowReclaim =>
      ∃ answer, Settles (Store.claimToolExecution cfg now id key owner fingerprint allowReclaim) st answer after
  | .complete id key payload owner => ∃ answer, Settles (Store.completeToolResult id key payload owner) st answer after
  | .fail id key owner error disposition =>
      ∃ answer, Settles (Store.failToolExecution id key owner error disposition) st answer after

/-- Any number of calls that meet `calls`, by any owners and in any order. -/
def ClaimsReach (cfg : StoreSettings) (calls : ClaimCall → Prop) : Store → Store → Prop :=
  Relation.ReflTransGen fun st after => ∃ call now, calls call ∧ call.Moves cfg now st after

namespace Store
variable {cfg : StoreSettings} {now : DateTime} {id owner : Uuid} {key fingerprint : String} {allowReclaim : Bool}
  {st after : Store}

/-- The inversion of one claim: what it found, what it answers and what it leaves. -/
theorem claimToolExecution_cases {claim : ToolClaim}
    (done : claimToolExecution cfg now id key owner fingerprint allowReclaim st = .ok (claim, after)) :
    (∃ expires, st.toolResults id key = none ∧
      claim = .row ⟨.claimed, owner, fingerprint, none, none, none, expires⟩ ∧
      after = st.setToolResult id key ⟨.claimed, owner, fingerprint, none, none, none, expires⟩) ∨
    ∃ row, st.toolResults id key = some row ∧
      (row.requestFingerprint ≠ fingerprint ∧ claim = .conflict row.requestFingerprint ∧ after = st ∨
      row.requestFingerprint = fingerprint ∧
        ((∃ expires, row.state = .claimed ∧ row.leaseExpiresAt.instant ≤ now.instant ∧ allowReclaim = true ∧
            claim = .row { row with ownerToken := owner, leaseExpiresAt := expires } ∧
            after = st.setToolResult id key { row with ownerToken := owner, leaseExpiresAt := expires }) ∨
        (row.state = .claimed ∧ ∃ abandoned, abandoned = { row with
              state := .failed
              error := some "abandoned execution requires manual review"
              failureDisposition := some .indeterminate } ∧
            claim = .row abandoned ∧ after = st.setToolResult id key abandoned) ∨
        (∃ expires, row.state = .failed ∧ row.failureDisposition = some .retryable ∧ allowReclaim = true ∧
            claim = .row ⟨.claimed, owner, row.requestFingerprint, none, none, none, expires⟩ ∧
            after = st.setToolResult id key ⟨.claimed, owner, row.requestFingerprint, none, none, none, expires⟩) ∨
        claim = .row row ∧ after = st)) := by
  simp only [claimToolExecution] at done
  split at done
  · cases done
  · split at done
    · cases done
    · rename_i expires _
      split at done
      · rename_i vacant
        cases done
        exact .inl ⟨expires, vacant, rfl, rfl⟩
      · rename_i row present
        refine .inr ⟨row, present, ?_⟩
        split at done
        · rename_i other
          cases done
          exact .inl ⟨other, rfl, rfl⟩
        · rename_i same
          refine .inr ⟨by simpa using same, ?_⟩
          split at done
          · rename_i expired
            split at done
            · rename_i reclaim
              cases done
              exact .inl ⟨expires, expired.1, expired.2, reclaim, rfl, rfl⟩
            · cases done
              exact .inr (.inl ⟨expired.1, _, rfl, rfl, rfl⟩)
          · split at done
            · rename_i retryable
              cases done
              exact .inr (.inr (.inl ⟨expires, retryable.1, retryable.2.1, retryable.2.2, rfl, rfl⟩))
            · cases done
              exact .inr (.inr (.inr ⟨rfl, rfl⟩))

/-- A claim that is answered with a row answers the row that it leaves, and it is one for the request. -/
theorem claimToolExecution_row {row : ToolResultRow}
    (done : claimToolExecution cfg now id key owner fingerprint allowReclaim st = .ok (.row row, after)) :
    after.toolResults id key = some row ∧ row.requestFingerprint = fingerprint := by
  obtain ⟨expires, -, same, rfl⟩ | ⟨found, present, ⟨-, other, -⟩ | ⟨request, cases⟩⟩ :=
    claimToolExecution_cases done
  · cases same
    exact ⟨setToolResult_self .., rfl⟩
  · cases other
  · obtain ⟨expires, -, -, -, same, rfl⟩ | ⟨-, _, rfl, same, rfl⟩ | ⟨expires, -, -, -, same, rfl⟩ | ⟨same, rfl⟩ := cases
    · cases same
      exact ⟨setToolResult_self .., request⟩
    · cases same
      exact ⟨setToolResult_self .., request⟩
    · cases same
      exact ⟨setToolResult_self .., request⟩
    · cases same
      exact ⟨present, request⟩

/-- A claim of a live row for its own request answers that row, whoever asks. -/
theorem claimToolExecution_live {row : ToolResultRow} {expires : DateTime} (sum : now.plus cfg.claimLease = some expires)
    (present : st.toolResults id key = some row) (request : row.requestFingerprint ≠ "") (claimed : row.state = .claimed)
    (live : now.instant < row.leaseExpiresAt.instant) :
    claimToolExecution cfg now id key owner row.requestFingerprint allowReclaim st = .ok (.row row, st) := by
  simp [claimToolExecution, request, sum, present, claimed, not_le.mpr live]

theorem completeToolResult_ok {payload : Json} {answer : Unit}
    (done : completeToolResult id key payload owner st = .ok (answer, after)) :
    ∃ row, st.toolResults id key = some row ∧ row.state = .claimed ∧ row.ownerToken = owner ∧
      after = st.setToolResult id key { row with state := .completed, payload := some payload } := by
  simp only [completeToolResult] at done
  split at done
  · cases done
  · rename_i row present
    split at done
    · rename_i held
      cases done
      exact ⟨row, present, held.1, held.2, rfl⟩
    · cases done

theorem failToolExecution_ok {error : String} {disposition : ToolFailureDisposition} {answer : Unit}
    (done : failToolExecution id key owner error disposition st = .ok (answer, after)) :
    ∃ row, st.toolResults id key = some row ∧ row.state = .claimed ∧ row.ownerToken = owner ∧
      after = st.setToolResult id key
        { row with state := .failed, error := some error, failureDisposition := some disposition } := by
  simp only [failToolExecution] at done
  split at done
  · cases done
  · rename_i row present
    split at done
    · rename_i held
      cases done
      exact ⟨row, present, held.1, held.2, rfl⟩
    · cases done

/-- Writing one row is a step of that row, and leaves all others. -/
theorem setToolResult_steps {row : ToolResultRow} (step : RowStep (st.toolResults id key) (some row)) (id' : Uuid)
    (key' : String) : RowStep (st.toolResults id' key') ((st.setToolResult id key row).toolResults id' key') := by
  by_cases same : id' = id ∧ key' = key
  · obtain ⟨rfl, rfl⟩ := same
    rw [setToolResult_self]
    exact step
  · rw [setToolResult_of_ne st row (not_and_or.mp same)]
    exact .stay _

theorem claimToolExecution_steps {claim : ToolClaim}
    (done : claimToolExecution cfg now id key owner fingerprint allowReclaim st = .ok (claim, after)) (id' : Uuid)
    (key' : String) : RowStep (st.toolResults id' key') (after.toolResults id' key') := by
  obtain ⟨expires, vacant, -, rfl⟩ | ⟨row, present, ⟨-, -, rfl⟩ | ⟨-, found⟩⟩ := claimToolExecution_cases done
  · exact setToolResult_steps (by rw [vacant]; exact .opened _ _ _) id' key'
  · exact .stay _
  · obtain ⟨expires, claimed, -, -, -, rfl⟩ | ⟨claimed, _, rfl, -, rfl⟩ | ⟨expires, failed, retryable, -, -, rfl⟩ |
      ⟨-, rfl⟩ := found
    · exact setToolResult_steps (by rw [present]; exact .takenOver row _ _ claimed) id' key'
    · exact setToolResult_steps (by rw [present]; exact .failed row _ _ claimed) id' key'
    · exact setToolResult_steps (by rw [present]; exact .retried row _ _ failed retryable) id' key'
    · exact .stay _

end Store

variable {cfg : StoreSettings} {now : DateTime} {st after : Store} {calls : ClaimCall → Prop}

theorem Settles.frame {α : Type} {tx : Tx α} {answer : Except Exn α} {R : Store → Prop}
    (settled : Settles tx st answer after) (same : R st)
    (committed : ∀ value after, tx st = .ok (value, after) → R after) : R after := by
  cases settled with
  | committed done => exact committed _ _ done
  | refused => exact same
  | broken => exact same

/-- Every call is a step of every row. -/
theorem ClaimCall.Moves.steps {call : ClaimCall} (moves : call.Moves cfg now st after) (id : Uuid) (key : String) :
    RowStep (st.toolResults id key) (after.toolResults id key) := by
  cases call with
  | claim =>
    obtain ⟨answer, settled⟩ := moves
    exact settled.frame (R := fun after => RowStep _ (after.toolResults id key)) (.stay _) fun _ _ done =>
      Store.claimToolExecution_steps done id key
  | complete =>
    obtain ⟨answer, settled⟩ := moves
    refine settled.frame (R := fun after => RowStep _ (after.toolResults id key)) (.stay _) fun _ _ done => ?_
    obtain ⟨row, present, claimed, -, rfl⟩ := Store.completeToolResult_ok done
    exact Store.setToolResult_steps (by rw [present]; exact .completed row _ claimed) id key
  | fail =>
    obtain ⟨answer, settled⟩ := moves
    refine settled.frame (R := fun after => RowStep _ (after.toolResults id key)) (.stay _) fun _ _ done => ?_
    obtain ⟨row, present, claimed, -, rfl⟩ := Store.failToolExecution_ok done
    exact Store.setToolResult_steps (by rw [present]; exact .failed row _ _ claimed) id key

section RowStep
variable {row : ToolResultRow} {found : Option ToolResultRow}

theorem RowStep.fingerprint (step : RowStep (some row) found) :
    ∃ next, found = some next ∧ next.requestFingerprint = row.requestFingerprint := by
  cases step <;> exact ⟨_, rfl, rfl⟩

theorem RowStep.settled (step : RowStep (some row) found) (settled : row.settled = true) : found = some row := by
  cases step with
  | stay => rfl
  | takenOver _ _ _ claimed | completed _ _ claimed | failed _ _ _ claimed =>
    simp [ToolResultRow.settled, claimed] at settled
  | retried _ _ _ failed retryable => simp [ToolResultRow.settled, failed, retryable] at settled

theorem RowStep.coherent {before : Option ToolResultRow} (step : RowStep before found)
    (coherent : ∀ row, before = some row → row.coherent) : ∀ row, found = some row → row.coherent := by
  rintro next rfl
  cases step with
  | stay => exact coherent next rfl
  | opened | retried => intro paid; cases paid
  | completed => exact fun _ => rfl
  | takenOver row _ _ claimed | failed row _ _ claimed =>
    intro paid
    have completed : row.state = .completed := coherent row rfl paid
    rw [claimed] at completed
    cases completed

end RowStep

/-- What every step of every row keeps, every run of calls keeps. -/
theorem ClaimsReach.induct {later : Store} {R : Option ToolResultRow → Prop} (reach : ClaimsReach cfg calls st later)
    {id : Uuid} {key : String} (start : R (st.toolResults id key))
    (step : ∀ before found, RowStep before found → R before → R found) : R (later.toolResults id key) := by
  induction reach with
  | refl => exact start
  | tail _ move ih =>
    obtain ⟨call, now, -, moves⟩ := move
    exact step _ _ (moves.steps id key) ih

theorem ClaimsReach.coherent (reach : ClaimsReach cfg calls st after)
    (unclaimed : ∀ id key, st.toolResults id key = none) {id : Uuid} {key : String} {row : ToolResultRow}
    (present : after.toolResults id key = some row) : row.coherent := by
  have kept : ∀ row, after.toolResults id key = some row → row.coherent :=
    reach.induct (R := fun found => ∀ row, found = some row → row.coherent)
      (fun row stored => by rw [unclaimed] at stored; cases stored)
      fun _ _ step coherent => step.coherent coherent
  exact kept row present

theorem ClaimsReach.fingerprint (reach : ClaimsReach cfg calls st after) {id : Uuid} {key : String}
    {row : ToolResultRow} (present : st.toolResults id key = some row) :
    ∃ next, after.toolResults id key = some next ∧ next.requestFingerprint = row.requestFingerprint := by
  refine reach.induct (R := fun found => ∃ next, found = some next ∧
    next.requestFingerprint = row.requestFingerprint) ⟨row, present, rfl⟩ ?_
  rintro _ found step ⟨middle, rfl, same⟩
  obtain ⟨next, atNext, kept⟩ := step.fingerprint
  exact ⟨next, atNext, kept.trans same⟩

theorem ClaimsReach.settled (reach : ClaimsReach cfg calls st after) {id : Uuid} {key : String}
    {row : ToolResultRow} (present : st.toolResults id key = some row) (settled : row.settled = true) :
    after.toolResults id key = some row := by
  refine reach.induct (R := fun found => found = some row) present ?_
  rintro _ found step rfl
  exact step.settled settled

theorem claimedBy_setToolResult {owner id id' : Uuid} {key key' : String} {row : ToolResultRow}
    (claimed : ClaimedBy owner ((st.setToolResult id' key' row).toolResults id key)) :
    id = id' ∧ key = key' ∧ row.state = .claimed ∧ row.ownerToken = owner ∨ ClaimedBy owner (st.toolResults id key) := by
  obtain ⟨other, present, state, token⟩ := claimed
  by_cases same : id = id' ∧ key = key'
  · obtain ⟨rfl, rfl⟩ := same
    rw [Store.setToolResult_self] at present
    cases present
    exact .inl ⟨rfl, rfl, state, token⟩
  · rw [Store.setToolResult_of_ne st row (not_and_or.mp same)] at present
    exact .inr ⟨other, present, state, token⟩

/-- Only its own claim gives a token the row. -/
theorem ClaimCall.Moves.claimedBy {call : ClaimCall} (moves : call.Moves cfg now st after) {owner id : Uuid}
    {key : String} (claimed : ClaimedBy owner (after.toolResults id key)) :
    call.claimsFor owner id key ∨ ClaimedBy owner (st.toolResults id key) := by
  cases call with
  | claim id' key' owner' fingerprint allowReclaim =>
    obtain ⟨answer, settled⟩ := moves
    revert claimed
    refine settled.frame (R := fun after => ClaimedBy owner (after.toolResults id key) → _) .inr fun _ after done => ?_
    obtain ⟨expires, -, -, rfl⟩ | ⟨row, present, ⟨-, -, rfl⟩ | ⟨-, found⟩⟩ := Store.claimToolExecution_cases done
    · intro claimed
      exact (claimedBy_setToolResult claimed).imp_left fun ⟨sameId, sameKey, _, token⟩ => ⟨sameId.symm, sameKey.symm, token⟩
    · exact .inr
    · obtain ⟨expires, -, -, -, -, rfl⟩ | ⟨-, _, rfl, -, rfl⟩ | ⟨expires, -, -, -, -, rfl⟩ | ⟨-, rfl⟩ := found
      · intro claimed
        exact (claimedBy_setToolResult claimed).imp_left fun ⟨sameId, sameKey, _, token⟩ =>
          ⟨sameId.symm, sameKey.symm, token⟩
      · intro claimed
        rcases claimedBy_setToolResult claimed with ⟨-, -, abandoned, -⟩ | before
        · cases abandoned
        · exact .inr before
      · intro claimed
        exact (claimedBy_setToolResult claimed).imp_left fun ⟨sameId, sameKey, _, token⟩ =>
          ⟨sameId.symm, sameKey.symm, token⟩
      · exact .inr
  | complete id' key' payload owner' =>
    obtain ⟨answer, settled⟩ := moves
    revert claimed
    refine settled.frame (R := fun after => ClaimedBy owner (after.toolResults id key) → _) .inr fun _ after done => ?_
    obtain ⟨row, -, -, -, rfl⟩ := Store.completeToolResult_ok done
    intro claimed
    rcases claimedBy_setToolResult claimed with ⟨-, -, completed, -⟩ | before
    · cases completed
    · exact .inr before
  | fail id' key' owner' error disposition =>
    obtain ⟨answer, settled⟩ := moves
    revert claimed
    refine settled.frame (R := fun after => ClaimedBy owner (after.toolResults id key) → _) .inr fun _ after done => ?_
    obtain ⟨row, -, -, -, rfl⟩ := Store.failToolExecution_ok done
    intro claimed
    rcases claimedBy_setToolResult claimed with ⟨-, -, failed, -⟩ | before
    · cases failed
    · exact .inr before

theorem ClaimsReach.lost {owner id : Uuid} {key : String}
    (reach : ClaimsReach cfg (fun call => ¬ call.claimsFor owner id key) st after)
    (lost : ¬ ClaimedBy owner (st.toolResults id key)) : ¬ ClaimedBy owner (after.toolResults id key) := by
  induction reach with
  | refl => exact lost
  | tail _ move ih =>
    obtain ⟨call, now, other, moves⟩ := move
    intro claimed
    rcases moves.claimedBy claimed with own | before
    · exact other own
    · exact ih before

/-- Everything that the rows of one database and the answers of its calls owe. -/
structure ToolClaimLifecycle (cfg : StoreSettings) (st : Store) : Prop where
  fingerprint : ∀ calls later id key row, ClaimsReach cfg calls st later → st.toolResults id key = some row →
    ∃ next, later.toolResults id key = some next ∧ next.requestFingerprint = row.requestFingerprint
  conflict : ∀ now id key owner fingerprint allowReclaim row claim after, st.toolResults id key = some row →
    fingerprint ≠ row.requestFingerprint →
    Settles (Store.claimToolExecution cfg now id key owner fingerprint allowReclaim) st (.ok claim) after →
    claim = .conflict row.requestFingerprint ∧ after = st
  settled : ∀ calls later id key row, ClaimsReach cfg calls st later → st.toolResults id key = some row →
    row.settled = true → later.toolResults id key = some row
  payload : ∀ calls later id key row payload, ClaimsReach cfg calls st later → st.toolResults id key = some row →
    row.payload = some payload → later.toolResults id key = some row
  acquired : ∀ now id key owner fingerprint allowReclaim row after,
    Settles (Store.claimToolExecution cfg now id key owner fingerprint allowReclaim) st (.ok (.row row)) after →
    row.state = .claimed → row.ownerToken = owner →
    Acquirable now allowReclaim (st.toolResults id key) ∨ st.toolResults id key = some row ∧ after = st
  completes : ∀ id key payload owner after, Settles (Store.completeToolResult id key payload owner) st (.ok ()) after →
    ClaimedBy owner (st.toolResults id key)
  fails : ∀ id key owner error disposition after,
    Settles (Store.failToolExecution id key owner error disposition) st (.ok ()) after →
    ClaimedBy owner (st.toolResults id key)
  lost : ∀ owner id key later, ¬ ClaimedBy owner (st.toolResults id key) →
    ClaimsReach cfg (fun call => ¬ call.claimsFor owner id key) st later → ∀ after,
    (∀ payload, ¬ Settles (Store.completeToolResult id key payload owner) later (.ok ()) after) ∧
    ∀ error disposition, ¬ Settles (Store.failToolExecution id key owner error disposition) later (.ok ()) after

theorem claim_acquired {owner id : Uuid} {key fingerprint : String} {allowReclaim : Bool} {row : ToolResultRow}
    (done : Store.claimToolExecution cfg now id key owner fingerprint allowReclaim st = .ok (.row row, after))
    (claimed : row.state = .claimed) :
    Acquirable now allowReclaim (st.toolResults id key) ∨ st.toolResults id key = some row ∧ after = st := by
  obtain ⟨expires, vacant, -, -⟩ | ⟨before, present, ⟨-, impossible, -⟩ | ⟨-, found⟩⟩ := Store.claimToolExecution_cases done
  · left
    rw [vacant]
    trivial
  · cases impossible
  · obtain ⟨expires, state, expired, reclaim, -, -⟩ | ⟨-, _, rfl, same, -⟩ | ⟨expires, failed, retryable, reclaim, -, -⟩ |
      ⟨same, kept⟩ := found
    · left
      rw [present]
      exact ⟨reclaim, .inr ⟨state, expired⟩⟩
    · cases same
      cases claimed
    · left
      rw [present]
      exact ⟨reclaim, .inl ⟨failed, retryable⟩⟩
    · cases same
      exact .inr ⟨present, kept⟩

theorem completes_claimed {owner id : Uuid} {key : String} {payload : Json}
    (settled : Settles (Store.completeToolResult id key payload owner) st (.ok ()) after) :
    ClaimedBy owner (st.toolResults id key) := by
  obtain ⟨row, present, claimed, token, -⟩ := Store.completeToolResult_ok settled.ok
  exact ⟨row, present, claimed, token⟩

theorem fails_claimed {owner id : Uuid} {key error : String} {disposition : ToolFailureDisposition}
    (settled : Settles (Store.failToolExecution id key owner error disposition) st (.ok ()) after) :
    ClaimedBy owner (st.toolResults id key) := by
  obtain ⟨row, present, claimed, token, -⟩ := Store.failToolExecution_ok settled.ok
  exact ⟨row, present, claimed, token⟩

/-- The lifecycle of every claim, after any calls on a table that began without claims. -/
theorem tool_claim_lifecycle {start : Store} (unclaimed : ∀ id key, start.toolResults id key = none)
    (reach : ClaimsReach cfg calls start st) : ToolClaimLifecycle cfg st where
  fingerprint _ _ _ _ _ later present := later.fingerprint present
  conflict now id key owner fingerprint allowReclaim row claim after present other settled := by
    obtain ⟨expires, vacant, -, -⟩ | ⟨found, atFound, ⟨-, conflict, same⟩ | ⟨same, -⟩⟩ :=
      Store.claimToolExecution_cases settled.ok
    · rw [vacant] at present
      cases present
    · cases Option.some.inj (present.symm.trans atFound)
      exact ⟨conflict, same⟩
    · cases Option.some.inj (present.symm.trans atFound)
      exact absurd same.symm other
  settled _ _ _ _ _ later present settled := later.settled present settled
  payload _ _ _ _ row payload later present paid := by
    have completed : row.state = .completed := reach.coherent unclaimed present (by rw [paid]; rfl)
    exact later.settled present (by simp [ToolResultRow.settled, completed])
  acquired _ _ _ _ _ _ _ _ settled claimed _ := claim_acquired settled.ok claimed
  completes _ _ _ _ _ settled := completes_claimed settled
  fails _ _ _ _ _ _ settled := fails_claimed settled
  lost _ _ _ _ lost later _ :=
    ⟨fun _ settled => later.lost lost (completes_claimed settled),
      fun _ _ settled => later.lost lost (fails_claimed settled)⟩

theorem halfMinute_inside : 30000000 < maxWall := by decide

/-- A store with leases of half a minute, as the defaults are. -/
def halfMinuteLeases : StoreSettings := ⟨[], ⟨fun c => [c], fun _ => false⟩, 30000000, 30000000⟩

def firstClaim : ToolResultRow :=
  ⟨.claimed, 1, "request", none, none, none, .utc 30000000 halfMinute_inside⟩

def firstClaimed : Store := Store.empty.setToolResult 0 "key" firstClaim

theorem firstClaim_granted (now : DateTime) (begin : now = .utc 0 (by decide)) :
    Store.claimToolExecution halfMinuteLeases now 0 "key" 1 "request" true Store.empty =
      .ok (.row firstClaim, firstClaimed) := by
  subst begin
  rfl

theorem tool_claim_lifecycle_claimed : ToolClaimLifecycle halfMinuteLeases firstClaimed := by
  have granted : ClaimsReach halfMinuteLeases (fun _ => True) Store.empty firstClaimed :=
    .single ⟨.claim 0 "key" 1 "request" true, _, trivial, _, .committed (firstClaim_granted _ rfl)⟩
  exact tool_claim_lifecycle (fun _ _ => rfl) granted

/-- A token that claims again before its lease has ended gets its own live claim back. -/
theorem live_claim_reported : ∃ now, ClaimsReach halfMinuteLeases (fun _ => True) Store.empty firstClaimed ∧
    Settles (Store.claimToolExecution halfMinuteLeases now 0 "key" 1 "request" true) firstClaimed
      (.ok (.row firstClaim)) firstClaimed ∧ firstClaim.state = .claimed ∧ firstClaim.ownerToken = 1 ∧
    ¬ Acquirable now true (firstClaimed.toolResults 0 "key") := by
  refine ⟨.utc 0 (by decide), .single ⟨.claim 0 "key" 1 "request" true, _, trivial, _,
    .committed (firstClaim_granted _ rfl)⟩, .committed ?_, rfl, rfl, ?_⟩
  · have live : (DateTime.utc 0 (by decide)).instant < firstClaim.leaseExpiresAt.instant := by decide
    exact @Store.claimToolExecution_live _ _ _ _ _ _ _ firstClaim _ rfl (Store.setToolResult_self ..) (by decide) rfl live
  · rw [firstClaimed, Store.setToolResult_self]
    rintro ⟨-, ⟨failed, -⟩ | ⟨-, expired⟩⟩
    · cases failed
    · exact absurd expired (by decide)

end ReliabilityLab
