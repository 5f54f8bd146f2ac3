import ReliabilityLab.Runtime.Discipline

namespace ReliabilityLab

variable {dep : Deployment} {allowed : Allowed} {p : Pid} {s t : SystemState}

theorem Snapshot.current {run : Run} {row : RunRow} (seen : Snapshot run s)
    (stored : s.store.runs run.id = some row) (version : row.version = run.version) : row.payload = run := by
  obtain ⟨other, atOther, -, -, same⟩ := seen
  cases Option.some.inj (atOther.symm.trans stored)
  exact same version

theorem Advance.identity {run next : Run} {events : List TraceEvent}
    (advance : Advance dep allowed p s run next events) : next.id = run.id ∧ next.traceId = run.traceId := by
  cases advance <;> exact ⟨rfl, rfl⟩

theorem Advance.trace {run next : Run} {events : List TraceEvent}
    (advance : Advance dep allowed p s run next events) : ∀ event ∈ events, event.traceId = run.traceId := by
  cases advance <;> simp [buildEvent]

theorem Advance.active {run next : Run} {events : List TraceEvent}
    (advance : Advance dep allowed p s run next events) : run.status.terminal = false := by
  cases advance with
  | begin stopped => rcases stopped with status | status <;> rw [status] <;> rfl
  | deny _ _ _ _ waiting _ => rw [waiting]; rfl
  | reserve running | succeed _ running | fail _ _ _ running | pause _ running | checkpoint _ _ _ _ _ _ running =>
    rw [running]; rfl

/-- A step that replaces one stored run by its next version, under `p`'s lease. -/
structure Raised (p : Pid) (s t : SystemState) (id : Uuid) (row next : RunRow) : Prop where
  stored : s.store.runs id = some row
  mine : Mine p id s
  runs : t.store.runs = Function.update s.store.runs id (some next)
  version : next.version = row.version + 1
  payload : next.payload.id = id ∧ next.payload.version = next.version ∧ next.traceId = next.payload.traceId
  trace : next.payload.traceId = row.payload.traceId
  leases : t.store.leases = s.store.leases
  approvals : t.store.approvals = s.store.approvals
  drawn : t.drawn = s.drawn
  supply : s.store.nextUuid ≤ t.store.nextUuid

theorem Mine.unique {q : Pid} {id : Uuid} (mine : Mine p id s) (other : Mine q id s) : q = p := by
  obtain ⟨lease, named, drawn⟩ := mine
  obtain ⟨lease', named', drawn'⟩ := other
  cases Option.some.inj (named.symm.trans named')
  exact Option.some.inj (drawn'.symm.trans drawn)

namespace Raised
variable {id : Uuid} {row next : RunRow}

theorem lookup (raised : Raised p s t id row next) {other : Uuid} {found : RunRow}
    (at_other : t.store.runs other = some found) :
    other = id ∧ found = next ∨ other ≠ id ∧ s.store.runs other = some found := by
  rw [raised.runs] at at_other
  by_cases same : other = id
  · subst same
    exact .inl ⟨rfl, by simpa using at_other.symm⟩
  · exact .inr ⟨same, by simpa [Function.update_of_ne same] using at_other⟩

theorem used (raised : Raised p s t id row next) {u : Uuid} : TraceUsed u t ↔ TraceUsed u s := by
  constructor
  · rintro ⟨other, found, at_other, trace⟩
    rcases raised.lookup at_other with ⟨rfl, rfl⟩ | ⟨-, before⟩
    · exact ⟨_, row, raised.stored, raised.trace ▸ trace⟩
    · exact ⟨other, found, before, trace⟩
  · rintro ⟨other, found, at_other, trace⟩
    by_cases same : other = id
    · subst same
      cases Option.some.inj (raised.stored.symm.trans at_other)
      exact ⟨other, next, by rw [raised.runs]; simp, raised.trace.trans trace⟩
    · exact ⟨other, found, by rw [raised.runs, Function.update_of_ne same]; exact at_other, trace⟩

theorem consistent (raised : Raised p s t id row next) (valid : Consistent s) : Consistent t := by
  constructor
  · intro other found at_other
    rw [raised.drawn]
    rcases raised.lookup at_other with ⟨rfl, rfl⟩ | ⟨-, before⟩
    · obtain ⟨-, -, trace, drawnId, drawnTrace⟩ := valid.rows _ _ raised.stored
      refine ⟨raised.payload.1, raised.payload.2.1, raised.payload.2.2, drawnId, ?_⟩
      rw [raised.payload.2.2, raised.trace, ← trace]
      exact drawnTrace
    · exact valid.rows _ _ before
  · intro first second atFirst atSecond storedFirst storedSecond equal
    rcases raised.lookup storedFirst with ⟨rfl, rfl⟩ | ⟨neFirst, beforeFirst⟩
    · rcases raised.lookup storedSecond with ⟨rfl, -⟩ | ⟨-, beforeSecond⟩
      · rfl
      · exact valid.traces _ _ _ _ raised.stored beforeSecond (raised.trace ▸ equal)
    · rcases raised.lookup storedSecond with ⟨rfl, rfl⟩ | ⟨-, beforeSecond⟩
      · exact valid.traces _ _ _ _ beforeFirst raised.stored (equal.trans raised.trace)
      · exact valid.traces _ _ _ _ beforeFirst beforeSecond equal
  · intro other lease named
    rw [raised.leases] at named
    obtain ⟨known, present⟩ := valid.leases other lease named
    refine ⟨by rw [raised.drawn]; exact known, ?_⟩
    rw [raised.runs]
    by_cases same : other = id
    · subst same; simp
    · rw [Function.update_of_ne same]; exact present
  · rw [raised.drawn]
    exact fun u known => (valid.supply u known).trans_le raised.supply

theorem rely (raised : Raised p s t id row next) {q : Pid} (other : q ≠ p) : Rely q s t := by
  constructor
  · rw [raised.drawn]; exact fun _ _ known => known
  · rw [raised.approvals]; exact fun _ _ _ stored => stored
  · intro at_id found stored
    by_cases same : at_id = id
    · subst same
      cases Option.some.inj (raised.stored.symm.trans stored)
      refine ⟨next, by rw [raised.runs]; simp, by rw [raised.version]; omega, raised.trace, fun equal => ?_⟩
      rw [raised.version] at equal
      omega
    · exact ⟨found, by rw [raised.runs, Function.update_of_ne same]; exact stored, le_rfl, rfl, fun _ => rfl⟩
  · intro at_id mine
    have before : Mine q at_id s := by simpa only [Mine, raised.leases, raised.drawn] using mine
    have unequal : at_id ≠ id := by
      rintro rfl
      exact other (raised.mine.unique before)
    exact ⟨before, by rw [raised.runs, Function.update_of_ne unequal]⟩
  · intro _ _ _ _ _; rw [raised.approvals]
  · intro u _
    refine ⟨raised.used.mp, fun unused => ?_⟩
    rw [raised.runs]
    by_cases same : u = id
    · subst same
      rw [raised.stored] at unused
      cases unused
    · rw [Function.update_of_ne same]; exact unused

end Raised

/-- Every owned save raises one row. -/
theorem raised_of_updateOwned {now : DateTime} {run saved : Run} {owner version : Nat} {events : List TraceEvent}
    {after : Store} (drawn : s.drawn owner = some p)
    (advances : Advances dep allowed p run events version s)
    (done : Store.updateOwned now run owner version s.store = .ok (saved, after)) (clean : List TraceEvent) :
    ∃ prior row, prior.version = version ∧ Holds p prior s ∧ Advance dep allowed p s prior run events ∧
      row.payload = prior ∧ saved = { run with version := version + 1 } ∧
      Raised p s { s with store := after.insertEvents clean } run.id row ⟨run.traceId, version + 1, saved⟩ := by
  obtain ⟨prior, atVersion, holds, advance⟩ := advances
  obtain ⟨row, lease, stored, rowVersion, claimed, named, -, rfl, rfl⟩ := Store.updateOwned_ok done
  obtain ⟨sameId, sameTrace⟩ := advance.identity
  have payload : row.payload = prior :=
    holds.1.current (sameId ▸ stored) (rowVersion.trans atVersion.symm)
  refine ⟨prior, row, atVersion, holds, advance, payload, rfl, ?_⟩
  constructor
  · exact stored
  · exact ⟨lease, claimed, named ▸ drawn⟩
  · simp [Store.setRun]
  · exact congrArg (· + 1) rowVersion.symm
  · exact ⟨rfl, rfl, rfl⟩
  · show run.traceId = row.payload.traceId
    rw [payload, sameTrace]
  · simp
  · simp
  · rfl
  · exact insertEvents_nextUuid (s.store.setRun run.id _) clean

/-- A step of `p` keeps the state consistent, and all others may rely on what they need. -/
def Guarantees (p : Pid) (s t : SystemState) : Prop := Consistent t ∧ ∀ q, q ≠ p → Rely q s t

theorem Guarantees.refl (valid : Consistent s) : Guarantees p s s := ⟨valid, fun q _ => .refl q s⟩

/-- Only the commit of a transaction has to be looked at. -/
theorem guarantees_of_commits {α : Type} {tx : Tx α} {answer : Except Exn α} (valid : Consistent s)
    (commits : s.Commits tx answer t)
    (committed : ∀ value after, tx s.store = .ok (value, after) → Guarantees p s { s with store := after }) :
    Guarantees p s t := by
  obtain ⟨after, settled, rfl⟩ := commits
  cases settled with
  | committed done => exact committed _ _ done
  | refused => exact .refl valid
  | broken => exact .refl valid

theorem draw_guarantees (valid : Consistent s) : Consistent (s.draw p) ∧ ∀ q, Rely q s (s.draw p) := by
  have unknown : s.drawn s.store.nextUuid = none := by
    by_contra known
    exact absurd (valid.supply _ known) (lt_irrefl _)
  have keeps : ∀ u q, s.drawn u = some q → (s.draw p).drawn u = some q := by
    intro u q known
    have other : u ≠ s.store.nextUuid := by rintro rfl; rw [unknown] at known; cases known
    simpa [SystemState.draw, Function.update_of_ne other] using known
  have known : ∀ u, s.drawn u ≠ none → (s.draw p).drawn u ≠ none := by
    intro u known
    obtain ⟨q, drawn⟩ := Option.ne_none_iff_exists'.mp known
    rw [keeps u q drawn]; simp
  refine ⟨⟨?_, valid.traces, ?_, ?_⟩, fun q => ⟨keeps, fun _ _ _ stored => stored, ?_, ?_, ?_, ?_⟩⟩
  · intro id row stored
    obtain ⟨sameId, version, trace, drawnId, drawnTrace⟩ := valid.rows id row stored
    exact ⟨sameId, version, trace, known _ drawnId, known _ drawnTrace⟩
  · intro id lease named
    obtain ⟨drawn, present⟩ := valid.leases id lease named
    exact ⟨known _ drawn, present⟩
  · intro u drawn
    show u < s.store.nextUuid + 1
    by_cases same : u = s.store.nextUuid
    · rw [same]; exact Nat.lt_succ_self _
    · have before : s.drawn u ≠ none := by simpa [SystemState.draw, Function.update_of_ne same] using drawn
      exact (valid.supply u before).trans (Nat.lt_succ_self _)
  · exact fun _ row stored => ⟨row, stored, le_rfl, rfl, fun _ => rfl⟩
  · rintro id ⟨lease, named, drawn⟩
    refine ⟨⟨lease, named, ?_⟩, rfl⟩
    obtain ⟨q', before⟩ := Option.ne_none_iff_exists'.mp (valid.leases id lease named).1
    rw [keeps _ _ before] at drawn
    exact drawn ▸ before
  · exact fun _ _ _ _ _ => rfl
  · exact fun u _ => ⟨fun used => used, fun unused => unused⟩

/-- A new row under an identifier and a trace that `p` drew and nobody uses. -/
theorem setRun_guarantees {id : Uuid} {row : RunRow} (valid : Consistent s) (drawnId : s.drawn id = some p)
    (drawnTrace : s.drawn row.traceId = some p) (unsaved : s.store.runs id = none)
    (unused : ¬ TraceUsed row.traceId s) (same : row.payload.id = id ∧ row.payload.version = row.version ∧
      row.traceId = row.payload.traceId) : Guarantees p s { s with store := s.store.setRun id row } := by
  have found : ∀ other stored, (s.store.setRun id row).runs other = some stored →
      other = id ∧ stored = row ∨ other ≠ id ∧ s.store.runs other = some stored := by
    intro other stored at_other
    by_cases equal : other = id
    · subst equal; exact .inl ⟨rfl, by simpa using at_other.symm⟩
    · exact .inr ⟨equal, by simpa [Store.setRun, Function.update_of_ne equal] using at_other⟩
  refine ⟨⟨?_, ?_, ?_, valid.supply⟩, fun q other =>
    ⟨fun _ _ known => known, fun _ _ _ stored => stored, ?_, ?_, fun _ _ _ _ _ => rfl, ?_⟩⟩
  · intro at_id stored there
    rcases found _ _ there with ⟨rfl, rfl⟩ | ⟨-, before⟩
    · exact ⟨same.1, same.2.1, same.2.2, by simp [drawnId], by simp [drawnTrace]⟩
    · exact valid.rows _ _ before
  · intro first second atFirst atSecond storedFirst storedSecond equal
    rcases found _ _ storedFirst with ⟨rfl, rfl⟩ | ⟨-, beforeFirst⟩
    · rcases found _ _ storedSecond with ⟨rfl, -⟩ | ⟨-, beforeSecond⟩
      · rfl
      · exact absurd ⟨second, atSecond, beforeSecond, equal.symm.trans same.2.2.symm⟩ unused
    · rcases found _ _ storedSecond with ⟨rfl, rfl⟩ | ⟨-, beforeSecond⟩
      · exact absurd ⟨first, atFirst, beforeFirst, equal.trans same.2.2.symm⟩ unused
      · exact valid.traces _ _ _ _ beforeFirst beforeSecond equal
  · intro at_id lease named
    obtain ⟨drawn, present⟩ := valid.leases at_id lease named
    refine ⟨drawn, ?_⟩
    by_cases equal : at_id = id
    · subst equal; simp
    · simpa [Store.setRun, Function.update_of_ne equal] using present
  · intro at_id stored there
    refine ⟨stored, ?_, le_rfl, rfl, fun _ => rfl⟩
    have unequal : at_id ≠ id := by rintro rfl; rw [unsaved] at there; cases there
    simpa [Store.setRun, Function.update_of_ne unequal] using there
  · rintro at_id ⟨lease, named, drawn⟩
    refine ⟨⟨lease, named, drawn⟩, ?_⟩
    have unequal : at_id ≠ id := by
      rintro rfl
      exact (valid.leases _ lease named).2 unsaved
    simp [Store.setRun, Function.update_of_ne unequal]
  · intro u drawn
    constructor
    · rintro ⟨at_id, stored, there, trace⟩
      rcases found _ _ there with ⟨rfl, rfl⟩ | ⟨-, before⟩
      · rw [← trace, ← same.2.2] at drawn
        exact absurd (Option.some.inj (drawn.symm.trans drawnTrace)) other
      · exact ⟨at_id, stored, before, trace⟩
    · intro absent
      have unequal : u ≠ id := by
        rintro rfl
        exact other (Option.some.inj (drawn.symm.trans drawnId))
      simpa [Store.setRun, Function.update_of_ne unequal] using absent

/-- A lease row of a stored run given to a token of `p`, or taken away. -/
theorem setLease_guarantees {id : Uuid} {lease : Option RunExecutionLeaseRow} (valid : Consistent s)
    (stored : s.store.runs id ≠ none) (own : ∀ row, lease = some row → s.drawn row.ownerToken = some p) :
    Guarantees p s { s with store := s.store.setLease id lease } := by
  have found : ∀ other row, (s.store.setLease id lease).leases other = some row →
      other = id ∧ lease = some row ∨ other ≠ id ∧ s.store.leases other = some row := by
    intro other row named
    by_cases equal : other = id
    · subst equal; exact .inl ⟨rfl, by simpa using named⟩
    · exact .inr ⟨equal, by simpa [Store.setLease, Function.update_of_ne equal] using named⟩
  refine ⟨⟨valid.rows, valid.traces, ?_, valid.supply⟩, fun q other =>
    ⟨fun _ _ known => known, fun _ _ _ stored => stored, fun _ row stored => ⟨row, stored, le_rfl, rfl, fun _ => rfl⟩,
      ?_, fun _ _ _ _ _ => rfl, fun u _ => ⟨fun used => used, fun unused => unused⟩⟩⟩
  · intro at_id row named
    rcases found _ _ named with ⟨rfl, given⟩ | ⟨-, before⟩
    · exact ⟨by simp [own row given], stored⟩
    · exact valid.leases _ _ before
  · rintro at_id ⟨row, named, drawn⟩
    rcases found _ _ named with ⟨rfl, given⟩ | ⟨-, before⟩
    · exact absurd (Option.some.inj (drawn.symm.trans (own row given))) other
    · exact ⟨⟨row, before, drawn⟩, rfl⟩

/-- A decision that was not there, about a run that waits for it. -/
theorem setApproval_guarantees {id : Uuid} {step : Nat} {row : ApprovalRow} (event : TraceEvent) (valid : Consistent s)
    (absent : s.store.approvals id step = none)
    (paused : s.store.pausedOn id step row.actionFingerprint = true) :
    Consistent { s with store := (s.store.setApproval id step row).insertEvent event } ∧
      ∀ q, Rely q s { s with store := (s.store.setApproval id step row).insertEvent event } := by
  refine ⟨⟨valid.rows, valid.traces, valid.leases,
      fun u known => (valid.supply u known).trans_le (Nat.le_add_right _ 2)⟩, fun q =>
    ⟨fun _ _ known => known, ?_, fun _ row stored => ⟨row, stored, le_rfl, rfl, fun _ => rfl⟩,
      fun _ mine => ⟨mine, rfl⟩, ?_, fun u _ => ⟨fun used => used, fun unused => unused⟩⟩⟩
  · intro other_id other_step found present
    show (s.store.setApproval id step row).approvals other_id other_step = some found
    by_cases sameId : other_id = id
    · subst sameId
      have unequal : other_step ≠ step := by rintro rfl; rw [absent] at present; cases present
      simpa [Store.setApproval, Function.update_of_ne unequal] using present
    · simpa [Store.setApproval, Function.update_of_ne sameId] using present
  · intro other_id found before after active
    obtain ⟨waiting, atWaiting, status, -⟩ := Store.pausedOn_ok paused
    have unequal : other_id ≠ id := by
      rintro rfl
      cases Option.some.inj (before.symm.trans atWaiting)
      exact active status
    show (s.store.setApproval id step row).approvals other_id = s.store.approvals other_id
    simp [Store.setApproval, Function.update_of_ne unequal]

/-- A renewal leaves the lease with the token it had. -/
theorem renew_guarantees {now : DateTime} {id owner : Uuid} {answer : Except Exn Run} (valid : Consistent s)
    (commits : s.Commits (Store.renewRunExecution dep.store now id owner) answer t) :
    Consistent t ∧ ∀ q, Rely q s t := by
  obtain ⟨after, settled, rfl⟩ := commits
  cases settled with
  | refused => exact ⟨valid, fun q => .refl q s⟩
  | broken => exact ⟨valid, fun q => .refl q s⟩
  | committed done =>
    obtain ⟨row, lease, expires, -, stored, -, claimed, rfl, rfl⟩ := Store.renewRunExecution_ok done
    have found : ∀ other left, (s.store.setLease id (some ⟨lease.ownerToken, expires.isoformat⟩)).leases other =
        some left → ∃ before, s.store.leases other = some before ∧ before.ownerToken = left.ownerToken := by
      intro other left named
      by_cases same : other = id
      · subst same
        simp only [Store.setLease_leases_self, Option.some.injEq] at named
        exact ⟨lease, claimed, by rw [← named]⟩
      · exact ⟨left, by simpa [Store.setLease, Function.update_of_ne same] using named, rfl⟩
    refine ⟨⟨valid.rows, valid.traces, ?_, valid.supply⟩, fun q =>
      ⟨fun _ _ known => known, fun _ _ _ stored => stored, fun _ row stored => ⟨row, stored, le_rfl, rfl, fun _ => rfl⟩,
        ?_, fun _ _ _ _ _ => rfl, fun u _ => ⟨fun used => used, fun unused => unused⟩⟩⟩
    · intro other left named
      obtain ⟨before, there, token⟩ := found other left named
      rw [← token]
      exact valid.leases other before there
    · rintro other ⟨left, named, drawn⟩
      obtain ⟨before, there, token⟩ := found other left named
      exact ⟨⟨before, there, token ▸ drawn⟩, rfl⟩

theorem guarantee {op : Op} {now : DateTime} {answer : op.Answer} (valid : Consistent s)
    (owed : Pre dep allowed p op s) (performed : dep.perform p op now s answer t) : Guarantees p s t := by
  cases op with
  | uuid4 =>
    obtain ⟨-, rfl⟩ := performed
    exact ⟨(draw_guarantees valid).1, fun q _ => (draw_guarantees valid).2 q⟩
  | saveRun run =>
    obtain ⟨-, drawnId, drawnTrace, unsaved, unused⟩ := owed
    refine guarantees_of_commits valid performed fun saved after done => ?_
    obtain ⟨-, rfl, rfl⟩ := Store.saveRun_ok done
    exact setRun_guarantees valid drawnId drawnTrace unsaved unused ⟨rfl, rfl, rfl⟩
  | claimRunExecution id owner =>
    refine guarantees_of_commits valid performed fun run after done => ?_
    obtain ⟨row, expires, -, stored, -, rfl, -⟩ := Store.claimRunExecution_ok done
    refine setLease_guarantees valid (by simp [stored]) fun given same => ?_
    cases same
    exact owed
  | releaseRunExecution id owner =>
    refine guarantees_of_commits valid performed fun run after done => ?_
    obtain ⟨row, lease, stored, -, -, -, rfl⟩ := Store.releaseRunExecution_ok done
    exact setLease_guarantees valid (by simp [stored]) (by simp)
  | saveRunOwned run owner version =>
    obtain ⟨drawn, advances⟩ := owed
    refine guarantees_of_commits valid performed fun saved after done => ?_
    obtain ⟨_, _, -, -, -, -, -, raised⟩ := raised_of_updateOwned drawn advances done []
    exact ⟨raised.consistent valid, fun q other => raised.rely other⟩
  | saveRunOwnedWithEvents run events owner version =>
    obtain ⟨drawn, advances⟩ := owed
    refine guarantees_of_commits valid performed fun saved after done => ?_
    obtain ⟨updated, result, rfl⟩ := Store.saveRunOwnedWithEvents_ok done
    obtain ⟨_, _, -, -, -, -, -, raised⟩ := raised_of_updateOwned drawn advances result
      (events.map (Store.cleanEvent dep.store))
    exact ⟨raised.consistent valid, fun q other => raised.rely other⟩
  | recordPendingApproval id step row =>
    refine guarantees_of_commits valid performed fun decision after done => ?_
    obtain ⟨-, ⟨-, rfl⟩ | ⟨absent, run, stored, paused, rfl⟩⟩ := Store.recordPendingApproval_ok done
    · exact .refl valid
    · obtain ⟨kept, others⟩ := setApproval_guarantees
        (Store.cleanEvent dep.store (Store.recordedEvent run.traceId step row)) valid absent paused
      exact ⟨kept, fun q _ => others q⟩
  | getRun | appendEvent | getApproval | claimToolExecution | completeToolResult | failToolExecution
  | nextAction | invokeHandler | sleep | startHeartbeat | stopHeartbeat =>
    have untouched := Op.quiet.untouched (by rfl) performed
    exact ⟨untouched.consistent valid, fun q _ => untouched.rely q⟩

end ReliabilityLab
