import ReliabilityLab.Runtime.Conduct

namespace ReliabilityLab

variable {dep : Deployment} {allowed : Allowed} {p : Pid} {s : SystemState}

/-- Every exception and every return is acceptable. -/
abbrev Ends (dep : Deployment) (allowed : Allowed) (p : Pid) (program : Prog Run) (s : SystemState) : Prop :=
  program.Obeys (discipline dep allowed p) (fun _ _ => True) (fun _ _ => True) s

/-- A lease is claimed for a token of the party; the run it answers is held from then on. -/
theorem claimRunExecution_obeys {id owner : Uuid} {Q : Run → SystemState → Prop} {E : Exn → SystemState → Prop}
    (drawn : s.drawn owner = some p)
    (returns : ∀ run t u, Rely p s t → u.store.approvals = t.store.approvals → u.drawn owner = some p →
      run.id = id → Holds p run u → Q run u)
    (raises : ∀ error u, Rely p s u → E error u) :
    (claimRunExecution id owner).Obeys (discipline dep allowed p) Q E s := by
  intro t others valid
  refine ⟨others.drawn _ _ drawn, ?_⟩
  rintro answer u ⟨now, ⟨after, settled, rfl⟩, -⟩ _
  cases answer with
  | error error =>
    cases settled.error
    exact raises error t others
  | ok run =>
    obtain ⟨row, expires, -, stored, rfl, rfl, -⟩ := Store.claimRunExecution_ok settled.ok
    obtain ⟨sameId, version, -⟩ := valid.rows id row stored
    refine returns row.payload t _ others rfl (others.drawn _ _ drawn) sameId ⟨⟨row, ?_, version.le, rfl, fun _ => rfl⟩,
      fun _ => ⟨row, ?_, rfl⟩⟩ <;> simpa [sameId] using stored

theorem releaseRunExecution_obeys {id owner : Uuid} {Q : Run → SystemState → Prop} {E : Exn → SystemState → Prop}
    (returns : ∀ run u, Q run u) (raises : ∀ error u, E error u) :
    (releaseRunExecution id owner).Obeys (discipline dep allowed p) Q E s := by
  intro t _ _
  refine ⟨trivial, ?_⟩
  rintro answer u ⟨now, ⟨after, settled, rfl⟩, -⟩ _
  cases answer with
  | error error => exact raises error _
  | ok run => exact returns run _

theorem required_obeys {id : Uuid} {Q : Run → SystemState → Prop} {E : Exn → SystemState → Prop}
    (returns : ∀ run u, Rely p s u → run.id = id → Snapshot run u → Q run u)
    (raises : ∀ error u, Rely p s u → E error u) :
    (required id).Obeys (discipline dep allowed p) Q E s := by
  refine Program.obeys_bind.mpr fun t others valid => ⟨trivial, ?_⟩
  rintro answer u ⟨now, ⟨after, settled, rfl⟩, -⟩ _
  cases answer with
  | error error =>
    cases settled.error
    exact raises error t others
  | ok found =>
    cases settled.ok
    cases stored : t.store.runs id with
    | none => simpa [stored] using raises _ t others
    | some row =>
      obtain ⟨sameId, version, -⟩ := valid.rows id row stored
      have read : Q row.payload t := returns row.payload t others sameId
        ⟨row, by rw [sameId]; exact stored, version.le, rfl, fun _ => rfl⟩
      simpa [stored] using read

theorem rejected_obeys {run : Run} {eventType : EventType} {reason : String} (seen : Snapshot run s)
    (rejection : eventType.rejection = true) {Q : Unit → SystemState → Prop} {E : Exn → SystemState → Prop}
    (returns : ∀ u, Rely p s u → Q () u) (raises : ∀ error u, Rely p s u → E error u) :
    (dep.rejected run eventType reason).Obeys (discipline dep allowed p) Q E s :=
  obeys_quiet_except rfl (fun _ others => .inl ⟨rejection, (seen.rely others).used⟩) (fun _ _ _ u _ _ _ _ since _ => returns u since)
    fun _ _ _ u error _ _ since _ => raises error u since

theorem afterRelease_obeys {outcome released : Except Exn Run} {heartbeatError : Option Exn}
    {Q : Run → SystemState → Prop} {E : Exn → SystemState → Prop} (returns : ∀ run, Q run s)
    (raises : ∀ error, E error s) :
    (afterRelease outcome heartbeatError released).Obeys (discipline dep allowed p) Q E s := by
  rcases outcome with error | _
  · exact raises error
  · rcases heartbeatError with _ | error
    · rcases released with error | run
      · exact raises error
      · exact returns run
    · exact raises error

/-- An execution under its own lease obeys the discipline, whatever was read before it. -/
theorem executeOwned_obeys {run : Run} {scenario : Scenario} {policyName : String}
    {Q : Run → SystemState → Prop} {E : Exn → SystemState → Prop} {scenarioId : String}
    (loaded : dep.loadScenario scenarioId = .ok scenario) (returns : ∀ run u, Q run u)
    (raises : ∀ error u, E error u) :
    (dep.executeOwned run scenario policyName).Obeys (discipline dep allowed p) Q E s := by
  refine obeys_draw fun owner u since drawn _ _ _ => ?_
  refine Program.obeys_bind.mpr (claimRunExecution_obeys drawn (fun claimed _ v _ _ named _ holds => ?_)
    fun error v _ => raises error v)
  refine obeys_quiet rfl (fun _ _ => ?_) fun _ _ _ w _ _ _ later => ?_
  · trivial
  have finished : ∀ (outcome : Except Exn Run) x,
      (Program.bind (Program.ask Op.stopHeartbeat) fun heartbeatError =>
        (releaseRunExecution run.id owner).attempt.bind fun released =>
          afterRelease outcome heartbeatError released).Obeys (discipline dep allowed p) Q E x := by
    intro outcome x
    refine obeys_quiet rfl (fun _ _ => ?_) fun _ _ heartbeatError y _ _ _ _ => ?_
    · trivial
    rw [Program.ret_bind]
    exact Program.obeys_bind.mpr (Program.obeys_attempt.mpr (releaseRunExecution_obeys
      (fun _ z => afterRelease_obeys (fun run => returns run z) fun error => raises error z)
      fun _ z => afterRelease_obeys (fun run => returns run z) fun error => raises error z))
  rw [Program.ret_bind]
  exact Program.obeys_bind.mpr (Program.obeys_attempt.mpr (execute_obeys loaded (later.drawn _ _ named) (holds.rely later)
    (fun stopped x _ => finished (.ok stopped) x) fun error x _ => finished (.error error) x))

theorem start_obeys {scenarioId : String} {mode : Mode} {policyName : String} :
    Ends dep allowed p (dep.start scenarioId mode policyName) s := by
  unfold Deployment.start
  cases loaded : dep.loadScenario scenarioId with
  | error error => trivial
  | ok scenario =>
    simp only [Program.ofExcept_ok, Program.bind_eq, Program.ret_bind, Deployment.policy]
    split
    · refine obeys_draw fun id u _ drawnId unsaved _ _ => obeys_draw fun traceId v later drawnTrace _ unused _ => ?_
      refine Program.obeys_bind.mpr fun t others valid => ⟨?_, ?_⟩
      · exact ⟨⟨id, traceId, scenarioId, mode, _, policyName, rfl⟩, others.drawn _ _ (later.drawn _ _ drawnId),
          others.drawn _ _ drawnTrace, (others.fresh id (later.drawn _ _ drawnId)).2
            ((later.fresh id drawnId).2 unsaved), fun used => unused ((others.fresh traceId drawnTrace).1 used)⟩
      · rintro answer w - -
        cases answer with
        | error error => trivial
        | ok canonical => exact executeOwned_obeys loaded (fun _ _ => trivial) fun _ _ => trivial
    · trivial

theorem resume_obeys {id : Uuid} : Ends dep allowed p (dep.resume id) s := by
  refine Program.obeys_bind.mpr (required_obeys (fun run u _ _ seen => ?_) fun _ _ _ => trivial)
  split
  · exact Program.obeys_bind.mpr (rejected_obeys seen rfl (fun _ _ => trivial) fun _ _ _ => trivial)
  · cases loaded : dep.loadScenario run.scenarioId with
    | error error => trivial
    | ok scenario =>
      have conflict : ∀ error v, Ends dep allowed p (dep.resumed id (.error error)) v := by
        intro error v
        cases error with
        | runExecutionConflict =>
          exact Program.obeys_bind.mpr (required_obeys (fun current w _ _ seen => Program.obeys_bind.mpr
            (rejected_obeys seen rfl (fun _ _ => trivial) fun _ _ _ => trivial)) fun _ _ _ => trivial)
        | _ => trivial
      simp only [Program.ofExcept_ok, Program.bind_eq, Program.ret_bind]
      refine Program.obeys_bind.mpr (Program.obeys_attempt.mpr ?_)
      simp only [Deployment.policy]
      split
      · exact executeOwned_obeys loaded (fun _ _ => trivial) conflict
      · trivial

theorem awaitApprovalCompletion_obeys {id : Uuid} {step polls : Nat} :
    Ends dep allowed p (awaitApprovalCompletion id step polls) s := by
  induction polls generalizing s with
  | zero => trivial
  | succ polls ih =>
    refine Program.obeys_bind.mpr (required_obeys (fun current u _ _ _ => ?_) fun _ _ _ => trivial)
    split
    · trivial
    · split
      · trivial
      · refine Program.obeys_bind.mpr (obeys_quiet_except rfl (fun _ _ => ?_) (fun _ _ _ _ _ _ _ _ _ _ => ih)
          fun _ _ _ _ _ _ _ _ _ => trivial)
        trivial

theorem deny_obeys {run : Run} {actor fingerprint : String} {reason : Option String}
    {Q : Run → SystemState → Prop} {E : Exn → SystemState → Prop}
    (pending : run.pendingActionFingerprint = some fingerprint)
    (decided : s.store.approvals run.id run.currentStep = some ⟨fingerprint, actor, false, reason⟩)
    (returns : ∀ run u, Q run u) (raises : ∀ error u, E error u) :
    (dep.deny run actor reason).Obeys (discipline dep allowed p) Q E s := by
  unfold Deployment.deny
  rw [pending]
  refine obeys_draw fun owner u since drawn _ _ _ => ?_
  refine Program.obeys_bind.mpr (claimRunExecution_obeys drawn (fun owned t v others same named sameId holds => ?_)
    fun error v _ => raises error v)
  have recorded : v.store.approvals owned.id run.currentStep = some ⟨fingerprint, actor, false, reason⟩ := by
    rw [same, sameId]
    exact (since.trans others).approvals _ _ _ decided
  have finished : ∀ (outcome : Except Exn Run) w,
      ((releaseRunExecution run.id owner).attempt.bind fun released =>
        afterRelease outcome none released).Obeys (discipline dep allowed p) Q E w := fun _ _ =>
    Program.obeys_bind.mpr (Program.obeys_attempt.mpr (releaseRunExecution_obeys
      (fun _ z => afterRelease_obeys (fun run => returns run z) fun error => raises error z)
      fun _ z => afterRelease_obeys (fun run => returns run z) fun error => raises error z))
  refine Program.obeys_bind.mpr (Program.obeys_attempt.mpr ?_)
  unfold Deployment.denyOwned
  split
  · exact finished (.error _) v
  · rename_i waiting
    have status : owned.status = .waitingApproval := by simpa using waiting
    simp only [transition_ok_of (show RunStatus.failed ∈ allowedTransitions owned.status by rw [status]; decide),
      Program.ofExcept_ok, Program.bind_eq, Program.ret_bind]
    exact saveEvents_obeys named holds
      (fun w later => .deny actor reason run.currentStep fingerprint status (later.approvals _ _ _ recorded))
      (fun w _ _ => finished (.ok (owned.deniedWith reason)) w) fun error w _ => finished (.error error) w

theorem recordPendingApproval_obeys {id : Uuid} {step : Nat} {row : ApprovalRow}
    {Q : ApprovalRow → SystemState → Prop} {E : Exn → SystemState → Prop}
    (returns : ∀ u, u.store.approvals id step = some row → Q row u) (raises : ∀ error u, Rely p s u → E error u) :
    (recordPendingApproval id step row).Obeys (discipline dep allowed p) Q E s := by
  intro t others _
  refine ⟨trivial, ?_⟩
  rintro answer u ⟨now, ⟨after, settled, rfl⟩, -⟩ _
  cases answer with
  | error error =>
    cases settled.error
    exact raises error t others
  | ok decision =>
    obtain ⟨rfl, ⟨present, rfl⟩ | ⟨-, found, -, -, rfl⟩⟩ := Store.recordPendingApproval_ok settled.ok
    · exact returns _ present
    · exact returns _ (by simp)

theorem approve_obeys {request : ApprovalRequest} {polls : Nat} :
    Ends dep allowed p (dep.approve request polls) s := by
  refine Program.obeys_bind.mpr (required_obeys (fun run u _ _ seen => ?_) fun _ _ _ => trivial)
  refine Program.obeys_bind.mpr (Program.obeys_attempt.mpr (recordPendingApproval_obeys (fun v decided => ?_)
    fun error v since => ?_))
  case refine_2 =>
    dsimp only
    split
    · exact Program.obeys_bind.mpr (rejected_obeys (seen.rely since) rfl (fun _ _ => trivial) fun _ _ _ => trivial)
    · trivial
  case refine_1 =>
    refine Program.obeys_bind.mpr (required_obeys (fun run w since sameId seen => ?_) fun _ _ _ => trivial)
    have kept := since.approvals _ _ _ decided
    split
    · trivial
    · split
      · split
        · exact awaitApprovalCompletion_obeys
        · exact Program.obeys_bind.mpr (rejected_obeys seen rfl (fun _ _ => trivial) fun _ _ _ => trivial)
      · rename_i target
        push Not at target
        split
        · exact Program.obeys_bind.mpr (rejected_obeys seen rfl (fun _ _ => trivial) fun _ _ _ => trivial)
        · have converge : ∀ error x, (if error = Exn.concurrentUpdate ∨ error = Exn.runExecutionConflict then
              awaitApprovalCompletion request.runId request.expectedActionStep polls
              else Program.raise error : Prog Run).Obeys (discipline dep allowed p)
                (fun _ _ => True) (fun _ _ => True) x := by
            intro error x
            split
            · exact awaitApprovalCompletion_obeys
            · trivial
          refine Program.obeys_bind.mpr (Program.obeys_attempt.mpr ?_)
          unfold Deployment.applyDecision
          split
          · rename_i denial
            have denied : request.allow = false := by simpa using denial
            rw [denied, ← target.1, ← sameId] at kept
            exact deny_obeys target.2 kept (fun _ _ => trivial) converge
          · cases loaded : dep.loadScenario run.scenarioId with
            | error error => exact converge error w
            | ok scenario =>
              simp only [Program.ofExcept_ok, Program.bind_eq, Program.ret_bind, Deployment.policy]
              split
              · exact executeOwned_obeys loaded (fun _ _ => trivial) converge
              · exact converge _ w

/-- All requests of a deployment keep to the discipline of the party that serves them. -/
theorem system_disciplined (dep : Deployment) (allowed : Allowed) :
    (dep.system.restrict allowed).Disciplined (discipline dep allowed) Consistent where
  same _ := rfl
  init := by
    rintro s ⟨store, drawn, -⟩
    constructor <;> rw [store]
    · intro id row stored; cases stored
    · intro id id' row row' stored; cases stored
    · intro id lease named; cases named
    · intro u known; exact absurd (drawn u) known
  start := by
    rintro p program s ⟨request, rfl⟩ -
    cases request with
    | start => exact start_obeys
    | resume => exact resume_obeys
    | approve => exact approve_obeys
  own p op now s answer t valid owed performed :=
    ⟨(guarantee valid owed performed.1).1, now, performed⟩
  others p q op now s answer t other valid owed performed :=
    (guarantee valid owed performed.1).2 q (Ne.symm other)
  ambient := by
    rintro s t valid (⟨clock⟩ | ⟨-, commits⟩)
    · have untouched : Untouched s { s with clock := clock } := ⟨rfl, rfl, rfl, rfl, le_rfl⟩
      exact ⟨untouched.consistent valid, untouched.rely⟩
    · exact renew_guarantees valid commits
  crash p s valid :=
    have untouched : Untouched s (s.setHeartbeat p none) := ⟨rfl, rfl, rfl, rfl, le_rfl⟩
    ⟨untouched.consistent valid, untouched.rely⟩

end ReliabilityLab
