import ReliabilityLab.Runtime.ScriptedRuns

namespace ReliabilityLab
variable {dep : Deployment} {scenario : Scenario} {id : Uuid} {p : Pid} {marks : List TraceMark} {ending : Ending}
  {slate : Slate} {s : Site}

/-- The run rests as it was handed over. -/
def RestsAt (dep : Deployment) (p : Pid) (id : Uuid) (scenario : Scenario) (marks : List TraceMark) (ending : Ending)
    (least : Nat) (run : Run) (t : Site) : Prop :=
  ∃ halted, Live dep p id .free halted t ∧ run = halted.run ∧ Halted dep scenario id marks ending least halted

/-- The lease is taken for an execution and given back after it. -/
theorem plays_executeOwned (incident : dep.Incident) {policyName : String} {least : Nat} (live : Live dep p id .free slate s)
    (same : slate.run.id = id)
    (executed : ∀ owner t, Live dep p id (.owned owner) slate t → Plays dep p id
      (dep.execute slate.run scenario policyName owner) (HaltsAt dep p id scenario marks ending least owner) t) :
    Plays dep p id (dep.executeOwned slate.run scenario policyName) (RestsAt dep p id scenario marks ending least) s := by
  subst same
  unfold Deployment.executeOwned
  simp only [Program.bind_eq]
  refine Program.obeys_bind.mpr (recovers_uuid4 (fun _ _ => trivial) live fun owner t drawn => ?_)
  refine Program.obeys_bind.mpr (recovers_claimRunExecution (fun _ _ => trivial) drawn incident.lease fun t claimed => ?_)
  refine Program.obeys_bind.mpr (recovers_startHeartbeat (fun _ _ => trivial) claimed fun t beating => ?_)
  refine Program.obeys_bind.mpr (Program.obeys_attempt.mpr ?_)
  refine (executed owner t beating).mono (fun run u stopped => ?_) fun _ _ raised => raised.elim
  obtain ⟨halted, here, rfl, halt⟩ := stopped
  refine Program.obeys_bind.mpr (recovers_stopHeartbeat (fun _ _ => trivial) here fun v leaving => ?_)
  refine Program.obeys_bind.mpr (Program.obeys_attempt.mpr ?_)
  refine recovers_releaseRunExecution (fun _ _ => trivial) leaving fun w free => ?_
  exact ⟨halted, free, rfl, halt⟩

/-- Nothing is there yet of the run that will be called `id`; its trace will be the next identifier. -/
structure Vacant (dep : Deployment) (id : Uuid) (drawn : Nat) (s : Site) : Prop where
  next : s.system.store.nextUuid = id + drawn
  run : s.system.store.runs id = none
  claims : s.system.store.toolResults id = fun _ => none
  approvals : s.system.store.approvals id = fun _ => none
  lease : s.system.store.leases id = none
  trace : s.system.store.traceContents (id + 1) = []
  backend : s.backend = .fresh
  inside : dep.Inside s.system.clock
  silent : ∀ q, s.system.heartbeats q = none

theorem Vacant.drift {drawn : Nat} {t : Site} (vacant : Vacant dep id drawn s) (moved : Drift dep id s t) :
    Vacant dep id drawn t := by
  obtain ⟨beats, -, silent⟩ := moved.frame
  have store := silent vacant.silent
  constructor
  · rw [store]; exact vacant.next
  · rw [store]; exact vacant.run
  · rw [store]; exact vacant.claims
  · rw [store]; exact vacant.approvals
  · rw [store]; exact vacant.lease
  · rw [store]; exact vacant.trace
  · rw [moved.backend]; exact vacant.backend
  · exact moved.inside vacant.inside
  · rw [beats]; exact vacant.silent

theorem plays_draw {Q : Uuid → Site → Prop} {drawn : Nat} (vacant : Vacant dep id drawn s)
    (done : ∀ t, Vacant dep id (drawn + 1) t → Q (id + drawn) t) : Plays dep p id uuid4 Q s := by
  refine Solo.obeys_perform.mpr fun t moved => ⟨trivial, ?_⟩
  have here := vacant.drift moved
  have answer : (t.act dep p .uuid4).1 = id + drawn := here.next
  have after : Vacant dep id (drawn + 1) (t.act dep p .uuid4).2 :=
    ⟨congrArg (· + 1) here.next, here.run, here.claims, here.approvals, here.lease, here.trace, here.backend, here.inside,
      here.silent⟩
  exact answer ▸ done _ after

/-- The rows of a new run. -/
def Slate.created (run : Run) : Slate := ⟨run, fun _ => none, fun _ => none, [], .fresh⟩

theorem plays_saveRun {Q : Run → Site → Prop} {run : Run} {drawn : Nat} (vacant : Vacant dep id drawn s)
    (same : run.id = id) (trace : run.traceId = id + 1) (dumpable : run.dumpable = true)
    (done : ∀ t, Live dep p id .free (.created { run with version := 1 }) t → Q { run with version := 1 } t) :
    Plays dep p id (saveRun run) Q s := by
  refine Solo.obeys_perform.mpr fun t moved => ⟨trivial, ?_⟩
  have here := vacant.drift moved
  have written : Run.dumpable { run with version := 1 } = true := dumpable
  have absent : t.system.store.runs run.id = none := by rw [same]; exact here.run
  have stored : Store.saveRun run t.system.store =
      .ok ({ run with version := 1 }, t.system.store.setRun run.id ⟨run.traceId, 1, { run with version := 1 }⟩) := by
    simp [Store.saveRun, absent, written]
  have acted : t.act dep p (.saveRun run) = (.ok { run with version := 1 },
      t.stored (t.system.store.setRun run.id ⟨run.traceId, 1, { run with version := 1 }⟩)) := by
    simp [Site.act, Responder.act, SystemState.commit, settle, stored, IncidentBackend.after, Site.stored]
  have live : Live dep p id .free (.created { run with version := 1 })
      (t.stored (t.system.store.setRun run.id ⟨run.traceId, 1, { run with version := 1 }⟩)) := by
    refine ⟨⟨?_, here.claims, here.approvals, ?_, here.backend, here.inside, fun q _ => here.silent q⟩,
      here.silent p, fun lease named => ?_⟩
    · rw [← same]
      exact Store.setRun_runs_self ..
    · show List.filterMap EventContent.mark (t.system.store.traceContents run.traceId) = []
      rw [trace, here.trace]
      rfl
    · cases here.lease.symm.trans named
  have after := done _ live
  show Program.Obeys _ ((Program.ret (t.act dep p (.saveRun run)).1).bind Program.ofExcept) _ _
    (t.act dep p (.saveRun run)).2
  rw [acted]
  exact after

/-- The run that `start` creates, as it is stored. -/
def startedRun (id : Uuid) (mode : Mode) (scenario : Scenario) : Run :=
  { Run.new id (id + 1) scenario.id mode with context := scenario.initialContext, policyName := "scripted", version := 1 }

/-- A scenario started. -/
theorem plays_start (incident : dep.Incident) (playable : scenario.Playable dep) {mode : Mode}
    (loaded : dep.loadScenario scenario.id = .ok scenario) (vacant : Vacant dep id 0 s) :
    Plays dep p id (dep.start scenario.id mode "scripted") (RestsAt dep p id scenario
      (dep.scriptedCourse mode (scenarioFaultPlan scenario) 0 scenario.actions).1
      (dep.scriptedCourse mode (scenarioFaultPlan scenario) 0 scenario.actions).2 0) s := by
  have admitted : dep.policy "scripted" = .ret () := if_pos incident.policies
  have dumpable : (startedRun id mode scenario).dumpable = true := by
    simp only [startedRun, Run.new, Run.dumpable, playable.context, Bool.and_self]
  unfold Deployment.start
  simp only [loaded, admitted, Program.bind_eq, Program.ofExcept_ok, Program.ret_bind]
  refine Program.obeys_bind.mpr (plays_draw vacant fun t first => ?_)
  refine Program.obeys_bind.mpr (plays_draw first fun t second => ?_)
  refine Program.obeys_bind.mpr (plays_saveRun second rfl rfl dumpable fun t live => ?_)
  refine plays_executeOwned incident live rfl fun owner t owned => ?_
  have within : 0 < scenario.actions.length := List.length_pos_iff.mpr playable.started
  have course : OnCourse dep scenario id (dep.scriptedCourse mode (scenarioFaultPlan scenario) 0 scenario.actions).1
      (dep.scriptedCourse mode (scenarioFaultPlan scenario) 0 scenario.actions).2
      (.created (startedRun id mode scenario)) :=
    ⟨rfl, ⟨dumpable, playable.printableStep within⟩, rfl, rfl, within, fun _ _ => rfl, fun _ _ _ _ => ⟨rfl, rfl⟩, rfl, rfl⟩
  exact plays_execute_queued incident playable _ owned course rfl rfl le_rfl rfl

/-- Another process takes over. -/
def Site.restarted (s : Site) : Site := { s with backend := .fresh }

theorem Live.restarted (live : Live dep p id .free slate s) : Live dep p id .free (slate.handled .fresh) s.restarted :=
  ⟨⟨live.stands.row, live.stands.claims, live.stands.approvals, live.stands.marks, rfl, live.stands.inside,
    live.stands.beats⟩, live.tenure⟩

theorem OnCourse.restarted (course : OnCourse dep scenario id marks ending slate) :
    OnCourse dep scenario id marks ending (slate.handled .fresh) :=
  ⟨course.same, course.written, course.scenarioId, course.policy, course.within, course.undecided,
    fun action listed key keyed => ⟨(course.unused action listed key keyed).1, rfl⟩, course.course, course.ending⟩

/-- The decision on the action at the run's step keeps the run on its course. -/
theorem OnCourse.decided (course : OnCourse dep scenario id marks ending slate) (row : ApprovalRow) :
    OnCourse dep scenario id marks ending (slate.decided slate.run.currentStep row) :=
  ⟨course.same, course.written, course.scenarioId, course.policy, course.within,
    fun step later => (Function.update_of_ne (Nat.ne_of_gt later) _ _).trans (course.undecided step later), course.unused,
    course.course, course.ending⟩

theorem plays_required {Q : Run → Site → Prop} {tenure : Tenure} (live : Live dep p id tenure slate s)
    (done : ∀ t, Live dep p id tenure slate t → Q slate.run t) : Plays dep p id (required id) Q s := by
  unfold required
  simp only [Program.bind_eq]
  exact Program.obeys_bind.mpr (recovers_getRun (fun _ _ => trivial) live done)

/-- The request that allows the action that the run waits with. -/
def approvalOf (run : Run) (fingerprint actor : String) (reason : Option String) : ApprovalRequest where
  runId := run.id
  actor := actor
  allow := true
  expectedActionStep := run.currentStep
  expectedActionFingerprint := fingerprint
  reason := reason

/-- A paused run whose action is approved goes on. -/
theorem plays_approve (incident : dep.Incident) (playable : scenario.Playable dep) {action : CallToolAction}
    (actor : String) (reason : Option String) (polls : Nat) (loaded : dep.loadScenario scenario.id = .ok scenario)
    (live : Live dep p id .free slate s) (course : OnCourse dep scenario id marks ending slate)
    (waiting : slate.run.status = .waitingApproval) (pending : slate.run.pendingApproval = true)
    (set : slate.run.pendingAction = some action)
    (named : slate.run.pendingActionFingerprint = some (dep.actionFingerprint action))
    (there : scenario.actions[slate.run.currentStep]? = some (.callTool action))
    (budget : slate.run.policyCallsStarted ≤ slate.run.currentStep + 1)
    (undecided : slate.approvals slate.run.currentStep = none) :
    Plays dep p id (dep.approve (approvalOf slate.run (dep.actionFingerprint action) actor reason) polls)
      (RestsAt dep p id scenario marks ending (slate.run.currentStep + 1)) s := by
  have same := course.same
  subst same
  have canonical : Store.canonicalFingerprint (dep.actionFingerprint action) = true := incident.digests _
  have open' : RunStatus.waitingApproval.terminal = false := rfl
  have admitted : dep.policy "scripted" = .ret () := if_pos incident.policies
  unfold Deployment.approve approvalOf
  simp only [Program.bind_eq]
  refine Program.obeys_bind.mpr (plays_required live fun t here => ?_)
  refine Program.obeys_bind.mpr (Program.obeys_attempt.mpr ?_)
  refine recovers_recordPendingApproval (fun _ _ => trivial) here canonical undecided waiting pending rfl named
    fun t recorded => ?_
  refine Program.obeys_bind.mpr (plays_required recorded fun t again => ?_)
  simp only [Slate.decided, open', named, waiting, Bool.false_eq_true, if_false, ne_eq, not_true_eq_false, or_self,
    false_and, Deployment.applyDecision, course.scenarioId, course.policy, loaded, admitted, Program.ofExcept_ok,
    Program.ret_bind, Program.bind_eq]
  have allowed := course.decided ⟨dep.actionFingerprint action, actor, true, reason⟩
  have approved : dep.Approved (slate.decided slate.run.currentStep
      ⟨dep.actionFingerprint action, actor, true, reason⟩) action :=
    fun _ => ⟨_, Function.update_self .., rfl, rfl⟩
  have owned : ∀ owner u, Live dep p slate.run.id (.owned owner) (slate.decided slate.run.currentStep
      ⟨dep.actionFingerprint action, actor, true, reason⟩) u → Plays dep p slate.run.id
        (dep.execute slate.run scenario "scripted" owner)
        (HaltsAt dep p slate.run.id scenario marks ending (slate.run.currentStep + 1) owner) u := by
    intro owner u held
    have executed := plays_execute_approved incident playable "scripted" held allowed waiting set budget there approved
    exact executed
  have executed := plays_executeOwned incident again rfl owned
  exact Program.obeys_bind.mpr (Program.obeys_attempt.mpr (executed.mono (fun _ _ rests => rests)
    fun _ _ raised => raised.elim))

/-- A scenario that is executed by itself: it is started, and wherever it waits another process approves the
action that it waits with. -/
inductive Enacted (dep : Deployment) (p : Pid) (scenario : Scenario) (mode : Mode) (s : Site) : Run → Site → Prop
  | started {run : Run} {t : Site} :
      (dep.alone p s.system.store.nextUuid).Played (dep.start scenario.id mode "scripted") s (some (.ok run)) t →
      Enacted dep p scenario mode s run t
  | approved {run next : Run} {t u : Site} (fingerprint actor : String) (reason : Option String) (polls : Nat) :
      Enacted dep p scenario mode s run t → run.status = .waitingApproval →
      run.pendingActionFingerprint = some fingerprint →
      (dep.alone p s.system.store.nextUuid).Played (dep.approve (approvalOf run fingerprint actor reason) polls) t.restarted
        (some (.ok next)) u →
      Enacted dep p scenario mode s next u

section Executions
variable {mode : Mode} {run : Run} {t : Site}

/-- What the script of a scenario comes to. -/
abbrev Deployment.course (dep : Deployment) (scenario : Scenario) (mode : Mode) : List TraceMark × Ending :=
  dep.scriptedCourse mode (scenarioFaultPlan scenario) 0 scenario.actions

theorem Halted.waits {least : Nat} (halted : Halted dep scenario id marks ending least slate) :
    slate.run.status = .waitingApproval ∨ slate.marks = marks ∧ ending.Of slate.run := by
  cases halted with
  | ended _ all finished => exact .inr ⟨all, finished⟩
  | paused _ _ _ waiting => exact .inl waiting

theorem Ending.finished {run : Run} (finished : ending.Of run) : run.status ≠ .waitingApproval := by
  cases ending with
  | succeeded => rw [finished.1]; decide
  | failed => rw [finished.1]; decide

theorem played_start_rests (incident : dep.Incident) (playable : scenario.Playable dep)
    (loaded : dep.loadScenario scenario.id = .ok scenario) (vacant : Vacant dep s.system.store.nextUuid 0 s)
    {outcome : Except Exn Run} (played : (dep.alone p s.system.store.nextUuid).Played
      (dep.start scenario.id mode "scripted") s (some outcome) t) : ∃ run, outcome = .ok run ∧
        RestsAt dep p s.system.store.nextUuid scenario (dep.course scenario mode).1 (dep.course scenario mode).2 0 run t := by
  obtain ⟨-, returns, raises⟩ := played.leaves (plays_start incident playable loaded vacant)
  cases outcome with
  | ok run => exact ⟨run, rfl, returns run rfl⟩
  | error error => exact (raises error rfl).elim

theorem played_approve_rests (incident : dep.Incident) (playable : scenario.Playable dep)
    (loaded : dep.loadScenario scenario.id = .ok scenario) {least : Nat} {fingerprint actor : String}
    {reason : Option String} {polls : Nat} {u : Site} (rests : RestsAt dep p id scenario marks ending least run t)
    (waiting : run.status = .waitingApproval) (named : run.pendingActionFingerprint = some fingerprint)
    {outcome : Except Exn Run} (played : (dep.alone p id).Played (dep.approve (approvalOf run fingerprint actor reason) polls)
      t.restarted (some outcome) u) : ∃ next, outcome = .ok next ∧ run.currentStep < scenario.actions.length ∧
        least ≤ run.currentStep ∧ RestsAt dep p id scenario marks ending (run.currentStep + 1) next u := by
  obtain ⟨slate, live, rfl, halted⟩ := rests
  cases halted with
  | ended _ _ finished => exact absurd waiting (Ending.finished finished)
  | paused action later course status pending set fingerprinted there budget undecided =>
    cases fingerprinted.symm.trans named
    have plays := plays_approve incident playable actor reason polls loaded live.restarted course.restarted status pending
      set fingerprinted there budget undecided
    obtain ⟨-, returns, raises⟩ := played.leaves plays
    cases outcome with
    | ok next => exact ⟨next, rfl, course.within, later, returns next rfl⟩
    | error error => exact (raises error rfl).elim

/-- An execution rests at its end, or before an action that waits for its approval. -/
theorem Enacted.rests (incident : dep.Incident) (playable : scenario.Playable dep)
    (loaded : dep.loadScenario scenario.id = .ok scenario) (vacant : Vacant dep s.system.store.nextUuid 0 s)
    (enacted : Enacted dep p scenario mode s run t) : ∃ least, RestsAt dep p s.system.store.nextUuid scenario
      (dep.course scenario mode).1 (dep.course scenario mode).2 least run t := by
  induction enacted with
  | started played =>
    obtain ⟨_, same, rests⟩ := played_start_rests incident playable loaded vacant played
    cases same
    exact ⟨0, rests⟩
  | approved fingerprint actor reason polls _ waiting named played ih =>
    obtain ⟨least, rests⟩ := ih
    obtain ⟨_, same, -, -, after⟩ := played_approve_rests incident playable loaded rests waiting named played
    cases same
    exact ⟨_, after⟩

/-- An execution that does not wait any more has left what its script says, and ended as it says. -/
theorem Enacted.ends (incident : dep.Incident) (playable : scenario.Playable dep)
    (loaded : dep.loadScenario scenario.id = .ok scenario) (vacant : Vacant dep s.system.store.nextUuid 0 s)
    (enacted : Enacted dep p scenario mode s run t) (finished : run.status ≠ .waitingApproval) :
    (t.system.store.traceContents run.traceId).filterMap EventContent.mark = (dep.course scenario mode).1 ∧
      (dep.course scenario mode).2.Of run := by
  obtain ⟨least, slate, live, rfl, halted⟩ := enacted.rests incident playable loaded vacant
  obtain ⟨all, ended⟩ := halted.waits.resolve_left finished
  exact ⟨live.stands.marks.trans all, ended⟩

/-- An execution that rests somewhere can be brought to its end: every approval leads to a later step. -/
theorem Enacted.finish (incident : dep.Incident) (playable : scenario.Playable dep)
    (loaded : dep.loadScenario scenario.id = .ok scenario) (steps : Nat) {least : Nat}
    (enacted : Enacted dep p scenario mode s run t) (rests : RestsAt dep p s.system.store.nextUuid scenario marks ending
      least run t) (left : scenario.actions.length ≤ least + steps) :
    ∃ final u, Enacted dep p scenario mode s final u ∧ final.status ≠ .waitingApproval := by
  induction steps generalizing run t least with
  | zero =>
    by_cases waiting : run.status = .waitingApproval
    · obtain ⟨slate, live, rfl, halted⟩ := rests
      cases halted with
      | ended _ _ finished => exact absurd waiting (Ending.finished finished)
      | paused _ later course =>
        have within := course.within
        omega
    · exact ⟨run, t, enacted, waiting⟩
  | succ steps ih =>
    by_cases waiting : run.status = .waitingApproval
    · obtain ⟨fingerprint, named⟩ : ∃ fingerprint, run.pendingActionFingerprint = some fingerprint := by
        obtain ⟨slate, live, rfl, halted⟩ := rests
        cases halted with
        | ended _ _ finished => exact absurd waiting (Ending.finished finished)
        | paused _ _ _ _ _ _ fingerprinted => exact ⟨_, fingerprinted⟩
      obtain ⟨outcome, u, played⟩ := Solo.played_total (S := dep.alone p s.system.store.nextUuid)
        (dep.approve (approvalOf run fingerprint "reviewer" none) 0) t.restarted
      obtain ⟨next, rfl, within, later, after⟩ :=
        played_approve_rests incident playable loaded rests waiting named played
      exact ih (.approved fingerprint "reviewer" none 0 enacted waiting named played) after (by omega)
    · exact ⟨run, t, enacted, waiting⟩

/-- There is an execution to the end. -/
theorem Enacted.total (incident : dep.Incident) (playable : scenario.Playable dep)
    (loaded : dep.loadScenario scenario.id = .ok scenario) (vacant : Vacant dep s.system.store.nextUuid 0 s) (mode : Mode) :
    ∃ run t, Enacted dep p scenario mode s run t ∧ run.status ≠ .waitingApproval := by
  obtain ⟨outcome, t, played⟩ := Solo.played_total (S := dep.alone p s.system.store.nextUuid)
    (dep.start scenario.id mode "scripted") s
  obtain ⟨run, rfl, rests⟩ := played_start_rests incident playable loaded vacant played
  exact Enacted.finish incident playable loaded scenario.actions.length (.started played) rests (by omega)

end Executions

end ReliabilityLab
