import ReliabilityLab.Runtime.Alone

namespace ReliabilityLab
variable {dep : Deployment} {id : Uuid} {p : Pid} {slate : Slate} {s t : Site} {tenure : Tenure}

section Operations
variable {J : Site → Prop} {α : Type} {Q : α → Site → Prop} {E : Exn → Site → Prop}

theorem recovers_op {op : Op} {read : op.Answer → Prog α} (safe : ∀ t, Stands dep p id slate t → J t)
    (live : Live dep p id tenure slate s)
    (after : ∀ t, Live dep p id tenure slate t →
      Recovers dep p id J (read (t.act dep p op).1) Q E (t.act dep p op).2) :
    Recovers dep p id J ((Program.ask op).bind read) Q E s :=
  Solo.obeys_perform.mpr fun t moved => ⟨safe t (moved.stands live.stands), after t (moved.live live)⟩

/-- An operation by itself. -/
theorem recovers_ask {op : Op} {Q : op.Answer → Site → Prop} (safe : ∀ t, Stands dep p id slate t → J t)
    (live : Live dep p id tenure slate s)
    (after : ∀ t, Live dep p id tenure slate t → Q (t.act dep p op).1 (t.act dep p op).2) :
    Recovers dep p id J (Program.ask op) Q E s := by
  have read : Recovers dep p id J ((Program.ask op).bind .ret) Q E s := recovers_op safe live after
  exact read

theorem recovers_uuid4 {Q : Uuid → Site → Prop} (safe : ∀ t, Stands dep p id slate t → J t)
    (live : Live dep p id tenure slate s) (after : ∀ token t, Live dep p id tenure slate t → Q token t) :
    Recovers dep p id J uuid4 Q E s :=
  recovers_ask safe live fun _ here => after _ _ (here.still rfl rfl rfl rfl rfl rfl rfl rfl)

theorem recovers_getRun {Q : Option Run → Site → Prop} (safe : ∀ t, Stands dep p id slate t → J t)
    (live : Live dep p id tenure slate s) (after : ∀ t, Live dep p id tenure slate t → Q (some slate.run) t) :
    Recovers dep p id J (getRun id) Q E s := by
  refine recovers_op safe live fun t here => ?_
  have read : Store.getRun id t.system.store = .ok (some slate.run, t.system.store) := by
    simp [Store.getRun, here.stands.row]
  have acted : (t.act dep p (.getRun id)).1 = .ok (some slate.run) := by
    simp [Site.act, Responder.act, SystemState.commit, settle, read]
  rw [acted]
  refine after _ (here.still ?_ ?_ ?_ ?_ ?_ rfl rfl rfl)
  all_goals simp [Site.act, Responder.act, SystemState.commit, settle, read]

theorem recovers_getApproval {Q : Option ApprovalRow → Site → Prop} {step : Nat}
    (safe : ∀ t, Stands dep p id slate t → J t) (live : Live dep p id tenure slate s)
    (after : ∀ t, Live dep p id tenure slate t → Q (slate.approvals step) t) :
    Recovers dep p id J (getApproval id step) Q E s := by
  refine recovers_op safe live fun t here => ?_
  have read : Store.getApproval id step t.system.store = .ok (slate.approvals step, t.system.store) := by
    simp [Store.getApproval, here.stands.approvals]
  have acted : (t.act dep p (.getApproval id step)).1 = .ok (slate.approvals step) := by
    simp [Site.act, Responder.act, SystemState.commit, settle, read]
  rw [acted]
  refine after _ (here.still ?_ ?_ ?_ ?_ ?_ rfl rfl rfl)
  all_goals simp [Site.act, Responder.act, SystemState.commit, settle, read]

theorem recovers_nextAction {Q : Except Exn AgentAction → Site → Prop} {name : String} {run : Run}
    {scenario : Scenario} (safe : ∀ t, Stands dep p id slate t → J t) (live : Live dep p id tenure slate s)
    (after : ∀ t, Live dep p id tenure slate t → Q (scriptedPolicy run scenario) t) :
    Recovers dep p id J (nextAction name run scenario).attempt Q E s := by
  refine Program.obeys_attempt.mpr (recovers_op safe live fun t here => ?_)
  have settled := after (t.act dep p (.nextAction name run scenario)).2 (here.still rfl rfl rfl rfl rfl rfl rfl rfl)
  have acted : (t.act dep p (.nextAction name run scenario)).1 = scriptedPolicy run scenario := rfl
  rw [acted]
  cases chosen : scriptedPolicy run scenario with
  | ok action => rw [chosen] at settled; exact settled
  | error error => rw [chosen] at settled; exact settled

theorem recovers_sleep {Q : Unit → Site → Prop} {seconds : ℚ} (safe : ∀ t, Stands dep p id slate t → J t)
    (live : Live dep p id tenure slate s) (after : ∀ t, Live dep p id tenure slate t → Q () t) :
    Recovers dep p id J (sleep seconds) Q E s := by
  refine recovers_op safe live fun t here => ?_
  exact after (t.act dep p (.sleep seconds)).2 (here.still rfl rfl rfl rfl rfl rfl rfl rfl)

/-- An event of the run, in the trail that its store keeps. -/
theorem recovers_appendEvent {Q : Unit → Site → Prop} {event : TraceEvent} (safe : ∀ t, Stands dep p id slate t → J t)
    (live : Live dep p id tenure slate s) (own : event.traceId = slate.run.traceId)
    (written : Store.dumpableEvent (Store.cleanEvent dep.store event) = true)
    (after : ∀ t, Live dep p id tenure (slate.marked (dep.stored event).mark.toList) t → Q () t) :
    Recovers dep p id J (appendEvent event) Q E s := by
  refine recovers_op safe live fun t here => ?_
  have done : Store.appendEvent dep.store event t.system.store =
      .ok ((), t.system.store.insertEvent (Store.cleanEvent dep.store event)) := by
    simp only [Store.appendEvent, written, if_true]
  have acted : t.act dep p (.appendEvent event) =
      (.ok (), t.stored (t.system.store.insertEvent (Store.cleanEvent dep.store event))) := by
    simp [Site.act, Responder.act, SystemState.commit, settle, done, IncidentBackend.after, Site.stored]
  rw [acted]
  refine after _ ⟨⟨here.stands.row, here.stands.claims, here.stands.approvals, ?_, here.stands.backend,
    here.stands.inside, here.stands.beats⟩, ?_⟩
  · have contents := Store.contents_insertEvent t.system.store (Store.cleanEvent dep.store event)
    have mine : ∀ content ∈ [(Store.cleanEvent dep.store event).content], content.traceId = slate.run.traceId := by
      intro content member
      rw [List.mem_singleton.mp member]
      exact own
    have marked := marks_append contents mine
    rw [here.stands.marks] at marked
    refine marked.trans ?_
    simp only [Slate.marked, Deployment.stored, List.filterMap_cons, List.filterMap_nil]
    cases (Store.cleanEvent dep.store event).content.mark <;> rfl
  · cases tenure <;> exact here.tenure

/-- An event that cannot be rendered is refused. -/
theorem recovers_appendEvent_refused {Q : Unit → Site → Prop} {event : TraceEvent}
    (safe : ∀ t, Stands dep p id slate t → J t) (live : Live dep p id tenure slate s)
    (unwritten : Store.dumpableEvent (Store.cleanEvent dep.store event) = false)
    (after : ∀ t, Live dep p id tenure slate t → E .valueError t) :
    Recovers dep p id J (appendEvent event) Q E s := by
  refine recovers_op safe live fun t here => ?_
  have refused : Store.appendEvent dep.store event t.system.store = .error .valueError := by
    simp [Store.appendEvent, unwritten]
  have acted : t.act dep p (.appendEvent event) = (.error .valueError, t) := by
    simp [Site.act, Responder.act, SystemState.commit, settle, refused, IncidentBackend.after]
  rw [acted]
  exact after _ here

/-- An owned save of the run as it was read meets its version and its lease. -/
theorem updateOwned_live {changed : Run} {owner : Uuid} (same : changed.id = id) (dumpable : changed.dumpable = true)
    (live : Live dep p id (.owned owner) slate s) :
    Store.updateOwned s.system.clock changed owner slate.run.version s.system.store =
      .ok (changed.bumped slate.run,
        s.system.store.setRun id ⟨changed.traceId, slate.run.version + 1, changed.bumped slate.run⟩) := by
  subst same
  have rendered : ({ changed with version := slate.run.version + 1 } : Run).dumpable = true := dumpable
  have owned : Store.leaseIsOwned (s.system.store.leases changed.id) owner s.system.clock.isoformat = true := live.tenure
  have stored := live.stands.row
  simp only [Store.updateOwned, rendered, stored, owned, Bool.not_true, Bool.false_eq_true, if_false, and_self, if_true]
  rfl

theorem Live.saved {owner : Uuid} (changed : Run) (added : List TraceEvent)
    (trace : changed.traceId = slate.run.traceId) (own : ∀ event ∈ added, event.traceId = slate.run.traceId)
    (shown : (added.map TraceEvent.content).filterMap EventContent.mark = [])
    (live : Live dep p id (.owned owner) slate s) :
    Live dep p id (.owned owner) (slate.withRun (changed.bumped slate.run))
      (s.stored ((s.system.store.setRun id
        ⟨changed.traceId, slate.run.version + 1, changed.bumped slate.run⟩).insertEvents added)) := by
  obtain ⟨⟨row, claims, approvals, before, backend, inside, beats⟩, held⟩ := live
  refine ⟨⟨?_, ?_, ?_, ?_, backend, inside, beats⟩, ?_⟩
  · simp [Slate.withRun, Run.bumped]
  · simpa [Slate.withRun] using claims
  · simpa [Slate.withRun] using approvals
  · have mine : ∀ content ∈ added.map TraceEvent.content, content.traceId = slate.run.traceId := by
      intro content member
      obtain ⟨event, among, rfl⟩ := List.mem_map.mp member
      exact own event among
    have contents : ((s.system.store.setRun id ⟨changed.traceId, slate.run.version + 1, changed.bumped slate.run⟩
        ).insertEvents added).contents = s.system.store.contents ++ added.map TraceEvent.content :=
      Store.contents_insertEvents ..
    have marked := marks_append contents mine
    rw [before, shown, ← trace, List.append_nil] at marked
    exact marked
  · unfold Tenure.Holds Site.Owns at held ⊢
    simpa using held

theorem recovers_saveRunOwned {Q : Run → Site → Prop} {changed : Run} {owner : Uuid}
    (safe : ∀ t, Stands dep p id slate t → J t) (live : Live dep p id (.owned owner) slate s) (same : changed.id = id)
    (dumpable : changed.dumpable = true) (trace : changed.traceId = slate.run.traceId)
    (after : ∀ t, Live dep p id (.owned owner) (slate.withRun (changed.bumped slate.run)) t →
      Q (changed.bumped slate.run) t) :
    Recovers dep p id J (saveRunOwned changed owner slate.run.version) Q E s := by
  refine recovers_op safe live fun t here => ?_
  have done := updateOwned_live same dumpable here
  have acted : t.act dep p (.saveRunOwned changed owner slate.run.version) =
      (.ok (changed.bumped slate.run), t.stored
        (t.system.store.setRun id ⟨changed.traceId, slate.run.version + 1, changed.bumped slate.run⟩)) := by
    simp [Site.act, Responder.act, SystemState.commit, settle, Store.saveRunOwned, done, IncidentBackend.after, Site.stored]
  rw [acted]
  have saved := here.saved changed [] trace nofun rfl
  exact after _ saved

/-- A change of the run with its audit event. -/
theorem recovers_saveWithEvent {Q : Run → Site → Prop} {changed : Run} {owner : Uuid} {eventType : EventType}
    {payload : Dict} {status : String} (safe : ∀ t, Stands dep p id slate t → J t)
    (live : Live dep p id (.owned owner) slate s) (same : changed.id = id) (dumpable : changed.dumpable = true)
    (trace : changed.traceId = slate.run.traceId) (plain : eventType.marks = false)
    (printable : Json.printableItems payload = true)
    (after : ∀ t, Live dep p id (.owned owner) (slate.withRun (changed.bumped slate.run)) t →
      Q (changed.bumped slate.run) t) :
    Recovers dep p id J (dep.saveWithEvent changed slate.run owner eventType payload status) Q E s := by
  refine recovers_op safe live fun t here => ?_
  have written : Store.dumpableEvent (Store.cleanEvent dep.store
      (buildEvent dep changed.traceId eventType (.obj payload) none status)) = true := buildEvent_dumpable printable
  have done : Store.saveRunOwnedWithEvents dep.store t.system.clock changed
      [buildEvent dep changed.traceId eventType (.obj payload) none status] owner slate.run.version t.system.store =
      .ok (changed.bumped slate.run, (t.system.store.setRun id
        ⟨changed.traceId, slate.run.version + 1, changed.bumped slate.run⟩).insertEvents
          [Store.cleanEvent dep.store (buildEvent dep changed.traceId eventType (.obj payload) none status)]) := by
    have own : (buildEvent dep changed.traceId eventType (.obj payload) none status).traceId = changed.traceId := rfl
    simp [Store.saveRunOwnedWithEvents, own, updateOwned_live same dumpable here, written]
  have acted : t.act dep p (.saveRunOwnedWithEvents changed
      [buildEvent dep changed.traceId eventType (.obj payload) none status] owner slate.run.version) =
      (.ok (changed.bumped slate.run), t.stored ((t.system.store.setRun id
        ⟨changed.traceId, slate.run.version + 1, changed.bumped slate.run⟩).insertEvents
          [Store.cleanEvent dep.store (buildEvent dep changed.traceId eventType (.obj payload) none status)])) := by
    simp [Site.act, Responder.act, SystemState.commit, settle, done, IncidentBackend.after, Site.stored]
  rw [acted]
  refine after _ (here.saved changed _ trace ?_ ?_)
  · intro event member
    rw [List.mem_singleton.mp member]
    exact trace
  · have unmarked : (Store.cleanEvent dep.store (buildEvent dep changed.traceId eventType (.obj payload) none
        status)).content.mark = none := by
      unfold EventContent.mark
      exact if_neg (by rw [Bool.not_eq_true]; exact plain)
    simp [unmarked]

/-- Any other event leaves the marks. -/
theorem recovers_record {Q : Unit → Site → Prop} {traceId : Uuid} {eventType : EventType} {payload : Dict}
    {span : Option Uuid} {status : String} (safe : ∀ t, Stands dep p id slate t → J t)
    (live : Live dep p id tenure slate s) (own : traceId = slate.run.traceId) (plain : eventType.marks = false)
    (printable : Json.printableItems payload = true) (after : ∀ t, Live dep p id tenure slate t → Q () t) :
    Recovers dep p id J (record dep traceId eventType payload span status) Q E s := by
  refine recovers_appendEvent safe live own (buildEvent_dumpable printable) fun t here => ?_
  have unmarked : (dep.stored (buildEvent dep traceId eventType (.obj payload) span status)).mark = none :=
    if_neg (by rw [Bool.not_eq_true]; exact plain)
  rw [unmarked] at here
  exact after t (by simpa using here)

theorem recovers_invokeHandler {Q : Json → Site → Prop} {invocation : Invocation} {raw : Json}
    (safe : ∀ t, Stands dep p id slate t → J t) (live : Live dep p id tenure slate s)
    (answers : (slate.backend.answer invocation).1 = .ok raw)
    (after : ∀ t, Live dep p id tenure (slate.handled (slate.backend.answer invocation).2) t → Q raw t) :
    Recovers dep p id J (invokeHandler invocation) Q E s := by
  refine recovers_op safe live fun t here => ?_
  have acted : (t.act dep p (.invokeHandler invocation)).1 = .ok raw := by
    rw [← answers, ← here.stands.backend]
    rfl
  rw [acted]
  refine after _ ⟨⟨here.stands.row, here.stands.claims, here.stands.approvals, here.stands.marks, ?_,
    here.stands.inside, here.stands.beats⟩, ?_⟩
  · exact congrArg (fun backend => (IncidentBackend.answer backend invocation).2) here.stands.backend
  · cases tenure <;> exact here.tenure

theorem recovers_claimRunExecution {Q : Run → Site → Prop} {owner : Uuid}
    (safe : ∀ t, Stands dep p id slate t → J t) (live : Live dep p id .free slate s) (lease : 0 < dep.store.runLease)
    (after : ∀ t, Live dep p id (.owned owner) slate t → Q slate.run t) :
    Recovers dep p id J (claimRunExecution id owner) Q E s := by
  refine recovers_op safe live fun t here => ?_
  obtain ⟨expires, sum⟩ := Option.isSome_iff_exists.mp here.stands.inside.2
  obtain ⟨quiet, lapsed⟩ := here.tenure
  have done : Store.claimRunExecution dep.store t.system.clock id owner t.system.store =
      .ok (slate.run, t.system.store.setLease id (some ⟨owner, expires.isoformat⟩)) := by
    simp only [Store.claimRunExecution, sum, here.stands.row]
    cases held : t.system.store.leases id with
    | none => rfl
    | some row => simp [lapsed row held]
  have acted : t.act dep p (.claimRunExecution id owner) =
      (.ok slate.run, t.stored (t.system.store.setLease id (some ⟨owner, expires.isoformat⟩))) := by
    simp [Site.act, Responder.act, SystemState.commit, settle, done, IncidentBackend.after, Site.stored]
  rw [acted]
  refine after _ ⟨⟨here.stands.row, here.stands.claims, here.stands.approvals, here.stands.marks, here.stands.backend,
    here.stands.inside, here.stands.beats⟩, ?_⟩
  have later : t.system.clock.isoformat < expires.isoformat := by
    have instant := DateTime.plus_instant sum
    refine (DateTime.isoformat_lt_iff (DateTime.plus_some sum).2.symm).mpr ?_
    omega
  simp [Tenure.Holds, Site.Owns, Store.leaseIsOwned, later]

theorem recovers_startHeartbeat {Q : Unit → Site → Prop} {owner : Uuid} (safe : ∀ t, Stands dep p id slate t → J t)
    (live : Live dep p id (.owned owner) slate s) (after : ∀ t, Live dep p id (.owned owner) slate t → Q () t) :
    Recovers dep p id J (Program.ask (.startHeartbeat id owner)) Q E s := by
  refine recovers_ask safe live fun t here => ?_
  refine after _ ⟨⟨here.stands.row, here.stands.claims, here.stands.approvals, here.stands.marks, here.stands.backend,
    here.stands.inside, fun q other => ?_⟩, here.tenure⟩
  exact (Function.update_of_ne other _ _).trans (here.stands.beats q other)

theorem recovers_stopHeartbeat {Q : Option Exn → Site → Prop} {owner : Uuid}
    (safe : ∀ t, Stands dep p id slate t → J t) (live : Live dep p id (.owned owner) slate s)
    (after : ∀ t, Live dep p id (.leaving owner) slate t → Q none t) :
    Recovers dep p id J (Program.ask .stopHeartbeat) Q E s := by
  refine recovers_ask safe live fun t here => ?_
  refine after _ ⟨⟨here.stands.row, here.stands.claims, here.stands.approvals, here.stands.marks, here.stands.backend,
    here.stands.inside, fun q other => ?_⟩, Function.update_self .., here.tenure⟩
  exact (Function.update_of_ne other _ _).trans (here.stands.beats q other)

theorem recovers_releaseRunExecution {Q : Run → Site → Prop} {owner : Uuid} (safe : ∀ t, Stands dep p id slate t → J t)
    (live : Live dep p id (.leaving owner) slate s) (after : ∀ t, Live dep p id .free slate t → Q slate.run t) :
    Recovers dep p id J (releaseRunExecution id owner) Q E s := by
  refine recovers_op safe live fun t here => ?_
  obtain ⟨quiet, owned⟩ := here.tenure
  obtain ⟨row, held, own, -⟩ := Store.leaseIsOwned_iff.mp owned
  have done : Store.releaseRunExecution id owner t.system.store = .ok (slate.run, t.system.store.setLease id none) := by
    simp [Store.releaseRunExecution, here.stands.row, held, own]
  have acted : t.act dep p (.releaseRunExecution id owner) =
      (.ok slate.run, t.stored (t.system.store.setLease id none)) := by
    simp [Site.act, Responder.act, SystemState.commit, settle, done, IncidentBackend.after, Site.stored]
  rw [acted]
  refine after _ ⟨⟨here.stands.row, here.stands.claims, here.stands.approvals, here.stands.marks, here.stands.backend,
    here.stands.inside, here.stands.beats⟩, quiet, fun lease named => ?_⟩
  rw [stored_store, Store.setLease_leases_self] at named
  cases named

/-- The decision on the action that the run is paused on. -/
theorem recovers_recordPendingApproval {Q : ApprovalRow → Site → Prop} {step : Nat} {row : ApprovalRow}
    (safe : ∀ t, Stands dep p id slate t → J t) (live : Live dep p id tenure slate s)
    (canonical : Store.canonicalFingerprint row.actionFingerprint = true) (undecided : slate.approvals step = none)
    (waiting : slate.run.status = .waitingApproval) (pending : slate.run.pendingApproval = true)
    (atStep : slate.run.currentStep = step) (named : slate.run.pendingActionFingerprint = some row.actionFingerprint)
    (after : ∀ t, Live dep p id tenure (slate.decided step row) t → Q row t) :
    Recovers dep p id J (recordPendingApproval id step row) Q E s := by
  refine recovers_op safe live fun t here => ?_
  have paused : t.system.store.pausedOn id step row.actionFingerprint = true := by
    simp [Store.pausedOn, here.stands.row, waiting, pending, atStep, named]
  have open' : t.system.store.approvals id step = none := by
    rw [here.stands.approvals]
    exact undecided
  have done : Store.recordPendingApproval dep.store id step row t.system.store =
      .ok (row, (t.system.store.setApproval id step row).insertEvent
        (Store.cleanEvent dep.store (Store.recordedEvent slate.run.traceId step row))) := by
    simp [Store.recordPendingApproval, canonical, open', here.stands.row, paused]
  have acted : t.act dep p (.recordPendingApproval id step row) =
      (.ok row, t.stored ((t.system.store.setApproval id step row).insertEvent
        (Store.cleanEvent dep.store (Store.recordedEvent slate.run.traceId step row)))) := by
    simp [Site.act, Responder.act, SystemState.commit, settle, done, IncidentBackend.after, Site.stored]
  rw [acted]
  refine after _ ⟨⟨here.stands.row, here.stands.claims, ?_, ?_, here.stands.backend, here.stands.inside,
    here.stands.beats⟩, ?_⟩
  · simp [Store.setApproval, Slate.decided, here.stands.approvals]
  · have contents : ((t.system.store.setApproval id step row).insertEvent
        (Store.cleanEvent dep.store (Store.recordedEvent slate.run.traceId step row))).contents =
        t.system.store.contents ++ [(Store.cleanEvent dep.store (Store.recordedEvent slate.run.traceId step row)).content] :=
      Store.contents_insertEvent ..
    have marked := marks_append contents fun content member => by
      rw [List.mem_singleton.mp member]
    exact marked.trans ((List.append_nil _).trans here.stands.marks)
  · cases tenure <;> exact here.tenure

theorem Live.claimed {key : String} {row : ToolResultRow} (live : Live dep p id tenure slate s) :
    Live dep p id tenure (slate.withClaim key row) (s.stored (s.system.store.setToolResult id key row)) := by
  refine ⟨⟨live.stands.row, ?_, live.stands.approvals, live.stands.marks, live.stands.backend, live.stands.inside,
    live.stands.beats⟩, ?_⟩
  · simp [Store.setToolResult, Slate.withClaim, live.stands.claims]
  · cases tenure <;> exact live.tenure

theorem recovers_claimToolExecution {Q : ToolClaim → Site → Prop} {key fingerprint : String} {owner : Uuid}
    {allowReclaim : Bool} (safe : ∀ t, Stands dep p id slate t → J t) (live : Live dep p id tenure slate s)
    (unclaimed : slate.claims key = none) (named : fingerprint ≠ "")
    (after : ∀ expires t, Live dep p id tenure
      (slate.withClaim key ⟨.claimed, owner, fingerprint, none, none, none, expires⟩) t →
      Q (.row ⟨.claimed, owner, fingerprint, none, none, none, expires⟩) t) :
    Recovers dep p id J (claimToolExecution id key owner fingerprint allowReclaim) Q E s := by
  refine recovers_op safe live fun t here => ?_
  obtain ⟨expires, sum⟩ := Option.isSome_iff_exists.mp here.stands.inside.1
  have absent : t.system.store.toolResults id key = none := by
    rw [here.stands.claims]
    exact unclaimed
  have done : Store.claimToolExecution dep.store t.system.clock id key owner fingerprint allowReclaim t.system.store =
      .ok (.row ⟨.claimed, owner, fingerprint, none, none, none, expires⟩,
        t.system.store.setToolResult id key ⟨.claimed, owner, fingerprint, none, none, none, expires⟩) := by
    simp [Store.claimToolExecution, named, sum, absent]
  have acted : t.act dep p (.claimToolExecution id key owner fingerprint allowReclaim) =
      (.ok (.row ⟨.claimed, owner, fingerprint, none, none, none, expires⟩),
        t.stored (t.system.store.setToolResult id key ⟨.claimed, owner, fingerprint, none, none, none, expires⟩)) := by
    simp [Site.act, Responder.act, SystemState.commit, settle, done, IncidentBackend.after, Site.stored]
  rw [acted]
  exact after expires _ here.claimed

theorem recovers_completeToolResult {Q : Unit → Site → Prop} {key : String} {payload : Json} {row : ToolResultRow}
    (safe : ∀ t, Stands dep p id slate t → J t) (live : Live dep p id tenure slate s)
    (held : slate.claims key = some row) (claimed : row.state = .claimed)
    (after : ∀ t, Live dep p id tenure
      (slate.withClaim key { row with state := .completed, payload := some payload }) t → Q () t) :
    Recovers dep p id J ((Program.ask (.completeToolResult id key payload row.ownerToken)).bind .ofExcept) Q E s := by
  refine recovers_op safe live fun t here => ?_
  have stored : t.system.store.toolResults id key = some row := by
    rw [here.stands.claims]
    exact held
  have done : Store.completeToolResult id key payload row.ownerToken t.system.store =
      .ok ((), t.system.store.setToolResult id key { row with state := .completed, payload := some payload }) := by
    simp [Store.completeToolResult, stored, claimed]
  have acted : t.act dep p (.completeToolResult id key payload row.ownerToken) =
      (.ok (), t.stored (t.system.store.setToolResult id key { row with state := .completed, payload := some payload })) := by
    simp [Site.act, Responder.act, SystemState.commit, settle, done, IncidentBackend.after, Site.stored]
  rw [acted]
  exact after _ here.claimed

theorem recovers_failToolExecution {Q : Unit → Site → Prop} {key text : String} {disposition : ToolFailureDisposition}
    {row : ToolResultRow} (safe : ∀ t, Stands dep p id slate t → J t) (live : Live dep p id tenure slate s)
    (held : slate.claims key = some row) (claimed : row.state = .claimed)
    (after : ∀ t, Live dep p id tenure (slate.withClaim key
      { row with state := .failed, error := some text, failureDisposition := some disposition }) t → Q () t) :
    Recovers dep p id J (failToolExecution id key row.ownerToken text disposition) Q E s := by
  refine recovers_op safe live fun t here => ?_
  have stored : t.system.store.toolResults id key = some row := by
    rw [here.stands.claims]
    exact held
  have done : Store.failToolExecution id key row.ownerToken text disposition t.system.store =
      .ok ((), t.system.store.setToolResult id key
        { row with state := .failed, error := some text, failureDisposition := some disposition }) := by
    simp [Store.failToolExecution, stored, claimed]
  have acted : t.act dep p (.failToolExecution id key row.ownerToken text disposition) =
      (.ok (), t.stored (t.system.store.setToolResult id key
        { row with state := .failed, error := some text, failureDisposition := some disposition })) := by
    simp [Site.act, Responder.act, SystemState.commit, settle, done, IncidentBackend.after, Site.stored]
  rw [acted]
  exact after _ here.claimed

end Operations

end ReliabilityLab
