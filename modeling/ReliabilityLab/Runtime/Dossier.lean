import ReliabilityLab.Runtime.Effect

namespace ReliabilityLab

/-- What a database holds about one run: its row, its trace, its decisions. -/
structure Dossier where
  run : Run
  trace : List EventContent
  approvals : Nat → Option ApprovalRow

def Store.dossier (st : Store) (id : Uuid) : Option Dossier :=
  (st.runs id).map fun row => ⟨row.payload, st.traceContents row.payload.traceId, st.approvals id⟩

/-- What one transaction can do to the dossier of a run. -/
inductive DossierStep (dep : Deployment) (allowed : Allowed) : Dossier → Dossier → Prop
  | appended {d : Dossier} (event : TraceEvent) : event.eventType.rejection = true ∨ event.eventType.appended = true →
      event.traceId = d.run.traceId → DossierStep dep allowed d { d with trace := d.trace ++ [dep.stored event] }
  | advanced {d : Dossier} (p : Pid) (s : SystemState) (next : Run) (events : List TraceEvent) : Mine p d.run.id s →
      s.store.approvals d.run.id = d.approvals → Advance dep allowed p s d.run next events →
      DossierStep dep allowed d
        { d with run := next.bumped d.run, trace := d.trace ++ events.map dep.stored }
  | decided {d : Dossier} (row : ApprovalRow) : d.run.status = .waitingApproval →
      d.run.pendingActionFingerprint = some row.actionFingerprint → d.approvals d.run.currentStep = none →
      Store.canonicalFingerprint row.actionFingerprint = true →
      DossierStep dep allowed d { d with
        trace := d.trace ++ [dep.stored (Store.recordedEvent d.run.traceId d.run.currentStep row)]
        approvals := Function.update d.approvals d.run.currentStep (some row) }

/-- What one transaction can do to what is held under an identifier. -/
inductive DossierMove (dep : Deployment) (allowed : Allowed) : Option Dossier → Option Dossier → Prop
  | same (found : Option Dossier) : DossierMove dep allowed found found
  | created (run : Run) : run.fresh →
      DossierMove dep allowed none (some ⟨{ run with version := 1 }, [], fun _ => none⟩)
  | changed {d d' : Dossier} : DossierStep dep allowed d d' → DossierMove dep allowed (some d) (some d')

/-- Events and decisions belong to stored runs. -/
structure Anchored (s : SystemState) : Prop where
  used : ∀ content ∈ s.store.contents, TraceUsed content.traceId s
  decided : ∀ id step, s.store.approvals id step ≠ none → s.store.runs id ≠ none

variable {dep : Deployment} {allowed : Allowed} {p : Pid} {s t : SystemState}

theorem EventType.reported {event : TraceEvent} (reported : Reported p event s) :
    event.eventType.rejection = true ∨ event.eventType.appended = true := reported.imp And.left And.left

theorem Reported.used {event : TraceEvent} (reported : Reported p event s) : TraceUsed event.traceId s := by
  rcases reported with ⟨-, used⟩ | ⟨-, run, holds, -, same⟩
  · exact used
  · rw [same]; exact holds.1.used

/-- The events of one trace do not show up in another. -/
theorem traceContents_foreign {events : List TraceEvent} {traceId other : Uuid}
    (contents : t.store.contents = s.store.contents ++ events.map dep.stored)
    (traces : ∀ event ∈ events, event.traceId = traceId) (unequal : other ≠ traceId) :
    t.store.traceContents other = s.store.traceContents other := by
  rw [traceContents_append contents, List.filter_eq_nil_iff.mpr, List.append_nil]
  intro content member
  obtain ⟨event, among, rfl⟩ := List.mem_map.mp member
  have trace : (dep.stored event).traceId = traceId := traces event among
  simp [trace, Ne.symm unequal]

theorem traceContents_own {events : List TraceEvent} {traceId : Uuid}
    (contents : t.store.contents = s.store.contents ++ events.map dep.stored)
    (traces : ∀ event ∈ events, event.traceId = traceId) :
    t.store.traceContents traceId = s.store.traceContents traceId ++ events.map dep.stored := by
  rw [traceContents_append contents, List.filter_eq_self.mpr]
  intro content member
  obtain ⟨event, among, rfl⟩ := List.mem_map.mp member
  have trace : (dep.stored event).traceId = traceId := traces event among
  simp [trace]

theorem Anchored.still (still : Still s t) (anchored : Anchored s) : Anchored t := by
  obtain ⟨runs, approvals, contents⟩ := still
  constructor
  · intro content member
    rw [contents] at member
    simpa only [TraceUsed, runs] using anchored.used content member
  · rw [approvals, runs]; exact anchored.decided

theorem Still.dossier (still : Still s t) (id : Uuid) : t.store.dossier id = s.store.dossier id := by
  obtain ⟨runs, approvals, contents⟩ := still
  simp only [Store.dossier, runs, approvals, Store.traceContents_eq, contents]

theorem Anchored.step {op : Op} (effect : Effect dep allowed p op s t) (anchored : Anchored s) : Anchored t := by
  cases effect with
  | still same => exact anchored.still same
  | created run fresh unsaved unused runs approvals contents =>
    have kept : ∀ {id row}, s.store.runs id = some row → t.store.runs id = some row := by
      intro id row stored
      have unequal : id ≠ run.id := by rintro rfl; rw [unsaved] at stored; cases stored
      rw [runs, Function.update_of_ne unequal]
      exact stored
    constructor
    · intro content member
      rw [contents] at member
      obtain ⟨id, row, stored, trace⟩ := anchored.used content member
      exact ⟨id, row, kept stored, trace⟩
    · intro id step known
      rw [approvals] at known
      obtain ⟨row, stored⟩ := Option.ne_none_iff_exists'.mp (anchored.decided id step known)
      simp [kept stored]
  | appended event same reported runs approvals contents =>
    constructor
    · intro content member
      rw [contents, List.mem_append] at member
      simp only [TraceUsed, runs]
      rcases member with before | added
      · exact anchored.used content before
      · cases List.mem_singleton.mp added
        exact reported.used
    · rw [approvals, runs]; exact anchored.decided
  | advanced prior next events row mine stored payload advance runs approvals contents =>
    have found : ∀ {id other}, s.store.runs id = some other → ∃ later, t.store.runs id = some later ∧
        later.payload.traceId = other.payload.traceId := by
      intro id other at_id
      rw [runs, Function.update_apply]
      split
      · rename_i equal
        subst equal
        cases Option.some.inj (at_id.symm.trans stored)
        exact ⟨_, rfl, by rw [payload]; exact advance.identity.2⟩
      · exact ⟨other, at_id, rfl⟩
    constructor
    · intro content member
      rw [contents, List.mem_append] at member
      rcases member with before | added
      · obtain ⟨id, other, at_id, trace⟩ := anchored.used content before
        obtain ⟨later, atLater, same⟩ := found at_id
        exact ⟨id, later, atLater, same.trans trace⟩
      · obtain ⟨event, among, rfl⟩ := List.mem_map.mp added
        obtain ⟨later, atLater, same⟩ := found stored
        exact ⟨prior.id, later, atLater, by
          rw [same, payload]; exact (advance.trace event among).symm⟩
    · intro id step known
      rw [approvals] at known
      obtain ⟨other, at_id⟩ := Option.ne_none_iff_exists'.mp (anchored.decided id step known)
      obtain ⟨later, atLater, -⟩ := found at_id
      simp [atLater]
  | decided id step row run absent canonical stored waiting here pending runs approvals contents =>
    constructor
    · intro content member
      rw [contents, List.mem_append] at member
      simp only [TraceUsed, runs]
      rcases member with before | added
      · exact anchored.used content before
      · cases List.mem_singleton.mp added
        exact ⟨id, run, stored, rfl⟩
    · intro other other_step known
      rw [runs]
      by_cases same : other = id
      · subst same; simp [stored]
      · rw [approvals, Store.setApproval_of_ne _ _ same] at known
        exact anchored.decided other other_step known

theorem Anchored.init (empty : s.store = Store.empty) : Anchored s := by
  constructor <;> rw [empty]
  · intro content member; cases member
  · intro id step known; exact absurd rfl known

theorem system_anchored {w : ServiceWorld} (reach : Machine.Reachable (dep.system.restrict allowed) w) :
    Anchored w.state :=
  system_invariant reach (fun _ empty => .init empty) (fun _ _ still anchored => anchored.still still)
    fun _ _ _ _ _ _ _ effect anchored => anchored.step effect

theorem dossier_some {st : Store} {id : Uuid} {row : RunRow} (stored : st.runs id = some row) :
    st.dossier id = some ⟨row.payload, st.traceContents row.payload.traceId, st.approvals id⟩ := by
  simp [Store.dossier, stored]

theorem dossier_none {st : Store} {id : Uuid} (absent : st.runs id = none) : st.dossier id = none := by
  simp [Store.dossier, absent]

theorem dossier_eq_some {st : Store} {id : Uuid} {d : Dossier} (found : st.dossier id = some d) :
    ∃ row, st.runs id = some row ∧ d = ⟨row.payload, st.traceContents row.payload.traceId, st.approvals id⟩ := by
  obtain ⟨row, stored, same⟩ := Option.map_eq_some_iff.mp found
  exact ⟨row, stored, same.symm⟩

/-- The dossier of a run that a transaction does not touch, when its events go to another trace. -/
theorem dossier_foreign (events : List TraceEvent) (traceId : Uuid) {id : Uuid}
    (contents : t.store.contents = s.store.contents ++ events.map dep.stored)
    (traces : ∀ event ∈ events, event.traceId = traceId) (runs : t.store.runs id = s.store.runs id)
    (approvals : t.store.approvals id = s.store.approvals id)
    (foreign : ∀ row, s.store.runs id = some row → row.payload.traceId ≠ traceId) :
    t.store.dossier id = s.store.dossier id := by
  cases stored : s.store.runs id with
  | none => rw [dossier_none stored, dossier_none (runs.trans stored)]
  | some row =>
    rw [dossier_some stored, dossier_some (runs.trans stored), approvals,
      traceContents_foreign contents traces (foreign row stored)]

/-- Every transaction is a move of every dossier. -/
theorem Effect.dossier {op : Op} (valid : Consistent s) (anchored : Anchored s) (effect : Effect dep allowed p op s t)
    (id : Uuid) : DossierMove dep allowed (s.store.dossier id) (t.store.dossier id) := by
  cases effect with
  | still same =>
    rw [same.dossier id]
    exact .same _
  | created run fresh unsaved unused runs approvals contents =>
    by_cases same : id = run.id
    · subst same
      have silent : t.store.traceContents run.traceId = [] := by
        rw [Store.traceContents_eq, contents]
        refine List.filter_eq_nil_iff.mpr fun content member trace => unused ?_
        have sameTrace : content.traceId = run.traceId := by simpa using trace
        exact sameTrace ▸ anchored.used content member
      have undecided : t.store.approvals run.id = fun _ => none := by
        funext step
        by_contra known
        rw [approvals] at known
        exact anchored.decided run.id step known unsaved
      have after : t.store.runs run.id = some ⟨run.traceId, 1, { run with version := 1 }⟩ := by rw [runs]; simp
      rw [dossier_none unsaved, dossier_some after]
      simp only [silent, undecided]
      exact .created run fresh
    · have kept : t.store.dossier id = s.store.dossier id := by
        simp only [Store.dossier, runs, Function.update_of_ne same, approvals, Store.traceContents_eq, contents]
      rw [kept]
      exact .same _
  | appended event _ reported runs approvals contents =>
    cases stored : s.store.runs id with
    | none =>
      rw [dossier_none stored, dossier_none (by rw [runs]; exact stored)]
      exact .same _
    | some row =>
      by_cases own : event.traceId = row.payload.traceId
      · have more : t.store.traceContents row.payload.traceId =
            s.store.traceContents row.payload.traceId ++ [event].map dep.stored :=
          traceContents_own contents (by simpa using own)
        have after : t.store.runs id = some row := by rw [runs]; exact stored
        rw [dossier_some stored, dossier_some after, approvals, more]
        exact .changed (.appended event (EventType.reported reported) own)
      · have foreign : ∀ found, s.store.runs id = some found → found.payload.traceId ≠ event.traceId := by
          intro found there
          cases Option.some.inj (stored.symm.trans there)
          exact Ne.symm own
        rw [dossier_foreign [event] event.traceId contents (by simp) (by rw [runs]) (by rw [approvals]) foreign]
        exact .same _
  | advanced prior next events row mine stored payload advance runs approvals contents =>
    subst payload
    by_cases same : id = row.payload.id
    · subst same
      have after : t.store.runs row.payload.id =
          some ⟨row.payload.traceId, row.payload.version + 1, next.bumped row.payload⟩ := by rw [runs]; simp
      rw [dossier_some stored, dossier_some after]
      have sameTrace : (next.bumped row.payload).traceId = row.payload.traceId := advance.identity.2
      simp only [sameTrace, approvals, traceContents_own contents advance.trace]
      exact .changed (.advanced p s next events mine rfl advance)
    · rw [dossier_foreign events row.payload.traceId contents advance.trace
        (by rw [runs, Function.update_of_ne same]) (by rw [approvals])
        fun found there equal => same (valid.traces _ _ _ _ there stored equal)]
      exact .same _
  | decided at_id step row run absent canonical stored waiting here pending runs approvals contents =>
    by_cases same : id = at_id
    · subst same
      have more : t.store.traceContents run.payload.traceId = s.store.traceContents run.payload.traceId ++
          [Store.recordedEvent run.payload.traceId step row].map dep.stored :=
        traceContents_own contents (by simp [Store.recordedEvent])
      have recorded : t.store.approvals id = Function.update (s.store.approvals id) step (some row) := by
        rw [approvals]; simp [Store.setApproval]
      have after : t.store.runs id = some run := by rw [runs]; exact stored
      rw [dossier_some stored, dossier_some after, more, recorded]
      subst here
      exact .changed (.decided row waiting pending absent canonical)
    · rw [dossier_foreign [Store.recordedEvent run.payload.traceId step row] run.payload.traceId contents
        (by simp [Store.recordedEvent]) (by rw [runs])
        (by rw [approvals, Store.setApproval_of_ne _ _ same])
        fun found there equal => same (valid.traces _ _ _ _ there stored equal)]
      exact .same _

/-- Every step of the system is a move of every dossier. -/
theorem system_dossier {w v : ServiceWorld} (reach : Machine.Reachable (dep.system.restrict allowed) w)
    (move : Machine.Step (dep.system.restrict allowed) w v) (id : Uuid) :
    DossierMove dep allowed (w.state.store.dossier id) (v.state.store.dossier id) := by
  rcases system_step reach move with still | ⟨p, op, now, -, effect⟩
  · rw [still.dossier id]
    exact .same _
  · exact effect.dossier (reach.disciplined (system_disciplined dep allowed)).1 (system_anchored reach) id

/-- The rule for what holds of every run, from its creation on. -/
theorem dossier_invariant {R : Dossier → Prop} {w : ServiceWorld}
    (reach : Machine.Reachable (dep.system.restrict allowed) w)
    (created : ∀ run : Run, run.fresh → R ⟨{ run with version := 1 }, [], fun _ => none⟩)
    (step : ∀ d d', DossierStep dep allowed d d' → R d → R d') {id : Uuid} {d : Dossier}
    (found : w.state.store.dossier id = some d) : R d := by
  induction reach generalizing d with
  | init start =>
    rw [Store.dossier, start.1] at found
    cases found
  | @step w v previous move ih =>
    have moved := system_dossier previous move id
    rw [found] at moved
    generalize before : w.state.store.dossier id = old at moved
    cases moved with
    | same => exact ih before
    | created run fresh => exact created run fresh
    | changed changed => exact step _ _ changed (ih before)

end ReliabilityLab
