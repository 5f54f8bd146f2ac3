import ReliabilityLab.Runtime.RunFile

namespace ReliabilityLab

def EventContent.fromStatus (content : EventContent) : Option String := (content.field "from_status").bind Json.str?

def EventContent.actionStep (content : EventContent) : Option Int := (content.field "action_step").bind Json.int?

/-- The status that an event stands for; a `run.running` event only where it
says that the run was not running before. -/
def EventContent.announces (content : EventContent) : Option RunStatus :=
  match content.eventType with
  | .runRunning =>
    if content.fromStatus = some RunStatus.queued.value ∨ content.fromStatus = some RunStatus.waitingApproval.value then
      some .running
    else none
  | .runWaitingApproval => some .waitingApproval
  | .runSucceeded => some .succeeded
  | .runFailed => some .failed
  | _ => none

/-- The status that a trail implies. -/
def impliedStatus (trace : List EventContent) : RunStatus :=
  (trace.filterMap EventContent.announces).getLast?.getD .queued

/-- What the recorder and the store make of a text between them. -/
def Deployment.redact (dep : Deployment) (text : String) : String :=
  redactText dep.store.secretValues (redactText dep.recorderSecrets text)

/-- The two statuses that a trail has to tell apart stay legible. -/
structure Deployment.Legible (dep : Deployment) : Prop where
  queued : dep.redact RunStatus.queued.value = RunStatus.queued.value
  waiting : dep.redact RunStatus.waitingApproval.value = RunStatus.waitingApproval.value

section Redact
variable {old new : List Char} {mark : Char}

theorem replaceFrom_marked (inside : mark ∈ new) (text : List Char) :
    replaceFrom old new 0 text = text ∨ mark ∈ replaceFrom old new 0 text := by
  induction text with
  | nil => exact .inl rfl
  | cons c rest ih =>
    simp only [replaceFrom]
    split
    · exact .inr (List.mem_append_left _ inside)
    · rcases ih with same | marked
      · exact .inl (by rw [same])
      · exact .inr (List.mem_cons_of_mem _ marked)

/-- A redacted text is the text itself, or it shows. -/
theorem redactText_marked (secrets : List String) {text original : String} (before : text = original ∨ '[' ∈ text.toList) :
    redactText secrets text = original ∨ '[' ∈ (redactText secrets text).toList := by
  have replaced : ∀ (clean secret : String), clean = original ∨ '[' ∈ clean.toList →
      replaceText clean secret redacted = original ∨ '[' ∈ (replaceText clean secret redacted).toList := by
    intro clean secret before
    have outcome : replaceFrom secret.toList redacted.toList 0 clean.toList = clean.toList ∨
        '[' ∈ replaceFrom secret.toList redacted.toList 0 clean.toList := replaceFrom_marked (by decide) _
    rcases outcome with same | marked
    · have unchanged : replaceText clean secret redacted = clean := by
        rw [replaceText, same, String.ofList_toList]
      rwa [unchanged]
    · exact .inr (by simpa [replaceText] using marked)
  unfold redactText
  generalize orderedSecrets secrets = listed
  induction listed generalizing text with
  | nil => exact before
  | cons secret rest ih => exact ih (replaced text secret before)

theorem Deployment.redact_marked (dep : Deployment) (text : String) :
    dep.redact text = text ∨ '[' ∈ (dep.redact text).toList :=
  redactText_marked _ (redactText_marked _ (.inl rfl))

end Redact

variable {dep : Deployment} {trace added : List EventContent} {run : Run}

theorem impliedStatus_append (quiet : ∀ content ∈ added, content.announces = none) :
    impliedStatus (trace ++ added) = impliedStatus trace := by
  have none : added.filterMap EventContent.announces = [] := List.filterMap_eq_nil_iff.mpr quiet
  rw [impliedStatus, List.filterMap_append, none, List.append_nil]
  rfl

theorem impliedStatus_last {content : EventContent} {status : RunStatus} (announces : content.announces = some status) :
    impliedStatus (trace ++ [content]) = status := by
  simp [impliedStatus, announces]

theorem impliedStatus_last_two {first content : EventContent} {status : RunStatus}
    (announces : content.announces = some status) : impliedStatus (trace ++ [first, content]) = status := by
  have whole : trace ++ [first, content] = (trace ++ [first]) ++ [content] := by simp
  rw [whole]
  exact impliedStatus_last announces

theorem fromStatus_stored {traceId : Uuid} {text : String} :
    (dep.stored (buildEvent dep traceId .runRunning (.obj [("from_status", .str text)]) none "ok")).fromStatus =
      some (dep.redact text) := by
  rw [EventContent.fromStatus, field_stored rfl]
  simp [sanitizePayload, Json.str?, Deployment.redact]

theorem actionStep_stored {attempts : Nat} {cached : Bool} {outputDigest contextDigest : String} :
    (dep.stored (buildEvent dep run.traceId .runCheckpointed
      (.obj (checkpointPayload run attempts cached outputDigest contextDigest)) none "ok")).actionStep =
      some (run.currentStep : Int) := by
  rw [EventContent.actionStep, field_stored rfl]
  simp [checkpointPayload, sanitizePayload, Json.int?]

theorem announces_stillRunning {traceId : Uuid} : (dep.stored (stillRunning dep traceId)).announces = none := by
  have apart : ∀ text : String, '[' ∉ text.toList → text ≠ "running" → dep.redact "running" ≠ text := by
    intro text unmarked other same
    rcases dep.redact_marked "running" with unchanged | marked
    · exact other (same.symm.trans unchanged)
    · rw [same] at marked
      exact unmarked marked
  have fromStatus : (dep.stored (stillRunning dep traceId)).fromStatus = some (dep.redact "running") := fromStatus_stored
  have kind : (dep.stored (stillRunning dep traceId)).eventType = .runRunning := rfl
  simp only [EventContent.announces, kind, fromStatus, Option.some.injEq]
  rw [if_neg]
  rintro (queued | waiting)
  · exact apart _ (by decide) (by decide) queued
  · exact apart _ (by decide) (by decide) waiting

/-- The key is in the dict. -/
def Dict.has (d : Dict) (key : String) : Prop := (d.lookup key).isSome = true

theorem Dict.has_set {d : Dict} {key other : String} {value : Json} :
    (d.set key value).has other ↔ d.has other ∨ other = key := by
  by_cases same : other = key
  · subst same
    simp [Dict.has]
  · simp [Dict.has, Dict.lookup_set_of_ne d value same, same]

theorem toolResults_checkpointed (run : Run) (output : Json) :
    (run.checkpointed output).toolResults = run.toolResults.set (toString run.currentStep) output := by
  simp [Run.toolResults, Run.checkpointed, Run.contextWith]

def checkpoints (trace : List EventContent) : List EventContent := trace.filter (·.eventType = .runCheckpointed)

def successes (trace : List EventContent) : Nat := trace.countP (·.eventType = .runSucceeded)

theorem checkpoints_append : checkpoints (trace ++ added) = checkpoints trace ++ checkpoints added :=
  List.filter_append ..

theorem successes_append : successes (trace ++ added) = successes trace + successes added := List.countP_append

/-- The row of a run says what its trail says. -/
structure RunFile.Agrees (f : RunFile) : Prop where
  cursor : f.run.currentStep = (checkpoints f.trace).length + successes f.trace + f.failActions
  unfinished : f.run.status.terminal = false → successes f.trace = 0 ∧ f.failActions = 0
  once : successes f.trace + f.failActions ≤ 1
  steps : (checkpoints f.trace).map EventContent.actionStep =
    (List.range (checkpoints f.trace).length).map fun step : Nat => some (step : Int)
  keys : ∀ key, f.run.toolResults.has key ↔
    f.initial.has key ∨ ∃ step < (checkpoints f.trace).length, key = toString step

theorem FileStep.status {f f' : RunFile} (legible : dep.Legible) (step : FileStep dep f f')
    (agrees : f.run.status = impliedStatus f.trace) : f'.run.status = impliedStatus f'.trace := by
  cases step with
  | appended event reported running =>
    rw [impliedStatus_append]
    · exact agrees
    · intro content member
      cases List.mem_singleton.mp member
      by_cases still : event.eventType = .runRunning
      · rw [running still]
        exact announces_stillRunning
      · revert reported still
        simp only [EventContent.announces, stored_eventType]
        cases event.eventType <;> simp [EventType.rejection, EventType.appended]
  | decided at_step row =>
    rw [impliedStatus_append]
    · exact agrees
    · intro content member
      cases List.mem_singleton.mp member
      rfl
  | reserved => exact agrees
  | advanced p s next events declined nonempty advance =>
    cases advance with
    | begin stopped =>
      refine (impliedStatus_last ?_).symm
      simp only [EventContent.announces, stored_eventType, buildEvent_eventType, fromStatus_stored, Option.some.injEq]
      refine if_pos ?_
      rcases stopped with status | status <;> rw [status]
      · exact .inl legible.queued
      · exact .inr legible.waiting
    | reserve => exact absurd rfl nonempty
    | succeed | fail | pause => exact (impliedStatus_last rfl).symm
    | checkpoint _ _ _ _ _ _ running =>
      rw [List.map_singleton, impliedStatus_append]
      · exact agrees
      · intro content member
        cases List.mem_singleton.mp member
        rfl
    | deny => exact (impliedStatus_last_two rfl).symm

/-- A step without a checkpoint. It counts nothing, or it ends the run and counts once at most. -/
theorem RunFile.Agrees.counted {f f' : RunFile} {n : Nat} (agrees : f.Agrees) (trace : f'.trace = f.trace ++ added)
    (silent : checkpoints added = []) (fails : f'.failActions = n + f.failActions)
    (cursor : f'.run.currentStep = f.run.currentStep + (successes added + n))
    (results : f'.run.toolResults = f.run.toolResults) (initial : f'.initial = f.initial)
    (ends : successes added + n = 0 ∧ f'.run.status.terminal = f.run.status.terminal ∨
      successes added + n ≤ 1 ∧ f.run.status.terminal = false ∧ f'.run.status.terminal = true) : f'.Agrees := by
  have sameCheckpoints : checkpoints f'.trace = checkpoints f.trace := by
    rw [trace, checkpoints_append, silent, List.append_nil]
  have counted : successes f'.trace = successes f.trace + successes added := by rw [trace, successes_append]
  have before := agrees.cursor
  have once := agrees.once
  constructor
  · rw [cursor, sameCheckpoints, counted, fails]
    omega
  · intro still
    rcases ends with ⟨nothing, same⟩ | ⟨-, -, ended⟩
    · obtain ⟨noSuccesses, noFails⟩ := agrees.unfinished (same.symm.trans still)
      omega
    · rw [ended] at still
      cases still
  · rcases ends with ⟨nothing, -⟩ | ⟨one, active, -⟩
    · omega
    · obtain ⟨noSuccesses, noFails⟩ := agrees.unfinished active
      omega
  · rw [sameCheckpoints]
    exact agrees.steps
  · rw [results, initial, sameCheckpoints]
    exact agrees.keys

/-- A checkpoint adds its step to the trail and its key to the results. -/
theorem RunFile.Agrees.checkpointed {f : RunFile} {content : EventContent} {output : Json} {fails : Nat}
    (agrees : f.Agrees) (active : f.run.status.terminal = false) (kind : content.eventType = .runCheckpointed)
    (step : content.actionStep = some (f.run.currentStep : Int)) (same : fails = f.failActions) :
    RunFile.Agrees { f with
      run := (f.run.checkpointed output).bumped f.run
      trace := f.trace ++ [content]
      failActions := fails } := by
  subst same
  obtain ⟨noSuccesses, noFails⟩ := agrees.unfinished active
  have cursor := agrees.cursor
  have one : checkpoints [content] = [content] := by simp [checkpoints, kind]
  have none : successes [content] = 0 := by simp [successes, kind]
  have results : ((f.run.checkpointed output).bumped f.run).toolResults =
      f.run.toolResults.set (toString f.run.currentStep) output := toolResults_checkpointed f.run output
  have here : f.run.currentStep = (checkpoints f.trace).length := by omega
  constructor
  · simp only [checkpoints_append, successes_append, one, none, List.length_append, List.length_singleton,
      Run.bumped, Run.checkpointed]
    omega
  · simp only [successes_append, none]
    exact fun _ => ⟨noSuccesses, noFails⟩
  · simp only [successes_append, none]
    omega
  · simp only [checkpoints_append, one, List.map_append, List.length_append, List.length_singleton, List.range_succ,
      agrees.steps, List.map_singleton, step, here]
  · intro key
    simp only [checkpoints_append, one, List.length_append, List.length_singleton, results, Dict.has_set, agrees.keys,
      Nat.lt_succ_iff_lt_or_eq, here]
    constructor
    · rintro ((initial | ⟨n, lower, same⟩) | same)
      · exact .inl initial
      · exact .inr ⟨n, .inl lower, same⟩
      · exact .inr ⟨_, .inr rfl, same⟩
    · rintro (initial | ⟨n, lower | last, same⟩)
      · exact .inl (.inl initial)
      · exact .inl (.inr ⟨n, lower, same⟩)
      · exact .inr (last ▸ same)

theorem FileStep.agrees {f f' : RunFile} (step : FileStep dep f f') (agrees : f.Agrees) : f'.Agrees := by
  cases step with
  | appended event reported =>
    have others : event.eventType ≠ .runCheckpointed ∧ event.eventType ≠ .runSucceeded := by
      revert reported
      cases event.eventType <;> decide
    refine agrees.counted (n := 0) rfl ?_ (Nat.zero_add _).symm ?_ rfl rfl (.inl ⟨?_, rfl⟩)
    · exact List.filter_eq_nil_iff.mpr fun content member => by simp_all
    · simp [successes, others.2]
    · simp [successes, others.2]
  | decided at_step row => exact agrees.counted (n := 0) rfl rfl (Nat.zero_add _).symm rfl rfl rfl (.inl ⟨rfl, rfl⟩)
  | reserved =>
    exact agrees.counted (n := 0) (List.append_nil _).symm rfl (Nat.zero_add _).symm rfl rfl rfl (.inl ⟨rfl, rfl⟩)
  | advanced p s next events declined nonempty advance failing =>
    have active := advance.active
    cases advance with
    | reserve => exact absurd rfl nonempty
    | begin => exact agrees.counted (n := 0) rfl rfl rfl rfl rfl rfl (.inl ⟨rfl, active.symm⟩)
    | pause => exact agrees.counted (n := 0) rfl rfl rfl rfl rfl rfl (.inl ⟨rfl, active.symm⟩)
    | succeed => exact agrees.counted (n := 0) rfl rfl rfl rfl rfl rfl (.inr ⟨le_rfl, active, rfl⟩)
    | fail code explanation nextStep =>
      have cursor := failing _ (List.mem_singleton_self _) rfl
      have one : 0 + declined.toNat ≤ 1 := (Nat.zero_add _).trans_le (Bool.toNat_le declined)
      have once : f.run.currentStep + declined.toNat = f.run.currentStep + (0 + declined.toNat) := by rw [Nat.zero_add]
      exact agrees.counted (n := declined.toNat) rfl rfl rfl (cursor.trans once) rfl rfl (.inr ⟨one, active, rfl⟩)
    | deny =>
      have cursor := failing _ (List.mem_cons_of_mem _ (List.mem_singleton_self _)) rfl
      have one : 0 + declined.toNat ≤ 1 := (Nat.zero_add _).trans_le (Bool.toNat_le declined)
      have once : f.run.currentStep + declined.toNat = f.run.currentStep + (0 + declined.toNat) := by rw [Nat.zero_add]
      exact agrees.counted (n := declined.toNat) rfl rfl rfl (cursor.trans once) rfl rfl (.inr ⟨one, active, rfl⟩)
    | checkpoint proposed output attempts cached outputDigest contextDigest running =>
      exact agrees.checkpointed active rfl actionStep_stored (Nat.zero_add _)

def statusOf (status : RunStatus) (w : ServiceWorld) : Bool :=
  match w.state.store.runs 0 with
  | some row => row.payload.status = status
  | none => false

theorem statusOf_stored {status : RunStatus} {w : ServiceWorld} (checked : statusOf status w = true) :
    ∃ row, w.state.store.runs 0 = some row ∧ row.payload.status = status := by
  unfold statusOf at checked
  split at checked
  · rename_i row stored
    exact ⟨row, stored, by simpa using checked⟩
  · cases checked

/-- The row of a run and its trail, over the record of the way there. -/
structure TrailAgrees (dep : Deployment) (history : List ServiceEntry) (run : Run) (trace : List EventContent) :
    Prop where
  status : dep.Legible → run.status = impliedStatus trace
  cursor : run.currentStep = (checkpoints trace).length + (successes trace + failActions dep run.id history)
  once : successes trace + failActions dep run.id history ≤ 1
  steps : ∀ content ∈ checkpoints trace, ∃ step : Nat, content.actionStep = some (step : Int)
  keys : ∀ key, run.toolResults.has key ↔ (initialResults run.id history).has key ∨
    ∃ content ∈ checkpoints trace, ∃ step : Nat, content.actionStep = some (step : Int) ∧ key = toString step

theorem RunFile.Agrees.step_iff {f : RunFile} (agrees : f.Agrees) (step : Option Int) :
    (∃ content ∈ checkpoints f.trace, content.actionStep = step) ↔
      ∃ n < (checkpoints f.trace).length, step = some (n : Int) := by
  have member : step ∈ (checkpoints f.trace).map EventContent.actionStep ↔
      step ∈ (List.range (checkpoints f.trace).length).map fun n : Nat => some (n : Int) := by rw [agrees.steps]
  simpa [eq_comm] using member

/-- In every reachable state the row of a run agrees with its trail. -/
theorem state_and_trail_agree {history : List ServiceEntry} {w : ServiceWorld}
    (recorded : Machine.Recorded dep.system history w) {id : Uuid} {row : RunRow}
    (stored : w.state.store.runs id = some row) :
    TrailAgrees dep history row.payload (w.state.store.traceContents row.payload.traceId) := by
  have valid := (recorded.reachable.unrestricted.disciplined (system_disciplined dep _)).1
  obtain ⟨sameId, -⟩ := valid.rows id row stored
  subst sameId
  have agrees : (runFile dep row.payload.id history w.state.store row).Agrees := by
    refine (file_invariant recorded (fun run fresh => ?_) fun f f' step => step.agrees).present row stored
    obtain ⟨_, _, _, _, _, _, rfl⟩ := fresh
    exact ⟨rfl, fun _ => ⟨rfl, rfl⟩, Nat.zero_le _, rfl, fun key => ⟨.inl, fun | .inl initial => initial⟩⟩
  constructor
  case status =>
    intro legible
    have filed : Filed dep (fun f => f.run.status = impliedStatus f.trace) history w.state row.payload.id := by
      refine file_invariant recorded (fun run fresh => ?_) fun f f' step => step.status legible
      obtain ⟨_, _, _, _, _, _, rfl⟩ := fresh
      rfl
    exact filed.present row stored
  case cursor => exact agrees.cursor.trans (Nat.add_assoc ..)
  case once => exact agrees.once
  case steps =>
    intro content member
    obtain ⟨n, -, same⟩ := (agrees.step_iff content.actionStep).mp ⟨content, member, rfl⟩
    exact ⟨n, same⟩
  case keys =>
    intro key
    refine (agrees.keys key).trans (or_congr_right ⟨?_, ?_⟩)
    · rintro ⟨n, lower, same⟩
      obtain ⟨content, member, step⟩ := (agrees.step_iff (some (n : Int))).mpr ⟨n, lower, rfl⟩
      exact ⟨content, member, n, step, same⟩
    · rintro ⟨content, member, n, step, same⟩
      obtain ⟨m, lower, equal⟩ := (agrees.step_iff (some (n : Int))).mp ⟨content, member, step⟩
      have sameStep : n = m := by simpa using equal
      exact ⟨n, sameStep ▸ lower, same⟩

theorem demo_legible : demo.Legible := ⟨by decide, by decide⟩

/-- The demo run, paused at its first step. -/
theorem state_and_trail_agree_demo : ∃ (history : List ServiceEntry) (w : ServiceWorld) (row : RunRow),
    Machine.Recorded demo.system history w ∧ w.state.store.runs 0 = some row ∧
      row.payload.status = impliedStatus (w.state.store.traceContents row.payload.traceId) ∧
      row.payload.status = .waitingApproval := by
  obtain ⟨w, reach, paused⟩ := schedule_reaches demo_fits (demoClock 0 demoStart_inside)
    [.request 0 Run.demo, .turns 0 14] (statusOf .waitingApproval) (by decide +kernel)
  obtain ⟨history, recorded⟩ := reach.recorded
  obtain ⟨row, stored, status⟩ := statusOf_stored paused
  exact ⟨history, w, row, recorded, stored, (state_and_trail_agree recorded stored).status demo_legible, status⟩

/-- The demo deployment with the configured secret "queued". -/
def demoQueued : Deployment := { demo with store := { demo.store with secretValues := [RunStatus.queued.value] } }

def impliesAnother (w : ServiceWorld) : Bool :=
  match w.state.store.runs 0 with
  | some row => row.payload.status = .running ∧
      impliedStatus (w.state.store.traceContents row.payload.traceId) = .queued
  | none => false

/-- A secret that is part of a status name hides the transition from the trail. -/
theorem trail_redacted : ∃ (w : ServiceWorld) (row : RunRow), Machine.Reachable demoQueued.system w ∧
    w.state.store.runs 0 = some row ∧ row.payload.status = .running ∧
      impliedStatus (w.state.store.traceContents row.payload.traceId) = .queued := by
  have fits : demoResponder.Fits demoQueued := ⟨fun _ _ _ => rfl, fun _ => rfl⟩
  obtain ⟨w, reach, another⟩ := schedule_reaches fits (demoClock 0 demoStart_inside)
    [.request 0 Run.demo, .turns 0 7] impliesAnother (by decide +kernel)
  unfold impliesAnother at another
  split at another
  · rename_i row stored
    obtain ⟨running, queued⟩ := of_decide_eq_true another
    exact ⟨w, row, reach, stored, running, queued⟩
  · cases another

end ReliabilityLab
