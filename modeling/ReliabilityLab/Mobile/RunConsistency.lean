import Mathlib.Data.List.Nodup
import ReliabilityLab.Foundation.Checker
import ReliabilityLab.Mobile.Engine

namespace ReliabilityLab

open Mobile

/-- The step, the tool and the number of an attempt, as the events about it name them. -/
def identityIn (payload : Dict) : Json × Json × Json :=
  ((payload.lookup "action_step").getD .null, (payload.lookup "tool_name").getD .null,
    (payload.lookup "attempt").getD .null)

def MobileEvent.identity (event : MobileEvent) : Json × Json × Json := identityIn event.payload

def MobileEvent.endsAttempt (event : MobileEvent) : Bool :=
  event.eventType = .toolAttemptSucceeded || event.eventType = .toolAttemptFailed

/-! What a trace counts. -/

def startedAttempts (events : List MobileEvent) : List (Json × Json × Json) :=
  (events.filter (·.eventType = .toolAttemptStarted)).map (·.identity)

def endedAttempts (events : List MobileEvent) : List (Json × Json × Json) :=
  (events.filter (·.endsAttempt)).map (·.identity)

def announcedSteps (events : List MobileEvent) : List Json :=
  (events.filter (·.eventType = .policyAction)).map fun event => (event.payload.lookup "action_step").getD .null

def checkpointCount (events : List MobileEvent) : Nat := (events.filter (·.eventType = .runCheckpointed)).length

/-- The events are numbered from one on. -/
def NumberedFromOne (events : List MobileEvent) : Prop := events.map (·.sequence) = List.range' 1 events.length

@[simp] theorem startedAttempts_append (events more : List MobileEvent) :
    startedAttempts (events ++ more) = startedAttempts events ++ startedAttempts more := by
  simp [startedAttempts]

@[simp] theorem endedAttempts_append (events more : List MobileEvent) :
    endedAttempts (events ++ more) = endedAttempts events ++ endedAttempts more := by
  simp [endedAttempts]

@[simp] theorem announcedSteps_append (events more : List MobileEvent) :
    announcedSteps (events ++ more) = announcedSteps events ++ announcedSteps more := by
  simp [announcedSteps]

@[simp] theorem checkpointCount_append (events more : List MobileEvent) :
    checkpointCount (events ++ more) = checkpointCount events + checkpointCount more := by
  simp [checkpointCount]

@[simp] theorem startedAttempts_cons (event : MobileEvent) (rest : List MobileEvent) : startedAttempts (event :: rest) =
    (if event.eventType = .toolAttemptStarted then [event.identity] else []) ++ startedAttempts rest := by
  by_cases starts : event.eventType = .toolAttemptStarted <;> simp [startedAttempts, starts]

@[simp] theorem endedAttempts_cons (event : MobileEvent) (rest : List MobileEvent) : endedAttempts (event :: rest) =
    (if event.endsAttempt = true then [event.identity] else []) ++ endedAttempts rest := by
  by_cases ends : event.endsAttempt = true <;> simp [endedAttempts, ends]

@[simp] theorem announcedSteps_cons (event : MobileEvent) (rest : List MobileEvent) : announcedSteps (event :: rest) =
    (if event.eventType = .policyAction then [(event.payload.lookup "action_step").getD .null] else []) ++
      announcedSteps rest := by
  by_cases announces : event.eventType = .policyAction <;> simp [announcedSteps, announces]

@[simp] theorem checkpointCount_cons (event : MobileEvent) (rest : List MobileEvent) : checkpointCount (event :: rest) =
    (if event.eventType = .runCheckpointed then 1 else 0) + checkpointCount rest := by
  by_cases marks : event.eventType = .runCheckpointed <;> simp [checkpointCount, marks, Nat.add_comm]

@[simp] theorem startedAttempts_nil : startedAttempts [] = [] := rfl

@[simp] theorem endedAttempts_nil : endedAttempts [] = [] := rfl

@[simp] theorem announcedSteps_nil : announcedSteps [] = [] := rfl

@[simp] theorem checkpointCount_nil : checkpointCount [] = 0 := rfl

/-- Events of this type count for nothing. -/
def MobileEventType.quiet (kind : MobileEventType) : Bool :=
  kind ≠ .policyAction && kind ≠ .toolAttemptStarted && kind ≠ .toolAttemptFailed && kind ≠ .toolAttemptSucceeded &&
    kind ≠ .runCheckpointed

/-- The part of a run that never changes. -/
def MobileRun.origin (run : MobileRun) : Uuid × Json × String × String :=
  (run.id, run.scenarioId, run.scenarioHash, run.engineVersion)

def MobileRun.cursor (run : MobileRun) : Nat × Nat × Int := (run.currentStep, run.nextAttempt, run.lastAnnouncedStep)

namespace RunRows
variable {supply : Supply} {rows next last : RunRows} {kind : MobileEventType} {payload : Dict} {status : String}

@[simp] theorem emit_run : (rows.emit supply kind payload status).run = rows.run := rfl

@[simp] theorem emit_decisions : (rows.emit supply kind payload status).decisions = rows.decisions := rfl

@[simp] theorem emit_effects : (rows.emit supply kind payload status).effects = rows.effects := rfl

theorem emit_events : (rows.emit supply kind payload status).events = rows.events ++
    [⟨supply.stamps rows.nextSequence, rows.run.traceId, rows.nextSequence, kind, payload, status⟩] := rfl

theorem foldl_max_range' (start count : Nat) : (List.range' (start + 1) count).foldl max start = start + count := by
  induction count generalizing start with
  | zero => rfl
  | succ count ih =>
    rw [List.range'_succ, List.foldl_cons, Nat.max_eq_right (Nat.le_succ start), ih]
    omega

theorem nextSequence_eq (numbered : NumberedFromOne rows.events) : rows.nextSequence = rows.events.length + 1 := by
  rw [nextSequence, numbered, foldl_max_range' 0]
  omega

theorem numbered_emit (numbered : NumberedFromOne rows.events) :
    NumberedFromOne (rows.emit supply kind payload status).events := by
  have number := nextSequence_eq numbered
  unfold NumberedFromOne at numbered ⊢
  rw [emit_events, List.map_append, numbered, List.length_append, List.range'_append.symm]
  simp [number, Nat.add_comm]

/-- From these rows to the next ones no counter moves. -/
structure Still (rows next : RunRows) : Prop where
  origin : next.run.origin = rows.run.origin
  cursor : next.run.cursor = rows.run.cursor
  live : next.run.status.terminal = false → rows.run.status.terminal = false
  started : startedAttempts next.events = startedAttempts rows.events
  ended : endedAttempts next.events = endedAttempts rows.events
  announced : announcedSteps next.events = announcedSteps rows.events
  checkpointed : checkpointCount next.events = checkpointCount rows.events
  numbered : NumberedFromOne rows.events → NumberedFromOne next.events
  decisions : next.decisions = rows.decisions
  effects : next.effects = rows.effects

theorem Still.trans (first : Still rows next) (second : Still next last) : Still rows last where
  origin := second.origin.trans first.origin
  cursor := second.cursor.trans first.cursor
  live alive := first.live (second.live alive)
  started := second.started.trans first.started
  ended := second.ended.trans first.ended
  announced := second.announced.trans first.announced
  checkpointed := second.checkpointed.trans first.checkpointed
  numbered old := second.numbered (first.numbered old)
  decisions := second.decisions.trans first.decisions
  effects := second.effects.trans first.effects

theorem still_run {run : MobileRun} (origin : run.origin = rows.run.origin) (cursor : run.cursor = rows.run.cursor)
    (live : run.status.terminal = false → rows.run.status.terminal = false) : Still rows { rows with run := run } :=
  ⟨origin, cursor, live, rfl, rfl, rfl, rfl, id, rfl, rfl⟩

theorem still_emit (quiet : kind.quiet = true) : Still rows (rows.emit supply kind payload status) := by
  simp only [MobileEventType.quiet, ne_eq, Bool.and_eq_true, decide_not, Bool.not_eq_true',
    decide_eq_false_iff_not] at quiet
  obtain ⟨⟨⟨⟨other, unstarted⟩, unfailed⟩, unsucceeded⟩, unmarked⟩ := quiet
  refine ⟨rfl, rfl, id, ?_, ?_, ?_, ?_, numbered_emit, rfl, rfl⟩ <;> rw [emit_events]
  · simp [unstarted]
  · simp [MobileEvent.endsAttempt, unfailed, unsucceeded]
  · simp [other]
  · simp [unmarked]

theorem still_run_emit {run : MobileRun} (origin : run.origin = rows.run.origin) (cursor : run.cursor = rows.run.cursor)
    (live : run.status.terminal = false → rows.run.status.terminal = false) (quiet : kind.quiet = true) :
    Still rows (({ rows with run := run } : RunRows).emit supply kind payload status) :=
  .trans (still_run origin cursor live) (still_emit quiet)

theorem Still.refl : Still rows rows := still_run rfl rfl id

theorem still_fail {code : Json} {reason : Option String} : Still rows (rows.fail supply code reason) :=
  still_run_emit rfl rfl (fun alive => by cases alive) rfl

theorem still_save : Still rows (rows.save supply) := still_run rfl rfl id

theorem still_activate (supply : Supply) : Still rows (rows.activate supply) := by
  unfold activate
  split
  · rename_i queued
    exact still_run_emit rfl rfl (fun _ => by rw [queued]; rfl) rfl
  · exact .refl

/-- Every counter agrees with the events. The attempt that is `due` was started and has not ended yet. -/
structure Aligned (due : Option (Json × Json × Json)) (rows : RunRows) : Prop where
  numbered : NumberedFromOne rows.events
  paired : startedAttempts rows.events = endedAttempts rows.events ++ due.toList
  distinct : (startedAttempts rows.events).Nodup
  past : rows.run.status.terminal = false → ∀ identity ∈ endedAttempts rows.events, ∃ step attempt : Nat,
    identity.1 = .int step ∧ identity.2.2 = .int attempt ∧
      (step < rows.run.currentStep ∨ step = rows.run.currentStep ∧ attempt < rows.run.nextAttempt)
  checkpointed : checkpointCount rows.events = rows.run.currentStep
  announced : announcedSteps rows.events =
    (List.range (rows.run.lastAnnouncedStep + 1).toNat).map fun step : Nat => .int step
  cursor : rows.run.lastAnnouncedStep = rows.run.currentStep ∨ rows.run.lastAnnouncedStep + 1 = rows.run.currentStep

variable {due : Option (Json × Json × Json)}

theorem Aligned.still (aligned : Aligned due rows) (still : Still rows next) : Aligned due next := by
  obtain ⟨step, attempt, announced⟩ : next.run.currentStep = rows.run.currentStep ∧
      next.run.nextAttempt = rows.run.nextAttempt ∧ next.run.lastAnnouncedStep = rows.run.lastAnnouncedStep := by
    simpa [MobileRun.cursor] using still.cursor
  refine ⟨still.numbered aligned.numbered, ?_, ?_, fun alive => ?_, ?_, ?_, ?_⟩
  · rw [still.started, still.ended, aligned.paired]
  · rw [still.started]
    exact aligned.distinct
  · rw [still.ended, step, attempt]
    exact aligned.past (still.live alive)
  · rw [still.checkpointed, step, aligned.checkpointed]
  · rw [still.announced, announced, aligned.announced]
  · rw [announced, step]
    exact aligned.cursor

/-- Decisions and effects do not matter. -/
theorem Aligned.congr (aligned : Aligned due rows) (run : next.run = rows.run) (events : next.events = rows.events) :
    Aligned due next := by
  obtain ⟨numbered, paired, distinct, past, checkpointed, announced, cursor⟩ := aligned
  rw [← run, ← events] at *
  exact ⟨numbered, paired, distinct, past, checkpointed, announced, cursor⟩

theorem aligned_created {run : MobileRun} (step : run.currentStep = 0) (announced : run.lastAnnouncedStep = -1) :
    Aligned none (created supply run) := by
  have bare : Aligned none (⟨run, [], [], []⟩ : RunRows) := by
    refine ⟨rfl, rfl, .nil, fun _ => nofun, step.symm, ?_, .inr ?_⟩
    · simp [announced, announcedSteps]
    · simp [announced, step]
  exact bare.still (still_emit rfl)

theorem Aligned.announce (aligned : Aligned none rows) (supply : Supply) (action : Dict) :
    Aligned none (rows.announce supply action) := by
  unfold RunRows.announce
  split
  · exact aligned
  · rename_i other
    have behind := aligned.cursor.resolve_left other
    have known : (rows.run.lastAnnouncedStep + 1).toNat = rows.run.currentStep := by omega
    refine ⟨numbered_emit aligned.numbered, ?_, ?_, fun alive => ?_, ?_, ?_, .inl rfl⟩
    · simpa [emit_events, MobileEvent.endsAttempt] using aligned.paired
    · simpa [emit_events] using aligned.distinct
    · simpa [emit_events, MobileEvent.endsAttempt] using aligned.past alive
    · simpa [emit_events] using aligned.checkpointed
    · have next : ((rows.run.currentStep : Int) + 1).toNat = rows.run.currentStep + 1 := by omega
      have before := aligned.announced
      rw [known] at before
      simp [emit_events, before, next, List.range_succ]

theorem announce_last {action : Dict} :
    (rows.announce supply action).run.lastAnnouncedStep = (rows.announce supply action).run.currentStep := by
  unfold RunRows.announce
  split
  · assumption
  · rfl

/-- The attempt at the cursor is a new one. -/
theorem Aligned.open (aligned : Aligned none rows) (alive : rows.run.status.terminal = false) (supply : Supply)
    (name : Json) (status : String) :
    Aligned (some (.int rows.run.currentStep, name, .int rows.run.nextAttempt))
      (rows.emit supply .toolAttemptStarted (rows.attemptContext name) status) := by
  have paired := aligned.paired
  simp only [Option.toList_none, List.append_nil] at paired
  have new : (Json.int rows.run.currentStep, name, Json.int rows.run.nextAttempt) ∉ startedAttempts rows.events := by
    intro old
    rw [paired] at old
    obtain ⟨step, attempt, atStep, atAttempt, before⟩ := aligned.past alive _ old
    simp only [Json.int.injEq, Nat.cast_inj] at atStep atAttempt
    omega
  have identity : identityIn (rows.attemptContext name) =
      (.int rows.run.currentStep, name, .int rows.run.nextAttempt) := by
    simp [identityIn, attemptContext, List.lookup_cons]
  refine ⟨numbered_emit aligned.numbered, ?_, ?_, fun alive => ?_, ?_, ?_, aligned.cursor⟩
  · simp [emit_events, MobileEvent.endsAttempt, MobileEvent.identity, identity, paired]
  · have apart := aligned.distinct.concat new
    rw [List.concat_eq_append] at apart
    simpa [emit_events, MobileEvent.identity, identity] using apart
  · simpa [emit_events, MobileEvent.endsAttempt] using aligned.past alive
  · simpa [emit_events] using aligned.checkpointed
  · simpa [emit_events] using aligned.announced

/-- A failed attempt ends: another one is due, or the run is over. -/
theorem Aligned.attemptFailed {name : Json} {code : String} {transient : Bool}
    (aligned : Aligned (some (.int rows.run.currentStep, name, .int rows.run.nextAttempt)) rows)
    (alive : rows.run.status.terminal = false) :
    Aligned none (rows.attemptFailed supply (rows.attemptContext name) code transient) := by
  have paired := aligned.paired
  have identity : identityIn (rows.attemptContext name ++ [("code", .str code), ("transient", .bool transient)]) =
      (.int rows.run.currentStep, name, .int rows.run.nextAttempt) := by
    simp [identityIn, attemptContext, List.lookup_cons]
  have closed : ∀ run : MobileRun, run.currentStep = rows.run.currentStep →
      run.lastAnnouncedStep = rows.run.lastAnnouncedStep →
      (run.status.terminal = false → rows.run.status.terminal = false ∧ rows.run.nextAttempt < run.nextAttempt) →
      Aligned none { (rows.emit supply .toolAttemptFailed
        (rows.attemptContext name ++ [("code", .str code), ("transient", .bool transient)]) "error") with run := run } := by
    intro run step announced live
    refine ⟨numbered_emit aligned.numbered, ?_, ?_, fun alive => ?_, ?_, ?_, ?_⟩
    · simpa [emit_events, MobileEvent.endsAttempt, MobileEvent.identity, identity] using paired
    · simpa [emit_events] using aligned.distinct
    · obtain ⟨was, later⟩ := live alive
      have ended : endedAttempts (rows.emit supply .toolAttemptFailed
          (rows.attemptContext name ++ [("code", .str code), ("transient", .bool transient)]) "error").events =
          endedAttempts rows.events ++ [(.int rows.run.currentStep, name, .int rows.run.nextAttempt)] := by
        simp [emit_events, MobileEvent.endsAttempt, MobileEvent.identity, identity]
      rw [ended, List.forall_mem_append, List.forall_mem_singleton, step]
      refine ⟨fun old inside => ?_, rows.run.currentStep, rows.run.nextAttempt, rfl, rfl, .inr ⟨rfl, later⟩⟩
      obtain ⟨step, attempt, atStep, atAttempt, before⟩ := aligned.past was old inside
      have still : step < rows.run.currentStep ∨ step = rows.run.currentStep ∧ attempt < run.nextAttempt := by omega
      exact ⟨step, attempt, atStep, atAttempt, still⟩
    · simpa [emit_events, step] using aligned.checkpointed
    · simpa [emit_events, announced] using aligned.announced
    · simpa [announced, step] using aligned.cursor
  unfold RunRows.attemptFailed
  split
  · exact closed _ rfl rfl fun _ => ⟨alive, Nat.lt_succ_self _⟩
  · have stopped := closed { rows.run with status := .failed } rfl rfl (fun alive => by cases alive)
    exact stopped.still (still_run_emit rfl rfl (fun alive => by cases alive) rfl)

theorem Aligned.attemptSucceeded {name output : Json}
    (aligned : Aligned (some (.int rows.run.currentStep, name, .int rows.run.nextAttempt)) rows)
    (alive : rows.run.status.terminal = false) (announced : rows.run.lastAnnouncedStep = rows.run.currentStep) :
    Aligned none (rows.attemptSucceeded supply (rows.attemptContext name) output) := by
  have paired := aligned.paired
  have identity : identityIn (rows.attemptContext name ++ [("output", output)]) =
      (.int rows.run.currentStep, name, .int rows.run.nextAttempt) := by
    simp [identityIn, attemptContext, List.lookup_cons]
  refine ⟨numbered_emit (numbered_emit aligned.numbered), ?_, ?_, fun _ => ?_, ?_, ?_, .inr ?_⟩
  · simpa [RunRows.attemptSucceeded, emit_events, MobileEvent.endsAttempt, MobileEvent.identity, identity] using paired
  · simpa [RunRows.attemptSucceeded, emit_events] using aligned.distinct
  · have ended : endedAttempts (rows.attemptSucceeded supply (rows.attemptContext name) output).events =
        endedAttempts rows.events ++ [(.int rows.run.currentStep, name, .int rows.run.nextAttempt)] := by
      simp [RunRows.attemptSucceeded, emit_events, MobileEvent.endsAttempt, MobileEvent.identity, identity]
    rw [ended, List.forall_mem_append, List.forall_mem_singleton]
    refine ⟨fun old inside => ?_, rows.run.currentStep, rows.run.nextAttempt, rfl, rfl, .inl (Nat.lt_succ_self _)⟩
    obtain ⟨step, attempt, atStep, atAttempt, before⟩ := aligned.past alive old inside
    have earlier : step < rows.run.currentStep + 1 := by omega
    exact ⟨step, attempt, atStep, atAttempt, .inl earlier⟩
  · simpa [RunRows.attemptSucceeded, emit_events] using aligned.checkpointed
  · simpa [RunRows.attemptSucceeded, emit_events] using aligned.announced
  · simpa [RunRows.attemptSucceeded] using announced

theorem writeEffect_cases {name output raw : Json} {fingerprint : String}
    (written : rows.writeEffect name fingerprint raw = .ok (next, output)) :
    next = rows ∧ (isRollback name = true → ∃ effect ∈ rows.effects, effect.actionStep = rows.run.currentStep) ∨
      isRollback name = true ∧
        next = { rows with effects := rows.effects ++ [⟨rows.run.currentStep, fingerprint, raw⟩] } := by
  unfold writeEffect at written
  split at written
  · rename_i rollback
    split at written
    · rename_i existing found
      split at written
      · cases written
        have there : existing.actionStep = rows.run.currentStep := by simpa using List.find?_some found
        exact .inl ⟨rfl, fun _ => ⟨existing, List.mem_of_find?_eq_some found, there⟩⟩
      · cases written
    · cases written
      exact .inr ⟨rollback, rfl⟩
  · rename_i other
    cases written
    exact .inl ⟨rfl, fun rollback => absurd rollback other⟩

/-- How an attempt that was made ends. -/
theorem performAttempt_cases {scenario : Dict} {name arguments : Json} {fingerprint : String}
    (performed : rows.performAttempt supply scenario name arguments fingerprint = .ok next) :
    ∃ middle, Still (rows.emit supply .toolAttemptStarted (rows.attemptContext name) "ok") middle ∧
      middle.run = rows.run ∧ ((∃ code transient, next = middle.attemptFailed supply (rows.attemptContext name) code transient) ∨
        ∃ raw written output, middle.writeEffect name fingerprint raw = .ok (written, output) ∧
          next = written.attemptSucceeded supply (rows.attemptContext name) output) := by
  unfold performAttempt at performed
  extract_lets context start at performed
  obtain ⟨declared, -, performed⟩ := Check.bind_ok.mp performed
  obtain ⟨faults, -, performed⟩ := Check.bind_ok.mp performed
  obtain ⟨fault, -, performed⟩ := Check.bind_ok.mp performed
  extract_lets finish at performed
  -- the kind of the fault only decides how the attempt ends
  obtain ⟨kind, ended⟩ : ∃ kind, finish kind = .ok next := by
    cases fault with
    | none => exact ⟨.null, performed⟩
    | some fault =>
      obtain ⟨kind, -, ended⟩ := Check.bind_ok.mp performed
      exact ⟨kind, ended⟩
  simp -zeta only [finish] at ended
  extract_lets injected at ended
  obtain ⟨still, same⟩ : Still start injected ∧ injected.run = rows.run := by
    simp only [injected]
    split
    · exact ⟨still_emit rfl, rfl⟩
    · exact ⟨.refl, rfl⟩
  obtain ⟨code, -, ended⟩ := Check.bind_ok.mp ended
  split at ended
  · rename_i code
    cases ended
    exact ⟨injected, still, same, .inl ⟨code, true, rfl⟩⟩
  · split at ended
    · obtain ⟨⟨written, output⟩, wrote, ended⟩ := Check.bind_ok.mp ended
      cases ended
      exact ⟨injected, still, same, .inr ⟨_, written, output, wrote, rfl⟩⟩
    · cases ended
      exact ⟨_, still.trans (still_emit rfl), same, .inl ⟨"invalid_output", false, rfl⟩⟩

theorem still_awaitApproval {name arguments : Json} {fingerprint : String} (alive : rows.run.status.terminal = false) :
    Still rows (rows.awaitApproval supply name arguments fingerprint) :=
  still_run_emit rfl rfl (fun _ => alive) rfl

theorem finish_still {action : Dict} (finished : rows.finish supply action = .ok next) : Still rows next := by
  unfold finish at finished
  obtain ⟨outcome, -, finished⟩ := Check.bind_ok.mp finished
  obtain ⟨summary, -, finished⟩ := Check.bind_ok.mp finished
  obtain ⟨evidence, -, finished⟩ := Check.bind_ok.mp finished
  cases finished
  exact still_run_emit rfl rfl (fun alive => by cases alive) rfl

/-- The action of a step. -/
def actionAt (scenario : Dict) (step : Nat) : Option Dict :=
  match scenario.lookup "actions" with
  | some (.arr actions) => actions[step]? >>= Json.obj?
  | _ => none

theorem item_ok {items : Dict} {key : String} {found : Json} (read : item (.obj items) key = .ok found) :
    items.lookup key = some found := by
  simp only [item] at read
  cases known : items.lookup key with
  | none =>
    rw [known] at read
    cases read
  | some value =>
    rw [known] at read
    cases read
    rfl

/-- Only a list has an action to perform. -/
theorem actionAt_eq {scenario action : Dict} {actions : Json} {step : Nat}
    (listed : item (.obj scenario) "actions" = .ok actions) (found : entry actions step = .ok (some (.obj action))) :
    actionAt scenario step = some action := by
  unfold actionAt
  rw [item_ok listed]
  cases actions with
  | arr values =>
    simp only [entry, Except.ok.injEq] at found
    simp [found, Json.obj?]
  | str text => simp [entry] at found
  | obj items =>
    simp only [entry] at found
    split at found <;> cases found
  | null | bool | int | float => cases found

/-- A call either stops the run or makes an attempt, a rollback only with an approval of this very action. -/
theorem attempt_cases {sha256 : Json → String} {scenario action : Dict}
    (attempted : rows.attempt sha256 supply scenario action = .ok next) (alive : rows.run.status.terminal = false) :
    Still rows next ∨ ∃ name arguments fingerprint,
      action.lookup "tool_name" = some name ∧ digest sha256 (.obj action) = .ok fingerprint ∧
      (isRollback name = true → ∃ decision ∈ rows.decisions, decision.actionStep = rows.run.currentStep ∧
        decision.allow = true ∧ decision.actionFingerprint = fingerprint) ∧
      rows.performAttempt supply scenario name arguments fingerprint = .ok next := by
  unfold attempt at attempted
  obtain ⟨name, named, attempted⟩ := Check.bind_ok.mp attempted
  obtain ⟨arguments, -, attempted⟩ := Check.bind_ok.mp attempted
  obtain ⟨valid, -, attempted⟩ := Check.bind_ok.mp attempted
  split at attempted
  · obtain ⟨fingerprint, hashed, attempted⟩ := Check.bind_ok.mp attempted
    split at attempted
    · split at attempted
      · cases attempted
        exact .inl (still_awaitApproval alive)
      · rename_i decision found
        have there : decision.actionStep = rows.run.currentStep := by simpa using List.find?_some found
        split at attempted
        · rename_i matching
          exact .inr ⟨name, arguments, fingerprint, item_ok named, hashed,
            fun _ => ⟨decision, List.mem_of_find?_eq_some found, there, matching.2, matching.1⟩, attempted⟩
        · cases attempted
          exact .inl still_fail
    · rename_i other
      exact .inr ⟨name, arguments, fingerprint, item_ok named, hashed, fun rollback => absurd rollback other, attempted⟩
  · cases attempted
    exact .inl ((still_emit rfl).trans still_fail)

/-- What is due at the current step. -/
theorem act_cases {sha256 : Json → String} {scenario : Dict} (acted : rows.act sha256 supply scenario = .ok next)
    (alive : rows.run.status.terminal = false) :
    Still rows next ∨ ∃ action, actionAt scenario rows.run.currentStep = some action ∧
      (Still (rows.announce supply action) next ∨ ∃ name arguments fingerprint,
        action.lookup "tool_name" = some name ∧ digest sha256 (.obj action) = .ok fingerprint ∧
        (isRollback name = true → ∃ decision ∈ (rows.announce supply action).decisions,
          decision.actionStep = (rows.announce supply action).run.currentStep ∧ decision.allow = true ∧
            decision.actionFingerprint = fingerprint) ∧
        (rows.announce supply action).performAttempt supply scenario name arguments fingerprint = .ok next) := by
  unfold act at acted
  obtain ⟨actions, listed, acted⟩ := Check.bind_ok.mp acted
  obtain ⟨due, found, acted⟩ := Check.bind_ok.mp acted
  split at acted
  · cases acted
    exact .inl still_fail
  · rename_i action
    refine .inr ⟨action, actionAt_eq listed found, ?_⟩
    have still_alive : (rows.announce supply action).run.status.terminal = false := by
      unfold announce
      split <;> exact alive
    obtain ⟨type, -, acted⟩ := Check.bind_ok.mp acted
    split at acted
    · exact .inl (finish_still acted)
    · split at acted
      · obtain ⟨code, -, acted⟩ := Check.bind_ok.mp acted
        cases acted
        exact .inl still_fail
      · exact attempt_cases acted still_alive
  · cases acted

/-- An attempt that was made leaves the counters aligned. -/
theorem Aligned.performAttempt {scenario : Dict} {name arguments : Json} {fingerprint : String}
    (aligned : Aligned none rows) (alive : rows.run.status.terminal = false)
    (announced : rows.run.lastAnnouncedStep = rows.run.currentStep)
    (performed : rows.performAttempt supply scenario name arguments fingerprint = .ok next) : Aligned none next := by
  obtain ⟨middle, still, same, ended⟩ := performAttempt_cases performed
  have opened := (aligned.open alive supply name "ok").still still
  have context : rows.attemptContext name = middle.attemptContext name := by rw [attemptContext, attemptContext, same]
  rw [← same] at alive announced opened
  rw [context] at ended
  rcases ended with ⟨code, transient, rfl⟩ | ⟨raw, written, output, wrote, rfl⟩
  · exact opened.attemptFailed alive
  · obtain ⟨run, events⟩ : written.run = middle.run ∧ written.events = middle.events := by
      rcases writeEffect_cases wrote with ⟨rfl, -⟩ | ⟨-, rfl⟩ <;> exact ⟨rfl, rfl⟩
    have context : middle.attemptContext name = written.attemptContext name := by
      rw [attemptContext, attemptContext, run]
    have stored := opened.congr run events
    rw [← run] at alive announced stored
    rw [context]
    exact stored.attemptSucceeded alive announced

theorem announce_run {action : Dict} : (rows.announce supply action).run.currentStep = rows.run.currentStep ∧
    (rows.announce supply action).run.status = rows.run.status := by
  unfold announce
  split <;> exact ⟨rfl, rfl⟩

theorem alive_of_unsettled (due : ¬ rows.settled = true) : rows.run.status.terminal = false := by
  simp only [settled, Bool.or_eq_true, not_or, Bool.not_eq_true] at due
  exact due.1

theorem activate_alive (alive : rows.run.status.terminal = false) :
    (rows.activate supply).run.status.terminal = false := by
  unfold activate
  split
  · rfl
  · exact alive

/-- A round of the loop leaves the counters aligned. -/
theorem Aligned.advance {sha256 : Json → String} {app : MobileApp} (aligned : Aligned none rows)
    (advanced : rows.advance sha256 app supply = .ok next) : Aligned none next := by
  unfold RunRows.advance at advanced
  split at advanced
  · cases advanced
    exact aligned
  · rename_i due
    obtain ⟨scenario, -, advanced⟩ := Check.bind_ok.mp advanced
    obtain ⟨acted, ended, advanced⟩ := Check.bind_ok.mp advanced
    cases advanced
    refine Aligned.still ?_ still_save
    have alive : (rows.activate supply).run.status.terminal = false := activate_alive (alive_of_unsettled due)
    have active := aligned.still (still_activate supply)
    rcases act_cases ended alive with still | ⟨action, -, still | ⟨name, arguments, fingerprint, -, -, -, performed⟩⟩
    · exact active.still still
    · exact (active.announce supply action).still still
    · have told := active.announce supply action
      refine told.performAttempt ?_ announce_last performed
      rw [announce_run.2]
      exact alive

theorem decide_cases {sha256 : Json → String} {app : MobileApp} {decision : MobileDecision}
    (decided : rows.decide sha256 app supply decision = .ok next) :
    next = rows ∨ rows.awaits decision = true ∧ rows.decision? decision.actionStep = none ∧
      next = (rows.decided supply decision).save supply := by
  unfold RunRows.decide at decided
  obtain ⟨scenario, -, decided⟩ := Check.bind_ok.mp decided
  split at decided
  · split at decided
    · cases decided
      exact .inl rfl
    · cases decided
  · rename_i new
    split at decided
    · rename_i awaited
      cases decided
      exact .inr ⟨awaited, new, rfl⟩
    · cases decided

theorem waiting_of_awaits {decision : MobileDecision} (awaited : rows.awaits decision = true) :
    rows.run.status = .waitingApproval := by
  simp only [awaits, Bool.and_eq_true, decide_eq_true_eq] at awaited
  exact awaited.1

/-- Once it is stored a decision moves no counter. -/
theorem still_decided {decision : MobileDecision} (awaited : rows.awaits decision = true) :
    Still { rows with decisions := rows.decisions ++ [decision] } (rows.decided supply decision) := by
  have alive : rows.run.status.terminal = false := by
    rw [waiting_of_awaits awaited]
    rfl
  have recorded : ∀ run : MobileRun, run.origin = rows.run.origin → run.cursor = rows.run.cursor →
      Still { rows with decisions := rows.decisions ++ [decision] }
        { ({ rows with decisions := rows.decisions ++ [decision] } : RunRows).emit supply .approvalRecorded
            decision.payload "ok" with run := run } :=
    fun run origin cursor => (still_emit rfl).trans (still_run origin cursor fun _ => alive)
  unfold decided
  split
  · exact recorded _ rfl rfl
  · exact ((recorded _ rfl rfl).trans (still_emit rfl)).trans still_fail

/-- So does a decision. -/
theorem Aligned.decide {sha256 : Json → String} {app : MobileApp} {decision : MobileDecision}
    (aligned : Aligned none rows) (decided : rows.decide sha256 app supply decision = .ok next) : Aligned none next := by
  rcases decide_cases decided with rfl | ⟨awaited, -, rfl⟩
  · exact aligned
  · have stored : Aligned none { rows with decisions := rows.decisions ++ [decision] } := aligned.congr rfl rfl
    exact (stored.still (still_decided awaited)).still still_save

/-- A run that is over does not change any more. -/
theorem advance_settled {sha256 : Json → String} {app : MobileApp} (settled : rows.settled = true)
    (advanced : rows.advance sha256 app supply = .ok next) : next = rows := by
  unfold advance at advanced
  rw [if_pos settled] at advanced
  cases advanced
  rfl

theorem decide_terminal {sha256 : Json → String} {app : MobileApp} {decision : MobileDecision}
    (stopped : rows.run.status.terminal = true) (decided : rows.decide sha256 app supply decision = .ok next) :
    next = rows := by
  rcases decide_cases decided with same | ⟨awaited, -, -⟩
  · exact same
  · rw [waiting_of_awaits awaited] at stopped
    cases stopped

end RunRows

end ReliabilityLab
