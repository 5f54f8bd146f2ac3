import Mathlib.Logic.Function.Basic
import ReliabilityLab.Foundation.Json
import ReliabilityLab.Foundation.Rounding

namespace ReliabilityLab.Web

/-- The payload of an event as the dashboard reads it: a field of another type counts as missing. -/
structure TracePayload where
  toolName : Option String
  attempt : Option PyFloat
  actionStep : Option PyFloat
  transient : Option Bool
  retryDelaySeconds : Option PyFloat

/-- An event of a trace; identifiers are only compared. -/
structure TraceEvent (ι : Type) where
  id : ι
  spanId : ι
  eventType : String
  status : String
  payload : TracePayload

/-- `${step}:${tool}`: the text of a number has no colon, and no two numbers have the same. -/
abbrev Action := Int × String

variable {ι : Type}

def logicalAction (event : TraceEvent ι) : Option Action :=
  match event.payload.toolName, event.payload.actionStep with
  | some tool, some (.finite step) => if tool = "" ∨ step.den ≠ 1 then none else some (step.num, tool)
  | _, _ => none

def attemptNumber (event : TraceEvent ι) : Option Nat :=
  match event.payload.attempt with
  | some (.finite attempt) => if attempt.den = 1 ∧ 0 < attempt.num then some attempt.num.toNat else none
  | _ => none

/-- A finite delay that is not negative. -/
def delayed (event : TraceEvent ι) : Bool :=
  match event.payload.retryDelaySeconds with
  | some (.finite delay) => 0 ≤ delay
  | _ => false

/-- `attempt === priorAttempt + 1`, where the sum is rounded as every number is. -/
def follows (priorAttempt attempt : Nat) : Bool := double.round ((priorAttempt + 1 : Nat) : ℚ≥0) = some (attempt : ℚ≥0)

structure ActiveRetryAttempt (ι : Type) where
  attempt : Nat
  spanId : ι

/-- The two maps and the two sets of the loop. -/
structure AttemptSemantics (ι : Type) where
  scheduledAfter : Action → Option Nat
  activeRetryAttempt : Action → Option (ActiveRetryAttempt ι)
  retries : List ι
  recoveries : List ι

def AttemptSemantics.empty : AttemptSemantics ι := ⟨fun _ => none, fun _ => none, [], []⟩

/-- A failure after which a retry is scheduled. -/
def schedules (event : TraceEvent ι) : Bool := event.status = "error" && event.payload.transient = some true && delayed event

/-- The retry that a started event begins, after what is scheduled for its action. -/
def beginsRetry (event : TraceEvent ι) (prior : Option Nat) (attempt : Nat) : Bool :=
  event.status = "ok" && prior.any (follows · attempt)

variable [DecidableEq ι]

/-- A succeeded event closes the active retry of its action. -/
def closesRetry (event : TraceEvent ι) (active : Option (ActiveRetryAttempt ι)) (attempt : Nat) : Bool :=
  event.status = "ok" && active.any fun retry => retry.attempt = attempt && retry.spanId = event.spanId

namespace AttemptSemantics
variable (marks : AttemptSemantics ι) (event : TraceEvent ι) (action : Action) (attempt : Nat)

def failed : AttemptSemantics ι :=
  { marks with
    activeRetryAttempt := Function.update marks.activeRetryAttempt action none
    scheduledAfter := Function.update marks.scheduledAfter action (if schedules event then some attempt else none) }

def started : AttemptSemantics ι :=
  let cleared := { marks with scheduledAfter := Function.update marks.scheduledAfter action none }
  if beginsRetry event (marks.scheduledAfter action) attempt then
    { cleared with
      retries := marks.retries.insert event.id
      activeRetryAttempt := Function.update marks.activeRetryAttempt action (some ⟨attempt, event.spanId⟩) }
  else { cleared with activeRetryAttempt := Function.update marks.activeRetryAttempt action none }

def succeeded : AttemptSemantics ι :=
  { marks with
    recoveries := if closesRetry event (marks.activeRetryAttempt action) attempt then marks.recoveries.insert event.id
      else marks.recoveries
    activeRetryAttempt := Function.update marks.activeRetryAttempt action none }

/-- One turn of the loop. -/
def mark : AttemptSemantics ι :=
  match logicalAction event, attemptNumber event with
  | some action, some attempt =>
    if event.eventType = "tool.attempt.failed" then marks.failed event action attempt
    else if event.eventType = "tool.attempt.started" then marks.started event action attempt
    else if event.eventType = "tool.attempt.succeeded" then marks.succeeded event action attempt
    else marks
  | _, _ => marks

end AttemptSemantics

def attemptSemantics (events : List (TraceEvent ι)) : AttemptSemantics ι := events.foldl .mark .empty

omit [DecidableEq ι] in
theorem schedules_iff {event : TraceEvent ι} : schedules event = true ↔
    event.status = "error" ∧ event.payload.transient = some true ∧
      ∃ delay, event.payload.retryDelaySeconds = some (.finite delay) ∧ 0 ≤ delay := by
  have delay : delayed event = true ↔ ∃ delay, event.payload.retryDelaySeconds = some (.finite delay) ∧ 0 ≤ delay := by
    unfold delayed
    split
    · rename_i delay found
      simp [found]
    · rename_i other
      constructor
      · intro impossible
        cases impossible
      · rintro ⟨delay, found, _⟩
        exact absurd found (other delay)
  simp [schedules, delay, and_assoc]

/-- No event of these kinds and of the action, with an attempt number, is among the events. -/
def Silent (kinds : List String) (action : Action) (events : List (TraceEvent ι)) : Prop :=
  ∀ event ∈ events, logicalAction event = some action → attemptNumber event ≠ none → event.eventType ∉ kinds

def attemptKinds : List String := ["tool.attempt.failed", "tool.attempt.started", "tool.attempt.succeeded"]

/-- A failed attempt of the action whose retry is scheduled. -/
structure IsScheduled (failed : TraceEvent ι) (action : Action) (attempt : Nat) : Prop where
  kind : failed.eventType = "tool.attempt.failed"
  logical : logicalAction failed = some action
  number : attemptNumber failed = some attempt
  schedules : schedules failed = true

def ScheduledIn (past : List (TraceEvent ι)) (action : Action) (attempt : Nat) : Prop :=
  ∃ before failed between, past = before ++ failed :: between ∧ IsScheduled failed action attempt ∧
    Silent ["tool.attempt.failed", "tool.attempt.started"] action between

/-- The start of the attempt that was scheduled last. -/
structure IsRetry (before : List (TraceEvent ι)) (started : TraceEvent ι) (action : Action) (attempt : Nat) : Prop where
  kind : started.eventType = "tool.attempt.started"
  status : started.status = "ok"
  logical : logicalAction started = some action
  number : attemptNumber started = some attempt
  scheduled : ∃ prior, ScheduledIn before action prior ∧ follows prior attempt = true

/-- A retry that nothing of its action has followed. -/
def ActiveIn (retries : List ι) (past : List (TraceEvent ι)) (action : Action) (attempt : Nat) (span : ι) : Prop :=
  ∃ before started between, past = before ++ started :: between ∧ IsRetry before started action attempt ∧
    started.spanId = span ∧ started.id ∈ retries ∧ Silent attemptKinds action between

structure IsRecovery (retries : List ι) (before : List (TraceEvent ι)) (succeeded : TraceEvent ι) (action : Action)
    (attempt : Nat) : Prop where
  kind : succeeded.eventType = "tool.attempt.succeeded"
  status : succeeded.status = "ok"
  logical : logicalAction succeeded = some action
  number : attemptNumber succeeded = some attempt
  active : ActiveIn retries before action attempt succeeded.spanId

def RetriedIn (past : List (TraceEvent ι)) (id : ι) : Prop :=
  ∃ before started after action attempt, past = before ++ started :: after ∧ started.id = id ∧
    IsRetry before started action attempt

def RecoveredIn (retries : List ι) (past : List (TraceEvent ι)) (id : ι) : Prop :=
  ∃ before succeeded after action attempt, past = before ++ succeeded :: after ∧ succeeded.id = id ∧
    IsRecovery retries before succeeded action attempt

section Snoc
variable {past : List (TraceEvent ι)} {event : TraceEvent ι} {action : Action} {attempt : Nat} {retries more : List ι}
  {id span : ι}
omit [DecidableEq ι]

theorem Silent.snoc {kinds : List String} {between : List (TraceEvent ι)} (silent : Silent kinds action between)
    (skip : logicalAction event = some action → attemptNumber event ≠ none → event.eventType ∉ kinds) :
    Silent kinds action (between ++ [event]) := by
  intro other member
  rcases List.mem_append.mp member with inside | last
  · exact silent other inside
  · cases List.mem_singleton.mp last
    exact skip

theorem ScheduledIn.snoc (scheduled : ScheduledIn past action attempt)
    (skip : logicalAction event = some action → attemptNumber event ≠ none →
      event.eventType ∉ ["tool.attempt.failed", "tool.attempt.started"]) :
    ScheduledIn (past ++ [event]) action attempt := by
  obtain ⟨before, failed, between, rfl, is, silent⟩ := scheduled
  exact ⟨before, failed, between ++ [event], by simp, is, silent.snoc skip⟩

theorem ActiveIn.snoc (active : ActiveIn retries past action attempt span)
    (skip : logicalAction event = some action → attemptNumber event ≠ none → event.eventType ∉ attemptKinds) :
    ActiveIn retries (past ++ [event]) action attempt span := by
  obtain ⟨before, started, between, rfl, is, same, marked, silent⟩ := active
  exact ⟨before, started, between ++ [event], by simp, is, same, marked, silent.snoc skip⟩

theorem ActiveIn.mono (active : ActiveIn retries past action attempt span) (sub : retries ⊆ more) :
    ActiveIn more past action attempt span := by
  obtain ⟨before, started, between, split, is, same, marked, silent⟩ := active
  exact ⟨before, started, between, split, is, same, sub marked, silent⟩

theorem RetriedIn.snoc (retried : RetriedIn past id) : RetriedIn (past ++ [event]) id := by
  obtain ⟨before, started, after, action, attempt, rfl, same, is⟩ := retried
  exact ⟨before, started, after ++ [event], action, attempt, by simp, same, is⟩

theorem RecoveredIn.snoc (recovered : RecoveredIn retries past id) : RecoveredIn retries (past ++ [event]) id := by
  obtain ⟨before, succeeded, after, action, attempt, rfl, same, is⟩ := recovered
  exact ⟨before, succeeded, after ++ [event], action, attempt, by simp, same, is⟩

theorem RecoveredIn.mono (recovered : RecoveredIn retries past id) (sub : retries ⊆ more) : RecoveredIn more past id := by
  obtain ⟨before, succeeded, after, action, attempt, split, same, is⟩ := recovered
  exact ⟨before, succeeded, after, action, attempt, split, same, { is with active := is.active.mono sub }⟩

end Snoc

/-- What the maps and the sets of the loop say about the events so far. -/
structure AttemptSemantics.Sound (past : List (TraceEvent ι)) (marks : AttemptSemantics ι) : Prop where
  scheduled : ∀ action attempt, marks.scheduledAfter action = some attempt → ScheduledIn past action attempt
  active : ∀ action retry, marks.activeRetryAttempt action = some retry →
    ActiveIn marks.retries past action retry.attempt retry.spanId
  retries : ∀ id ∈ marks.retries, RetriedIn past id
  recoveries : ∀ id ∈ marks.recoveries, RecoveredIn marks.retries past id

namespace AttemptSemantics.Sound
variable {past : List (TraceEvent ι)} {marks : AttemptSemantics ι} {event : TraceEvent ι} {action : Action} {attempt : Nat}

omit [DecidableEq ι] in
/-- An event that is no attempt of an action leaves what is known. -/
theorem skipped (sound : Sound past marks) (skip : ∀ action, logicalAction event = some action → attemptNumber event ≠ none →
    event.eventType ∉ attemptKinds) : Sound (past ++ [event]) marks where
  scheduled action attempt kept := (sound.scheduled action attempt kept).snoc fun logical number member =>
    skip action logical number (by simp [attemptKinds] at member ⊢; tauto)
  active action retry kept := (sound.active action retry kept).snoc (skip action)
  retries id member := (sound.retries id member).snoc
  recoveries id member := (sound.recoveries id member).snoc

omit [DecidableEq ι] in
theorem failed (sound : Sound past marks) (kind : event.eventType = "tool.attempt.failed")
    (logical : logicalAction event = some action) (number : attemptNumber event = some attempt) :
    Sound (past ++ [event]) (marks.failed event action attempt) where
  scheduled other value kept := by
    by_cases same : other = action
    · subst same
      simp only [AttemptSemantics.failed, Function.update_self, Option.ite_none_right_eq_some, Option.some.injEq] at kept
      obtain ⟨schedules, rfl⟩ := kept
      exact ⟨past, event, [], rfl, ⟨kind, logical, number, schedules⟩, fun _ inside => absurd inside List.not_mem_nil⟩
    · simp only [AttemptSemantics.failed, Function.update_of_ne same] at kept
      exact (sound.scheduled other value kept).snoc fun elsewhere =>
        absurd (Option.some.inj (elsewhere.symm.trans logical)) same
  active other retry kept := by
    by_cases same : other = action
    · subst same
      simp [AttemptSemantics.failed] at kept
    · simp only [AttemptSemantics.failed, Function.update_of_ne same] at kept
      exact (sound.active other retry kept).snoc fun elsewhere =>
        absurd (Option.some.inj (elsewhere.symm.trans logical)) same
  retries id member := (sound.retries id member).snoc
  recoveries id member := (sound.recoveries id member).snoc

theorem started (sound : Sound past marks) (kind : event.eventType = "tool.attempt.started")
    (logical : logicalAction event = some action) (number : attemptNumber event = some attempt) :
    Sound (past ++ [event]) (marks.started event action attempt) := by
  have cleared : ∀ other value, Function.update marks.scheduledAfter action none other = some value →
      ScheduledIn (past ++ [event]) other value := by
    intro other value kept
    by_cases same : other = action
    · subst same
      simp at kept
    · rw [Function.update_of_ne same] at kept
      exact (sound.scheduled other value kept).snoc fun elsewhere =>
        absurd (Option.some.inj (elsewhere.symm.trans logical)) same
  have others : ∀ other retry, other ≠ action → marks.activeRetryAttempt other = some retry →
      ActiveIn marks.retries (past ++ [event]) other retry.attempt retry.spanId := fun other retry same kept =>
    (sound.active other retry kept).snoc fun elsewhere => absurd (Option.some.inj (elsewhere.symm.trans logical)) same
  unfold AttemptSemantics.started
  split
  · rename_i begins
    simp only [beginsRetry, Bool.and_eq_true, decide_eq_true_eq, Option.any_eq_true] at begins
    obtain ⟨status, prior, known, next⟩ := begins
    have retry : IsRetry past event action attempt :=
      ⟨kind, status, logical, number, prior, sound.scheduled action prior known, next⟩
    have grown : marks.retries ⊆ marks.retries.insert event.id := fun _ member => List.mem_insert_of_mem member
    refine ⟨cleared, fun other again kept => ?_, fun id member => ?_, fun id member => ?_⟩
    · by_cases same : other = action
      · subst same
        simp only [Function.update_self, Option.some.injEq] at kept
        subst kept
        exact ⟨past, event, [], rfl, retry, rfl, List.mem_insert_self, fun _ inside => absurd inside List.not_mem_nil⟩
      · simp only [Function.update_of_ne same] at kept
        exact (others other again same kept).mono grown
    · rcases List.mem_insert_iff.mp member with rfl | before
      · exact ⟨past, event, [], action, attempt, rfl, rfl, retry⟩
      · exact (sound.retries id before).snoc
    · exact ((sound.recoveries id member).snoc).mono grown
  · refine ⟨cleared, fun other again kept => ?_, fun id member => (sound.retries id member).snoc,
      fun id member => (sound.recoveries id member).snoc⟩
    by_cases same : other = action
    · subst same
      simp at kept
    · simp only [Function.update_of_ne same] at kept
      exact others other again same kept

theorem succeeded (sound : Sound past marks) (kind : event.eventType = "tool.attempt.succeeded")
    (logical : logicalAction event = some action) (number : attemptNumber event = some attempt) :
    Sound (past ++ [event]) (marks.succeeded event action attempt) where
  scheduled other value kept := (sound.scheduled other value kept).snoc fun _ _ member => by simp [kind] at member
  active other retry kept := by
    by_cases same : other = action
    · subst same
      simp [AttemptSemantics.succeeded] at kept
    · simp only [AttemptSemantics.succeeded, Function.update_of_ne same] at kept
      exact (sound.active other retry kept).snoc fun elsewhere =>
        absurd (Option.some.inj (elsewhere.symm.trans logical)) same
  retries id member := (sound.retries id member).snoc
  recoveries id member := by
    simp only [AttemptSemantics.succeeded] at member
    split at member
    · rename_i closes
      rcases List.mem_insert_iff.mp member with rfl | before
      · simp only [closesRetry, Bool.and_eq_true, decide_eq_true_eq, Option.any_eq_true] at closes
        obtain ⟨status, retry, known, rfl, span⟩ := closes
        exact ⟨past, event, [], action, retry.attempt, rfl, rfl,
          ⟨kind, status, logical, number, span ▸ sound.active action retry known⟩⟩
      · exact (sound.recoveries id before).snoc
    · exact (sound.recoveries id member).snoc

/-- One turn of the loop keeps what is known true. -/
theorem mark (sound : Sound past marks) (event : TraceEvent ι) : Sound (past ++ [event]) (marks.mark event) := by
  unfold AttemptSemantics.mark
  split
  · rename_i action attempt logical number
    split
    · rename_i kind
      exact sound.failed kind logical number
    · split
      · rename_i kind
        exact sound.started kind logical number
      · split
        · rename_i kind
          exact sound.succeeded kind logical number
        · rename_i notFailed notStarted notSucceeded
          exact sound.skipped fun _ _ _ => by simp [attemptKinds, notFailed, notStarted, notSucceeded]
  · rename_i unknown
    exact sound.skipped fun action logical number => by
      obtain ⟨attempt, known⟩ := Option.ne_none_iff_exists'.mp number
      exact absurd known (unknown action attempt logical)

end AttemptSemantics.Sound

theorem attemptSemantics_sound (events : List (TraceEvent ι)) : (attemptSemantics events).Sound events := by
  have run : ∀ (rest past : List (TraceEvent ι)) (marks : AttemptSemantics ι), marks.Sound past →
      (rest.foldl .mark marks).Sound (past ++ rest) := by
    intro rest
    induction rest with
    | nil =>
      intro past marks sound
      rwa [List.append_nil]
    | cons event rest ih =>
      intro past marks sound
      have next := ih (past ++ [event]) (marks.mark event) (sound.mark event)
      rwa [List.append_assoc, List.singleton_append] at next
  have start : AttemptSemantics.Sound [] (AttemptSemantics.empty : AttemptSemantics ι) :=
    ⟨fun _ _ impossible => (by cases impossible), fun _ _ impossible => (by cases impossible),
      fun _ impossible => absurd impossible List.not_mem_nil, fun _ impossible => absurd impossible List.not_mem_nil⟩
  exact run events [] .empty start

end ReliabilityLab.Web
