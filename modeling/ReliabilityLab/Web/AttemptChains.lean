import ReliabilityLab.Web.Waterfall

namespace ReliabilityLab.Web
variable {ι : Type}

/-- An attempt event of an action; the number is one that JavaScript counts exactly. -/
structure IsAttempt (kind status : String) (action : Action) (number : Nat) (event : TraceEvent ι) : Prop where
  kind : event.eventType = kind
  status : event.status = status
  logical : logicalAction event = some action
  numbered : attemptNumber event = some number
  small : number + 1 < 2 ^ 53

/-- The attempts that one loop makes for an action from `number` on, cut off anywhere. -/
inductive AttemptChain (action : Action) : Nat → List (TraceEvent ι) → Prop
  | none {number} : AttemptChain action number []
  | begun {number started} : IsAttempt "tool.attempt.started" "ok" action number started →
      AttemptChain action number [started]
  | succeeded {number started succeeded} : IsAttempt "tool.attempt.started" "ok" action number started →
      IsAttempt "tool.attempt.succeeded" "ok" action number succeeded → started.spanId = succeeded.spanId →
      AttemptChain action number [started, succeeded]
  | failed {number started failed} : IsAttempt "tool.attempt.started" "ok" action number started →
      IsAttempt "tool.attempt.failed" "error" action number failed → AttemptChain action number [started, failed]
  | retried {number started failed rest} : IsAttempt "tool.attempt.started" "ok" action number started →
      IsAttempt "tool.attempt.failed" "error" action number failed → schedules failed = true →
      AttemptChain action (number + 1) rest → AttemptChain action number (started :: failed :: rest)

/-- An event of the kind with an attempt number of two or more has this id. -/
def LaterAttempt (kind : String) (events : List (TraceEvent ι)) (id : ι) : Prop :=
  ∃ event ∈ events, event.id = id ∧ event.eventType = kind ∧ ∃ attempt, attemptNumber event = some attempt ∧ 2 ≤ attempt

section Snoc
variable {kind : String} {past : List (TraceEvent ι)} {event : TraceEvent ι} {id : ι} {attempt : Nat}

theorem laterAttempt_snoc : LaterAttempt kind (past ++ [event]) id ↔ LaterAttempt kind past id ∨
    event.id = id ∧ event.eventType = kind ∧ ∃ attempt, attemptNumber event = some attempt ∧ 2 ≤ attempt := by
  simp [LaterAttempt, or_and_right, exists_or]

theorem laterAttempt_other (other : event.eventType ≠ kind) :
    LaterAttempt kind (past ++ [event]) id ↔ LaterAttempt kind past id := by
  simp [laterAttempt_snoc, other]

theorem laterAttempt_numbered (same : event.eventType = kind) (number : attemptNumber event = some attempt) :
    LaterAttempt kind (past ++ [event]) id ↔ LaterAttempt kind past id ∨ event.id = id ∧ 2 ≤ attempt := by
  simp [laterAttempt_snoc, same, number]

end Snoc

theorem attemptNumber_pos {event : TraceEvent ι} {attempt : Nat} (number : attemptNumber event = some attempt) :
    0 < attempt := by
  unfold attemptNumber at number
  split at number
  · rename_i value _
    split at number
    · rename_i whole
      have positive := whole.2
      cases number
      omega
    · cases number
  · cases number

/-- A number follows the one before it. -/
theorem follows_iff {prior attempt : Nat} (small : prior + 1 < 2 ^ 53) : follows prior attempt = true ↔ attempt = prior + 1 := by
  rw [follows, double_natCast small, decide_eq_true_eq, Option.some.injEq, Nat.cast_inj]
  exact eq_comm

variable [DecidableEq ι]

/-- The marks are exactly the later attempts, and what is scheduled is after an attempt with a number. -/
structure AttemptSemantics.Exact (past : List (TraceEvent ι)) (marks : AttemptSemantics ι) : Prop where
  scheduled : ∀ action prior, marks.scheduledAfter action = some prior → 0 < prior ∧ prior + 1 < 2 ^ 53
  retries : ∀ id, id ∈ marks.retries ↔ LaterAttempt "tool.attempt.started" past id
  recoveries : ∀ id, id ∈ marks.recoveries ↔ LaterAttempt "tool.attempt.succeeded" past id

/-- The attempt comes first, or after the failed one before it. -/
def AttemptSemantics.Awaits (marks : AttemptSemantics ι) (action : Action) (number : Nat) : Prop :=
  number = 1 ∨ 1 < number ∧ marks.scheduledAfter action = some (number - 1)

namespace AttemptSemantics
variable {past : List (TraceEvent ι)} {marks : AttemptSemantics ι} {event : TraceEvent ι} {action : Action} {number : Nat}

section Turns
variable {status : String}

theorem mark_failed (fails : IsAttempt "tool.attempt.failed" status action number event) :
    marks.mark event = marks.failed event action number := by
  simp [mark, fails.logical, fails.numbered, fails.kind]

theorem mark_started (starts : IsAttempt "tool.attempt.started" status action number event) :
    marks.mark event = marks.started event action number := by
  simp [mark, starts.logical, starts.numbered, starts.kind]

theorem mark_succeeded (succeeds : IsAttempt "tool.attempt.succeeded" status action number event) :
    marks.mark event = marks.succeeded event action number := by
  simp [mark, succeeds.logical, succeeds.numbered, succeeds.kind]

theorem mark_other (other : event.eventType ∉ attemptKinds) : marks.mark event = marks := by
  simp only [attemptKinds, List.mem_cons, List.not_mem_nil, or_false, not_or] at other
  unfold mark
  split
  · rw [if_neg other.1, if_neg other.2.1, if_neg other.2.2]
  · rfl

end Turns

theorem Exact.failed (exact : Exact past marks) (fails : IsAttempt "tool.attempt.failed" "error" action number event) :
    Exact (past ++ [event]) (marks.mark event) := by
  rw [mark_failed fails]
  refine ⟨fun other prior known => ?_, fun id => ?_, fun id => ?_⟩
  · by_cases same : other = action
    · subst same
      simp only [AttemptSemantics.failed, Function.update_self, Option.ite_none_right_eq_some, Option.some.injEq] at known
      exact known.2 ▸ ⟨attemptNumber_pos fails.numbered, fails.small⟩
    · simp only [AttemptSemantics.failed, Function.update_of_ne same] at known
      exact exact.scheduled other prior known
  · rw [laterAttempt_other (by simp [fails.kind])]
    exact exact.retries id
  · rw [laterAttempt_other (by simp [fails.kind])]
    exact exact.recoveries id

theorem awaits_failed (fails : IsAttempt "tool.attempt.failed" "error" action number event)
    (scheduled : schedules event = true) : (marks.mark event).Awaits action (number + 1) := by
  have positive := attemptNumber_pos fails.numbered
  refine .inr ⟨by omega, ?_⟩
  rw [mark_failed fails]
  simp [AttemptSemantics.failed, scheduled]

omit [DecidableEq ι] in
/-- A start is a retry unless it is the first. -/
theorem Exact.beginsRetry (exact : Exact past marks) (starts : IsAttempt "tool.attempt.started" "ok" action number event)
    (awaits : marks.Awaits action number) :
    Web.beginsRetry event (marks.scheduledAfter action) number = decide (2 ≤ number) := by
  have starting : Web.beginsRetry event (marks.scheduledAfter action) number =
      (marks.scheduledAfter action).any (follows · number) := by
    rw [Web.beginsRetry, starts.status, decide_eq_true rfl, Bool.true_and]
  rw [starting]
  rcases awaits with rfl | ⟨later, scheduled⟩
  · cases known : marks.scheduledAfter action with
    | none => rfl
    | some prior =>
      obtain ⟨positive, small⟩ := exact.scheduled action prior known
      have apart : ¬ follows prior 1 = true := by
        rw [follows_iff small]
        omega
      simpa using apart
  · have small := starts.small
    have next : follows (number - 1) number = true := (follows_iff (by omega)).mpr (by omega)
    have again : 2 ≤ number := later
    rw [scheduled, Option.any_some, next, decide_eq_true again]

/-- What is active once an attempt has begun. -/
def begunAttempt (number : Nat) (span : ι) : Option (ActiveRetryAttempt ι) := if 2 ≤ number then some ⟨number, span⟩ else none

theorem Exact.started (exact : Exact past marks) (starts : IsAttempt "tool.attempt.started" "ok" action number event)
    (awaits : marks.Awaits action number) : Exact (past ++ [event]) (marks.mark event) ∧
      (marks.mark event).activeRetryAttempt action = begunAttempt number event.spanId := by
  have cleared : ∀ other prior, Function.update marks.scheduledAfter action none other = some prior →
      0 < prior ∧ prior + 1 < 2 ^ 53 := by
    intro other prior known
    by_cases same : other = action
    · subst same
      simp at known
    · rw [Function.update_of_ne same] at known
      exact exact.scheduled other prior known
  have kept : ∀ id, id ∈ marks.recoveries ↔ LaterAttempt "tool.attempt.succeeded" (past ++ [event]) id := by
    intro id
    rw [laterAttempt_other (by simp [starts.kind])]
    exact exact.recoveries id
  have begins := exact.beginsRetry starts awaits
  rw [mark_started starts, AttemptSemantics.started, begins, begunAttempt]
  by_cases again : 2 ≤ number
  · rw [if_pos (decide_eq_true again), if_pos again]
    refine ⟨⟨cleared, fun id => ?_, kept⟩, by simp⟩
    rw [laterAttempt_numbered starts.kind starts.numbered, List.mem_insert_iff, exact.retries id]
    constructor
    · rintro (rfl | before)
      · exact .inr ⟨rfl, again⟩
      · exact .inl before
    · rintro (before | ⟨rfl, _⟩)
      · exact .inr before
      · exact .inl rfl
  · rw [if_neg (by simpa using again), if_neg again]
    refine ⟨⟨cleared, fun id => ?_, kept⟩, by simp⟩
    rw [laterAttempt_numbered starts.kind starts.numbered]
    simp [again, exact.retries id]

theorem Exact.succeeded (exact : Exact past marks)
    (succeeds : IsAttempt "tool.attempt.succeeded" "ok" action number event)
    (active : marks.activeRetryAttempt action = begunAttempt number event.spanId) :
    Exact (past ++ [event]) (marks.mark event) := by
  have closes : closesRetry event (marks.activeRetryAttempt action) number = decide (2 ≤ number) := by
    rw [closesRetry, succeeds.status, active, begunAttempt, decide_eq_true rfl, Bool.true_and]
    by_cases again : 2 ≤ number <;> simp [again]
  have kept : ∀ id, id ∈ marks.retries ↔ LaterAttempt "tool.attempt.started" (past ++ [event]) id := by
    intro id
    rw [laterAttempt_other (by simp [succeeds.kind])]
    exact exact.retries id
  rw [mark_succeeded succeeds, AttemptSemantics.succeeded, closes]
  refine ⟨exact.scheduled, kept, fun id => ?_⟩
  rw [laterAttempt_numbered succeeds.kind succeeds.numbered, ← exact.recoveries id]
  by_cases again : 2 ≤ number
  · rw [if_pos (decide_eq_true again), List.mem_insert_iff]
    constructor
    · rintro (rfl | before)
      · exact .inr ⟨rfl, again⟩
      · exact .inl before
    · rintro (before | ⟨rfl, _⟩)
      · exact .inr before
      · exact .inl rfl
  · simp [again]

/-- The attempts of one loop keep the marks exact. -/
theorem Exact.chain {events : List (TraceEvent ι)} (chain : AttemptChain action number events) (exact : Exact past marks)
    (awaits : marks.Awaits action number) : Exact (past ++ events) (events.foldl .mark marks) := by
  induction chain generalizing past marks with
  | none => rwa [List.append_nil]
  | begun starts => exact (exact.started starts awaits).1
  | @succeeded number started succeeded starts succeeds span =>
    obtain ⟨begun, active⟩ := exact.started starts awaits
    rw [span] at active
    have closed := begun.succeeded succeeds active
    rwa [List.append_assoc] at closed
  | @failed number started failed starts fails =>
    have ended := (exact.started starts awaits).1.failed fails
    rwa [List.append_assoc] at ended
  | @retried number started failed rest starts fails scheduled _ ih =>
    have ended := (exact.started starts awaits).1.failed fails
    have onward := ih ended (awaits_failed fails scheduled)
    rwa [List.append_assoc, List.append_assoc] at onward

theorem Exact.chains {chains : List (List (TraceEvent ι))} (each : ∀ chain ∈ chains, ∃ action, AttemptChain action 1 chain)
    (exact : Exact past marks) : Exact (past ++ chains.flatten) (chains.flatten.foldl .mark marks) := by
  induction chains generalizing past marks with
  | nil => rwa [List.flatten_nil, List.append_nil]
  | cons events rest ih =>
    obtain ⟨action, chain⟩ := each events List.mem_cons_self
    have first := exact.chain chain (.inl rfl)
    have onward := ih (fun other member => each other (List.mem_cons_of_mem _ member)) first
    rw [List.flatten_cons, List.foldl_append]
    rwa [List.append_assoc] at onward

end AttemptSemantics

def isAttempt (event : TraceEvent ι) : Bool := event.eventType ∈ attemptKinds

/-- The loop passes over every other event. -/
theorem foldl_mark_filter (events : List (TraceEvent ι)) (marks : AttemptSemantics ι) :
    (events.filter isAttempt).foldl .mark marks = events.foldl .mark marks := by
  induction events generalizing marks with
  | nil => rfl
  | cons event rest ih =>
    by_cases attempt : event.eventType ∈ attemptKinds
    · rw [List.filter_cons_of_pos (by simpa [isAttempt] using attempt)]
      exact ih (marks.mark event)
    · rw [List.filter_cons_of_neg (by simpa [isAttempt] using attempt), List.foldl_cons,
        AttemptSemantics.mark_other attempt]
      exact ih marks

omit [DecidableEq ι] in
theorem laterAttempt_filter {kind : String} (known : kind ∈ attemptKinds) (events : List (TraceEvent ι)) (id : ι) :
    LaterAttempt kind (events.filter isAttempt) id ↔ LaterAttempt kind events id := by
  constructor
  · rintro ⟨event, member, same⟩
    exact ⟨event, (List.mem_filter.mp member).1, same⟩
  · rintro ⟨event, member, sameId, sameKind, numbered⟩
    have attempt : isAttempt event = true := decide_eq_true (sameKind ▸ known)
    exact ⟨event, List.mem_filter.mpr ⟨member, attempt⟩, sameId, sameKind, numbered⟩

/-- Loops one after another, each from its first attempt on, are marked exactly, whatever other events stand
between. -/
theorem attemptSemantics_exact {events : List (TraceEvent ι)} {chains : List (List (TraceEvent ι))}
    (split : events.filter isAttempt = chains.flatten) (each : ∀ chain ∈ chains, ∃ action, AttemptChain action 1 chain) :
    (attemptSemantics events).Exact events := by
  have start : AttemptSemantics.Exact [] (AttemptSemantics.empty : AttemptSemantics ι) :=
    ⟨fun _ _ impossible => (by cases impossible), fun id => by simp [AttemptSemantics.empty, LaterAttempt],
      fun id => by simp [AttemptSemantics.empty, LaterAttempt]⟩
  have whole := start.chains each
  rw [List.nil_append, ← split, foldl_mark_filter] at whole
  refine ⟨whole.scheduled, fun id => ?_, fun id => ?_⟩
  · exact (whole.retries id).trans (laterAttempt_filter (by simp [attemptKinds]) events id)
  · exact (whole.recoveries id).trans (laterAttempt_filter (by simp [attemptKinds]) events id)

end ReliabilityLab.Web
