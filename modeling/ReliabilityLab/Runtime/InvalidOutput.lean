import ReliabilityLab.Runtime.AttemptEvents

namespace ReliabilityLab

/-- The step, the tool, the attempt and the span of an event. -/
abbrev RecordIdentity := Option Json × Option Json × Option Json × Uuid

namespace AttemptRecord

def identity (record : AttemptRecord) : RecordIdentity :=
  (record.payload.lookup "action_step", record.payload.lookup "tool_name", record.payload.lookup "attempt", record.span)

/-- The attempt ends in `tool.attempt.failed` with code `invalid_output`. -/
def endsInvalid (record : AttemptRecord) : Prop :=
  record.eventType = .toolAttemptFailed ∧ record.payload.lookup "code" = some (.str "invalid_output")

end AttemptRecord

/-- Every failed attempt has the code `invalid_output` exactly when its output was rejected before;
`rejected` are the attempts whose rejection is recorded so far. -/
def BackedFrom (rejected : List RecordIdentity) : List (Act AttemptRecord) → Prop
  | [] => True
  | .recorded record :: rest =>
    if record.eventType = .toolOutputValidationFailed then BackedFrom (record.identity :: rejected) rest
    else (record.eventType = .toolAttemptFailed → (record.endsInvalid ↔ record.identity ∈ rejected)) ∧
      BackedFrom rejected rest
  | _ :: rest => BackedFrom rejected rest

abbrev Backed (shown : List (Act AttemptRecord)) : Prop := BackedFrom [] shown

open Classical in
/-- The attempts that end with code `invalid_output`, in order. -/
noncomputable def invalidAttempts (shown : List (Act AttemptRecord)) : List RecordIdentity := shown.filterMap fun
  | .recorded record => if record.endsInvalid then some record.identity else none
  | _ => none

/-- The attempts whose output was rejected, in order. -/
def rejectedAttempts (shown : List (Act AttemptRecord)) : List RecordIdentity := shown.filterMap fun
  | .recorded record => if record.eventType = .toolOutputValidationFailed then some record.identity else none
  | _ => none

/-- The handler raised an error with the code of a rejected output. -/
def RaisesInvalid {ρ : Type} (shown : List (Act ρ)) : Prop :=
  ∃ error, .handled (.error error) ∈ shown ∧ error ≠ .cancelled ∧ (Deployment.attemptError error).1 = "invalid_output"

variable {dep : Deployment} {call : GatewayCall} {loop : RetryLoop} {log : List OpMoment} {p : Pid} {w v : GatewayWorld}

/-- The identity of one attempt of a loop. -/
def RetryLoop.identity (loop : RetryLoop) (number : Nat) (span : Uuid) : RecordIdentity :=
  (some (.int loop.run.currentStep), some (.str loop.toolName), some (.int number), span)

theorem endsInvalid_failed (number : Nat) (span : Uuid) (error : Exn) :
    (loop.failed number span error).endsInvalid ↔ (Deployment.attemptError error).1 = "invalid_output" := by
  simp [AttemptRecord.endsInvalid, RetryLoop.failed, Deployment.failedAttemptPayload, Deployment.attemptPayload,
    List.lookup_cons]

theorem identity_failed (number : Nat) (span : Uuid) (error : Exn) :
    (loop.failed number span error).identity = loop.identity number span := by
  simp [AttemptRecord.identity, RetryLoop.identity, RetryLoop.failed, Deployment.failedAttemptPayload,
    Deployment.attemptPayload, List.lookup_cons]

theorem identity_validationFailed (number : Nat) (span : Uuid) :
    (loop.validationFailed number span).identity = loop.identity number span := by
  simp [AttemptRecord.identity, RetryLoop.identity, RetryLoop.validationFailed, RetryLoop.payload,
    Deployment.attemptPayload, List.lookup_cons]

/-- Only a planned malformed output has the code of a rejected one. -/
theorem faultCode_invalid {kind : FaultKind} (genuine : kind ≠ .malformedOutput) : faultCode kind ≠ "invalid_output" := by
  cases kind with
  | malformedOutput => exact absurd rfl genuine
  | _ => decide

theorem attemptError_recorder {error : Exn} (kind : error = .valueError ∨ error = .database) :
    (Deployment.attemptError error).1 ≠ "invalid_output" := by
  rcases kind with rfl | rfl <;> decide

/-- What the middle of an attempt does to the record of rejections: `marks` is its own. -/
structure Marked (loop : RetryLoop) (number : Nat) (span : Uuid) (middle : List (Act AttemptRecord))
    (result : Except Exn Json) (marks : List RecordIdentity) : Prop where
  own : marks = [] ∨ marks = [loop.identity number span]
  backed : ∀ seen rest, BackedFrom seen (middle ++ rest) ↔ BackedFrom (marks ++ seen) rest
  rejected : rejectedAttempts middle = marks
  valid : invalidAttempts middle = []
  coded : marks ≠ [] → result = .error (.toolError "invalid_output" false)
  raised : RaisesInvalid middle → marks = [] ∧ ∃ error, result = .error error ∧ error ≠ .cancelled ∧
    (Deployment.attemptError error).1 = "invalid_output"
  clean : ∀ error, result = .error error → error ≠ .cancelled → (Deployment.attemptError error).1 = "invalid_output" →
    marks ≠ [] ∨ RaisesInvalid middle

theorem Raw_marked {faulty : Prop} {number : Nat} {span : Uuid} {middle : List (Act AttemptRecord)}
    {result : Except Exn Json} (raw : loop.Raw faulty number span middle result) :
    Marked loop number span middle result [] := by
  cases raw with
  | injected planned genuine =>
    refine ⟨.inl rfl, fun seen rest => ?_, rfl, ?_, fun some => absurd rfl some, ?_, ?_⟩
    · simp [BackedFrom, RetryLoop.faultInjected]
    · simp [invalidAttempts, RetryLoop.faultInjected, AttemptRecord.endsInvalid]
    · rintro ⟨error, member, -⟩
      simp at member
    · rintro error same - coded
      cases same
      exact absurd coded (faultCode_invalid genuine)
  | malformed =>
    refine ⟨.inl rfl, fun seen rest => ?_, rfl, ?_, fun some => absurd rfl some, ?_, ?_⟩
    · simp [BackedFrom, RetryLoop.faultInjected]
    · simp [invalidAttempts, RetryLoop.faultInjected, AttemptRecord.endsInvalid]
    · rintro ⟨error, member, -⟩
      simp at member
    · rintro error same
      cases same
  | handled _ =>
    refine ⟨.inl rfl, fun seen rest => Iff.rfl, rfl, rfl, fun some => absurd rfl some, ?_, ?_⟩
    · rintro ⟨error, member, live, coded⟩
      cases List.mem_singleton.mp member
      exact ⟨rfl, error, rfl, live, coded⟩
    · rintro error rfl live coded
      exact .inr ⟨error, List.mem_singleton.mpr rfl, live, coded⟩
  | unrecorded _ kind =>
    refine ⟨.inl rfl, fun seen rest => Iff.rfl, rfl, rfl, fun some => absurd rfl some, ?_, ?_⟩
    · rintro ⟨error, member, -⟩
      cases member
    · rintro error same - coded
      cases same
      exact absurd coded (attemptError_recorder kind)

theorem Body_marked {faulty : Prop} {number : Nat} {span : Uuid} {middle : List (Act AttemptRecord)}
    {result : Except Exn Json} (body : loop.Body faulty number span middle result) :
    ∃ marks, Marked loop number span middle result marks := by
  have unraised : ∀ {middle raw}, loop.Raw faulty number span middle (.ok raw) → ¬ RaisesInvalid middle := by
    intro middle raw given raises
    obtain ⟨-, error, same, -⟩ := (Raw_marked given).raised raises
    cases same
  cases body with
  | raised given => exact ⟨[], Raw_marked given⟩
  | accepted given =>
    have facts := Raw_marked given
    refine ⟨[], .inl rfl, facts.backed, facts.rejected, facts.valid, fun some => absurd rfl some,
      fun raises => absurd raises (unraised given), fun error same => ?_⟩
    cases same
  | unserializable given =>
    have facts := Raw_marked given
    refine ⟨[], .inl rfl, facts.backed, facts.rejected, facts.valid, fun some => absurd rfl some,
      fun raises => absurd raises (unraised given), fun error same _ coded => ?_⟩
    cases same
    exact absurd coded (by decide)
  | unrecorded given _ _ kind =>
    have facts := Raw_marked given
    refine ⟨[], .inl rfl, facts.backed, facts.rejected, facts.valid, fun some => absurd rfl some,
      fun raises => absurd raises (unraised given), fun error same _ coded => ?_⟩
    cases same
    exact absurd coded (attemptError_recorder kind)
  | @rejected middle raw given =>
    have facts := Raw_marked given
    refine ⟨[loop.identity number span], .inr rfl, fun seen rest => ?_, ?_, ?_, fun _ => rfl, fun raises => ?_,
      fun error _ _ _ => .inl (List.cons_ne_nil _ _)⟩
    · rw [List.append_assoc, facts.backed, List.nil_append, List.singleton_append, BackedFrom]
      rw [if_pos (by rfl), identity_validationFailed]
      rfl
    · have before := facts.rejected
      unfold rejectedAttempts at before ⊢
      rw [List.filterMap_append, before, ← identity_validationFailed]
      rfl
    · have before := facts.valid
      unfold invalidAttempts at before ⊢
      rw [List.filterMap_append, before]
      simp [RetryLoop.validationFailed, AttemptRecord.endsInvalid]
    · obtain ⟨error, member, live, coded⟩ := raises
      have inside : Act.handled (.error error) ∈ middle := by simpa using member
      exact absurd ⟨error, inside, live, coded⟩ (unraised given)

/-- The rejections known so far are those of earlier attempts. -/
def Earlier (number : Nat) (seen : List RecordIdentity) : Prop :=
  ∀ identity ∈ seen, ∃ earlier < number, identity.2.2.1 = some (.int earlier)

theorem Earlier.not_mem {number : Nat} {seen : List RecordIdentity} (earlier : Earlier number seen) (span : Uuid) :
    loop.identity number span ∉ seen := by
  intro member
  obtain ⟨other, less, same⟩ := earlier _ member
  simp only [RetryLoop.identity, Option.some.injEq, Json.int.injEq] at same
  omega

theorem Earlier.next {number : Nat} {seen marks : List RecordIdentity} {span : Uuid} (earlier : Earlier number seen)
    (own : marks = [] ∨ marks = [loop.identity number span]) : Earlier (number + 1) (marks ++ seen) := by
  intro identity member
  rcases List.mem_append.mp member with mine | member
  · rcases own with rfl | rfl
    · cases mine
    · cases List.mem_singleton.mp mine
      exact ⟨number, Nat.lt_succ_self _, rfl⟩
  · obtain ⟨other, less, same⟩ := earlier identity member
    exact ⟨other, by omega, same⟩

theorem raisesInvalid_append {first later : List (Act AttemptRecord)} :
    RaisesInvalid (first ++ later) ↔ RaisesInvalid first ∨ RaisesInvalid later := by
  constructor
  · rintro ⟨error, member, live, coded⟩
    exact (List.mem_append.mp member).imp (fun member => ⟨error, member, live, coded⟩)
      fun member => ⟨error, member, live, coded⟩
  · rintro (⟨error, member, live, coded⟩ | ⟨error, member, live, coded⟩)
    · exact ⟨error, List.mem_append_left _ member, live, coded⟩
    · exact ⟨error, List.mem_append_right _ member, live, coded⟩

/-- What the acts of a loop say about rejected outputs. -/
structure Tells (faulty : Prop) (seen : List RecordIdentity) (shown : List (Act AttemptRecord)) : Prop where
  backed : ¬ RaisesInvalid shown → BackedFrom seen shown
  clean : ¬ faulty → BackedFrom seen shown → ¬ RaisesInvalid shown
  same : ¬ faulty → ¬ RaisesInvalid shown → invalidAttempts shown = rejectedAttempts shown

/-- The end of one failed attempt: the code is backed exactly when the handler did not raise it. -/
theorem Marked.ending {number : Nat} {span : Uuid} {middle : List (Act AttemptRecord)} {error : Exn}
    {marks seen : List RecordIdentity} (marked : Marked loop number span middle (.error error) marks)
    (live : error ≠ .cancelled) (earlier : Earlier number seen) :
    ((loop.failed number span error).endsInvalid ↔ (loop.failed number span error).identity ∈ marks ++ seen) ↔
      ¬ RaisesInvalid middle := by
  rw [endsInvalid_failed, identity_failed]
  constructor
  · rintro agree raises
    obtain ⟨rfl, other, same, -, coded⟩ := marked.raised raises
    cases same
    exact earlier.not_mem span (agree.mp coded)
  · intro clean
    constructor
    · intro coded
      rcases marked.clean error rfl live coded with some | raises
      · rw [marked.own.resolve_left some]
        exact List.mem_append_left seen List.mem_cons_self
      · exact absurd raises clean
    · intro member
      rcases List.mem_append.mp member with mine | old
      · have result := marked.coded (List.ne_nil_of_mem mine)
        cases result
        rfl
      · exact absurd old (earlier.not_mem span)

section Attempt
variable {number : Nat} {span : Uuid} {middle rest : List (Act AttemptRecord)} {marks seen : List RecordIdentity}
  {result : Except Exn Json} {faulty : Prop}

theorem Marked.backed_iff (marked : Marked loop number span middle result marks) :
    BackedFrom seen (.recorded (loop.started number span) :: middle ++ rest) ↔ BackedFrom (marks ++ seen) rest := by
  rw [List.cons_append, BackedFrom, if_neg (by simp [RetryLoop.started]), marked.backed]
  simp [RetryLoop.started]

theorem raisesInvalid_attempt : RaisesInvalid (.recorded (loop.started number span) :: middle ++ rest) ↔
    RaisesInvalid middle ∨ RaisesInvalid rest := by
  have none : ¬ RaisesInvalid [Act.recorded (loop.started number span)] := by
    rintro ⟨error, member, -⟩
    simp at member
  rw [List.cons_append, ← List.singleton_append, raisesInvalid_append, raisesInvalid_append]
  simp only [none, false_or]

theorem Marked.invalid_eq (marked : Marked loop number span middle result marks) :
    invalidAttempts (.recorded (loop.started number span) :: middle ++ rest) = invalidAttempts rest := by
  have none := marked.valid
  unfold invalidAttempts at none ⊢
  rw [List.cons_append, List.filterMap_cons_none (by simp [RetryLoop.started, AttemptRecord.endsInvalid]),
    List.filterMap_append, none, List.nil_append]

theorem Marked.rejected_eq (marked : Marked loop number span middle result marks) :
    rejectedAttempts (.recorded (loop.started number span) :: middle ++ rest) =
      marks ++ rejectedAttempts rest := by
  have own := marked.rejected
  unfold rejectedAttempts at own ⊢
  rw [List.cons_append, List.filterMap_cons_none (by simp [RetryLoop.started]), List.filterMap_append, own]

/-- An attempt that does not fail has no rejection and no code to back. -/
theorem Marked.unfailed (marked : Marked loop number span middle result marks)
    (fine : ∀ error, result = .error error → error = .cancelled) (silent : BackedFrom (marks ++ seen) rest)
    (unraised : ¬ RaisesInvalid rest) (same : invalidAttempts rest = rejectedAttempts rest) :
    Tells faulty seen (.recorded (loop.started number span) :: middle ++ rest) := by
  have clean : ¬ RaisesInvalid middle := by
    intro raises
    obtain ⟨-, error, failed, live, -⟩ := marked.raised raises
    exact live (fine error failed)
  have unmarked : marks = [] := by
    by_contra some
    exact Exn.noConfusion (fine _ (marked.coded some))
  refine ⟨fun _ => marked.backed_iff.mpr silent, fun _ _ => ?_, fun _ _ => ?_⟩
  · rw [raisesInvalid_attempt]
    exact not_or.mpr ⟨clean, unraised⟩
  · rw [marked.invalid_eq, marked.rejected_eq, unmarked, same, List.nil_append]

/-- A failed attempt tells the truth exactly when its handler does not raise the code. -/
theorem Marked.failed {error : Exn} (marked : Marked loop number span middle (.error error) marks)
    (live : error ≠ .cancelled) (earlier : Earlier number seen) (onward : Tells faulty (marks ++ seen) rest) :
    Tells faulty seen (.recorded (loop.started number span) :: middle ++
      .recorded (loop.failed number span error) :: rest) := by
  have ending := marked.ending live earlier
  have backed : BackedFrom (marks ++ seen) (.recorded (loop.failed number span error) :: rest) ↔
      ¬ RaisesInvalid middle ∧ BackedFrom (marks ++ seen) rest := by
    rw [BackedFrom, if_neg (by simp [RetryLoop.failed]), ← ending]
    simp [RetryLoop.failed]
  have raising : RaisesInvalid (.recorded (loop.failed number span error) :: rest) ↔ RaisesInvalid rest := by
    have none : ¬ RaisesInvalid [Act.recorded (loop.failed number span error)] := by
      rintro ⟨other, member, -⟩
      simp at member
    rw [← List.singleton_append, raisesInvalid_append]
    simp only [none, false_or]
  refine ⟨fun clean => ?_, fun works truth => ?_, fun works clean => ?_⟩
  · rw [raisesInvalid_attempt, raising, not_or] at clean
    exact marked.backed_iff.mpr (backed.mpr ⟨clean.1, onward.backed clean.2⟩)
  · obtain ⟨clean, later⟩ := backed.mp (marked.backed_iff.mp truth)
    rw [raisesInvalid_attempt, raising]
    exact not_or.mpr ⟨clean, onward.clean works later⟩
  · rw [raisesInvalid_attempt, raising, not_or] at clean
    have agree := ending.mpr clean.1
    rw [identity_failed] at agree
    have further := onward.same works clean.2
    rw [marked.invalid_eq, marked.rejected_eq]
    have silent : rejectedAttempts (.recorded (loop.failed number span error) :: rest) = rejectedAttempts rest :=
      List.filterMap_cons_none (by simp [RetryLoop.failed])
    rw [silent, ← further]
    by_cases coded : (loop.failed number span error).endsInvalid
    · have mine : marks = [loop.identity number span] := by
        rcases marked.own with rfl | mine
        · exact absurd (agree.mp coded) (earlier.not_mem span)
        · exact mine
      rw [mine]
      exact List.filterMap_cons_some (by simp [coded, identity_failed])
    · have none : marks = [] := by
        rcases marked.own with none | rfl
        · exact none
        · exact absurd (agree.mpr (List.mem_append_left seen List.mem_cons_self)) coded
      rw [none]
      exact List.filterMap_cons_none (by simp [coded])

end Attempt

theorem Tells.quiet {faulty : Prop} {seen : List RecordIdentity} {shown : List (Act AttemptRecord)}
    (backed : BackedFrom seen shown) (unraised : ¬ RaisesInvalid shown)
    (same : invalidAttempts shown = rejectedAttempts shown) : Tells faulty seen shown :=
  ⟨fun _ => backed, fun _ _ => unraised, fun _ _ => same⟩

/-- From attempt to attempt: what the acts of a loop say is true exactly when no handler raises the code. -/
theorem Protocol_tells {faulty : Prop} {number : Nat} {spans : List Uuid} {shown : List (Act AttemptRecord)}
    {result : Except Exn ToolCallResult} (protocol : loop.Protocol faulty number spans shown result)
    {seen : List RecordIdentity} (earlier : Earlier number seen) : Tells faulty seen shown := by
  have waiting : ∀ {seconds : ℚ} {answer : Except Exn Unit} {seen : List RecordIdentity},
      Tells faulty seen [.slept seconds answer] := by
    intro seconds answer seen
    exact .quiet trivial (by rintro ⟨error, member, -⟩; simp at member) rfl
  induction protocol generalizing seen with
  | succeeded body =>
    obtain ⟨marks, marked⟩ := Body_marked body
    refine marked.unfailed (fun error same => by cases same) ?_ ?_ ?_
    · simp [BackedFrom, RetryLoop.succeeded]
    · rintro ⟨error, member, -⟩
      simp at member
    · simp [invalidAttempts, rejectedAttempts, RetryLoop.succeeded, AttemptRecord.endsInvalid]
  | cancelled body =>
    obtain ⟨marks, marked⟩ := Body_marked body
    refine marked.unfailed (fun error same => by cases same; rfl) ?_ ?_ ?_
    · simp [BackedFrom, RetryLoop.cancelled]
    · rintro ⟨error, member, -⟩
      simp at member
    · simp [invalidAttempts, rejectedAttempts, RetryLoop.cancelled, AttemptRecord.endsInvalid]
  | failed body live =>
    obtain ⟨marks, marked⟩ := Body_marked body
    exact marked.failed live earlier (.quiet trivial (by rintro ⟨error, member, -⟩; cases member) rfl)
  | @retried number span middle error spans rest outcome body live _ _ ih =>
    obtain ⟨marks, marked⟩ := Body_marked body
    have onward := ih (earlier.next marked.own)
    have later : Tells faulty (marks ++ seen) (.slept (loop.definition.delaySeconds number) (.ok ()) :: rest) := by
      have raising : RaisesInvalid (.slept (loop.definition.delaySeconds number) (.ok ()) :: rest) ↔ RaisesInvalid rest := by
        have none : ¬ RaisesInvalid [(.slept (loop.definition.delaySeconds number) (.ok ()) : Act AttemptRecord)] := by
          rintro ⟨other, member, -⟩
          simp at member
        rw [← List.singleton_append, raisesInvalid_append]
        simp only [none, false_or]
      refine ⟨fun clean => onward.backed (mt raising.mpr clean), fun works truth => ?_, fun works clean => ?_⟩
      · exact mt raising.mp (onward.clean works truth)
      · exact onward.same works (mt raising.mpr clean)
    have whole := marked.failed live earlier later
    simpa using whole
  | @interrupted number span middle error other body live =>
    obtain ⟨marks, marked⟩ := Body_marked body
    refine marked.failed live earlier (.quiet ?_ ?_ ?_)
    · simp [BackedFrom, RetryLoop.retryCancelled]
    · rintro ⟨error, member, -⟩
      simp at member
    · simp [invalidAttempts, rejectedAttempts, RetryLoop.retryCancelled, AttemptRecord.endsInvalid]
  | unstarted failing => exact ⟨fun _ => trivial, fun works => absurd failing works, fun works => absurd failing works⟩
  | @unended number span middle result error failing body =>
    obtain ⟨marks, marked⟩ := Body_marked body
    refine ⟨fun _ => ?_, fun works => absurd failing works, fun works => absurd failing works⟩
    have truth : BackedFrom seen (.recorded (loop.started number span) :: middle ++ []) := marked.backed_iff.mpr trivial
    rwa [List.append_nil] at truth
  | unreported _ body live =>
    obtain ⟨marks, marked⟩ := Body_marked body
    exact marked.failed live earlier waiting

theorem Shows.raisesInvalid {run : Run} {shown : List (Act AttemptRecord)} (shows : Shows dep run log shown) :
    RaisesInvalid (acts log) ↔ RaisesInvalid shown := by
  have handled : ∀ error, .handled (.error error) ∈ acts log ↔ .handled (.error error) ∈ shown := by
    intro error
    rw [shows, List.mem_map]
    constructor
    · rintro ⟨act, member, same⟩
      cases act <;> cases same
      exact member
    · exact fun member => ⟨_, member, rfl⟩
  exact exists_congr fun error => and_congr_left' (handled error)

/-- A code `invalid_output` stands for a recorded rejection exactly when no handler raises that code
itself. One direction needs a recorder that works. -/
theorem invalid_output_backed {outcome : Except Exn ToolCallResult} (follows : dep.gateway.Follows p w log v)
    (begun : w.procs p = .ready (call.program dep)) (ended : v.procs p = .ready (.ofExcept outcome)) :
    ∃ shown, Shows dep call.run log shown ∧ (¬ RaisesInvalid (acts log) → Backed shown) ∧
      (¬ RecorderFailed log →
        (Backed shown ∧ invalidAttempts shown = rejectedAttempts shown ↔ ¬ RaisesInvalid (acts log))) := by
  have concluded : ∀ {shown}, Shows dep call.run log shown → Tells (RecorderFailed log) [] shown →
      (¬ RaisesInvalid (acts log) → Backed shown) ∧ (¬ RecorderFailed log →
        (Backed shown ∧ invalidAttempts shown = rejectedAttempts shown ↔ ¬ RaisesInvalid (acts log))) := by
    intro shown shows tells
    rw [shows.raisesInvalid]
    refine ⟨tells.backed, fun works => ⟨fun truth => tells.clean works truth.1, fun clean => ?_⟩⟩
    exact ⟨tells.backed clean, tells.same works clean⟩
  rcases call_protocol follows begun ended id with ⟨preparing, -⟩ | ⟨definition, shown, spans, result, -, shows, -, protocol, -⟩
  · have nothing : Shows dep call.run log [] := preparing.acts
    exact ⟨[], nothing, concluded nothing (.quiet trivial (by rintro ⟨error, member, -⟩; cases member) rfl)⟩
  · exact ⟨shown, shows, concluded shows (Protocol_tells protocol fun identity member => absurd member List.not_mem_nil)⟩

def failureCodes (log : List OpMoment) : List (Option String) := (acts log).filterMap fun
  | .recorded event =>
    if event.eventType = .toolAttemptFailed then
      some ((event.payload.obj?.bind fun payload => payload.lookup "code").bind Json.str?)
    else none
  | _ => none

def demoMalformed : GatewayCall := { demoCalls 0 with plan := [⟨"state", 1, .malformedOutput⟩] }

/-- The handler validates what it reads itself, and lets the exception pass. -/
theorem handler_validation_error : ∃ (w : GatewayWorld) (log : List OpMoment) (v : GatewayWorld) (result : ToolCallResult),
    (demoHandlers false).gateway.Follows 0 w log v ∧ w.procs 0 = .ready ((demoCalls 0).program (demoHandlers false)) ∧
      v.procs 0 = .ready (.ofExcept (.ok result)) ∧ ¬ RecorderFailed log ∧
      eventTypes log = [.toolAttemptStarted, .toolAttemptFailed] ∧ failureCodes log = [some "invalid_output"] := by
  obtain ⟨w, log, v, follows, begun, checked⟩ := demoCall_follows (demoCalls 0) false (.error .validationError) 7
    (fun found => recorderWorks found.1 && eventTypes found.1 = [.toolAttemptStarted, .toolAttemptFailed] &&
      failureCodes found.1 = [some "invalid_output"] && (returned found.2).isSome) (by decide +kernel)
  obtain ⟨first, ending⟩ := Bool.and_eq_true_iff.mp checked
  obtain ⟨second, codes⟩ := Bool.and_eq_true_iff.mp first
  obtain ⟨works, events⟩ := Bool.and_eq_true_iff.mp second
  obtain ⟨result, same⟩ := Option.isSome_iff_exists.mp ending
  exact ⟨w, log, v, result, follows, begun, returned_some same, recorderWorks_sound works, of_decide_eq_true events,
    of_decide_eq_true codes⟩

/-- A call with a planned malformed output. -/
theorem invalid_output_backed_demo : ∃ (log : List OpMoment) (shown : List (Act AttemptRecord)),
    ¬ RecorderFailed log ∧ Shows (demoHandlers false) demoMalformed.run log shown ∧
      (Backed shown ∧ invalidAttempts shown = rejectedAttempts shown ↔ ¬ RaisesInvalid (acts log)) := by
  obtain ⟨w, log, v, follows, begun, checked⟩ := demoCall_follows demoMalformed false (.ok (demoState "done")) 7
    (fun found => recorderWorks found.1 && (returned found.2).isSome) (by decide +kernel)
  obtain ⟨works, ending⟩ := Bool.and_eq_true_iff.mp checked
  obtain ⟨result, same⟩ := Option.isSome_iff_exists.mp ending
  obtain ⟨shown, shows, -, exact⟩ := invalid_output_backed follows begun (returned_some same)
  exact ⟨log, shown, recorderWorks_sound works, shows, exact (recorderWorks_sound works)⟩

end ReliabilityLab
