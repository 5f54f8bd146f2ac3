import ReliabilityLab.Runtime.AttemptEvents

namespace ReliabilityLab

/-- The claim under the key is still the owner's. -/
def OwnsClaim (id : Uuid) (key : String) (owner : Uuid) (s : SystemState) : Prop :=
  ∃ row, s.store.toolResults id key = some row ∧ row.state = .claimed ∧ row.ownerToken = owner

/-- Whenever the call fails its claim, it still owns it. -/
def FailsOwned (log : List OpMoment) : Prop :=
  ∀ id key owner text disposition before answer after,
    (⟨.failToolExecution id key owner text disposition, before, answer, after⟩ : OpMoment) ∈ log →
      OwnsClaim id key owner before

/-- The last attempt succeeds. -/
def Succeeds {ρ : Type} (eventType : ρ → EventType) (shown : List (Act ρ)) : Prop :=
  ∃ record, .recorded record ∈ shown ∧ eventType record = .toolAttemptSucceeded

/-- A handler or a wait was cancelled. -/
def WasCancelled {ρ : Type} (shown : List (Act ρ)) : Prop :=
  .handled (.error .cancelled) ∈ shown ∨ ∃ seconds, .slept seconds (.error .cancelled) ∈ shown

/-- The exception of a claim that was lost comes out of the call. -/
def LossEscapes (log : List OpMoment) (outcome : Except Exn ToolCallResult) : Prop :=
  outcome = .error .valueError ∧ ∃ earlier moment, log = earlier ++ [moment] ∧
    moment.op.settleError moment.answer = some .valueError

/-- No recorder and no transaction of the call fails for a reason of its own. -/
def Op.unbroken : (op : Op) → op.Answer → Prop
  | .appendEvent _, answer => answer = .ok ()
  | .completeToolResult _ _ _ _, answer => answer ≠ .error .database
  | .failToolExecution _ _ _ _ _, answer => answer ≠ .error .database
  | _, _ => True

def Unbroken (log : List OpMoment) : Prop := ∀ moment ∈ log, moment.op.unbroken moment.answer

/-- The call returns a result, or is cancelled and says so. -/
def EndsWell (log : List OpMoment) (outcome : Except Exn ToolCallResult) : Prop :=
  (WasCancelled (acts log) → outcome = .error .cancelled) ∧
    (¬ WasCancelled (acts log) → ∃ result, outcome = .ok result)

variable {dep : Deployment} {call : GatewayCall} {loop : RetryLoop} {log : List OpMoment} {p : Pid} {s t : SystemState}
  {w v : GatewayWorld}

theorem Unbroken.recorded (unbroken : Unbroken log) : ¬ RecorderFailed log := by
  rintro ⟨event, error, before, after, member⟩
  cases unbroken _ member

/-- Failing a claim succeeds exactly for its owner, unless the database fails. -/
theorem failToolExecution_answer {id owner : Uuid} {key text : String} {disposition : ToolFailureDisposition}
    {answer : Except Exn Unit} {now : DateTime}
    (performed : dep.perform p (.failToolExecution id key owner text disposition) now s answer t) :
    answer = .ok () ∧ OwnsClaim id key owner s ∨ answer = .error .valueError ∧ ¬ OwnsClaim id key owner s ∨
      answer = .error .database := by
  obtain ⟨after, settled, rfl⟩ := performed
  cases settled with
  | committed done =>
    obtain ⟨row, present, claimed, token, -⟩ := Store.failToolExecution_ok done
    exact .inl ⟨rfl, row, present, claimed, token⟩
  | refused failed =>
    refine .inr (.inl ?_)
    unfold Store.failToolExecution at failed
    split at failed
    · rename_i absent
      cases failed
      refine ⟨rfl, ?_⟩
      rintro ⟨row, present, -⟩
      cases absent.symm.trans present
    · rename_i found present
      split at failed
      · cases failed
      · rename_i lost
        cases failed
        refine ⟨rfl, ?_⟩
        rintro ⟨row, stored, claimed, token⟩
        cases Option.some.inj (present.symm.trans stored)
        exact lost ⟨claimed, token⟩
  | broken => exact .inr (.inr rfl)

theorem wasCancelled_append {ρ : Type} {first later : List (Act ρ)} :
    WasCancelled (first ++ later) ↔ WasCancelled first ∨ WasCancelled later := by
  simp only [WasCancelled, List.mem_append, exists_or]
  tauto

theorem succeeds_append {ρ : Type} {eventType : ρ → EventType} {first later : List (Act ρ)} :
    Succeeds eventType (first ++ later) ↔ Succeeds eventType first ∨ Succeeds eventType later := by
  simp only [Succeeds, List.mem_append, or_and_right, exists_or]

/-- Which end a loop comes to, as its acts show it. -/
structure Concludes (faulty : Prop) (shown : List (Act AttemptRecord)) (result : Except Exn ToolCallResult) : Prop where
  succeeds : Succeeds AttemptRecord.eventType shown ↔ ∃ output count cached, result = .ok (.succeeded output count cached)
  cancelled : ¬ faulty → (WasCancelled shown ↔ result = .error .cancelled)
  returned : ¬ faulty → result = .error .cancelled ∨ ∃ value, result = .ok value

theorem Raw_concludes {faulty : Prop} {number : Nat} {span : Uuid} {middle : List (Act AttemptRecord)}
    {result : Except Exn Json} (raw : loop.Raw faulty number span middle result) :
    ¬ Succeeds AttemptRecord.eventType middle ∧ (WasCancelled middle ↔ result = .error .cancelled) := by
  cases raw with
  | injected | malformed => simp [Succeeds, WasCancelled, RetryLoop.faultInjected]
  | handled => simp [Succeeds, WasCancelled, eq_comm]
  | unrecorded _ kind => rcases kind with rfl | rfl <;> simp [Succeeds, WasCancelled]

theorem Body_concludes {faulty : Prop} {number : Nat} {span : Uuid} {middle : List (Act AttemptRecord)}
    {result : Except Exn Json} (body : loop.Body faulty number span middle result) :
    ¬ Succeeds AttemptRecord.eventType middle ∧ (WasCancelled middle ↔ result = .error .cancelled) := by
  cases body with
  | raised given => exact Raw_concludes given
  | accepted given | unserializable given =>
    have facts := Raw_concludes given
    exact ⟨facts.1, facts.2.trans (by simp)⟩
  | unrecorded given _ _ kind =>
    have facts := Raw_concludes given
    rcases kind with rfl | rfl <;> exact ⟨facts.1, facts.2.trans (by simp)⟩
  | rejected given =>
    have facts := Raw_concludes given
    rw [succeeds_append, wasCancelled_append, facts.2]
    exact ⟨not_or.mpr ⟨facts.1, by simp [Succeeds, RetryLoop.validationFailed]⟩, by simp [WasCancelled]⟩

theorem Protocol_concludes {faulty : Prop} {number : Nat} {spans : List Uuid} {shown : List (Act AttemptRecord)}
    {result : Except Exn ToolCallResult} (protocol : loop.Protocol faulty number spans shown result) :
    Concludes faulty shown result := by
  have begun : ∀ {number span} {middle rest : List (Act AttemptRecord)} {result}, loop.Body faulty number span middle result →
      (Succeeds AttemptRecord.eventType (.recorded (loop.started number span) :: middle ++ rest) ↔
        Succeeds AttemptRecord.eventType rest) ∧
      (WasCancelled (.recorded (loop.started number span) :: middle ++ rest) ↔
        result = .error .cancelled ∨ WasCancelled rest) := by
    intro number span middle rest result body
    obtain ⟨failing, cancelling⟩ := Body_concludes body
    have silent : ¬ Succeeds AttemptRecord.eventType [Act.recorded (loop.started number span)] := by
      simp [Succeeds, RetryLoop.started]
    have calm : ¬ WasCancelled [Act.recorded (loop.started number span)] := by simp [WasCancelled]
    rw [List.cons_append, ← List.singleton_append, succeeds_append, succeeds_append, wasCancelled_append,
      wasCancelled_append, cancelling]
    simp only [silent, calm, failing, false_or, and_self]
  induction protocol with
  | succeeded body =>
    refine ⟨?_, fun _ => ?_, fun _ => .inr ⟨_, rfl⟩⟩
    · rw [(begun body).1]
      simp [Succeeds, RetryLoop.succeeded]
    · rw [(begun body).2]
      simp [WasCancelled]
  | cancelled body =>
    refine ⟨?_, fun _ => ?_, fun _ => .inl rfl⟩
    · rw [(begun body).1]
      simp [Succeeds, RetryLoop.cancelled]
    · rw [(begun body).2]
      simp
  | failed body live =>
    refine ⟨?_, fun _ => ?_, fun _ => .inr ⟨_, rfl⟩⟩
    · rw [(begun body).1]
      simp [Succeeds, RetryLoop.failed]
    · rw [(begun body).2]
      simp [WasCancelled, live]
  | @retried number span middle error spans rest outcome body live again protocol ih =>
    have tail : (Succeeds AttemptRecord.eventType ([.recorded (loop.failed number span error),
          .slept (loop.definition.delaySeconds number) (.ok ())] ++ rest) ↔ Succeeds AttemptRecord.eventType rest) ∧
        (WasCancelled ([.recorded (loop.failed number span error),
          .slept (loop.definition.delaySeconds number) (.ok ())] ++ rest) ↔ WasCancelled rest) := by
      rw [succeeds_append, wasCancelled_append]
      simp [Succeeds, WasCancelled, RetryLoop.failed]
    rw [List.append_assoc]
    refine ⟨?_, fun works => ?_, ih.returned⟩
    · rw [(begun body).1, tail.1, ih.succeeds]
    · rw [(begun body).2, tail.2, ih.cancelled works]
      simp [live]
  | interrupted body live =>
    refine ⟨?_, fun _ => ?_, fun _ => .inl rfl⟩
    · rw [(begun body).1]
      simp [Succeeds, RetryLoop.failed, RetryLoop.retryCancelled]
    · rw [(begun body).2]
      simp [WasCancelled]
  | unstarted failing =>
    refine ⟨?_, fun works => absurd failing works, fun works => absurd failing works⟩
    simp [Succeeds]
  | unended failing body =>
    refine ⟨?_, fun works => absurd failing works, fun works => absurd failing works⟩
    rw [← List.append_nil (_ :: _), (begun body).1]
    simp [Succeeds]
  | unreported failing body =>
    refine ⟨?_, fun works => absurd failing works, fun works => absurd failing works⟩
    rw [(begun body).1]
    simp [Succeeds, RetryLoop.failed]

/-- The call succeeds, or still owns its claim when it fails it. -/
def KeepsClaim (log : List OpMoment) : Prop := Succeeds TraceEvent.eventType (acts log) ∨ FailsOwned log

theorem Shows.marks {run : Run} {shown : List (Act AttemptRecord)} (shows : Shows dep run log shown) :
    (Succeeds TraceEvent.eventType (acts log) ↔ Succeeds AttemptRecord.eventType shown) ∧
      (WasCancelled (acts log) ↔ WasCancelled shown) := by
  rw [shows]
  constructor
  · constructor
    · rintro ⟨event, member, same⟩
      obtain ⟨act, among, built⟩ := List.mem_map.mp member
      cases act <;> cases built
      exact ⟨_, among, same⟩
    · rintro ⟨record, member, same⟩
      exact ⟨_, List.mem_map_of_mem member, same⟩
  · unfold WasCancelled
    refine or_congr ?_ (exists_congr fun seconds => ?_) <;> rw [List.mem_map] <;> constructor
    · rintro ⟨act, among, built⟩
      cases act <;> cases built
      exact among
    · exact fun member => ⟨_, member, rfl⟩
    · rintro ⟨act, among, built⟩
      cases act <;> cases built
      exact among
    · exact fun member => ⟨_, member, rfl⟩

/-- The last operation of a call that failed its claim: it answered to the owner, was refused to
anyone else, or the database failed. -/
theorem failing_last {id owner : Uuid} {key text : String} {disposition : ToolFailureDisposition} {before after : SystemState}
    {answer : Except Exn Unit} {earlier : List OpMoment} (follows : dep.gateway.Follows p w log v)
    (split : log = earlier ++ [⟨.failToolExecution id key owner text disposition, before, answer, after⟩])
    (unsettling : Unsettling earlier) :
    answer = .ok () ∧ FailsOwned log ∨ answer = .error .valueError ∧ ¬ FailsOwned log ∨ answer = .error .database := by
  have member : (⟨.failToolExecution id key owner text disposition, before, answer, after⟩ : OpMoment) ∈ log := by
    rw [split]
    exact List.mem_append_right _ List.mem_cons_self
  obtain ⟨now, performed⟩ := follows.performed _ member
  have given : dep.perform p (.failToolExecution id key owner text disposition) now before answer after := performed
  refine (failToolExecution_answer given).imp (fun owned => ⟨owned.1, ?_⟩)
    (Or.imp_left fun lost => ⟨lost.1, fun owning => lost.2 (owning _ _ _ _ _ _ _ _ member)⟩)
  intro otherId otherKey otherOwner otherText otherDisposition otherBefore otherAnswer otherAfter found
  rw [split] at found
  rcases List.mem_append.mp found with inside | last
  · cases unsettling _ inside
  · cases List.mem_singleton.mp last
    exact owned.2

theorem Unsettling.not_escapes {outcome : Except Exn ToolCallResult} (unsettling : Unsettling log) :
    ¬ LossEscapes log outcome := by
  rintro ⟨-, earlier, ⟨op, before, answer, after⟩, rfl, failed⟩
  have kind := unsettling _ (List.mem_append_right _ List.mem_cons_self)
  cases op with
  | completeToolResult | failToolExecution => cases kind
  | _ => cases failed

theorem Unsettling.failsOwned (unsettling : Unsettling log) : FailsOwned log := by
  intro id key owner text disposition before answer after member
  cases unsettling _ member

/-- A claim is settled with the exceptions of the store only. -/
theorem settlingFailed_kind {error : Exn} (follows : dep.gateway.Follows p w log v) {settling : List OpMoment}
    (inside : ∀ moment ∈ settling, moment ∈ log) (failed : SettlingFailed settling error) :
    error = .valueError ∨ error = .database ∧ ¬ Unbroken log := by
  obtain ⟨⟨op, before, answer, after⟩, member, same⟩ := failed
  obtain ⟨now, performed⟩ := follows.performed _ (inside _ member)
  have refusing : ∀ {tx : Tx Unit} {answer : Except Exn Unit} {error : Exn}, before.Commits tx answer after →
      answer = .error error → (∀ error, tx before.store = .error error → error = .valueError) →
      error = .valueError ∨ error = .database := by
    rintro tx answer error ⟨store, settled, -⟩ rfl refusal
    cases settled with
    | refused result => exact .inl (refusal _ result)
    | broken => exact .inr rfl
  have broken : error = .database → ¬ Unbroken log := by
    rintro rfl unbroken
    have sound := unbroken _ (inside _ member)
    cases op with
    | completeToolResult | failToolExecution =>
      cases answer with
      | ok => cases same
      | error => exact sound (congrArg Except.error (Option.some.inj same))
    | _ => cases same
  suffices kind : error = .valueError ∨ error = .database from kind.imp_right fun lost => ⟨lost, broken lost⟩
  cases op with
  | completeToolResult id key payload owner =>
    cases answer with
    | ok => cases same
    | error =>
      cases same
      refine refusing performed rfl fun error refused => ?_
      unfold Store.completeToolResult at refused
      repeat' split at refused
      all_goals cases refused
      all_goals rfl
  | failToolExecution id key owner text disposition =>
    cases answer with
    | ok => cases same
    | error =>
      cases same
      refine refusing performed rfl fun error refused => ?_
      unfold Store.failToolExecution at refused
      repeat' split at refused
      all_goals cases refused
      all_goals rfl
  | _ => cases same

/-- The exception of a lost claim comes out only of a call that failed a claim it did not own. A call that
began its attempts, and that nothing else breaks, ends well exactly when it succeeds or keeps its claim. -/
theorem lost_claim_escapes {outcome : Except Exn ToolCallResult} (follows : dep.gateway.Follows p w log v)
    (begun : w.procs p = .ready (call.program dep)) (ended : v.procs p = .ready (.ofExcept outcome)) :
    (KeepsClaim log → ¬ LossEscapes log outcome) ∧
      (acts log ≠ [] → Unbroken log → (EndsWell log outcome ↔ KeepsClaim log)) := by
  rcases call_protocol follows begun ended id with ⟨preparing, -⟩ | ⟨definition, shown, spans, result, -, shows, -, protocol,
    answers⟩
  · exact ⟨fun _ => preparing.unsettling.not_escapes, fun acting => absurd preparing.acts acting⟩
  have concludes := Protocol_concludes protocol
  obtain ⟨succeeding, cancelling⟩ := shows.marks
  -- a loop that nothing broke returns or is cancelled, and its end is in the trace
  have ending : Unbroken log → (result = .error .cancelled ∨ ∃ value, result = .ok value) ∧
      (WasCancelled (acts log) ↔ result = .error .cancelled) := fun unbroken =>
    ⟨concludes.returned unbroken.recorded, cancelling.trans (concludes.cancelled unbroken.recorded)⟩
  have well : Unbroken log → outcome = result → EndsWell log outcome := by
    rintro unbroken rfl
    obtain ⟨returned, cancelled⟩ := ending unbroken
    exact ⟨cancelled.mp, fun calm => returned.resolve_left (mt cancelled.mpr calm)⟩
  rcases answers with ⟨-, unsettling, rfl⟩ | ⟨key, owner, earlier, settling, -, split, unsettling, settles⟩
  · exact ⟨fun _ => unsettling.not_escapes, fun _ unbroken => ⟨fun _ => .inr unsettling.failsOwned, fun _ => well unbroken rfl⟩⟩
  have inside : ∀ moment ∈ settling, moment ∈ log := by
    intro moment member
    rw [split]
    exact List.mem_append_right _ member
  -- what the settling of a failed or cancelled loop comes to
  have lost : ∀ {text disposition before answer after},
      settling = [⟨.failToolExecution call.run.id key owner text disposition, before, answer, after⟩] →
      outcome = answer.bind (fun _ => result) → ¬ (∃ output count cached, result = .ok (.succeeded output count cached)) →
      (KeepsClaim log → ¬ LossEscapes log outcome) ∧
        (acts log ≠ [] → Unbroken log → (EndsWell log outcome ↔ KeepsClaim log)) := by
    rintro text disposition before answer after rfl same unsuccessful
    have unseen : ¬ Succeeds TraceEvent.eventType (acts log) := mt (succeeding.trans concludes.succeeds).mp unsuccessful
    rcases failing_last follows split unsettling with ⟨rfl, owned⟩ | ⟨rfl, unowned⟩ | rfl
    · refine ⟨fun _ escapes => ?_, fun _ unbroken => ⟨fun _ => .inr owned, fun _ => well unbroken same⟩⟩
      obtain ⟨-, before, moment, last, failed⟩ := escapes
      rw [split] at last
      cases (List.append_inj' last rfl).2
      cases failed
    · have given : ¬ KeepsClaim log := not_or.mpr ⟨unseen, unowned⟩
      refine ⟨fun keeps => absurd keeps given, fun _ _ => ⟨fun good => ?_, fun keeps => absurd keeps given⟩⟩
      cases same
      by_cases cancelled : WasCancelled (acts log)
      · cases good.1 cancelled
      · obtain ⟨value, same⟩ := good.2 cancelled
        cases same
    · refine ⟨fun _ escapes => ?_, fun _ unbroken => ?_⟩
      · cases same
        cases escapes.1
      · exact absurd rfl (unbroken _ (inside _ List.mem_cons_self))
  cases settles with
  | completed | uncompleted =>
    have success : Succeeds TraceEvent.eventType (acts log) := (succeeding.trans concludes.succeeds).mpr ⟨_, _, _, rfl⟩
    refine ⟨fun _ escapes => (by cases escapes.1), fun _ unbroken => ⟨fun _ => .inl success, fun _ => ?_⟩⟩
    have calm : ¬ WasCancelled (acts log) := by
      rw [(ending unbroken).2]
      simp
    exact ⟨fun cancelled => absurd cancelled calm, fun _ => ⟨_, rfl⟩⟩
  | broken silent unlike failed =>
    rcases settlingFailed_kind follows inside failed with rfl | ⟨rfl, broken⟩
    · cases unlike
    · exact ⟨fun _ escapes => (by cases escapes.1), fun _ unbroken => absurd unbroken broken⟩
  | @failed code count retryable text disposition before answer after =>
    exact lost rfl (by cases answer <;> rfl) (by simp)
  | cancelled => exact lost rfl rfl (by simp)
  | escaped live =>
    rw [List.append_nil] at split
    refine ⟨fun _ => (split ▸ unsettling).not_escapes, fun _ unbroken => ?_⟩
    rcases (ending unbroken).1 with same | ⟨value, same⟩
    · cases same
      exact absurd rfl live
    · cases same

theorem logTurns_besides {env : Responder} {M : Machine Pid Op Op.Answer Exn ToolCallResult DateTime SystemState}
    (reads : ∀ s, M.reads s s.clock)
    (performs : ∀ p op s, M.perform p op s.clock s (env.act dep.store p s.clock s op).1
      (env.act dep.store p s.clock s op).2) {q : Pid} (apart : p ≠ q) {count : Nat} {u v : GatewayWorld}
    (taken : logTurns dep env q count u = some (log, v)) : M.Follows p u [] v := by
  induction count generalizing u log with
  | zero =>
    cases taken
    exact .refl
  | succ count ih =>
    unfold logTurns at taken
    split at taken
    · rename_i op next ready
      obtain ⟨⟨rest, last⟩, more, same⟩ := Option.map_eq_some_iff.mp taken
      cases same
      have issued := Machine.Follows.refl.besides (p := p) (.issue ready (reads u.state)) (Function.update_of_ne apart ..)
      have committed := issued.besides (.commit (Function.update_self ..) (performs q op u.state))
        (Function.update_of_ne apart ..)
      simp only [Function.update_idem] at committed
      simpa using committed.trans (ih more)
    · cases taken

theorem demoLate_inside : 63924076800 * 1000000 + 31 * 1000000 < maxWall := by decide

/-- The first caller reaches its handler, its lease runs out, a second one takes the claim over, and then
the handler of the first one fails. -/
def demoTakeover : Option (List OpMoment × GatewayWorld) :=
  (logTurns (demoHandlers false) (demoAnswering (.error (.toolError "denied" false))) 0 4
    (opening (demoHandlers false) demoCalls Store.empty (demoClock 0 demoStart_inside))).bind fun begun =>
  (logTurns (demoHandlers false) (demoAnswering (.error (.toolError "denied" false))) 1 2
    ⟨{ begun.2.state with clock := demoClock 31 demoLate_inside }, begun.2.procs⟩).bind fun taken =>
  (logTurns (demoHandlers false) (demoAnswering (.error (.toolError "denied" false))) 0 3 taken.2).map fun last =>
    (begun.1 ++ last.1, last.2)

def raised (w : GatewayWorld) : Option Exn :=
  match w.procs 0 with
  | .ready (.raise error) => some error
  | _ => none

theorem raised_some {error : Exn} (same : raised w = some error) : w.procs 0 = .ready (.ofExcept (.error error)) := by
  unfold raised at same
  split at same
  · rename_i value there
    rw [there, Option.some.inj same]
    rfl
  · cases same

theorem demoTakeover_follows {check : List OpMoment × GatewayWorld → Bool} (ran : demoTakeover.any check = true) :
    ∃ (w : GatewayWorld) (log : List OpMoment) (v : GatewayWorld), (demoHandlers false).gateway.Follows 0 w log v ∧
      w.procs 0 = .ready ((demoCalls 0).program (demoHandlers false)) ∧ check (log, v) = true := by
  have performs : ∀ p op s, (demoHandlers false).gateway.perform p op s.clock s
      ((demoAnswering (.error (.toolError "denied" false))).act (demoHandlers false).store p s.clock s op).1
      ((demoAnswering (.error (.toolError "denied" false))).act (demoHandlers false).store p s.clock s op).2 :=
    fun p op s => (demoAnswering_fits false _).perform p s.clock s op
  obtain ⟨⟨log, v⟩, taken, checked⟩ := (Option.any_eq_true _ _).mp ran
  obtain ⟨⟨first, begun⟩, begins, later⟩ := Option.bind_eq_some_iff.mp taken
  obtain ⟨⟨second, other⟩, takes, ends⟩ := Option.bind_eq_some_iff.mp later
  obtain ⟨⟨third, last⟩, finishes, same⟩ := Option.map_eq_some_iff.mp ends
  cases same
  have start := logTurns_follows (fun _ => rfl) performs begins
  have late := start.besides (u := ⟨{ begun.state with clock := demoClock 31 demoLate_inside }, begun.procs⟩)
    (.ambient ⟨rfl, rfl, le_rfl⟩) rfl
  have apart : (0 : Pid) ≠ 1 := by decide
  have taken := late.trans (logTurns_besides (fun _ => rfl) performs apart takes)
  have whole := taken.trans (logTurns_follows (fun _ => rfl) performs finishes)
  rw [List.append_nil] at whole
  exact ⟨_, _, _, whole, rfl, checked⟩

/-- The `ValueError` of the lost claim is what the caller gets. -/
theorem lost_claim_raised : ∃ (w : GatewayWorld) (log : List OpMoment) (v : GatewayWorld),
    (demoHandlers false).gateway.Follows 0 w log v ∧ w.procs 0 = .ready ((demoCalls 0).program (demoHandlers false)) ∧
      v.procs 0 = .ready (.ofExcept (.error .valueError)) ∧ ¬ RecorderFailed log ∧
      (v.state.store.toolResults 0 "key").any (fun row => v.state.drawn row.ownerToken = some 1) = true := by
  obtain ⟨w, log, v, follows, begun, checked⟩ := @demoTakeover_follows
    (fun found => recorderWorks found.1 && raised found.2 = some .valueError &&
      (found.2.state.store.toolResults 0 "key").any fun row => found.2.state.drawn row.ownerToken = some 1)
    (by decide +kernel)
  obtain ⟨first, taken⟩ := Bool.and_eq_true_iff.mp checked
  obtain ⟨works, ended⟩ := Bool.and_eq_true_iff.mp first
  exact ⟨w, log, v, follows, begun, raised_some (of_decide_eq_true ended), recorderWorks_sound works, taken⟩

/-- A handler that fails while its claim is still held. -/
theorem lost_claim_escapes_kept : ∃ (log : List OpMoment) (result : ToolCallResult),
    result.errorCode = some "denied" ∧ (KeepsClaim log → ¬ LossEscapes log (.ok result)) ∧
      (acts log ≠ [] → Unbroken log → (EndsWell log (.ok result) ↔ KeepsClaim log)) := by
  obtain ⟨w, log, v, follows, begun, checked⟩ := demoCall_follows (demoCalls 0) false (.error (.toolError "denied" false)) 7
    (fun found => (returned found.2).any fun result => result.errorCode = some "denied") (by decide +kernel)
  obtain ⟨result, same, code⟩ := (Option.any_eq_true _ _).mp checked
  exact ⟨log, result, of_decide_eq_true code, lost_claim_escapes follows begun (returned_some same)⟩

end ReliabilityLab
