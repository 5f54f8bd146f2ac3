import ReliabilityLab.Runtime.Guarantee

namespace ReliabilityLab

variable {dep : Deployment} {allowed : Allowed} {p : Pid} {s : SystemState}

theorem Approved.rely {run : Run} {action : CallToolAction} {t : SystemState}
    (approved : Approved dep run action s) (others : Rely p s t) : Approved dep run action t := by
  obtain ⟨row, stored, allow, fingerprint⟩ := approved
  exact ⟨row, others.approvals _ _ _ stored, allow, fingerprint⟩

theorem Cause.rely {run : Run} {code : String} {t : SystemState} (cause : Cause dep allowed p run code s)
    (others : Rely p s t) : Cause dep allowed p run code t := by
  refine ⟨fun denied => (cause.denied denied).imp_right ?_, fun blocked => (cause.blocked blocked).imp_right ?_⟩
  · rintro ⟨now, s₀, row, met, stored, denial, since⟩
    exact ⟨now, s₀, row, met, stored, denial, since.trans others⟩
  · rintro ⟨now, s₀, key, owner, fingerprint, reclaim, row, met, stored, same, state, foreign, live, since⟩
    exact ⟨now, s₀, key, owner, fingerprint, reclaim, row, met, stored, same, state, foreign, live,
      since.trans others⟩

/-- A code that neither a denial nor a foreign claim gives. -/
def PlainCode (code : String) : Prop := code ≠ "approval_denied" ∧ code ≠ "idempotency_in_progress"

instance (code : String) : Decidable (PlainCode code) := inferInstanceAs (Decidable (_ ∧ _))

theorem Cause.plain {run : Run} {code : String} (plain : PlainCode code) : Cause dep allowed p run code s :=
  ⟨fun same => absurd same plain.1, fun same => absurd same plain.2⟩

theorem Cause.foreign {run : Run} {code : String} (foreign : ForeignCode dep code) :
    Cause dep allowed p run code s := ⟨fun _ => .inl foreign, fun _ => .inl foreign⟩

theorem orText_cause {run : Run} {code other : String} (cause : Cause dep allowed p run code s)
    (plain : PlainCode other) : Cause dep allowed p run (orText code other) s := by
  unfold orText
  split
  · exact .plain plain
  · exact cause

/-- The rule for an operation that leaves the shared tables alone. -/
theorem obeys_quiet {α : Type} {op : Op} (quiet : op.quiet = true) {next : op.Answer → Prog α}
    {Q : α → SystemState → Prop} {E : Exn → SystemState → Prop}
    (owed : ∀ t, Rely p s t → Pre dep allowed p op t)
    (after : ∀ now t answer u, Rely p s t → dep.perform p op now t answer u → allowed p op now t → Rely p s u →
      (next answer).Obeys (discipline dep allowed p) Q E u) :
    (Program.perform op next).Obeys (discipline dep allowed p) Q E s := by
  intro t others _
  refine ⟨owed t others, ?_⟩
  rintro answer u ⟨now, performed, met⟩ _
  exact after now t answer u others performed met (others.trans ((Op.quiet.untouched quiet performed).rely p))

/-- A drawn identifier is new: its party has it, and no run goes by it. -/
theorem obeys_draw {α : Type} {next : Uuid → Prog α} {Q : α → SystemState → Prop} {E : Exn → SystemState → Prop}
    (after : ∀ token u, Rely p s u → u.drawn token = some p → u.store.runs token = none → ¬ TraceUsed token u →
      (∀ other, s.drawn other = some p → other ≠ token) →
      (next token).Obeys (discipline dep allowed p) Q E u) :
    (uuid4.bind next).Obeys (discipline dep allowed p) Q E s := by
  intro t others valid
  refine ⟨trivial, ?_⟩
  rintro answer u ⟨now, ⟨rfl, rfl⟩, -⟩ _
  have unknown : t.drawn t.store.nextUuid = none := by
    by_contra known
    exact absurd (valid.supply _ known) (lt_irrefl _)
  refine after _ _ (others.trans ((draw_guarantees valid).2 p)) (by simp [SystemState.draw]) ?_ ?_ ?_
  · by_contra stored
    obtain ⟨row, found⟩ := Option.ne_none_iff_exists'.mp stored
    exact (valid.rows _ row found).2.2.2.1 unknown
  · rintro ⟨id, row, found, same⟩
    obtain ⟨-, -, trace, -, drawn⟩ := valid.rows id row found
    rw [trace, same] at drawn
    exact drawn unknown
  · rintro other drawn rfl
    rw [others.drawn _ _ drawn] at unknown
    cases unknown

/-- As `obeys_quiet`, for an answer that is raised when it is an exception. -/
theorem obeys_quiet_except {α : Type} {op : Op} (quiet : op.quiet = true) {read : op.Answer → Except Exn α}
    {Q : α → SystemState → Prop} {E : Exn → SystemState → Prop}
    (owed : ∀ t, Rely p s t → Pre dep allowed p op t)
    (returns : ∀ now t answer u value, Rely p s t → dep.perform p op now t answer u → allowed p op now t →
      Rely p s u → read answer = .ok value → Q value u)
    (raises : ∀ now t answer u error, Rely p s t → dep.perform p op now t answer u → Rely p s u →
      read answer = .error error → E error u) :
    ((Program.ask op).bind fun answer => .ofExcept (read answer)).Obeys (discipline dep allowed p) Q E s := by
  refine obeys_quiet quiet owed fun now t answer u others performed met since => ?_
  simp only [Program.ret_bind]
  cases result : read answer with
  | ok value => exact returns now t answer u value others performed met since result
  | error error => exact raises now t answer u error others performed since result

/-- Which tool errors can come out of an attempt. -/
def Attributed (dep : Deployment) (error : Exn) : Prop :=
  ∀ code transient, error = .toolError code transient → PlainCode code ∨ ForeignCode dep code

theorem Attributed.store {error : Exn} (store : error = .valueError ∨ error = .database) :
    Attributed dep error := by
  rintro code transient rfl
  rcases store with impossible | impossible <;> cases impossible

theorem record_obeys {run : Run} (holds : Holds p run s) (running : run.status = .running) {eventType : EventType}
    (appended : eventType.appended = true) {payload : Dict} {span : Option Uuid} {status : String}
    {Q : Unit → SystemState → Prop} {E : Exn → SystemState → Prop} (returns : ∀ u, Rely p s u → Q () u)
    (raises : ∀ error u, Rely p s u → Attributed dep error → E error u) :
    (record dep run.traceId eventType payload span status).Obeys (discipline dep allowed p) Q E s := by
  refine obeys_quiet_except rfl (fun t others => ?_) (fun _ _ _ u _ _ _ _ since _ => returns u since)
    fun _ t answer u error _ performed since result => raises error u since (.store ?_)
  · exact .inr ⟨appended, run, holds.rely others, running, rfl⟩
  · obtain ⟨after, settled, -⟩ := performed
    subst result
    cases settled with
    | refused failed => exact .inl (Store.appendEvent_error failed)
    | broken => exact .inr rfl

/-- The approval check of the gateway: only a recorded permission lets the call go on. -/
theorem preflight_obeys {run : Run} {action : CallToolAction} {plan : FaultPlan} {checkApproval : Bool}
    {Q : Option ToolCallResult → SystemState → Prop} {E : Exn → SystemState → Prop}
    (passes : ∀ definition input u, Rely p s u → dep.registry.get action.toolName = some definition →
      definition.inputModel action.arguments = some input →
      (definition.isWrite = true ∨ definition.requiresApproval = true → action.idempotencyKey.isSome = true) →
      (checkApproval = true → definition.requiresApproval = true → Approved dep run action u) → Q none u)
    (fails : ∀ code u, Rely p s u → Cause dep allowed p run code u → Q (some (.failed code 0 false)) u)
    (raises : ∀ error u, Rely p s u → E error u) :
    (dep.preflight run action plan checkApproval).Obeys (discipline dep allowed p) Q E s := by
  have plainly : ∀ code, PlainCode code → Q (some (.failed code 0 false)) s :=
    fun code plain => fails code s (.refl p s) (.plain plain)
  unfold Deployment.preflight
  split
  · exact plainly _ (by decide)
  · rename_i definition registered
    split
    · exact plainly _ (by decide)
    · rename_i input validated
      split
      · exact plainly _ (by decide)
      · split
        · exact plainly _ (by decide)
        · rename_i _ unkeyed
          have keyed : definition.isWrite = true ∨ definition.requiresApproval = true →
              action.idempotencyKey.isSome = true := by
            intro needed
            by_contra absent
            simp only [Bool.not_eq_true, Option.isSome_eq_false_iff] at absent
            exact unkeyed (by simpa [absent] using needed)
          split
          · refine Program.obeys_bind.mpr (obeys_quiet_except rfl (fun _ _ => trivial)
              (fun now t answer u value others performed met since result => ?_)
              fun _ _ _ u error _ _ since _ => raises error u since)
            obtain ⟨after, settled, rfl⟩ := performed
            subst result
            cases settled.ok
            cases read : t.store.approvals run.id run.currentStep with
            | none => exact fails _ _ since (.plain (by decide))
            | some row =>
              have kept : t.store.approvals run.id run.currentStep = some row := read
              simp only
              split
              · exact fails _ _ since (.plain (by decide))
              · split
                · rename_i denial
                  refine fails _ _ since ⟨fun _ => .inr ⟨now, t, row, met, read, by simpa using denial, .refl p t⟩,
                    fun blocked => absurd blocked (by decide)⟩
                · rename_i fingerprint allow
                  exact passes definition input _ since registered validated keyed fun _ _ =>
                    ⟨row, kept, by simpa using allow, by simpa using fingerprint⟩
          · rename_i unchecked
            refine passes definition input s (.refl p s) registered validated keyed fun checked required => ?_
            simp [checked, required] at unchecked

theorem attempted_cause {run : Run} {error : Exn} (attributed : Attributed dep error) :
    Cause dep allowed p run (Deployment.attemptError error).1 s := by
  cases error with
  | toolError code transient =>
    rcases attributed code transient rfl with plain | foreign
    · exact .plain plain
    · exact .foreign foreign
  | timeout => exact .plain (by decide)
  | validationError => exact .plain (by decide)
  | _ => exact .plain (by simp [Deployment.attemptError, PlainCode])

section Attempts
variable {run : Run} {action : CallToolAction} {definition : ToolDefinition} {input : Dict}
  {context : ToolExecutionContext} {plan : FaultPlan}

theorem faultCode_plain (kind : FaultKind) : PlainCode (faultCode kind) := by
  cases kind <;> decide

theorem rawOutput_obeys (holds : Holds p run s) (running : run.status = .running)
    (entitled : ∀ t, Rely p s t → Entitled dep ⟨run, action, definition, input, context⟩ t) {span number : Nat}
    {Q : Json → SystemState → Prop} {E : Exn → SystemState → Prop} (returns : ∀ raw u, Rely p s u → Q raw u)
    (raises : ∀ error u, Rely p s u → Attributed dep error → E error u) :
    (dep.rawOutput run action definition input context plan span number).Obeys (discipline dep allowed p) Q E s := by
  unfold Deployment.rawOutput
  split
  · rename_i injected planned
    refine Program.obeys_bind.mpr (record_obeys holds running rfl (fun u since => ?_)
      raises)
    · split
      · exact returns _ u since
      · refine raises _ u since fun code transient same => ?_
        cases same
        exact .inl (faultCode_plain _)
  · refine obeys_quiet_except rfl (fun t others => entitled t others)
      (fun _ _ _ u _ _ _ _ since _ => returns _ u since) fun _ t answer u error others performed since result => ?_
    subst result
    refine raises error u since fun code transient same => ?_
    subst same
    exact .inr (.inl ⟨_, _, performed.1⟩)

theorem attemptOutput_obeys (holds : Holds p run s) (running : run.status = .running)
    (entitled : ∀ t, Rely p s t → Entitled dep ⟨run, action, definition, input, context⟩ t) {span number : Nat}
    {Q : Json → SystemState → Prop} {E : Exn → SystemState → Prop} (returns : ∀ output u, Rely p s u → Q output u)
    (raises : ∀ error u, Rely p s u → Attributed dep error → E error u) :
    (dep.attemptOutput run action definition input context plan span number).Obeys
      (discipline dep allowed p) Q E s := by
  refine Program.obeys_bind.mpr (rawOutput_obeys holds running entitled (fun raw u since => ?_) raises)
  split
  · exact returns _ u since
  · refine Program.obeys_bind.mpr (record_obeys (holds.rely since) running rfl (fun v later => ?_)
      fun error v later => raises error v (since.trans later))
    refine raises _ v (since.trans later) fun code transient same => ?_
    cases same
    exact .inl (by decide)
  · exact raises _ u since fun code transient same => by cases same

theorem backoff_obeys (holds : Holds p run s) (running : run.status = .running) {toolName : String} {number : Nat}
    {Q : Unit → SystemState → Prop} {E : Exn → SystemState → Prop} (returns : ∀ u, Rely p s u → Q () u)
    (raises : ∀ error u, Rely p s u → E error u) :
    (dep.backoff run toolName definition number).Obeys (discipline dep allowed p) Q E s := by
  refine Program.obeys_bind.mpr (Program.obeys_attempt.mpr (obeys_quiet_except rfl (fun _ _ => ?_)
    (fun _ _ _ u _ _ _ _ since _ => returns u since) fun _ _ _ u error _ _ since _ => ?_))
  · trivial
  dsimp only
  split
  · refine obeys_draw fun span v later _ _ _ _ => Program.obeys_bind.mpr ?_
    exact record_obeys ((holds.rely since).rely later) running rfl
      (fun w final => raises error w ((since.trans later).trans final))
      fun error w final _ => raises error w ((since.trans later).trans final)
  · exact raises error u since

/-- The retry loop only appends events and calls the handler it is entitled to;
its failures carry the codes of their last error. -/
theorem attempts_obeys (running : run.status = .running) {left number : Nat} (holds : Holds p run s)
    (entitled : ∀ t, Rely p s t → Entitled dep ⟨run, action, definition, input, context⟩ t)
    {Q : ToolCallResult → SystemState → Prop} {E : Exn → SystemState → Prop}
    (succeeds : ∀ output count u, Rely p s u → Q (.succeeded output count false) u)
    (fails : ∀ code count retryable u, Rely p s u → Cause dep allowed p run code u →
      Q (.failed code count retryable) u)
    (raises : ∀ error u, Rely p s u → E error u) :
    (dep.attempts run action definition input context plan left number).Obeys (discipline dep allowed p) Q E s := by
  induction left generalizing number s with
  | zero => exact raises _ s (.refl p s)
  | succ left ih =>
    refine obeys_draw fun token u since _ _ _ _ => ?_
    replace holds := holds.rely since
    refine Program.obeys_bind.mpr (record_obeys holds running rfl (fun v later => ?_)
      fun error v later _ => raises error v (since.trans later))
    replace since := since.trans later
    replace holds := holds.rely later
    refine Program.obeys_bind.mpr (Program.obeys_attempt.mpr (attemptOutput_obeys holds running
      (fun w others => entitled w (since.trans others)) (fun output w last => ?_)
      fun error w last attributed => ?_))
    · refine Program.obeys_bind.mpr (record_obeys (holds.rely last) running rfl (fun x final => ?_)
        fun error x final _ => raises error x ((since.trans last).trans final))
      exact succeeds output number x ((since.trans last).trans final)
    · replace since := since.trans last
      replace holds := holds.rely last
      dsimp only
      split
      · exact Program.obeys_bind.mpr (record_obeys holds running rfl
          (fun x final => raises _ x (since.trans final)) fun error x final _ => raises error x (since.trans final))
      · refine Program.obeys_bind.mpr (record_obeys holds running rfl (fun x final => ?_)
          fun error x final _ => raises error x (since.trans final))
        replace since := since.trans final
        split
        · refine Program.obeys_bind.mpr (backoff_obeys (holds.rely final) running (fun y resumed => ?_)
            fun error y stopped => raises error y (since.trans stopped))
          replace since := since.trans resumed
          exact ih ((holds.rely final).rely resumed) (fun z others => entitled z (since.trans others))
            (fun output count z others => succeeds output count z (since.trans others))
            (fun code count retryable z others => fails code count retryable z (since.trans others))
            fun error z others => raises error z (since.trans others)
        · exact fails _ _ _ x since (attempted_cause attributed)

end Attempts

theorem failToolExecution_obeys {id owner : Uuid} {key error : String} {disposition : ToolFailureDisposition}
    {Q : Unit → SystemState → Prop} {E : Exn → SystemState → Prop} (returns : ∀ u, Rely p s u → Q () u)
    (raises : ∀ error u, Rely p s u → E error u) :
    (failToolExecution id key owner error disposition).Obeys (discipline dep allowed p) Q E s := by
  refine obeys_quiet_except rfl (fun _ _ => ?_) (fun _ _ _ u _ _ _ _ since _ => returns u since)
    fun _ _ _ u error _ _ since _ => raises error u since
  trivial

section Call
variable {run : Run} {action : CallToolAction} {definition : ToolDefinition} {input : Dict}
  {fingerprint key : String} {plan : FaultPlan} {owner : Uuid}
  {Q : ToolCallResult → SystemState → Prop} {E : Exn → SystemState → Prop}

theorem completeToolResult_obeys {id : Uuid} {output : Json} {disposition : ToolFailureDisposition}
    {Q : Unit → SystemState → Prop} (returns : ∀ u, Rely p s u → Q () u)
    (raises : ∀ error u, Rely p s u → E error u) :
    (completeToolResult dep id key output owner disposition).Obeys (discipline dep allowed p) Q E s := by
  unfold completeToolResult
  simp only
  split
  · refine obeys_quiet_except rfl (fun _ _ => ?_) (fun _ _ _ u _ _ _ _ since _ => returns u since)
      fun _ _ _ u error _ _ since _ => raises error u since
    trivial
  · exact Program.obeys_bind.mpr (failToolExecution_obeys (fun u since => raises _ u since) raises)

theorem persistClaimResult_obeys {result : ToolCallResult}
    (succeeds : ∀ output count cached u, Rely p s u → Q (.succeeded output count cached) u)
    (fails : ∀ code count retryable u, Rely p s u →
      (Cause dep allowed p run code u ∨ ∃ count' retryable', result = .failed code count' retryable') →
      Q (.failed code count retryable) u)
    (raises : ∀ error u, Rely p s u → E error u) :
    (dep.persistClaimResult run key owner result definition).Obeys (discipline dep allowed p) Q E s := by
  cases result with
  | succeeded output count cached =>
    refine Program.obeys_bind.mpr (Program.obeys_attempt.mpr (completeToolResult_obeys
      (fun u since => succeeds output count cached u since) fun error u since => ?_))
    dsimp only
    split
    · refine fails _ _ _ u since (.inl (.plain ?_))
      split <;> decide
    · exact raises error u since
  | failed code count retryable =>
    exact Program.obeys_bind.mpr (failToolExecution_obeys
      (fun u since => fails code count retryable u since (.inr ⟨_, _, rfl⟩)) raises)

theorem executeClaimed_obeys (running : run.status = .running) (holds : Holds p run s)
    (entitled : ∀ context t, Rely p s t → Entitled dep ⟨run, action, definition, input, context⟩ t)
    (succeeds : ∀ output count cached u, Rely p s u → Q (.succeeded output count cached) u)
    (fails : ∀ code count retryable u, Rely p s u → Cause dep allowed p run code u →
      Q (.failed code count retryable) u)
    (raises : ∀ error u, Rely p s u → E error u) :
    (dep.executeClaimed run action definition input fingerprint plan key owner).Obeys
      (discipline dep allowed p) Q E s := by
  have persisted : ∀ result u, Rely p s u →
      (∀ code count retryable, result = .failed code count retryable → Cause dep allowed p run code u) →
      (dep.persistClaimResult run key owner result definition).Obeys (discipline dep allowed p) Q E u := by
    intro result u since causes
    refine persistClaimResult_obeys (fun output count cached v later => succeeds output count cached v (since.trans later))
      (fun code count retryable v later cause => fails code count retryable v (since.trans later) ?_)
      fun error v later => raises error v (since.trans later)
    rcases cause with cause | ⟨count', retryable', same⟩
    · exact cause
    · exact (causes code count' retryable' same).rely later
  refine Program.obeys_bind.mpr (Program.obeys_attempt.mpr (attempts_obeys running holds (entitled _)
    (fun output count u since => persisted _ u since fun _ _ _ impossible => by cases impossible)
    (fun code count retryable u since cause => persisted _ u since fun _ _ _ same => by cases same; exact cause)
    fun error u since => ?_))
  cases error with
  | cancelled =>
    exact Program.obeys_bind.mpr (failToolExecution_obeys (fun v later => raises _ v (since.trans later))
      fun error v later => raises error v (since.trans later))
  | _ => exact raises _ u since

/-- A gateway call for a run its party holds: the handler is only reached with
permission, and a failure says where its code comes from. -/
theorem call_obeys {proposed : CallToolAction} (running : run.status = .running) (holds : Holds p run s)
    (succeeds : ∀ output count cached u, Rely p s u →
      (dep.requiresApproval (dep.stabilizeAction run proposed) = true →
        Approved dep run (dep.stabilizeAction run proposed) u) → Q (.succeeded output count cached) u)
    (fails : ∀ code count retryable u, Rely p s u → Cause dep allowed p run code u →
      Q (.failed code count retryable) u)
    (raises : ∀ error u, Rely p s u → E error u) :
    (dep.call run proposed plan).Obeys (discipline dep allowed p) Q E s := by
  refine Program.obeys_bind.mpr (preflight_obeys (fun definition input u since registered validated keyed approved => ?_)
    (fun code u since cause => fails code 0 false u since cause) raises)
  have permitted : ∀ v, Rely p u v → dep.requiresApproval (dep.stabilizeAction run proposed) = true →
      Approved dep run (dep.stabilizeAction run proposed) v := by
    intro v later required
    refine (approved rfl ?_).rely later
    simpa [Deployment.requiresApproval, registered] using required
  have entitled : ∀ context v, Rely p u v →
      Entitled dep ⟨run, dep.stabilizeAction run proposed, definition, input, context⟩ v :=
    fun context v later => ⟨registered, ⟨proposed, rfl⟩, validated, fun required => (approved rfl required).rely later⟩
  simp only [registered, validated]
  replace holds := holds.rely since
  split
  · rename_i key keyed
    refine obeys_draw fun owner v later _ _ _ _ => Program.obeys_bind.mpr ?_
    replace holds := holds.rely later
    refine obeys_quiet_except rfl (fun _ _ => ?_) (fun now t answer w claim others performed met last result => ?_)
      fun _ _ _ w error _ _ last _ => raises error w ((since.trans later).trans last)
    · trivial
    subst result
    have own : Rely p t w := (Op.quiet.untouched rfl performed).rely p
    obtain ⟨after, settled, rfl⟩ := performed
    have claimed := settled.ok
    have whole := (since.trans later).trans last
    have plainly : ∀ code, PlainCode code → Q (.failed code 0 false) { t with store := after } :=
      fun code plain => fails code 0 false _ whole (.plain plain)
    unfold Deployment.callClaimed
    split
    · exact plainly _ (by decide)
    · rename_i row
      split
      · split
        · exact succeeds _ _ _ _ whole (permitted _ (later.trans last))
        · exact plainly _ (by decide)
        · exact raises _ _ whole
      · refine plainly _ ?_
        split <;> decide
      · rename_i state
        split
        · rename_i foreign
          refine fails _ 0 false _ whole ⟨fun denied => absurd denied (by decide), fun _ => .inr ?_⟩
          obtain ⟨stored, same, live⟩ := Store.claimToolExecution_foreign claimed state foreign
          exact ⟨now, t, key, owner, _, _, row, met, stored, same, state, foreign, live, own⟩
        · refine executeClaimed_obeys running (holds.rely last)
            (fun context x final => entitled context x ((later.trans last).trans final))
            (fun output count cached x final => succeeds _ _ _ x (whole.trans final)
              (permitted x ((later.trans last).trans final)))
            (fun code count retryable x final cause => fails _ _ _ x (whole.trans final) cause)
            fun error x final => raises error x (whole.trans final)
  · refine obeys_draw fun token v later _ _ _ _ => ?_
    exact attempts_obeys running (holds.rely later) (fun x final => entitled _ x (later.trans final))
      (fun output count x final => succeeds _ _ _ x ((since.trans later).trans final) (permitted x (later.trans final)))
      (fun code count retryable x final cause => fails _ _ _ x ((since.trans later).trans final) cause)
      fun error x final => raises error x ((since.trans later).trans final)

end Call

end ReliabilityLab
