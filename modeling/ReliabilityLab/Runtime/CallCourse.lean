import ReliabilityLab.Runtime.AttemptProtocol

namespace ReliabilityLab

/-- The operations of a call before its first attempt. -/
def Op.prepares : Op → Bool
  | .uuid4 | .getApproval _ _ | .claimToolExecution _ _ _ _ _ => true
  | _ => false

abbrev Preparing (log : List OpMoment) : Prop := ∀ moment ∈ log, moment.op.prepares = true

theorem Preparing.acts {log : List OpMoment} (preparing : Preparing log) : acts log = [] := by
  refine List.filterMap_eq_nil_iff.mpr fun moment member => ?_
  have kind := preparing moment member
  obtain ⟨op, before, answer, after⟩ := moment
  cases op <;> first | rfl | cases kind

theorem Preparing.append {first later : List OpMoment} (left : Preparing first) (right : Preparing later) :
    Preparing (first ++ later) := fun moment member =>
  (List.mem_append.mp member).elim (left moment) (right moment)

/-- Completing or failing a claim ended with an exception. -/
def Op.settleError : (op : Op) → op.Answer → Option Exn
  | .completeToolResult _ _ _ _, .error error => some error
  | .failToolExecution _ _ _ _ _, .error error => some error
  | _, _ => none

def SettlingFailed (log : List OpMoment) (error : Exn) : Prop :=
  ∃ moment ∈ log, moment.op.settleError moment.answer = some error

def Op.settlesClaim : Op → Bool
  | .completeToolResult _ _ _ _ | .failToolExecution _ _ _ _ _ => true
  | _ => false

/-- Nothing here completes or fails a claim. -/
abbrev Unsettling (log : List OpMoment) : Prop := ∀ moment ∈ log, moment.op.settlesClaim = false

theorem Unsettling.append {first later : List OpMoment} (left : Unsettling first) (right : Unsettling later) :
    Unsettling (first ++ later) := fun moment member =>
  (List.mem_append.mp member).elim (left moment) (right moment)

theorem Preparing.unsettling {log : List OpMoment} (preparing : Preparing log) : Unsettling log := by
  intro moment member
  have kind := preparing moment member
  obtain ⟨op, before, answer, after⟩ := moment
  cases op <;> first | rfl | cases kind

/-- A call that has no attempt to show for: refused, answered from a stored result, or failed. -/
def unattempted (outcome : Except Exn ToolCallResult) : Prop :=
  (∃ output, outcome = .ok (.succeeded output 0 true)) ∨ (∃ code, outcome = .ok (.failed code 0 false)) ∨
    ∃ error, outcome = .error error

namespace GatewayCall
variable (dep : Deployment) (call : GatewayCall)

def loop (definition : ToolDefinition) : RetryLoop := ⟨call.run, (call.action dep).toolName, definition, call.plan⟩

/-- The attempts that a call makes on an input, under the identity that it hands to its handler. -/
def attemptsOf (definition : ToolDefinition) (input : Dict) (context : ToolExecutionContext) : Prog ToolCallResult :=
  dep.attempts call.run (call.action dep) definition input context call.plan (call.loop dep definition).limit 1

/-- How a whole call went. A keyed one holds its claim when it begins its attempts. -/
inductive Course (log : List OpMoment) (outcome : Except Exn ToolCallResult) : Prop
  | stopped : Preparing log → unattempted outcome → Course log outcome
  | keyless {definition input context before rest} : dep.registry.get (call.action dep).toolName = some definition →
      (call.action dep).idempotencyKey = none → log = before ++ rest → Preparing before →
      (call.attemptsOf dep definition input context).Ends rest outcome → Course log outcome
  | keyed {definition input fingerprint key owner before rest} :
      dep.registry.get (call.action dep).toolName = some definition → (call.action dep).idempotencyKey = some key →
      log = before ++ rest → Preparing before →
      (dep.executeClaimed call.run (call.action dep) definition input fingerprint call.plan key owner).Ends rest outcome →
      Course log outcome

/-- What `call` makes of the end of its attempts under a claim. -/
inductive Settles (definition : ToolDefinition) (key : String) (owner : Uuid) :
    Except Exn ToolCallResult → List OpMoment → Except Exn ToolCallResult → Prop
  | completed {output count cached log} : acts log = [] →
      Settles definition key owner (.ok (.succeeded output count cached)) log (.ok (.succeeded output count cached))
  | uncompleted {output count cached log} : acts log = [] →
      Settles definition key owner (.ok (.succeeded output count cached)) log (.ok (.failed
        (if definition.isWrite then "idempotency_indeterminate" else "result_serialization_failed") count
          (!definition.isWrite)))
  | broken {output count cached log error} : acts log = [] → error.isValueError = false → SettlingFailed log error →
      Settles definition key owner (.ok (.succeeded output count cached)) log (.error error)
  | failed {code count retryable text disposition before answer after} :
      Settles definition key owner (.ok (.failed code count retryable))
        [⟨.failToolExecution call.run.id key owner text disposition, before, answer, after⟩]
        (answer.map fun _ => .failed code count retryable)
  | cancelled {text disposition before answer after} :
      Settles definition key owner (.error .cancelled)
        [⟨.failToolExecution call.run.id key owner text disposition, before, answer, after⟩]
        (answer.bind fun _ => .error .cancelled)
  | escaped {error} : error ≠ .cancelled → Settles definition key owner (.error error) [] (.error error)

end GatewayCall

variable {dep : Deployment} {call : GatewayCall} {log : List OpMoment}

theorem preflight_ends {run : Run} {action : CallToolAction} {plan : FaultPlan} {check : Bool}
    {outcome : Except Exn (Option ToolCallResult)} (ends : (dep.preflight run action plan check).Ends log outcome) :
    Preparing log ∧ ∀ result, outcome = .ok (some result) → ∃ code, result = .failed code 0 false := by
  obtain ⟨reads, refusing, -⟩ := ends.within preflight_within fun _ _ => trivial
  refine ⟨fun moment member => ?_, fun result same => ?_⟩
  · rw [reads moment member]
    rfl
  · obtain ⟨code, -, refused⟩ := (refusing _ same).1 result rfl
    exact ⟨code, refused⟩

theorem attempts_unsettling {definition : ToolDefinition} {input : Dict} {context : ToolExecutionContext}
    {result : Except Exn ToolCallResult} (ends : (call.attemptsOf dep definition input context).Ends log result) :
    Unsettling log := by
  have within : (call.attemptsOf dep definition input context).Within
      (AttemptOp ⟨call.run, call.action dep, definition, input, context⟩) (CalmAnswer False) (fun _ => True)
      (CalmError False) := attempts_within .draw (fun event _ => .append event) .handle .sleep
  have kinds := (ends.within within fun _ _ => False.elim).1
  intro moment member
  have kind := kinds moment member
  obtain ⟨op, before, answer, after⟩ := moment
  cases kind <;> rfl

theorem callClaimed_ends {run : Run} {action : CallToolAction} {definition : ToolDefinition} {input : Dict}
    {fingerprint key : String} {plan : FaultPlan} {owner : Uuid} {claim : ToolClaim} {outcome : Except Exn ToolCallResult}
    (ends : (dep.callClaimed run action definition input fingerprint plan key owner claim).Ends log outcome) :
    log = [] ∧ unattempted outcome ∨
      (dep.executeClaimed run action definition input fingerprint plan key owner).Ends log outcome := by
  unfold Deployment.callClaimed at ends
  split at ends
  · obtain ⟨rfl, rfl⟩ := ends.of_ret
    exact .inl ⟨rfl, .inr (.inl ⟨_, rfl⟩)⟩
  · split at ends
    · split at ends
      · obtain ⟨rfl, rfl⟩ := ends.of_ret
        exact .inl ⟨rfl, .inl ⟨_, rfl⟩⟩
      · obtain ⟨rfl, rfl⟩ := ends.of_ret
        exact .inl ⟨rfl, .inr (.inl ⟨_, rfl⟩)⟩
      · obtain ⟨rfl, rfl⟩ := ends.of_raise
        exact .inl ⟨rfl, .inr (.inr ⟨_, rfl⟩)⟩
    · obtain ⟨rfl, rfl⟩ := ends.of_ret
      exact .inl ⟨rfl, .inr (.inl ⟨_, rfl⟩)⟩
    · split at ends
      · obtain ⟨rfl, rfl⟩ := ends.of_ret
        exact .inl ⟨rfl, .inr (.inl ⟨_, rfl⟩)⟩
      · exact .inr ends

/-- Every call that ends goes one of the three ways. -/
theorem call_ends {outcome : Except Exn ToolCallResult} (ends : (call.program dep).Ends log outcome) :
    call.Course dep log outcome := by
  rcases ends.of_bind with ⟨failure, first, later, checking, rest, rfl⟩ | ⟨error, checking, rfl⟩
  · obtain ⟨preparing, refusing⟩ := preflight_ends checking
    cases failure with
    | some result =>
      obtain ⟨rfl, rfl⟩ := rest.of_ret
      obtain ⟨code, rfl⟩ := refusing result rfl
      rw [List.append_nil]
      exact .stopped preparing (.inr (.inl ⟨code, rfl⟩))
    | none =>
      dsimp only at rest
      cases registered : dep.registry.get (dep.stabilizeAction call.run call.proposed).toolName with
      | none =>
        rw [registered] at rest
        obtain ⟨rfl, rfl⟩ := rest.of_raise
        rw [List.append_nil]
        exact .stopped preparing (.inr (.inr ⟨_, rfl⟩))
      | some definition =>
        rw [registered] at rest
        dsimp only at rest
        cases validated : definition.inputModel (dep.stabilizeAction call.run call.proposed).arguments with
        | none =>
          rw [validated] at rest
          obtain ⟨rfl, rfl⟩ := rest.of_raise
          rw [List.append_nil]
          exact .stopped preparing (.inr (.inr ⟨_, rfl⟩))
        | some input =>
          rw [validated] at rest
          dsimp only at rest
          cases named : (dep.stabilizeAction call.run call.proposed).idempotencyKey with
          | none =>
            rw [named] at rest
            obtain ⟨before, token, after, attempting, rfl, trying⟩ := rest.of_perform
            refine .keyless registered named (List.append_cons ..) (preparing.append ?_) trying
            exact fun moment member => by rw [List.mem_singleton.mp member]; rfl
          | some key =>
            rw [named] at rest
            obtain ⟨before, owner, after, claimLog, rfl, asking⟩ := rest.of_perform
            have drawn : Preparing (first ++ [⟨.uuid4, before, owner, after⟩]) :=
              preparing.append fun moment member => by rw [List.mem_singleton.mp member]; rfl
            rw [List.append_cons]
            rw [Program.ret_bind] at asking
            rcases asking.of_bind with ⟨claim, second, more, claiming, going, rfl⟩ | ⟨error, claiming, rfl⟩
            · obtain ⟨here, answer, there, rfl, -⟩ := claiming.of_ask
              rw [← List.append_assoc]
              have claimed : Preparing (first ++ [⟨.uuid4, before, owner, after⟩] ++ [⟨_, here, answer, there⟩]) :=
                drawn.append fun moment member => by rw [List.mem_singleton.mp member]; rfl
              rcases callClaimed_ends going with ⟨rfl, ended⟩ | executing
              · rw [List.append_nil]
                exact .stopped claimed ended
              · exact .keyed registered named rfl claimed executing
            · obtain ⟨here, answer, there, rfl, -⟩ := claiming.of_ask
              exact .stopped (drawn.append fun moment member => by rw [List.mem_singleton.mp member]; rfl)
                (.inr (.inr ⟨error, rfl⟩))
  · obtain ⟨preparing, -⟩ := preflight_ends checking
    exact .stopped preparing (.inr (.inr ⟨error, rfl⟩))

theorem completeToolResult_ends {id owner : Uuid} {key : String} {output : Json} {disposition : ToolFailureDisposition}
    {outcome : Except Exn Unit} (ends : (completeToolResult dep id key output owner disposition).Ends log outcome) :
    acts log = [] ∧ ∀ error, outcome = .error error → error = .valueError ∨ SettlingFailed log error := by
  unfold completeToolResult at ends
  dsimp only at ends
  split at ends
  · obtain ⟨before, answer, after, rfl, rfl⟩ := ends.of_ask
    refine ⟨rfl, ?_⟩
    rintro error rfl
    exact .inr ⟨_, List.mem_cons_self, rfl⟩
  · rcases ends.of_bind with ⟨value, first, later, failing, raising, rfl⟩ | ⟨error, failing, rfl⟩
    · obtain ⟨before, answer, after, rfl, -⟩ := failing.of_ask
      obtain ⟨rfl, rfl⟩ := raising.of_raise
      refine ⟨rfl, fun error same => ?_⟩
      cases same
      exact .inl rfl
    · obtain ⟨before, answer, after, rfl, rfl⟩ := failing.of_ask
      refine ⟨rfl, fun other same => ?_⟩
      cases same
      exact .inr ⟨_, List.mem_cons_self, rfl⟩

theorem failToolExecution_then {α : Type} {id owner : Uuid} {key text : String} {disposition : ToolFailureDisposition}
    (result : Except Exn α) {outcome : Except Exn α}
    (ends : ((failToolExecution id key owner text disposition).bind fun _ => .ofExcept result).Ends log outcome) :
    ∃ before answer after, log = [⟨.failToolExecution id key owner text disposition, before, answer, after⟩] ∧
      outcome = answer.bind fun _ => result := by
  rcases ends.of_bind with ⟨value, first, later, failing, ending, rfl⟩ | ⟨error, failing, rfl⟩
  · obtain ⟨before, answer, after, rfl, same⟩ := failing.of_ask
    obtain ⟨rfl, rfl⟩ := ending.of_ofExcept
    exact ⟨before, answer, after, rfl, by rw [← same]; rfl⟩
  · obtain ⟨before, answer, after, rfl, same⟩ := failing.of_ask
    exact ⟨before, answer, after, rfl, by rw [← same]; rfl⟩

theorem executeClaimed_ends {definition : ToolDefinition} {input : Dict} {fingerprint key : String} {owner : Uuid}
    {outcome : Except Exn ToolCallResult}
    (ends : (dep.executeClaimed call.run (call.action dep) definition input fingerprint call.plan key owner).Ends log
      outcome) :
    ∃ context body settling result, log = body ++ settling ∧
      (call.attemptsOf dep definition input context).Ends body result ∧
      call.Settles definition key owner result settling outcome := by
  obtain ⟨result, body, settling, attempting, ending, rfl⟩ := ends.of_attempt_bind
  refine ⟨_, body, settling, result, rfl, attempting, ?_⟩
  cases result with
  | ok result =>
    cases result with
    | succeeded output count cached =>
      obtain ⟨completed, first, last, completing, deciding, rfl⟩ := ending.of_attempt_bind
      obtain ⟨silent, failing⟩ := completeToolResult_ends completing
      cases completed with
      | ok value =>
        obtain ⟨rfl, rfl⟩ := deciding.of_ret
        exact .completed (by simpa using silent)
      | error error =>
        dsimp only at deciding
        split at deciding
        · obtain ⟨rfl, rfl⟩ := deciding.of_ret
          exact .uncompleted (by simpa using silent)
        · rename_i other
          obtain ⟨rfl, rfl⟩ := deciding.of_raise
          have unlike := Bool.eq_false_iff.mpr other
          rcases failing error rfl with rfl | failed
          · cases unlike
          · exact .broken (by simpa using silent) unlike (by simpa using failed)
    | failed code count retryable =>
      obtain ⟨before, answer, after, rfl, rfl⟩ := failToolExecution_then (.ok _) ending
      cases answer <;> exact .failed
  | error error =>
    cases error with
    | cancelled =>
      obtain ⟨before, answer, after, rfl, rfl⟩ := failToolExecution_then (.error _) ending
      exact .cancelled
    | _ =>
      obtain ⟨rfl, rfl⟩ := ending.of_raise
      exact .escaped (by simp)

end ReliabilityLab
