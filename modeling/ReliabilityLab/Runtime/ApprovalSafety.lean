import ReliabilityLab.Runtime.Effect
import ReliabilityLab.Runtime.Schedule

namespace ReliabilityLab

/-- The canonical form of an action spells its three fields. -/
theorem CallToolAction.canonical_modelDump (action : CallToolAction) :
    Json.canonical (.obj action.modelDump) = .obj [("arguments", Json.canonical (.obj action.arguments)),
      ("idempotency_key", optionalStr action.idempotencyKey), ("tool_name", .str action.toolName),
      ("type", .str "call_tool")] := by
  have key : Json.canonical (optionalStr action.idempotencyKey) = optionalStr action.idempotencyKey := by
    cases action.idempotencyKey <;> rfl
  simp only [modelDump, Json.canonical, Json.canonicalItems, key]
  simp [Json.insertByKey, show ("arguments" : String) < "idempotency_key" by decide,
    show ¬ ("tool_name" : String) < "arguments" by decide, show ¬ ("tool_name" : String) < "idempotency_key" by decide,
    show ¬ ("type" : String) < "arguments" by decide, show ¬ ("type" : String) < "idempotency_key" by decide,
    show ¬ ("type" : String) < "tool_name" by decide]

/-- Two actions are the same up to the order of the keys in their arguments. -/
def SameAction (a b : CallToolAction) : Prop :=
  a.toolName = b.toolName ∧ a.idempotencyKey = b.idempotencyKey ∧
    Json.canonical (.obj a.arguments) = Json.canonical (.obj b.arguments)

/-- Without collisions a fingerprint names one action. -/
theorem sameAction_of_fingerprint {dep : Deployment} (collisionFree : Function.Injective dep.sha256)
    {a b : CallToolAction} (same : dep.actionFingerprint a = dep.actionFingerprint b) : SameAction a b := by
  have dumps := collisionFree same
  rw [a.canonical_modelDump, b.canonical_modelDump] at dumps
  simp only [Json.obj.injEq, List.cons.injEq, Prod.mk.injEq, true_and, and_true, Json.str.injEq] at dumps
  exact ⟨dumps.2.2, optionalStr_injective dumps.2.1, dumps.1⟩

/-- Whatever the interleaving, a party that stands in front of the handler of a
tool behind approval does so for the stabilized action that the recorded
decision of exactly this run and step allows, and for no other action. -/
theorem handler_only_with_permission {dep : Deployment} {w : ServiceWorld} (reach : Machine.Reachable dep.system w)
    {p : Pid} {invocation : Invocation} {next : Op.Answer (.invokeHandler invocation) → Prog Run}
    (calling : (w.procs p).rest = some (.perform (.invokeHandler invocation) next))
    (required : invocation.definition.requiresApproval = true) :
    (∃ proposed, invocation.action = dep.stabilizeAction invocation.run proposed) ∧
      dep.registry.get invocation.action.toolName = some invocation.definition ∧
      invocation.definition.inputModel invocation.action.arguments = some invocation.validatedInput ∧
      ∃ row, w.state.store.approvals invocation.run.id invocation.run.currentStep = some row ∧ row.allow = true ∧
        row.actionFingerprint = dep.actionFingerprint invocation.action ∧
        (Function.Injective dep.sha256 → ∀ reviewed, dep.actionFingerprint reviewed = row.actionFingerprint →
          SameAction reviewed invocation.action) := by
  obtain ⟨registered, stabilized, validated, approved⟩ :=
    reach.unrestricted.owed (system_disciplined dep fun _ _ _ _ => True) calling
  obtain ⟨row, stored, allow, fingerprint⟩ := approved required
  exact ⟨stabilized, registered, validated, row, stored, allow, fingerprint,
    fun collisionFree reviewed same => sameAction_of_fingerprint collisionFree (same.trans fingerprint)⟩

def inFrontOfApprovedHandler (w : ServiceWorld) : Bool :=
  match w.procs 0 with
  | .ready (.perform (.invokeHandler invocation) _) => invocation.definition.requiresApproval
  | _ => false

/-- A paused call of the demo tool, its permission, and the handler it leads to. -/
theorem handler_only_with_permission_demo :
    ∃ w : ServiceWorld, Machine.Reachable demo.system w ∧ ∃ invocation next row,
      (w.procs 0).rest = some (.perform (.invokeHandler invocation) next) ∧
      w.state.store.approvals invocation.run.id invocation.run.currentStep = some row ∧ row.allow = true ∧
      row.actionFingerprint = demo.actionFingerprint invocation.action := by
  obtain ⟨w, reach, there⟩ := schedule_reaches demo_fits (demoClock 0 demoStart_inside)
    [.request 0 Run.demo, .turns 0 14, .finish 0, .request 0 (demoDecision true), .turns 0 14]
    inFrontOfApprovedHandler (by decide +kernel)
  unfold inFrontOfApprovedHandler at there
  split at there
  · rename_i invocation next ready
    have calling : (w.procs 0).rest = some (.perform (.invokeHandler invocation) next) := by rw [ready]; rfl
    obtain ⟨-, -, -, row, stored, allow, fingerprint, -⟩ := handler_only_with_permission reach calling there
    exact ⟨w, reach, invocation, next, row, calling, stored, allow, fingerprint⟩
  · cases there

end ReliabilityLab
