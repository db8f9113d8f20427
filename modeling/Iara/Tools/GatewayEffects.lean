import Iara.Tools.Gateway

/-!
# The effect of a tool call

What one call of the gateway asks a store to do, if anything: one command for the
outbox, or one item for the follow-up queue.  `invoke_effect` says that a call
does to the stores what its effect says and nothing else; no later proof unfolds
`invoke`.
-/

namespace Iara.Tools

open Iara.Lib Iara.Persistence

inductive ToolEffect where
  | outbox (service : OutboxService)
  | followUp (session : Transaction) (payload : FollowUpPayload)

namespace ToolEffect

/-- The tenant id under which the effect is enqueued. -/
def tenantId (executor : ToolExecutor) : ToolEffect → String
  | .outbox _ => executor.tenantId
  | .followUp _ payload => payload.tenantId

/-- The stores after the effect. -/
def write (executor : ToolExecutor) (draw now : Nat) (request : ToolInvocationRequest)
    (stores : ToolStores) : ToolEffect → ToolStores
  | .outbox service =>
      { stores with
        outbox := (service.enqueueToolCommand draw now (executor.uuids.gen draw) request.toolName
          request.arguments executor.tenantId request.idempotencyKey
          (some request.correlationId) stores.outbox).2 }
  | .followUp session payload =>
      { stores with
        followUps := (FollowUpRepository.enqueueRaw session (executor.uuids.gen draw) payload
          stores.followUps).2 }

/-- Whether the caller hears of a failure of the effect. -/
def Reports (executor : ToolExecutor) (draw now : Nat) (request : ToolInvocationRequest)
    (stores : ToolStores) (answer : Except String ToolInvocationResult) : ToolEffect → Prop
  | .outbox service =>
      ∀ e, (service.enqueueToolCommand draw now (executor.uuids.gen draw) request.toolName
        request.arguments executor.tenantId request.idempotencyKey
        (some request.correlationId) stores.outbox).1 = .error e → answer = .error e
  | .followUp _ _ => ∃ result, answer = .ok result ∧ result.status = .success

end ToolEffect

namespace ToolExecutor

def effect (executor : ToolExecutor) (draw : Nat) (request : ToolInvocationRequest)
    (tool : AgentToolDefinition) (policy : PolicyCheckResult) : Option ToolEffect :=
  if followUpCapabilities.contains request.toolName then
    match executor.buildFollowupSchedulePayload draw request.arguments executor.tenantId
        (executor.conversationArgument request.arguments) request.idempotencyKey
        request.correlationId, executor.followUpRepo with
    | .ok (.scheduled payload), some session => some (.followUp (session draw) payload)
    | _, _ => none
  else if !tool.isSideEffecting then none
  else if policy.producesDraft || policy.mode = .draftOnly || policy.mode = .suggestOnly ||
      policy.mode = .dryRun then none
  else executor.outboxService.map .outbox

/-- What `execute` does to the stores, and what it answers where it has an effect. -/
def Does (executor : ToolExecutor) (draw now : Nat) (request : ToolInvocationRequest)
    (stores : ToolStores) (r : Except String ToolInvocationResult × ToolStores) :
    Option ToolEffect → Prop
  | none => r.2 = stores
  | some e => r.2 = e.write executor draw now request stores ∧
      e.Reports executor draw now request stores r.1

variable {executor : ToolExecutor} {draw now : Nat} {request : ToolInvocationRequest}
  {stores : ToolStores}

theorem executeFollowUp_does (h : followUpCapabilities.contains request.toolName = true)
    (tool : AgentToolDefinition) (policy : PolicyCheckResult) :
    executor.Does draw now request stores (executor.execute draw now request tool policy stores)
      (executor.effect draw request tool policy) := by
  unfold execute effect executeFollowUp
  simp only [h, if_true]
  cases hbuild : executor.buildFollowupSchedulePayload draw request.arguments executor.tenantId
      (executor.conversationArgument request.arguments) request.idempotencyKey
      request.correlationId with
  | error exception => rfl
  | ok decision =>
      cases decision with
      | skipped payload => rfl
      | scheduled payload =>
          cases executor.followUpRepo with
          | none => rfl
          | some session => exact ⟨rfl, _, rfl, rfl⟩

theorem executeWithOutbox_does (policy : PolicyCheckResult) :
    executor.Does draw now request stores
      ((executor.executeWithOutbox draw now request policy stores.outbox).1,
        { stores with
          outbox := (executor.executeWithOutbox draw now request policy stores.outbox).2 })
      (executor.outboxService.map .outbox) := by
  unfold executeWithOutbox
  cases executor.outboxService with
  | none => rfl
  | some service =>
      refine ⟨rfl, ?_⟩
      intro e he
      simp only [he]
      rfl

theorem execute_does (tool : AgentToolDefinition) (policy : PolicyCheckResult) :
    executor.Does draw now request stores (executor.execute draw now request tool policy stores)
      (executor.effect draw request tool policy) := by
  cases hfollowUp : followUpCapabilities.contains request.toolName with
  | true => exact executeFollowUp_does hfollowUp tool policy
  | false =>
      unfold execute effect
      simp only [hfollowUp, Bool.false_eq_true, if_false]
      split
      · rfl
      · split
        · rfl
        · exact executeWithOutbox_does policy

end ToolExecutor

namespace AgentToolMcpGateway

variable (gateway : AgentToolMcpGateway) (draw now : Nat) (request : ToolInvocationRequest)

/-- The tool and the policy under which a call is executed, if it is. -/
def granted : Option (AgentToolDefinition × PolicyCheckResult) :=
  match gateway.registry.getTool request.toolName with
  | none => none
  | some tool =>
      match gateway.policyGuard.check tool with
      | .error _ => none
      | .ok policy => if tool.status = .active ∧ policy.approved then some (tool, policy) else none

def effect : Option ToolEffect :=
  (gateway.granted request).bind fun p => gateway.executor.effect draw request p.1 p.2

theorem isActive_iff {tool : AgentToolDefinition}
    (h : gateway.registry.getTool request.toolName = some tool) :
    gateway.registry.isActive request.toolName = decide (tool.status = .active) := by
  unfold AgentToolRegistry.isActive
  rw [h]

/-- A call does to the stores what its effect says. -/
theorem invoke_does (stores : ToolStores) :
    gateway.executor.Does draw now request stores (gateway.invoke draw now request stores)
      (gateway.effect draw request) := by
  unfold invoke effect granted
  cases htool : gateway.registry.getTool request.toolName with
  | none => rfl
  | some tool =>
      have hactive := gateway.isActive_iff request htool
      simp only [hactive]
      by_cases hstatus : tool.status = .active
      · simp only [hstatus, decide_true, Bool.not_true, Bool.false_eq_true, if_false, true_and]
        cases gateway.policyGuard.check tool with
        | error e => rfl
        | ok policy =>
            cases happroved : policy.approved with
            | false =>
                simp only [happroved, Bool.not_false, if_true, Bool.false_eq_true, if_false]
                rfl
            | true =>
                simp only [happroved, Bool.not_true, Bool.false_eq_true, if_false, if_true]
                exact ToolExecutor.execute_does tool policy
      · simp only [hstatus, decide_false, Bool.not_false, if_true, false_and, if_false]
        cases gateway.policyGuard.check tool <;> rfl

end AgentToolMcpGateway

end Iara.Tools
