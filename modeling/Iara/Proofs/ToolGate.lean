import Iara.Tools.GatewayEffects

/-!
# The gate before a tool's writes

The outbox gets a row from a call only under an approved policy without a draft:
an approved send, a confirmed write, or the sandbox mode of the kanban tools. The
executor schedules a follow-up before it looks at the policy, so the follow-up
queue has no gate.
-/

namespace Iara.Tools

open Iara.Lib Iara.Persistence

/-! ## When an enqueue inserts -/

/-- A session that reaches its commit. -/
def Commits (session : Transaction) : Prop := ∀ e, session ≠ .fails e

theorem enqueueCommand_inserts_iff (service : OutboxService) (draw now : Nat)
    (commandId capabilityName : String) (parameters : Parameters) (tenantId : String)
    (correlationId idempotencyKey : String) (outbox : Outbox) :
    (service.enqueueCommand draw now commandId capabilityName parameters tenantId
        (some correlationId) idempotencyKey outbox).2.rows ≠ outbox.rows ↔
      ∃ tenant, parseUuid tenantId = some tenant ∧ Commits (service.session draw) ∧
        outbox.hasKey (tenant, idempotencyKey) = false := by
  unfold OutboxService.enqueueCommand
  cases htenant : parseUuid tenantId with
  | none => simp
  | some tenant =>
      simp only [OutboxRepository.enqueue]
      cases hsession : service.session draw with
      | fails e =>
          simp [Commits]
      | commits =>
          simp only [Table.rows_insertOrIgnore_ne_iff]
          constructor
          · exact fun hnew => ⟨tenant, rfl, by simp [Commits], hnew⟩
          · rintro ⟨tenant', htenant', -, hnew⟩
            cases htenant'
            exact hnew
      | commitsThenFails e =>
          simp only [Table.rows_insertOrIgnore_ne_iff]
          constructor
          · exact fun hnew => ⟨tenant, rfl, by simp [Commits], hnew⟩
          · rintro ⟨tenant', htenant', -, hnew⟩
            cases htenant'
            exact hnew

theorem enqueueRaw_inserts_iff (session : Transaction) (itemId : String)
    (payload : FollowUpPayload) (queue : FollowUpQueue) :
    (FollowUpRepository.enqueueRaw session itemId payload queue).2.rows ≠ queue.rows ↔
      (∃ tenant, parseUuid payload.tenantId = some tenant) ∧ Commits session ∧
        queue.hasKey payload.idempotencyKey = false := by
  unfold FollowUpRepository.enqueueRaw
  cases parseUuid payload.tenantId with
  | none => simp
  | some tenant =>
      cases session with
      | fails e => simp [Commits]
      | commits =>
          simp only [Table.rows_insertOrIgnore_ne_iff]
          simp [Commits, FollowUpRepository.item]
      | commitsThenFails e =>
          simp only [Table.rows_insertOrIgnore_ne_iff]
          simp [Commits, FollowUpRepository.item]

namespace ToolEffect

/-- Whether the effect inserts its row. -/
def Inserts (executor : ToolExecutor) (draw : Nat) (request : ToolInvocationRequest)
    (stores : ToolStores) : ToolEffect → Prop
  | .outbox service =>
      ∃ tenant, parseUuid executor.tenantId = some tenant ∧ Commits (service.session draw) ∧
        stores.outbox.hasKey (tenant, request.idempotencyKey) = false
  | .followUp session payload =>
      (∃ tenant, parseUuid payload.tenantId = some tenant) ∧ Commits session ∧
        stores.followUps.hasKey payload.idempotencyKey = false

end ToolEffect

namespace AgentToolMcpGateway

/-! ## The claim -/

/-- The call adds a row to the outbox or to the follow-up queue. -/
def Inserts (gateway : AgentToolMcpGateway) (draw now : Nat) (request : ToolInvocationRequest)
    (stores : ToolStores) : Prop :=
  (gateway.invoke draw now request stores).2.outbox.rows ≠ stores.outbox.rows ∨
    (gateway.invoke draw now request stores).2.followUps.rows ≠ stores.followUps.rows

/-- A call that adds a row was approved by the policy for a real write. -/
def GatedWrite (gateway : AgentToolMcpGateway) (draw now : Nat) (request : ToolInvocationRequest)
    (stores : ToolStores) : Prop :=
  gateway.Inserts draw now request stores →
    ∃ tool policy, gateway.registry.getTool request.toolName = some tool ∧
      gateway.policyGuard.check tool = .ok policy ∧ policy.approved = true ∧
      policy.producesDraft = false ∧
      (policy.mode = .approvedSend ∨ policy.mode = .writeConfirmed)

/-- What the gateway keeps by design: the sandbox mode of the kanban tools writes
to the outbox, and only an approved call of the follow-up tool to the follow-up
queue. -/
def GatedOutbox (gateway : AgentToolMcpGateway) (draw now : Nat) (request : ToolInvocationRequest)
    (stores : ToolStores) : Prop :=
  ((gateway.invoke draw now request stores).2.outbox.rows ≠ stores.outbox.rows →
    ∃ tool policy, gateway.registry.getTool request.toolName = some tool ∧
      gateway.policyGuard.check tool = .ok policy ∧ policy.approved = true ∧
      policy.producesDraft = false ∧
      (policy.mode = .approvedSend ∨ policy.mode = .writeConfirmed ∨
        (policy.mode = .sandbox ∧ PyStr.startsWith tool.toolName "kanban_" = true))) ∧
  ((gateway.invoke draw now request stores).2.followUps.rows ≠ stores.followUps.rows →
    followUpCapabilities.contains request.toolName = true ∧
      ∃ tool policy, gateway.registry.getTool request.toolName = some tool ∧
        tool.status = .active ∧ gateway.policyGuard.check tool = .ok policy ∧
        policy.approved = true)

/-! ## The two ways around the gate -/

/-- A call of an active follow-up tool whose item gets into the queue. -/
def SchedulesFollowUp (gateway : AgentToolMcpGateway) (draw : Nat)
    (request : ToolInvocationRequest) (stores : ToolStores) : Prop :=
  followUpCapabilities.contains request.toolName = true ∧
    gateway.registry.isActive request.toolName = true ∧
    ∃ payload session, gateway.executor.buildFollowupSchedulePayload draw request.arguments
        gateway.executor.tenantId (gateway.executor.conversationArgument request.arguments)
        request.idempotencyKey request.correlationId = .ok (.scheduled payload) ∧
      gateway.executor.followUpRepo = some session ∧
      (∃ tenant, parseUuid payload.tenantId = some tenant) ∧ Commits (session draw) ∧
      stores.followUps.hasKey payload.idempotencyKey = false

/-- A call of an active kanban tool with side effects, in sandbox mode, whose
command gets into the outbox. -/
def EnqueuesInSandbox (gateway : AgentToolMcpGateway) (draw : Nat)
    (request : ToolInvocationRequest) (stores : ToolStores) : Prop :=
  ∃ tool service tenant, gateway.registry.getTool request.toolName = some tool ∧
    tool.status = .active ∧ PyStr.startsWith tool.toolName "kanban_" = true ∧
    tool.isSideEffecting = true ∧ gateway.policyGuard.kanbanMode = .sandbox ∧
    gateway.executor.outboxService = some service ∧
    parseUuid gateway.executor.tenantId = some tenant ∧ Commits (service.session draw) ∧
    stores.outbox.hasKey (tenant, request.idempotencyKey) = false

/-! ## What is granted -/

variable {gateway : AgentToolMcpGateway} {draw now : Nat} {request : ToolInvocationRequest}
  {stores : ToolStores} {tool : AgentToolDefinition} {policy : PolicyCheckResult}

theorem granted_iff : gateway.granted request = some (tool, policy) ↔
    gateway.registry.getTool request.toolName = some tool ∧ tool.status = .active ∧
      gateway.policyGuard.check tool = .ok policy ∧ policy.approved = true := by
  unfold granted
  cases gateway.registry.getTool request.toolName with
  | none => simp
  | some tool' =>
      simp only [Option.some.injEq]
      cases hcheck : gateway.policyGuard.check tool' with
      | error e =>
          constructor
          · intro h
            cases h
          · rintro ⟨rfl, -, h, -⟩
            rw [hcheck] at h
            cases h
      | ok policy' =>
          simp only [Option.ite_none_right_eq_some, Option.some.injEq, Prod.mk.injEq]
          constructor
          · rintro ⟨⟨hactive, happroved⟩, rfl, rfl⟩
            exact ⟨rfl, hactive, hcheck, happroved⟩
          · rintro ⟨rfl, hactive, h, happroved⟩
            rw [hcheck] at h
            cases h
            exact ⟨⟨hactive, happroved⟩, rfl, rfl⟩

theorem inserts_iff : gateway.Inserts draw now request stores ↔
    ∃ e, gateway.effect draw request = some e ∧
      e.Inserts gateway.executor draw request stores := by
  have hdoes := gateway.invoke_does draw now request stores
  unfold Inserts
  cases heffect : gateway.effect draw request with
  | none =>
      rw [heffect] at hdoes
      have hsame : (gateway.invoke draw now request stores).2 = stores := hdoes
      rw [hsame]
      simp
  | some e =>
      rw [heffect] at hdoes
      obtain ⟨hwrite, -⟩ := hdoes
      rw [hwrite]
      simp only [Option.some.injEq, exists_eq_left']
      cases e with
      | outbox service =>
          simp only [ToolEffect.write, ToolEffect.Inserts, OutboxService.enqueueToolCommand,
            enqueueCommand_inserts_iff, ne_eq, not_true_eq_false, or_false]
      | followUp session payload =>
          simp only [ToolEffect.write, ToolEffect.Inserts, enqueueRaw_inserts_iff, ne_eq,
            not_true_eq_false, false_or]

/-! ## The policies -/

theorem toolName_of_getTool (h : gateway.registry.getTool request.toolName = some tool) :
    tool.toolName = request.toolName := by
  unfold AgentToolRegistry.getTool at h
  simpa using List.find?_some h

/-- The policy of a follow-up tool is to produce a draft. -/
theorem check_followUp (guard : ToolPolicyGuard) (hactive : tool.status = .active)
    (hname : tool.toolName = "followup_reengage_conversation") :
    guard.check tool = .ok (.allow .draftOnly true) := by
  have hkanban : PyStr.startsWith "followup_reengage_conversation" "kanban_" = false := by decide
  have hcampaign : PyStr.startsWith "followup_reengage_conversation" "campaign_" = false := by
    decide
  have hrisk : "followup_reengage_conversation" ∈ highRiskTools := by decide
  unfold ToolPolicyGuard.check ToolPolicyGuard.checkHighRisk
  simp [hactive, hname, hkanban, hcampaign, hrisk]

theorem check_sandbox (guard : ToolPolicyGuard) (hactive : tool.status = .active)
    (hkanban : PyStr.startsWith tool.toolName "kanban_" = true)
    (hside : tool.isSideEffecting = true) (hmode : guard.kanbanMode = .sandbox) :
    guard.check tool = .ok (.allow .sandbox) := by
  unfold ToolPolicyGuard.check ToolPolicyGuard.checkKanban
  simp [hactive, hkanban, hside, hmode]

/-- A tool with side effects that is neither denied nor drafted has a write mode,
or is a kanban tool in sandbox mode. -/
theorem check_write {guard : ToolPolicyGuard} (hcheck : guard.check tool = .ok policy)
    (hside : tool.isSideEffecting = true) (happroved : policy.approved = true)
    (hdraft : policy.producesDraft = false) :
    (policy.mode = .approvedSend ∨ policy.mode = .writeConfirmed) ∨
      (policy.mode = .sandbox ∧ PyStr.startsWith tool.toolName "kanban_" = true ∧
        guard.kanbanMode = .sandbox) := by
  unfold ToolPolicyGuard.check at hcheck
  simp only [hside, Bool.and_true, Bool.not_true, Bool.false_eq_true, if_false] at hcheck
  split at hcheck
  · cases hcheck
  · split at hcheck
    · next hkanban =>
      unfold ToolPolicyGuard.checkKanban at hcheck
      split at hcheck
      · cases hcheck
        cases hdraft
      · split at hcheck
        · next hmode =>
          cases hcheck
          rcases hmode with hwrite | hsandbox
          · exact Or.inl (Or.inr hwrite)
          · exact Or.inr ⟨hsandbox, hkanban, hsandbox⟩
        · cases hcheck
          cases happroved
    · split at hcheck
      · unfold ToolPolicyGuard.checkCampaign at hcheck
        split at hcheck
        · split at hcheck
          · cases hcheck
            cases happroved
          · cases hcheck
            cases hdraft
        · split at hcheck
          · cases hcheck
            cases hdraft
          · split at hcheck
            · cases hcheck
              exact Or.inl (Or.inl rfl)
            · cases hcheck
              cases happroved
      · split at hcheck
        · unfold ToolPolicyGuard.checkHighRisk at hcheck
          split at hcheck
          · cases hcheck
            cases hdraft
          · split at hcheck <;>
            · cases hcheck
              cases hdraft
        · split at hcheck <;>
          · cases hcheck
            cases hdraft

/-- Where a granted call has an effect, it is a follow-up, or a command of a tool
with side effects that is not drafted. -/
theorem effect_cases {e : ToolEffect} (h : gateway.effect draw request = some e) :
    ∃ tool policy, gateway.granted request = some (tool, policy) ∧
      ((∃ payload session, e = .followUp (session draw) payload ∧
          followUpCapabilities.contains request.toolName = true ∧
          gateway.executor.buildFollowupSchedulePayload draw request.arguments
            gateway.executor.tenantId
            (gateway.executor.conversationArgument request.arguments)
            request.idempotencyKey request.correlationId = .ok (.scheduled payload) ∧
          gateway.executor.followUpRepo = some session) ∨
        ∃ service, e = .outbox service ∧ gateway.executor.outboxService = some service ∧
          tool.isSideEffecting = true ∧ policy.producesDraft = false) := by
  unfold effect at h
  obtain ⟨⟨tool, policy⟩, hgranted, heffect⟩ := Option.bind_eq_some_iff.1 h
  refine ⟨tool, policy, hgranted, ?_⟩
  unfold ToolExecutor.effect at heffect
  split at heffect
  · next hfollowUp =>
    left
    split at heffect
    · next payload session hbuild hrepo =>
      cases heffect
      exact ⟨payload, session, rfl, hfollowUp, hbuild, hrepo⟩
    · cases heffect
  · right
    split at heffect
    · cases heffect
    · next hside =>
      split at heffect
      · cases heffect
      · next hdraft =>
        obtain ⟨service, hservice, rfl⟩ := Option.map_eq_some_iff.1 heffect
        simp only [Bool.or_eq_true, not_or, Bool.not_eq_true] at hdraft
        exact ⟨service, rfl, hservice, by simpa using hside, hdraft.1.1.1⟩

/-- What a call of an active follow-up tool enqueues, and under which policy. -/
theorem effect_of_followUp {session : Nat → Transaction} {payload : FollowUpPayload}
    (hname : followUpCapabilities.contains request.toolName = true)
    (htool : gateway.registry.getTool request.toolName = some tool)
    (hstatus : tool.status = .active)
    (hbuild : gateway.executor.buildFollowupSchedulePayload draw request.arguments
      gateway.executor.tenantId (gateway.executor.conversationArgument request.arguments)
      request.idempotencyKey request.correlationId = .ok (.scheduled payload))
    (hrepo : gateway.executor.followUpRepo = some session) :
    gateway.policyGuard.check tool = .ok (.allow .draftOnly true) ∧
      gateway.effect draw request = some (.followUp (session draw) payload) := by
  have hcheck : gateway.policyGuard.check tool = .ok (.allow .draftOnly true) := by
    apply check_followUp gateway.policyGuard hstatus
    rw [toolName_of_getTool htool]
    simpa [followUpCapabilities] using hname
  have hgranted : gateway.granted request = some (tool, .allow .draftOnly true) :=
    granted_iff.2 ⟨htool, hstatus, hcheck, rfl⟩
  refine ⟨hcheck, ?_⟩
  unfold effect ToolExecutor.effect
  rw [hgranted, Option.bind_some, if_pos hname, hbuild, hrepo]

/-- A call that gets around the gate has an effect that inserts a row. -/
theorem inserts_of_schedulesFollowUp (now : Nat)
    (h : gateway.SchedulesFollowUp draw request stores) :
    gateway.Inserts draw now request stores ∧
      ∀ tool, gateway.registry.getTool request.toolName = some tool →
        gateway.policyGuard.check tool = .ok (.allow .draftOnly true) := by
  obtain ⟨hname, hactive, payload, session, hbuild, hrepo, htenant, hcommits, hnew⟩ := h
  have heffect : ∀ tool, gateway.registry.getTool request.toolName = some tool →
      gateway.policyGuard.check tool = .ok (.allow .draftOnly true) ∧
        gateway.effect draw request = some (.followUp (session draw) payload) := by
    intro tool htool
    rw [gateway.isActive_iff request htool, decide_eq_true_eq] at hactive
    exact effect_of_followUp hname htool hactive hbuild hrepo
  refine ⟨?_, fun tool htool => (heffect tool htool).1⟩
  rw [inserts_iff]
  cases htool : gateway.registry.getTool request.toolName with
  | none => simp [AgentToolRegistry.isActive, htool] at hactive
  | some tool =>
      exact ⟨.followUp (session draw) payload, (heffect tool htool).2, htenant, hcommits, hnew⟩

theorem inserts_of_enqueuesInSandbox (now : Nat)
    (h : gateway.EnqueuesInSandbox draw request stores) :
    gateway.Inserts draw now request stores ∧
      ∀ tool, gateway.registry.getTool request.toolName = some tool →
        gateway.policyGuard.check tool = .ok (.allow .sandbox) := by
  obtain ⟨tool, service, tenant, htool, hstatus, hkanban, hside, hmode, hservice, htenant,
    hcommits, hnew⟩ := h
  have hcheck := check_sandbox gateway.policyGuard hstatus hkanban hside hmode
  have hfollowUp : followUpCapabilities.contains request.toolName = false := by
    cases hcontains : followUpCapabilities.contains request.toolName with
    | false => rfl
    | true =>
        have hname : request.toolName = "followup_reengage_conversation" := by
          simpa [followUpCapabilities] using hcontains
        rw [toolName_of_getTool htool, hname] at hkanban
        revert hkanban
        decide
  constructor
  · rw [inserts_iff]
    have hgranted : gateway.granted request = some (tool, .allow .sandbox) :=
      granted_iff.2 ⟨htool, hstatus, hcheck, rfl⟩
    refine ⟨.outbox service, ?_, tenant, htenant, hcommits, hnew⟩
    unfold effect ToolExecutor.effect
    rw [hgranted, Option.bind_some, if_neg (by rw [hfollowUp]; exact Bool.false_ne_true),
      if_neg (by simp [hside]),
      if_neg (by simp [PolicyCheckResult.allow]), hservice]
    rfl
  · intro tool' htool'
    rw [htool] at htool'
    cases htool'
    exact hcheck

/-- The stores after a call that has no effect on the outbox, or none on the queue. -/
theorem invoke_stores (gateway : AgentToolMcpGateway) (draw now : Nat)
    (request : ToolInvocationRequest) (stores : ToolStores) :
    ((∀ service, gateway.effect draw request ≠ some (.outbox service)) →
      (gateway.invoke draw now request stores).2.outbox = stores.outbox) ∧
    ((∀ session payload, gateway.effect draw request ≠ some (.followUp session payload)) →
      (gateway.invoke draw now request stores).2.followUps = stores.followUps) := by
  have hdoes := gateway.invoke_does draw now request stores
  cases heffect : gateway.effect draw request with
  | none =>
      rw [heffect] at hdoes
      have hsame : (gateway.invoke draw now request stores).2 = stores := hdoes
      rw [hsame]
      exact ⟨fun _ => rfl, fun _ => rfl⟩
  | some e =>
      rw [heffect] at hdoes
      obtain ⟨hwrite, -⟩ := hdoes
      rw [hwrite]
      cases e with
      | outbox service =>
          simp only [ToolEffect.write]
          exact ⟨fun hno => absurd rfl (hno service), fun _ => trivial⟩
      | followUp session payload =>
          simp only [ToolEffect.write]
          exact ⟨fun _ => trivial, fun hno => absurd rfl (hno session payload)⟩

/-- Every call of the gateway is gated as designed. -/
theorem invoke_gatedOutbox (gateway : AgentToolMcpGateway) (draw now : Nat)
    (request : ToolInvocationRequest) (stores : ToolStores) :
    gateway.GatedOutbox draw now request stores := by
  obtain ⟨houtbox, hqueue⟩ := gateway.invoke_stores draw now request stores
  constructor
  · intro hinserts
    have heffect : ∃ service, gateway.effect draw request = some (.outbox service) := by
      by_contra hno
      rw [not_exists] at hno
      exact hinserts (congrArg Table.rows (houtbox hno))
    obtain ⟨service, heffect⟩ := heffect
    obtain ⟨tool, policy, hgranted, hcases⟩ := effect_cases heffect
    obtain ⟨htool, -, hcheck, happroved⟩ := granted_iff.1 hgranted
    rcases hcases with ⟨payload, session, hfollowUp, -⟩ | ⟨-, -, -, hside, hdraft⟩
    · cases hfollowUp
    · refine ⟨tool, policy, htool, hcheck, happroved, hdraft, ?_⟩
      rcases check_write hcheck hside happroved hdraft with (hsend | hconfirmed) |
        ⟨hsandbox, hkanban, -⟩
      · exact Or.inl hsend
      · exact Or.inr (Or.inl hconfirmed)
      · exact Or.inr (Or.inr ⟨hsandbox, hkanban⟩)
  · intro hinserts
    have heffect : ∃ session payload,
        gateway.effect draw request = some (.followUp session payload) := by
      by_contra hno
      simp only [not_exists] at hno
      exact hinserts (congrArg Table.rows (hqueue hno))
    obtain ⟨session, payload, heffect⟩ := heffect
    obtain ⟨tool, policy, hgranted, hcases⟩ := effect_cases heffect
    obtain ⟨htool, hactive, hcheck, happroved⟩ := granted_iff.1 hgranted
    rcases hcases with ⟨-, -, -, hname, -⟩ | ⟨service, houtboxEffect, -⟩
    · exact ⟨hname, tool, policy, htool, hactive, hcheck, happroved⟩
    · cases houtboxEffect

theorem not_gatedWrite_of_schedulesFollowUp (now : Nat)
    (h : gateway.SchedulesFollowUp draw request stores) :
    ¬ gateway.GatedWrite draw now request stores := by
  intro hgated
  obtain ⟨hinserts, hdraft⟩ := inserts_of_schedulesFollowUp now h
  obtain ⟨tool, policy, htool, hcheck, -, hnodraft, -⟩ := hgated hinserts
  rw [hdraft tool htool] at hcheck
  cases hcheck
  cases hnodraft

theorem not_gatedWrite_of_enqueuesInSandbox (now : Nat)
    (h : gateway.EnqueuesInSandbox draw request stores) :
    ¬ gateway.GatedWrite draw now request stores := by
  intro hgated
  obtain ⟨hinserts, hmode⟩ := inserts_of_enqueuesInSandbox now h
  obtain ⟨tool, policy, htool, hcheck, -, -, hwrite⟩ := hgated hinserts
  rw [hmode tool htool] at hcheck
  cases hcheck
  rcases hwrite with h | h <;> cases h

/-- A call is gated if and only if it neither schedules a follow-up nor enqueues
a kanban command in sandbox mode. -/
theorem gatedWrite_iff (gateway : AgentToolMcpGateway) (draw now : Nat)
    (request : ToolInvocationRequest) (stores : ToolStores) :
    gateway.GatedWrite draw now request stores ↔
      ¬ gateway.SchedulesFollowUp draw request stores ∧
        ¬ gateway.EnqueuesInSandbox draw request stores := by
  constructor
  · intro hgated
    constructor
    · exact fun hfollowUp => not_gatedWrite_of_schedulesFollowUp now hfollowUp hgated
    · exact fun hsandbox => not_gatedWrite_of_enqueuesInSandbox now hsandbox hgated
  · rintro ⟨hnoFollowUp, hnoSandbox⟩ hinserts
    obtain ⟨e, heffect, hrow⟩ := inserts_iff.1 hinserts
    obtain ⟨tool, policy, hgranted, hcases⟩ := effect_cases heffect
    obtain ⟨htool, hstatus, hcheck, happroved⟩ := granted_iff.1 hgranted
    rcases hcases with ⟨payload, session, rfl, hname, hbuild, hrepo⟩ |
      ⟨service, rfl, hservice, hside, hdraft⟩
    · refine absurd ⟨hname, ?_, payload, session, hbuild, hrepo, hrow⟩ hnoFollowUp
      rw [gateway.isActive_iff request htool, hstatus]
      rfl
    · rcases check_write hcheck hside happroved hdraft with hwrite | ⟨-, hkanban, hmode⟩
      · exact ⟨tool, policy, htool, hcheck, happroved, hdraft, hwrite⟩
      · obtain ⟨tenant, htenant, hcommits, hnew⟩ := hrow
        exact absurd ⟨tool, service, tenant, htool, hstatus, hkanban, hside, hmode, hservice,
          htenant, hcommits, hnew⟩ hnoSandbox

section Example

def scheduledPayload : FollowUpPayload where
  tenantId := formatUuid 1
  conversationId := "7"
  contactRef := "contact"
  messageRef := "ref"
  messageLength := 5
  reasonRef := "reason"
  triggerAt := 60
  triggerAtIso := "2026-01-01T00:01:00Z"
  idempotencyKey := "run:call"
  correlationId := "correlation"
  maxAttempts := 3

/-- A gateway with the follow-up tool registered, in the default modes. -/
def followUpGateway : AgentToolMcpGateway where
  registry :=
    ⟨[{ toolName := "followup_reengage_conversation", description := "", status := .active }]⟩
  policyGuard := { text := plainText }
  executor :=
    { text := plainText
      uuids := .unary
      tenantId := formatUuid 1
      outboxService := none
      followUpRepo := some fun _ => .commits
      handleRead := fun _ _ _ => .ok []
      buildFollowupSchedulePayload := fun _ _ _ _ _ _ => .ok (.scheduled scheduledPayload) }

def followUpRequest : ToolInvocationRequest where
  invocationId := "invocation"
  toolName := "followup_reengage_conversation"
  arguments := [("conversation_id", .str "7"), ("message", .str "hello")]
  tenantId := 1
  conversationId := "7"
  correlationId := "correlation"
  idempotencyKey := "run:call"
  callId := "call"

/-- A gateway with a kanban tool registered, in sandbox mode. -/
def kanbanGateway : AgentToolMcpGateway where
  registry := ⟨[{ toolName := "kanban_comment", description := "", status := .active }]⟩
  policyGuard := { text := plainText, kanbanMode := .sandbox }
  executor :=
    { followUpGateway.executor with outboxService := some { session := fun _ => .commits } }

def kanbanRequest : ToolInvocationRequest :=
  { followUpRequest with
    toolName := "kanban_comment"
    arguments := [("comment", .str "call back on Monday")] }

/-- The kanban call in sandbox mode inserts its command, and the follow-up call,
whose policy is to produce a draft, its item. -/
theorem sandboxedComment_not_gatedWrite :
    ¬ kanbanGateway.GatedWrite 0 0 kanbanRequest { outbox := .empty, followUps := .empty } ∧
      ¬ followUpGateway.GatedWrite 0 0 followUpRequest
        { outbox := .empty, followUps := .empty } := by
  constructor
  · apply not_gatedWrite_of_enqueuesInSandbox
    refine ⟨{ toolName := "kanban_comment", description := "", status := .active },
      { session := fun _ => .commits }, 1, by decide, rfl, by decide, rfl, rfl, rfl,
      by decide +kernel, ?_, rfl⟩
    simp [Commits]
  · apply not_gatedWrite_of_schedulesFollowUp
    refine ⟨by decide, by decide, scheduledPayload, fun _ => .commits, rfl, rfl,
      ⟨1, by decide +kernel⟩, ?_, rfl⟩
    simp [Commits]

end Example

end AgentToolMcpGateway

end Iara.Tools
