import Iara.Graph.Production
import Iara.Graph.Stores
import Iara.Graph.Runs
import Iara.Proofs.ToolGate

/-!
# The tenant of a tool's effects

The production executor enqueues under `__production__`.  For a command of the
outbox the call fails; a follow-up is reported as scheduled all the same.  No
row of another tenant is ever written.
-/

namespace Iara.Graph

open Iara.Lib Iara.Persistence Iara.Security Iara.Tools

/-! ## The claim -/

namespace ToolTurn

variable (uuids : UuidSupply) (gateway : AgentToolMcpGateway) (turn : ToolTurn)

/-- The call fails and enqueues nothing. -/
def FailsClosed : Prop :=
  (turn.execute uuids gateway).1.status = .failed ∧
    (turn.execute uuids gateway).2.outbox = turn.world.outbox ∧
    (turn.execute uuids gateway).2.followUps = turn.world.followUps

/-- What the call has the executor enqueue is enqueued under the tenant of the
request, or the call fails closed. -/
def CarriesTenant : Prop :=
  ∀ request e, turn.request uuids = .ok request → turn.effect gateway request = some e →
    parseUuid (e.tenantId gateway.executor) = some request.tenantId ∨
      turn.FailsClosed uuids gateway

/-- The call is one of the follow-up tool whose arguments give a schedule. -/
def SchedulesFollowUp : Prop :=
  turn.call.toolName = "followup_reengage_conversation" ∧
    ∃ request payload, turn.request uuids = .ok request ∧
      gateway.executor.buildFollowupSchedulePayload turn.world.draw.draws request.arguments
        gateway.executor.tenantId (gateway.executor.conversationArgument request.arguments)
        request.idempotencyKey request.correlationId = .ok (.scheduled payload)

end ToolTurn

/-- The row is of the tenant. -/
def OfTenant (tenantId : Option String) (tenant : Uuid) : Prop :=
  ∃ t, tenantId = some t ∧ parseUuid t = some tenant

/-- Every row that was added is of the tenant. -/
structure OwnRows (tenantId : Option String) (w w' : World) : Prop where
  outbox : ∀ r ∈ w'.outbox.rows, r ∈ w.outbox.rows ∨ OfTenant tenantId r.tenantId
  followUps : ∀ r ∈ w'.followUps.rows, r ∈ w.followUps.rows ∨ OfTenant tenantId r.tenantId

abbrev GraphRun := List (Visit Node GraphState World) × Ending

/-- The tool effects of a run from a state carry its tenant. -/
structure EffectsCarryTenant (p : ProductionDeps) (s : GraphState) (w : World) (run : GraphRun) :
    Prop where
  carries : ∀ v ∈ run.1, ∀ turn ∈ visitTurns p.uuids p.gateway v,
    turn.CarriesTenant p.uuids p.gateway
  rows : OwnRows s.tenantId w (StateGraph.worldAfter w run.1)

/-! ## The rows of a run -/

namespace OwnRows

variable {tenantId : Option String} {w w₁ w₂ : World}

theorem of_eq (houtbox : w₁.outbox.rows = w.outbox.rows)
    (hfollowUps : w₁.followUps.rows = w.followUps.rows) : OwnRows tenantId w w₁ where
  outbox := by
    rw [houtbox]
    exact fun r hr => Or.inl hr
  followUps := by
    rw [hfollowUps]
    exact fun r hr => Or.inl hr

theorem refl : OwnRows tenantId w w := of_eq rfl rfl

theorem trans (h₁ : OwnRows tenantId w w₁) (h₂ : OwnRows tenantId w₁ w₂) :
    OwnRows tenantId w w₂ where
  outbox r hr := (h₂.outbox r hr).elim (h₁.outbox r) Or.inr
  followUps r hr := (h₂.followUps r hr).elim (h₁.followUps r) Or.inr

end OwnRows

/-- An enqueue inserts rows of the tenant it is called for only. -/
theorem enqueueCommand_ownRows (service : OutboxService) (draw now : Nat)
    (commandId capabilityName : String) (parameters : Parameters) (tenantId : String)
    (correlationId : Option String) (idempotencyKey : String) (outbox : Outbox) :
    ∀ r ∈ (service.enqueueCommand draw now commandId capabilityName parameters tenantId
        correlationId idempotencyKey outbox).2.rows,
      r ∈ outbox.rows ∨ parseUuid tenantId = some r.tenantId := by
  intro r hr
  unfold OutboxService.enqueueCommand at hr
  split at hr
  · exact Or.inl hr
  · exact Or.inl hr
  · next tenant correlation htenant =>
    have hinserted : ∀ command : ProviderCommand, command.tenantId = tenant →
        r ∈ (OutboxRepository.enqueue now command outbox).1.rows →
        r ∈ outbox.rows ∨ parseUuid tenantId = some r.tenantId := by
      intro command hcommand hmem
      rcases Table.mem_insertOrIgnore hmem with hmem | ⟨rfl, -⟩
      · exact Or.inl hmem
      · right
        rw [htenant, ← hcommand]
        rfl
    simp only at hr
    split at hr
    · exact hinserted _ rfl hr
    · exact Or.inl hr
    · exact hinserted _ rfl hr

theorem enqueueReply_ownRows {s : GraphState} {w : World} (uuids : UuidSupply)
    (service : OutboxService) (content : String) :
    OwnRows s.tenantId w (enqueueReply uuids service s content w).2 := by
  unfold enqueueReply
  split
  · next tenantId conversationId htenant hconversation =>
    have hrow := enqueueCommand_ownRows service w.draws w.now (uuids.gen w.draws) sendMessage
      (replyParameters conversationId content) tenantId s.correlationId (responseKey s.runId)
      w.outbox
    simp only [OutboxService.enqueue]
    generalize service.enqueueCommand w.draws w.now (uuids.gen w.draws) sendMessage
      (replyParameters conversationId content) tenantId s.correlationId (responseKey s.runId)
      w.outbox = written at hrow ⊢
    refine ⟨fun r hr => ?_, fun r hr => Or.inl hr⟩
    rcases hrow r hr with hold | hnew
    · exact Or.inl hold
    · exact Or.inr ⟨tenantId, htenant, hnew⟩
  · exact .of_eq rfl rfl

/-! ## An executor without a tenant -/

theorem enqueueToolCommand_of_no_tenant {service : OutboxService} {draw now : Nat}
    {commandId toolName tenantId idempotencyKey : String} {arguments : Parameters}
    {correlationId : Option String} {outbox : Outbox} (h : parseUuid tenantId = none) :
    service.enqueueToolCommand draw now commandId toolName arguments tenantId idempotencyKey
      correlationId outbox = (.error "ValueError", outbox) := by
  unfold OutboxService.enqueueToolCommand OutboxService.enqueueCommand
  rw [h]

/-- An effect whose tenant id is no UUID writes nothing. -/
theorem write_of_no_tenant {executor : ToolExecutor} {draw now : Nat}
    {request : ToolInvocationRequest} {stores : ToolStores} {e : ToolEffect}
    (h : parseUuid (e.tenantId executor) = none) :
    e.write executor draw now request stores = stores := by
  cases e with
  | outbox service =>
      simp only [ToolEffect.tenantId] at h
      simp only [ToolEffect.write, enqueueToolCommand_of_no_tenant h]
  | followUp session payload =>
      simp only [ToolEffect.tenantId] at h
      simp only [ToolEffect.write, FollowUpRepository.enqueueRaw, h]

/-- A gateway as the production graph has it, in any modes. -/
structure IsProduction (gateway : AgentToolMcpGateway) : Prop where
  exists_modes : ∃ (settings : ProductionSettings) (kanbanMode campaignMode : OperationMode),
    gateway = settings.gateway kanbanMode campaignMode

namespace IsProduction

variable {gateway : AgentToolMcpGateway} {draw now : Nat} {request : ToolInvocationRequest}
  {stores : ToolStores} {e : ToolEffect}

theorem tenantId (h : IsProduction gateway) (heffect : gateway.effect draw request = some e) :
    parseUuid (e.tenantId gateway.executor) = none := by
  obtain ⟨settings, kanbanMode, campaignMode, rfl⟩ := h.exists_modes
  obtain ⟨tool, policy, -, hcases⟩ := AgentToolMcpGateway.effect_cases heffect
  rcases hcases with ⟨payload, session, rfl, -, hbuild, -⟩ | ⟨service, rfl, -⟩
  · have htenant : payload.tenantId = productionTenant := (FollowUpRuntime.scheduled_spec hbuild).1
    rw [ToolEffect.tenantId, htenant]
    exact parseUuid_productionTenant
  · exact parseUuid_productionTenant

/-- No tool call of the production graph writes a row. -/
theorem invoke_stores (h : IsProduction gateway) :
    (gateway.invoke draw now request stores).2 = stores := by
  have hdoes := gateway.invoke_does draw now request stores
  cases heffect : gateway.effect draw request with
  | none =>
      rw [heffect] at hdoes
      exact hdoes
  | some e =>
      rw [heffect] at hdoes
      rw [hdoes.1, write_of_no_tenant (h.tenantId heffect)]

theorem executeToolCall_stores (h : IsProduction gateway) (uuids : UuidSupply) (s : GraphState)
    (tc : PendingToolCall) (w : World) :
    (executeToolCall uuids gateway s tc w).2.outbox = w.outbox ∧
      (executeToolCall uuids gateway s tc w).2.followUps = w.followUps := by
  unfold executeToolCall
  split
  · exact ⟨rfl, rfl⟩
  · simp only [h.invoke_stores]
    split <;> exact ⟨rfl, rfl⟩

theorem of_deps {settings : ProductionSettings} {p : ProductionDeps}
    (h : settings.deps = .ok p) : IsProduction p.gateway := by
  obtain ⟨-, kanbanMode, campaignMode, hgateway⟩ := ProductionSettings.deps_spec h
  exact ⟨settings, kanbanMode, campaignMode, hgateway⟩

end IsProduction

section Run

variable {p : ProductionDeps} (hp : IsProduction p.gateway)

include hp

/-- A node adds rows of its run's tenant only. -/
theorem runNode_ownRows (n : Node) (s : GraphState) (w : World) :
    OwnRows s.tenantId w (runNode p.deps n s w).2 := by
  have hstores := runNode_stores p.deps n s w
  obtain ⟨rows, hrows, hof⟩ := (runNode_effect p.deps n s w).outbox
  have hother : n ≠ .toolExecutor → (∀ r, ¬ RowOf n s r) →
      OwnRows s.tenantId w (runNode p.deps n s w).2 := by
    intro hn hno
    have hempty : rows = [] := List.eq_nil_iff_forall_not_mem.2 fun r hr => hno r (hof r hr)
    apply OwnRows.of_eq
    · rw [hrows, hempty, List.append_nil]
    · rw [hstores.followUps hn]
  cases n with
  | toolExecutor =>
      unfold runNode toolExecutorNode
      simp only
      split
      · exact .refl
      · have hsame := executeToolCalls_induction p.uuids p.gateway s
          (s.toolCallsPending.getD [])
          (P := fun w' => w'.outbox = w.outbox ∧ w'.followUps = w.followUps) ⟨rfl, rfl⟩
          fun tc w' hw' => by
            obtain ⟨houtbox, hfollowUps⟩ := hp.executeToolCall_stores p.uuids s tc w'
            exact ⟨houtbox.trans hw'.1, hfollowUps.trans hw'.2⟩
        exact .of_eq (congrArg Table.rows hsame.1) (congrArg Table.rows hsame.2)
  | commandDispatch =>
      unfold runNode commandDispatchNode
      simp only
      split
      · exact .refl
      · simp only [ProductionDeps.deps]
        split <;> exact enqueueReply_ownRows _ _ _
  | _ => exact hother (by decide) fun r hr => hr

/-- A run adds rows of its tenant only. -/
theorem run_ownRows (limit : Nat) (n : Node) (s : GraphState) (w : World) :
    OwnRows s.tenantId w
      (StateGraph.worldAfter w ((buildProductionGraph p).execute limit n s w).1) := by
  refine StateGraph.worldAfter_induction (P := fun w' => OwnRows s.tenantId w w') .refl ?_
  intro v hv
  refine ((buildProductionGraph p).visits_preserve
    (P := fun t w' => t.tenantId = s.tenantId ∧ OwnRows s.tenantId w w') ?_ ⟨rfl, .refl⟩ v hv).2.2
  intro m t w' ht
  have hstep := runNode_ownRows hp m t w'
  obtain ⟨-, htenant, -⟩ := (runNode_update p.deps m t w').identifiers
  rw [ht.1] at hstep
  refine ⟨?_, ht.2.trans hstep⟩
  have hmerge : (t.merge (runNode p.deps m t w').1).tenantId = t.tenantId := by
    simp [GraphState.merge, htenant]
  exact hmerge.trans ht.1

end Run

/-! ## The turns -/

theorem toolName_of_toolRequest {uuids : UuidSupply} {s : GraphState} {tc : PendingToolCall}
    {draw : Nat} {request : ToolInvocationRequest}
    (h : toolRequest uuids s tc draw = .ok request) : request.toolName = tc.toolName := by
  unfold toolRequest at h
  split at h
  · cases h
  · split at h
    · cases h
    · split at h
      · cases h
      · split at h
        · cases h
          rfl
        · cases h

namespace ToolTurn

variable {uuids : UuidSupply} {gateway : AgentToolMcpGateway} {turn : ToolTurn}
  {request : ToolInvocationRequest}

/-- What the gateway answers to the turn's request. -/
def answer (gateway : AgentToolMcpGateway) (turn : ToolTurn) (request : ToolInvocationRequest) :
    Except String ToolInvocationResult :=
  (gateway.invoke turn.world.draw.draws turn.world.now request
    { outbox := turn.world.outbox, followUps := turn.world.followUps }).1

theorem status_of_error {exception : String} (hrequest : turn.request uuids = .ok request)
    (hanswer : turn.answer gateway request = .error exception) :
    (turn.execute uuids gateway).1.status = .failed := by
  unfold ToolTurn.request at hrequest
  unfold answer at hanswer
  unfold execute executeToolCall
  rw [hrequest]
  simp only [hanswer, failedResult]

theorem status_of_ok {result : ToolInvocationResult} (hrequest : turn.request uuids = .ok request)
    (hanswer : turn.answer gateway request = .ok result) :
    (turn.execute uuids gateway).1.status = result.status := by
  unfold ToolTurn.request at hrequest
  unfold answer at hanswer
  unfold execute executeToolCall
  rw [hrequest]
  simp only [hanswer]

/-- What the answer says of the effect. -/
theorem reports_of_effect {e : ToolEffect} (heffect : turn.effect gateway request = some e) :
    e.Reports gateway.executor turn.world.draw.draws turn.world.now request
      { outbox := turn.world.outbox, followUps := turn.world.followUps }
      (turn.answer gateway request) := by
  have hdoes := gateway.invoke_does turn.world.draw.draws turn.world.now request
    { outbox := turn.world.outbox, followUps := turn.world.followUps }
  unfold effect at heffect
  rw [heffect] at hdoes
  exact hdoes.2

/-- A command of the outbox fails closed. -/
theorem failsClosed_of_outbox (h : IsProduction gateway) {service : OutboxService}
    (hrequest : turn.request uuids = .ok request)
    (heffect : turn.effect gateway request = some (.outbox service)) :
    turn.FailsClosed uuids gateway := by
  refine ⟨?_, h.executeToolCall_stores uuids turn.state turn.call turn.world⟩
  apply status_of_error hrequest
  apply reports_of_effect heffect
  unfold effect at heffect
  have htenant := h.tenantId heffect
  simp only [ToolEffect.tenantId] at htenant
  rw [enqueueToolCommand_of_no_tenant htenant]

/-- A follow-up that is enqueued is reported as a success. -/
theorem status_of_followUp {session : Transaction} {payload : FollowUpPayload}
    (hrequest : turn.request uuids = .ok request)
    (heffect : turn.effect gateway request = some (.followUp session payload)) :
    (turn.execute uuids gateway).1.status = .success := by
  obtain ⟨result, hanswer, hstatus⟩ := reports_of_effect heffect
  rw [status_of_ok hrequest hanswer]
  exact hstatus

/-- In the production graph a call carries the tenant if and only if it does not
schedule a follow-up. -/
theorem carriesTenant_iff (h : IsProduction gateway) :
    turn.CarriesTenant uuids gateway ↔ ¬ turn.SchedulesFollowUp uuids gateway := by
  constructor
  · rintro hcarries ⟨hname, request, payload, hrequest, hbuild⟩
    obtain ⟨tool, htool, hstatus⟩ := getTool_followUp
    obtain ⟨settings, kanbanMode, campaignMode, hgateway⟩ := h.exists_modes
    have hrequestName := (toolName_of_toolRequest hrequest).trans hname
    have hcapability : followUpCapabilities.contains request.toolName = true := by
      rw [hrequestName]
      rfl
    have hregistered : gateway.registry.getTool request.toolName = some tool := by
      rw [hrequestName, hgateway]
      exact htool
    have hrepo : gateway.executor.followUpRepo = some settings.sessionFactory := by
      rw [hgateway]
      rfl
    have heffect : turn.effect gateway request =
        some (.followUp (settings.sessionFactory turn.world.draw.draws) payload) :=
      (AgentToolMcpGateway.effect_of_followUp hcapability hregistered hstatus hbuild hrepo).2
    rcases hcarries request _ hrequest heffect with htenant | hfails
    · unfold effect at heffect
      rw [h.tenantId heffect] at htenant
      cases htenant
    · have hsuccess := hfails.1
      rw [status_of_followUp hrequest heffect] at hsuccess
      cases hsuccess
  · intro hno request e hrequest heffect
    right
    obtain ⟨tool, policy, -, hcases⟩ :=
      AgentToolMcpGateway.effect_cases
        (show gateway.effect turn.world.draw.draws request = some e from heffect)
    rcases hcases with ⟨payload, session, -, hname, hbuild, -⟩ | ⟨service, rfl, -⟩
    · refine absurd ⟨?_, request, payload, hrequest, hbuild⟩ hno
      rw [← toolName_of_toolRequest hrequest]
      simpa [followUpCapabilities] using hname
    · exact failsClosed_of_outbox h hrequest heffect

end ToolTurn

/-- The tool effects of a run of the production graph carry its tenant if and
only if no call of the run schedules a follow-up. -/
theorem effectsCarryTenant_iff {settings : ProductionSettings} {p : ProductionDeps}
    (hp : settings.deps = .ok p) (limit : Nat) (s : GraphState) (w : World) :
    EffectsCarryTenant p s w ((buildProductionGraph p).execute limit .eligibility s w) ↔
      ∀ v ∈ ((buildProductionGraph p).execute limit .eligibility s w).1,
        ∀ turn ∈ visitTurns p.uuids p.gateway v, ¬ turn.SchedulesFollowUp p.uuids p.gateway := by
  have hproduction := IsProduction.of_deps hp
  constructor
  · intro h v hv turn hturn
    exact (ToolTurn.carriesTenant_iff hproduction).1 (h.carries v hv turn hturn)
  · intro h
    refine ⟨fun v hv turn hturn => ?_, run_ownRows hproduction limit .eligibility s w⟩
    exact (ToolTurn.carriesTenant_iff hproduction).2 (h v hv turn hturn)

section Example

def plainRuntime : FollowUpRuntime where
  time :=
    { fromIsoFormat := fun _ => none
      isoFormat := fun _ => "1970-01-01T13:00:00+00:00" }
  clock := fun _ => .nearest (12 * Datetime.hour) none
  sha256 := id
  str := fun _ => ""
  int := fun _ => .ok 3
  float := fun _ => .error "ValueError"

/-- Settings with a model that calls the follow-up tool. -/
def followUpSettings : ProductionSettings where
  uuids := .unary
  filters :=
    { text := plainText
      containsBlockedContent := fun _ => false
      lowConfidencePatterns := [] }
  llm :=
    { ainvoke := fun _ _ _ => .ok
        { content := .text ""
          toolCalls :=
            [{ id := some "call"
               name := "followup_reengage_conversation"
               args := [("message", .str "Oi")] }] } }
  mediaSubgraph := { processFromDicts := fun _ _ => .ok [] }
  memoryStore :=
    { enabled := false
      listRecent := fun _ _ => .ok []
      store := fun _ _ _ => .ok () }
  iaraMemoryEnabled := false
  iaraKanbanDefaultMode := .suggestOnly
  iaraCampaignDefaultMode := .draftOnly
  sessionFactory := fun _ => .commits
  handleRead := fun _ _ _ => .ok []
  followUp := plainRuntime

def followUpDeps : ProductionDeps where
  uuids := .unary
  filters := followUpSettings.filters
  llm := followUpSettings.llm
  registry := .buildDefault
  gateway := followUpSettings.gateway .suggestOnly .draftOnly
  outboxService := { session := fun _ => .commits }
  mediaSubgraph := followUpSettings.mediaSubgraph
  authGuard :=
    (CommandAuthorizationGuard.mk plainText []).register { tenantId := productionTenant }
  sessionFactory := fun _ => .commits

/-- A message of a contact of the first tenant. -/
def followUpState : GraphState where
  runId := some "run"
  tenantId := some (formatUuid 1)
  conversationId := some "7"
  correlationId := some "correlation"
  messages := some [.user "Oi"]

def followUpRun : GraphRun :=
  (buildProductionGraph followUpDeps).execute 25 .eligibility followUpState {}

theorem followUpRun_iff :
    EffectsCarryTenant followUpDeps followUpState {} followUpRun ↔
      ∀ v ∈ followUpRun.1, ∀ turn ∈ visitTurns followUpDeps.uuids followUpDeps.gateway v,
        ¬ turn.SchedulesFollowUp followUpDeps.uuids followUpDeps.gateway :=
  effectsCarryTenant_iff (show followUpSettings.deps = .ok followUpDeps from rfl) 25
    followUpState {}

def schedules (turn : ToolTurn) : Bool :=
  match turn.request .unary with
  | .error _ => false
  | .ok request =>
      match plainRuntime.buildFollowupSchedulePayload turn.world.draw.draws request.arguments
          productionTenant (followUpSettings.executor.conversationArgument request.arguments)
          request.idempotencyKey request.correlationId with
      | .ok (.scheduled _) => turn.call.toolName = "followup_reengage_conversation"
      | _ => false

/-- The model's call is reported as scheduled, and nothing is enqueued. -/
theorem followUpRun_not_carryTenant :
    (∃ p, followUpSettings.deps = .ok p) ∧
      ¬ EffectsCarryTenant followUpDeps followUpState {} followUpRun := by
  refine ⟨⟨followUpDeps, rfl⟩, fun h => ?_⟩
  have hproduction : IsProduction followUpDeps.gateway :=
    .of_deps (show followUpSettings.deps = .ok followUpDeps from rfl)
  have hany : (followUpRun.1.any fun v =>
      (visitTurns followUpDeps.uuids followUpDeps.gateway v).any schedules) = true := by
    decide +kernel
  simp only [List.any_eq_true] at hany
  obtain ⟨v, hv, turn, hturn, hschedules⟩ := hany
  refine (ToolTurn.carriesTenant_iff hproduction).1 (h.carries v hv turn hturn) ?_
  unfold schedules at hschedules
  split at hschedules
  · cases hschedules
  · next request hrequest =>
    split at hschedules
    · next payload hbuild => exact ⟨by simpa using hschedules, request, payload, hrequest, hbuild⟩
    · cases hschedules

end Example

end Iara.Graph
