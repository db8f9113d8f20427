import Iara.Proofs.ChatReplies
import Iara.Proofs.TenantDelivery
import Iara.Provider.Requests
import Iara.Workers.DrainSteps
import Iara.Workers.Pipeline
import Iara.Workers.RunSteps

/-!
# What a call at the provider answers

Every call that the provider carries out is the reply to a message that passed
the rules of the webhook endpoint, for the tenant that the registry is bound to,
whatever the order in which the processes act and wherever they fail.  The
invariant follows a job from the router through the queue, the handlers, the
outbox and the drainers.
-/

namespace Iara.Workers

open Iara.Lib Iara.Persistence Iara.Graph Iara.Provider

/-! ## Replies -/

/-- A text that may leave the guardrails: the refusal, or one without markers
and with nothing on the blocklist. -/
def Guarded (filters : GuardrailFilters) (content : String) : Prop :=
  PyStr.truthy content = true ∧ (content = blockedResponse ∨ Clean filters content)

structure ReplyTo (filters : GuardrailFilters) (payload : JobPayload) (r : OutboxRow) : Prop where
  tenant : parseUuid payload.tenantId = some r.tenantId
  provider : r.provider = "chatwoot"
  capability : r.capabilityName = sendMessage
  parameters : ∃ content, Guarded filters content ∧
    r.parametersJson = replyParameters payload.conversationId content

/-- A row is a reply by these columns alone. -/
theorem ReplyTo.congr {filters : GuardrailFilters} {payload : JobPayload} {r r' : OutboxRow}
    (h : ReplyTo filters payload r) (htenant : r'.tenantId = r.tenantId)
    (hprovider : r'.provider = r.provider) (hcapability : r'.capabilityName = r.capabilityName)
    (hparameters : r'.parametersJson = r.parametersJson) : ReplyTo filters payload r' where
  tenant := by rw [htenant, h.tenant]
  provider := by rw [hprovider, h.provider]
  capability := by rw [hcapability, h.capability]
  parameters := by
    rw [hparameters]
    exact h.parameters

/-- The rows after a call are the ones before and, at most, the one it builds. -/
theorem mem_enqueueCommand {service : OutboxService} {draw now : Nat}
    {commandId capabilityName tenantId idempotencyKey : String} {parameters : Parameters}
    {correlationId : Option String} {outbox : Outbox} {r : OutboxRow}
    (h : r ∈ (service.enqueueCommand draw now commandId capabilityName parameters tenantId
      correlationId idempotencyKey outbox).2.rows) :
    r ∈ outbox.rows ∨
      parseUuid tenantId = some r.tenantId ∧ r.provider = "chatwoot" ∧
        r.capabilityName = capabilityName ∧ r.parametersJson = parameters := by
  unfold OutboxService.enqueueCommand at h
  cases htenant : parseUuid tenantId with
  | none => exact Or.inl (by simpa only [htenant] using h)
  | some tenant =>
      cases correlationId with
      | none => exact Or.inl (by simpa only [htenant] using h)
      | some correlation =>
          simp only [htenant, OutboxRepository.enqueue] at h
          have hwritten : ∀ row : OutboxRow, r ∈ (outbox.insertOrIgnore row).rows →
              r ∈ outbox.rows ∨ r = row :=
            fun row hr => (Table.mem_insertOrIgnore hr).imp_right And.left
          cases hsession : service.session draw with
          | fails exception => exact Or.inl (by simpa only [hsession] using h)
          | commits =>
              simp only [hsession] at h
              rcases hwritten _ h with hold | rfl
              · exact Or.inl hold
              · exact Or.inr ⟨rfl, rfl, rfl, rfl⟩
          | commitsThenFails exception =>
              simp only [hsession] at h
              rcases hwritten _ h with hold | rfl
              · exact Or.inl hold
              · exact Or.inr ⟨rfl, rfl, rfl, rfl⟩

/-- The dispatch of a guarded response adds a reply to the run's conversation. -/
theorem mem_commandDispatchNode {filters : GuardrailFilters} {payload : JobPayload}
    {uuids : UuidSupply} {service : OutboxService} {s : GraphState} {w : World} {r : OutboxRow}
    (htenant : s.tenantId = some payload.tenantId)
    (hconversation : s.conversationId = some payload.conversationId)
    (hguarded : ∀ content, s.response.getD "" = content → PyStr.truthy content = true →
      content = blockedResponse ∨ Clean filters content)
    (h : r ∈ (commandDispatchNode uuids (some service) s w).2.outbox.rows) :
    r ∈ w.outbox.rows ∨ ReplyTo filters payload r := by
  unfold commandDispatchNode at h
  simp only at h
  split at h
  · exact Or.inl h
  next hsend =>
    have hcontent : PyStr.truthy (s.response.getD "") = true := by
      simp only [Bool.or_eq_true, not_or, Bool.not_eq_true, Bool.not_eq_false'] at hsend
      exact hsend.1
    have hrow : r ∈ (enqueueReply uuids service s (s.response.getD "") w).2.outbox.rows := by
      split at h <;> exact h
    unfold enqueueReply at hrow
    rw [htenant, hconversation] at hrow
    simp only [OutboxService.enqueue] at hrow
    rcases mem_enqueueCommand hrow with hold | ⟨hparse, hprovider, hname, hparameters⟩
    · exact Or.inl hold
    · exact Or.inr ⟨hparse, hprovider, hname, _, ⟨hcontent, hguarded _ rfl hcontent⟩, hparameters⟩

/-- The row answers one of the known jobs. -/
def Traced (filters : GuardrailFilters) (known : JobPayload → Prop) (r : OutboxRow) : Prop :=
  ∃ payload, known payload ∧ ReplyTo filters payload r

theorem Traced.mono {filters : GuardrailFilters} {known known' : JobPayload → Prop}
    (hknown : ∀ payload, known payload → known' payload) {r : OutboxRow}
    (h : Traced filters known r) : Traced filters known' r := by
  obtain ⟨payload, hpayload, hreply⟩ := h
  exact ⟨payload, hknown payload hpayload, hreply⟩

structure TracedWorld (filters : GuardrailFilters) (known : JobPayload → Prop) (w : World) :
    Prop where
  outbox : ∀ r ∈ w.outbox.rows, Traced filters known r
  followUps : w.followUps.rows = []

/-! ## Handlers -/

/-- A run belongs to its job, and comes to the dispatch with a guarded response. -/
structure RunOf (filters : GuardrailFilters) (payload : JobPayload) (run : GraphRun) : Prop where
  tenant : run.state.tenantId = some payload.tenantId
  conversation : run.state.conversationId = some payload.conversationId
  guarded : run.node = .commandDispatch → ∀ content, run.state.response.getD "" = content →
    PyStr.truthy content = true → content = blockedResponse ∨ Clean filters content

structure TracedHandler (filters : GuardrailFilters) (known : JobPayload → Prop) (h : Handler) :
    Prop where
  message : known h.message.payload
  run : ∀ run, h.phase = .running run → RunOf filters h.message.payload run

namespace Cluster

variable {cluster : Cluster} {known : JobPayload → Prop} {s s' : Shared} {h h' : Handler}
  {a : HandlerStep} {run : GraphRun} {payload : JobPayload}

theorem toolUpdate_identifiers (run : GraphRun) :
    (toolUpdate run).tenantId = none ∧ (toolUpdate run).conversationId = none := by
  unfold toolUpdate
  split <;> exact ⟨rfl, rfl⟩

/-- What a superstep makes of the run. -/
def stepped (cluster : Cluster) (run : GraphRun) (w : World) : GraphState × World :=
  if run.node = .toolExecutor then (toolUpdate run, w)
  else runNode cluster.worker.deps.deps run.node run.state w

theorem stepped_identifiers (run : GraphRun) (w : World) :
    (cluster.stepped run w).1.tenantId = none ∧
      (cluster.stepped run w).1.conversationId = none := by
  unfold stepped
  split
  · exact toolUpdate_identifiers run
  · obtain ⟨-, htenant, hconversation, -⟩ :=
      (runNode_update cluster.worker.deps.deps run.node run.state w).identifiers
    exact ⟨htenant, hconversation⟩

/-- The next node of a run, in the state the superstep leaves. -/
theorem running_continueRun {run' : GraphRun} {state : GraphState}
    (h : continueRun run state = .running run') :
    route run.node state = some (.goto run'.node) ∧ run'.state = state := by
  unfold continueRun at h
  cases hroute : route run.node state with
  | none =>
      simp only [hroute] at h
      cases h
  | some next =>
      simp only [hroute] at h
      cases next with
      | finish => cases h
      | goto n =>
          simp only at h
          split at h
          · cases h
          · cases h
            exact ⟨rfl, rfl⟩

theorem runOf_stepped (hlower : cluster.worker.deps.filters.text.LowersWords)
    (hrun : RunOf cluster.worker.deps.filters payload run) (w : World) {run' : GraphRun}
    (hnext : continueRun run (run.state.merge (cluster.stepped run w).1) = .running run') :
    RunOf cluster.worker.deps.filters payload run' := by
  obtain ⟨hroute, hstate⟩ := running_continueRun hnext
  obtain ⟨htenant, hconversation⟩ := cluster.stepped_identifiers run w
  refine ⟨?_, ?_, ?_⟩
  · rw [hstate, ← hrun.tenant]
    simp only [GraphState.merge, htenant, Option.none_or]
  · rw [hstate, ← hrun.conversation]
    simp only [GraphState.merge, hconversation, Option.none_or]
  · intro hnode content hcontent hne
    rw [hnode] at hroute
    obtain ⟨hguard, -, hheld⟩ := route_to_commandDispatch hroute
    have hupdate : (cluster.stepped run w).1 =
        (guardrailsNode cluster.worker.deps.filters run.state w).1 := by
      unfold stepped
      rw [hguard]
      rfl
    rw [hstate, hupdate] at hcontent
    rw [hupdate] at hheld
    exact (clean_of_guardrails hlower hheld hcontent hne).2.1

theorem tracedWorld_stepped (hp : IsProduction cluster.worker.deps.gateway)
    (hknown : known payload) (hrun : RunOf cluster.worker.deps.filters payload run) {w : World}
    (hw : TracedWorld cluster.worker.deps.filters known w) :
    TracedWorld cluster.worker.deps.filters known (cluster.stepped run w).2 := by
  unfold stepped
  split
  · exact hw
  next htools =>
    refine ⟨?_, ?_⟩
    · intro r hr
      by_cases hdispatch : run.node = .commandDispatch
      · rw [hdispatch] at hr
        have hold := mem_commandDispatchNode hrun.tenant hrun.conversation
          (hrun.guarded hdispatch) hr
        rcases hold with hold | hnew
        · exact hw.outbox r hold
        · exact ⟨payload, hknown, hnew⟩
      · rw [outbox_of_other hp hdispatch] at hr
        exact hw.outbox r hr
    · rw [(runNode_stores cluster.worker.deps.deps run.node run.state w).followUps htools]
      exact hw.followUps

/-- What an act makes of a handler of a known job, of the queue and of the world. -/
theorem traced_of_act (hlower : cluster.worker.deps.filters.text.LowersWords)
    (hp : IsProduction cluster.worker.deps.gateway) (hact : cluster.act s h a = some (h', s'))
    (hh : TracedHandler cluster.worker.deps.filters known h)
    (hw : TracedWorld cluster.worker.deps.filters known s.rt.world) :
    TracedHandler cluster.worker.deps.filters known h' ∧
      TracedWorld cluster.worker.deps.filters known s'.rt.world ∧
      ∀ m ∈ s'.queue, m ∈ s.queue ∨ m = h.message := by
  have hmessage := (act_effect hact).message
  have hknown : known h'.message.payload := by
    rw [hmessage]
    exact hh.message
  cases act_graphEffect hact with
  | elsewhere hidle houtbox hfollowUps hqueue =>
      refine ⟨⟨hknown, fun run hphase => absurd hphase (hidle run)⟩, ⟨?_, ?_⟩, hqueue⟩
      · rw [houtbox]
        exact hw.outbox
      · rw [hfollowUps]
        exact hw.followUps
  | invoked saved =>
      refine ⟨⟨hknown, ?_⟩, ?_, fun m hm => Or.inl hm⟩
      · intro run hphase
        cases hphase
        exact ⟨rfl, rfl, by simp⟩
      · unfold invoke
        simp only [checkpoint_world]
        exact ⟨hw.outbox, hw.followUps⟩
  | toolCalled run tc hphase =>
      have hrun := hh.run run hphase
      refine ⟨⟨hknown, ?_⟩, ?_, fun m hm => Or.inl hm⟩
      · intro run' hphase'
        cases hphase'
        exact ⟨hrun.tenant, hrun.conversation, hrun.guarded⟩
      · obtain ⟨houtbox, hfollowUps⟩ :=
          hp.executeToolCall_stores cluster.worker.deps.uuids run.state tc s.rt.world
        refine ⟨?_, ?_⟩
        · intro r hr
          exact hw.outbox r (houtbox ▸ hr)
        · exact (congrArg Table.rows hfollowUps).trans hw.followUps
  | stepped saved run hphase =>
      have hrun := hh.run run hphase
      refine ⟨⟨hknown, ?_⟩, ?_, fun m hm => Or.inl hm⟩
      · intro run' hphase'
        exact runOf_stepped hlower hrun s.rt.world hphase'
      · unfold superstep
        simp only [checkpoint_world]
        exact tracedWorld_stepped hp hh.message hrun hw

end Cluster

/-! ## Drainers -/

theorem mem_updateCommand {commandId : String} {f : OutboxRow → OutboxRow}
    {hf : ∀ r, (f r).key = r.key} {outbox : Outbox} {r : OutboxRow}
    (h : r ∈ (OutboxRepository.updateCommand commandId f hf outbox).rows) :
    ∃ r' ∈ outbox.rows, r = r' ∨ r = f r' := by
  obtain ⟨r', hmem, hupdated⟩ := Table.mem_update.1 h
  refine ⟨r', hmem, ?_⟩
  split at hupdated
  · exact Or.inr hupdated.symm
  · exact Or.inl hupdated.symm

namespace OutboxDrainer

variable {drainer : OutboxDrainer} {filters : GuardrailFilters} {known : JobPayload → Prop}
  {s t : DrainShared} {l l' : DrainPhase} {a : DrainStep}

/-- The columns that make a row a reply are not among those that are updated. -/
theorem traced_updateCommand {commandId : String} {f : OutboxRow → OutboxRow}
    {hf : ∀ r, (f r).key = r.key}
    (hkeeps : ∀ r, (f r).tenantId = r.tenantId ∧ (f r).provider = r.provider ∧
      (f r).capabilityName = r.capabilityName ∧ (f r).parametersJson = r.parametersJson)
    {outbox : Outbox} (h : ∀ r ∈ outbox.rows, Traced filters known r) :
    ∀ r ∈ (OutboxRepository.updateCommand commandId f hf outbox).rows,
      Traced filters known r := by
  intro r hr
  obtain ⟨r', hmem, rfl | rfl⟩ := mem_updateCommand hr
  · exact h r hmem
  · obtain ⟨payload, hpayload, hreply⟩ := h r' hmem
    obtain ⟨htenant, hprovider, hcapability, hparameters⟩ := hkeeps r'
    exact ⟨payload, hpayload, hreply.congr htenant hprovider hcapability hparameters⟩

theorem traced_markDeadLettered (commandId : String) {outbox : Outbox}
    (h : ∀ r ∈ outbox.rows, Traced filters known r) :
    ∀ r ∈ (OutboxRepository.markDeadLettered commandId outbox).rows,
      Traced filters known r := by
  unfold OutboxRepository.markDeadLettered
  refine traced_updateCommand ?_ h
  exact fun _ => ⟨rfl, rfl, rfl, rfl⟩

theorem traced_markSent (commandId : String) {outbox : Outbox}
    (h : ∀ r ∈ outbox.rows, Traced filters known r) :
    ∀ r ∈ (OutboxRepository.markSent commandId outbox).rows, Traced filters known r := by
  unfold OutboxRepository.markSent
  refine traced_updateCommand ?_ h
  exact fun _ => ⟨rfl, rfl, rfl, rfl⟩

theorem traced_recordFailure (now : Nat) (row : OutboxRow) {outbox : Outbox}
    (h : ∀ r ∈ outbox.rows, Traced filters known r) :
    ∀ r ∈ (drainer.recordFailure now row outbox).rows, Traced filters known r := by
  unfold recordFailure
  split
  · exact traced_markDeadLettered row.commandId h
  · unfold OutboxRepository.markFailedForRetry
    refine traced_updateCommand ?_ h
    exact fun _ => ⟨rfl, rfl, rfl, rfl⟩

theorem DrainEffect.traced (heffect : DrainEffect drainer s l a l' t)
    (h : ∀ r ∈ s.outbox.rows, Traced filters known r) :
    ∀ r ∈ t.outbox.rows, Traced filters known r := by
  cases heffect with
  | moved hl hl' hrows => exact h
  | shelved row hrow hl hl' hrows => exact traced_markDeadLettered row.commandId h
  | executed row rest exchange adapter hadapter hl' => exact h
  | sent row rest => exact traced_markSent row.commandId h
  | unsent row rest exception => exact h
  | sentThenRaised row rest exception => exact traced_markSent row.commandId h
  | recorded row rest hl' hrows => exact traced_recordFailure s.now row h
  | unrecorded row rest => exact h
  | crashed l => exact h

/-- What is applied was applied before, or for a row in the drainer's hands. -/
theorem DrainEffect.applied (heffect : DrainEffect drainer s l a l' t) :
    ∀ entry ∈ t.applied, entry ∈ s.applied ∨
      ∃ row ∈ l.rows, ∃ adapter exchange, drainer.adapterOf row = some adapter ∧
        entry.1 = row.key ∧ entry.2 ∈ (execution adapter exchange row).applied := by
  cases heffect with
  | executed row rest exchange adapter hadapter hl' =>
      intro entry hentry
      rcases List.mem_append.1 hentry with hold | hnew
      · exact Or.inl hold
      · obtain ⟨call, hcall, rfl⟩ := List.mem_map.1 hnew
        exact Or.inr ⟨row, List.mem_cons_self, adapter, exchange, hadapter, rfl, hcall⟩
  | _ => exact fun entry hentry => Or.inl hentry

end OutboxDrainer

/-! ## Calls -/

section Calls

open ChatwootMcpAdapter

/-- The call that a reply becomes. -/
def replyCall (accountId conversationId content : String) : ProviderCall where
  accountId := accountId
  toolName := messageSendTool
  arguments :=
    [("conversation_id", .str conversationId), ("content", .str content),
      ("message_type", .str "outgoing"), ("private", .bool false), ("content_type", .str "text"),
      ("content_attributes", .obj []), ("media_urls", .arr []), ("signed_ids", .arr [])]

theorem toolName_sendMessage {registry : ChatwootMcpRegistry}
    (hcapabilities : registry.capabilities = defaultChatwootCapabilities) {text : PyText}
    {accountIdRef : String}
    (h : (registry.resolveCapability text sendMessage accountIdRef).allowed = true) :
    (registry.resolveCapability text sendMessage accountIdRef).resolvedToolName =
      some messageSendTool := by
  rw [ChatwootMcpRegistry.resolvedToolName_of_allowed h, ChatwootMcpRegistry.byIntent,
    hcapabilities]
  decide +kernel

/-- An admitted command of the bound registry is of its tenant, and a reply is
one message. -/
theorem prepareCall_reply {adapter : ChatwootMcpAdapter} {command : ProviderCommand}
    {context : ProviderSecurityContext} {call : ProviderCall} {requiresReadback : Bool}
    (hcapabilities : adapter.registry.capabilities = defaultChatwootCapabilities)
    (hcapability : command.capabilityName = sendMessage) {conversationId content : String}
    (hparameters : command.parameters = replyParameters conversationId content)
    (h : adapter.prepareCall command context = .ok (call, requiresReadback)) :
    formatUuid command.tenantId = adapter.registry.tenantId ∧
      call = replyCall adapter.accountId conversationId content := by
  unfold prepareCall at h
  split at h
  · cases h
  · split at h
    · cases h
    · cases hresolve : adapter.registry.resolveIntent adapter.text command.capabilityName
          (formatUuid command.tenantId) command.accountIdRef with
      | error e =>
          simp only [hresolve] at h
          cases h
      | ok resolution =>
          obtain ⟨htenant, -, hresolution⟩ := ChatwootMcpRegistry.resolveIntent_eq_ok hresolve
          simp only [hresolve] at h
          split at h
          · cases h
          next hallowed =>
            simp only [Bool.or_eq_true, not_or, Bool.not_eq_true, Bool.not_eq_false'] at hallowed
            rw [hresolution, hcapability] at hallowed
            have htool := toolName_sendMessage hcapabilities hallowed.1
            rw [hresolution, hcapability, htool, hparameters] at h
            have hcall := (Prod.mk.inj (Except.ok.inj h)).1
            exact ⟨htenant, hcall.symm⟩

theorem applied_of_reply {filters : GuardrailFilters} {payload : JobPayload} {row : OutboxRow}
    (hreply : ReplyTo filters payload row) {adapter : ChatwootMcpAdapter}
    (hcapabilities : adapter.registry.capabilities = defaultChatwootCapabilities)
    {exchange : Exchange} {call : ProviderCall}
    (hcall : call ∈ (OutboxDrainer.execution adapter.executeCommand exchange row).applied) :
    formatUuid row.tenantId = adapter.registry.tenantId ∧ ∃ content, Guarded filters content ∧
      call = replyCall adapter.accountId payload.conversationId content := by
  obtain ⟨content, hguarded, hparameters⟩ := hreply.parameters
  unfold OutboxDrainer.execution at hcall
  rw [executeCommand_eq] at hcall
  cases hprepare : adapter.prepareCall (OutboxDrainer.providerCommand row)
      (OutboxDrainer.securityContext row) with
  | error e =>
      simp only [hprepare] at hcall
      cases hcall
  | ok prepared =>
      obtain ⟨htenant, hprepared⟩ :=
        prepareCall_reply hcapabilities hreply.capability hparameters hprepare
      simp only [hprepare] at hcall
      exact ⟨htenant, content, hguarded, (mem_postWithRetry hcall).trans hprepared⟩

end Calls

/-! ## Schedulers -/

namespace FollowUpScheduler

variable {scheduler : FollowUpScheduler} {s t : PromotionShared} {l l' : PromotionPhase}
  {a : PromotionStep}

/-- On an empty queue a scheduler has no item, and enqueues nothing. -/
theorem idle_of_act (hact : scheduler.act s l a = some (l', t)) (hqueue : s.queue.rows = [])
    (hl : l.items = []) : l'.items = [] ∧ t.queue.rows = [] ∧ t.outbox = s.outbox := by
  have heffect := act_effect hact
  refine ⟨?_, ?_, ?_⟩
  · apply List.eq_nil_iff_forall_not_mem.2
    intro r hr
    rcases heffect.items r hr with hold | hnew
    · rw [hl] at hold
      cases hold
    · rw [hqueue] at hnew
      cases hnew
  · rcases heffect.queue with hsame | ⟨u, itemId, hwritten⟩
    · rw [hsame, hqueue]
    · rw [hwritten]
      have hids := ids_write u itemId s.queue
      rw [hqueue, List.map_nil, List.map_eq_nil_iff] at hids
      exact hids
  · cases heffect with
    | enqueued item rest newCount => cases hl
    | enqueuedThenRaised item rest newCount exception => cases hl
    | _ => rfl

end FollowUpScheduler

/-! ## The whole -/

namespace Pipeline

variable {pipeline : Pipeline} {s t : State}

def filters (pipeline : Pipeline) : GuardrailFilters := pipeline.cluster.worker.deps.filters

/-- The job was published by the router. -/
def Known (s : State) (payload : JobPayload) : Prop :=
  ∃ job ∈ s.webhooks.shared.jobs, job.payload = payload

/-- What a call of the outbox is to a job. -/
structure Carries (pipeline : Pipeline) (payload : JobPayload)
    (entry : (Uuid × String) × ProviderCall) : Prop where
  tenant : parseUuid payload.tenantId = some entry.1.1
  bound : formatUuid entry.1.1 = pipeline.tenantId
  call : ∃ content, Guarded pipeline.filters content ∧
    entry.2 = replyCall pipeline.workerSettings.chatwootAccountId payload.conversationId content

structure Inv (pipeline : Pipeline) (s : State) : Prop where
  webhooks : ∃ actions, pipeline.router.machine.run { shared := {} } actions = some s.webhooks
  queue : ∀ m ∈ s.workers.shared.queue, Known s m.payload
  handlers : ∀ h ∈ s.workers.parties, TracedHandler pipeline.filters (Known s) h
  world : TracedWorld pipeline.filters (Known s) s.world
  drainers : ∀ l ∈ s.drainers, ∀ r ∈ l.rows, Traced pipeline.filters (Known s) r
  schedulers : ∀ l ∈ s.schedulers, l.items = []
  applied : ∀ entry ∈ s.applied, ∃ payload, Known s payload ∧ pipeline.Carries payload entry

/-! ### Webhooks -/

theorem jobs_of_step {c c' : Api.WebhookRouter.State} {a : Api.WebhookRouter.Action}
    (h : pipeline.router.machine.step c a = some c') :
    ∃ more, c'.shared.jobs = c.shared.jobs ++ more := by
  cases a with
  | party i a =>
      obtain ⟨d, d', u, -, hact, rfl⟩ := Interleaving.step_party h
      rcases (Api.WebhookRouter.act_effect hact).jobs with ⟨hsame, -⟩ | ⟨-, -, -, hjobs⟩
      · exact ⟨[], by rw [List.append_nil]; exact hsame⟩
      · exact ⟨_, hjobs⟩
  | environment e =>
      obtain ⟨ls, u, henvironment, rfl⟩ := Interleaving.step_environment h
      have hjobs := (Api.WebhookRouter.environment_effect henvironment).1
      exact ⟨[], by rw [List.append_nil]; exact hjobs⟩

theorem foldl_publish (jobs : List Api.PublishedJob) (workers : Shared) :
    (jobs.foldl publish workers).rt = workers.rt ∧
      ∀ m ∈ (jobs.foldl publish workers).queue, m ∈ workers.queue ∨
        ∃ job ∈ jobs, job.payload = m.payload := by
  induction jobs generalizing workers with
  | nil => exact ⟨rfl, fun m hm => Or.inl hm⟩
  | cons job jobs ih =>
      obtain ⟨hrt, hqueue⟩ := ih (publish workers job)
      refine ⟨hrt, ?_⟩
      intro m hm
      rcases hqueue m hm with hold | ⟨other, hother, hpayload⟩
      · rcases List.mem_append.1 hold with hold | hnew
        · exact Or.inl hold
        · refine Or.inr ⟨job, List.mem_cons_self, ?_⟩
          rw [List.mem_singleton.1 hnew]
      · exact Or.inr ⟨other, List.mem_cons_of_mem _ hother, hpayload⟩

theorem inv_webhook (hs : Inv pipeline s) {a : Api.WebhookRouter.Action}
    {webhooks : Api.WebhookRouter.State}
    (hstep : pipeline.router.machine.step s.webhooks a = some webhooks) :
    Inv pipeline (published s webhooks) := by
  obtain ⟨more, hmore⟩ := jobs_of_step hstep
  have hnew : webhooks.shared.jobs.drop s.webhooks.shared.jobs.length = more := by
    rw [hmore, List.drop_left]
  have hknown : ∀ payload, Known s payload → Known (published s webhooks) payload := by
    intro payload hpayload
    obtain ⟨job, hjob, hsame⟩ := hpayload
    refine ⟨job, ?_, hsame⟩
    change job ∈ webhooks.shared.jobs
    rw [hmore]
    exact List.mem_append_left _ hjob
  obtain ⟨hrt, hqueue⟩ := foldl_publish more s.workers.shared
  have hworld : (published s webhooks).world = s.world := by
    change (List.foldl publish _ _).rt.world = _
    rw [hnew, hrt]
    rfl
  refine ⟨?_, ?_, ?_, ?_, ?_, hs.schedulers, ?_⟩
  · obtain ⟨actions, hrun⟩ := hs.webhooks
    refine ⟨actions ++ [a], ?_⟩
    rw [Machine.run_append, hrun, Option.bind_some, Machine.run_cons, hstep]
    rfl
  · intro m hm
    change m ∈ (List.foldl publish _ _).queue at hm
    rw [hnew] at hm
    rcases hqueue m hm with hold | ⟨job, hjob, hpayload⟩
    · exact hknown _ (hs.queue m hold)
    · refine ⟨job, ?_, hpayload⟩
      change job ∈ webhooks.shared.jobs
      rw [hmore]
      exact List.mem_append_right _ hjob
  · intro h hh
    have htraced := hs.handlers h hh
    exact ⟨hknown _ htraced.message, htraced.run⟩
  · rw [hworld]
    exact ⟨fun r hr => (hs.world.outbox r hr).mono hknown, hs.world.followUps⟩
  · intro l hl r hr
    exact (hs.drainers l hl r hr).mono hknown
  · intro entry hentry
    obtain ⟨payload, hpayload, hcarries⟩ := hs.applied entry hentry
    exact ⟨payload, hknown payload hpayload, hcarries⟩

/-! ### Workers -/

theorem isProduction (pipeline : Pipeline) :
    IsProduction pipeline.cluster.worker.deps.gateway :=
  .of_deps pipeline.built

theorem inv_worker (hlower : pipeline.filters.text.LowersWords) (hs : Inv pipeline s) {i : Nat}
    {a : HandlerStep} {workers : Cluster.State}
    (hstep : pipeline.cluster.machine.step s.workers (.party i a) = some workers) :
    Inv pipeline { s with workers := workers } := by
  obtain ⟨h, h', shared, hi, hact, rfl⟩ := Interleaving.step_party hstep
  have htraced := hs.handlers h (List.mem_of_getElem? hi)
  obtain ⟨hhandler, hworld, hqueue⟩ :=
    Cluster.traced_of_act hlower pipeline.isProduction hact htraced hs.world
  refine ⟨hs.webhooks, ?_, ?_, hworld, hs.drainers, hs.schedulers, hs.applied⟩
  · intro m hm
    rcases hqueue m hm with hold | rfl
    · exact hs.queue m hold
    · exact htraced.message
  · intro l hl
    rcases List.mem_or_eq_of_mem_set hl with hold | rfl
    · exact hs.handlers l hold
    · exact hhandler

theorem inv_deliver (hs : Inv pipeline s) {position : Nat} {workers : Cluster.State}
    (hstep : pipeline.cluster.machine.step s.workers (.environment (.deliver position)) =
      some workers) : Inv pipeline { s with workers := workers } := by
  obtain ⟨ls, shared, henvironment, rfl⟩ := Interleaving.step_environment hstep
  change Cluster.environment s.workers.shared (.deliver position) = _ at henvironment
  unfold Cluster.environment at henvironment
  simp only at henvironment
  split at henvironment
  next message hmessage =>
    cases henvironment
    have hknown := hs.queue message (List.mem_of_getElem? hmessage)
    refine ⟨hs.webhooks, ?_, ?_, hs.world, hs.drainers, hs.schedulers, hs.applied⟩
    · intro m hm
      exact hs.queue m (List.mem_of_mem_eraseIdx hm)
    · intro l hl
      rcases List.mem_append.1 hl with hold | hnew
      · exact hs.handlers l hold
      · rw [List.mem_singleton.1 hnew]
        refine ⟨hknown, ?_⟩
        intro run hphase
        cases hphase
  next => cases henvironment

theorem inv_tick (hs : Inv pipeline s) {elapsed : Nat} {workers : Cluster.State}
    (hstep : pipeline.cluster.machine.step s.workers (.environment (.tick elapsed)) =
      some workers) : Inv pipeline { s with workers := workers } := by
  obtain ⟨ls, shared, henvironment, rfl⟩ := Interleaving.step_environment hstep
  cases henvironment
  refine ⟨hs.webhooks, hs.queue, ?_, ⟨hs.world.outbox, hs.world.followUps⟩, hs.drainers,
    hs.schedulers, hs.applied⟩
  intro l hl
  rw [List.append_nil] at hl
  exact hs.handlers l hl

/-! ### Drainers -/

/-- A call for a reply in a drainer's hands carries the reply's job. -/
theorem carries_of_applied {row : OutboxRow} {payload : JobPayload}
    (hreply : ReplyTo pipeline.filters payload row) {adapter : ProviderAdapter}
    {exchange : Exchange} {call : ProviderCall}
    (hadapter : pipeline.drainer.adapterOf row = some adapter)
    (hcall : call ∈ (OutboxDrainer.execution adapter exchange row).applied) :
    pipeline.Carries payload (row.key, call) := by
  have hchatwoot := adapterOf_chatwoot pipeline.wired hreply.provider
  rw [drainer, hchatwoot, Option.some.injEq] at hadapter
  subst hadapter
  obtain ⟨hbound, hreplied⟩ := applied_of_reply hreply rfl hcall
  exact ⟨hreply.tenant, hbound, hreplied⟩

/-- A reply is no appointment, so the hook never runs. -/
theorem reminded_of_inv (hs : Inv pipeline s) (i : Nat) (a : OutboxDrainer.DrainStep)
    (reminder : Reminder) : pipeline.reminded s i a reminder = s.world.followUps := by
  unfold reminded
  split
  next row rest hi =>
    obtain ⟨payload, -, hreply⟩ :=
      hs.drainers (.executed row rest) (List.mem_of_getElem? hi) row List.mem_cons_self
    rw [hreply.capability, if_neg (by decide)]
  next => rfl

theorem inv_drain (hs : Inv pipeline s) {i : Nat} {a : OutboxDrainer.DrainStep}
    {c : OutboxDrainer.DrainConfig}
    (hstep : pipeline.drainer.drainers.machine.step s.drains (.party i a) = some c) :
    Inv pipeline (s.drained s.world.followUps c) := by
  obtain ⟨l, l', shared, hi, hact, rfl⟩ := Interleaving.step_party hstep
  have heffect := OutboxDrainer.act_effect hact
  have hl := hs.drainers l (List.mem_of_getElem? hi)
  refine ⟨hs.webhooks, hs.queue, hs.handlers, ⟨?_, hs.world.followUps⟩, ?_, hs.schedulers, ?_⟩
  · exact heffect.traced hs.world.outbox
  · intro l₁ hl₁ r hr
    rcases List.mem_or_eq_of_mem_set hl₁ with hold | rfl
    · exact hs.drainers l₁ hold r hr
    · rcases heffect.rows r hr with hold | hfetched
      · exact hl r hold
      · exact hs.world.outbox r hfetched
  · intro entry hentry
    rcases heffect.applied entry hentry with hold | ⟨row, hrow, adapter, exchange, hadapter, hkey,
      hcall⟩
    · exact hs.applied entry hold
    · obtain ⟨payload, hknown, hreply⟩ := hl row hrow
      have hcarries := carries_of_applied hreply hadapter hcall
      rw [← hkey] at hcarries
      exact ⟨payload, hknown, hcarries⟩

/-! ### The run -/

theorem inv_startDrainer (hs : Inv pipeline s) {c : OutboxDrainer.DrainConfig}
    (hstep : pipeline.drainer.drainers.machine.step s.drains (.environment .start) = some c) :
    Inv pipeline (s.drained s.world.followUps c) := by
  cases hstep
  refine ⟨hs.webhooks, hs.queue, hs.handlers, hs.world, ?_, hs.schedulers, hs.applied⟩
  intro l hl r hr
  rcases List.mem_append.1 hl with hold | hnew
  · exact hs.drainers l hold r hr
  · rw [List.mem_singleton.1 hnew] at hr
    cases hr

theorem inv_promote (hs : Inv pipeline s) {i : Nat} {a : FollowUpScheduler.PromotionStep}
    {c : FollowUpScheduler.PromotionConfig}
    (hstep : pipeline.scheduler.schedulers.machine.step s.promotions (.party i a) = some c) :
    Inv pipeline (s.promoted c) := by
  obtain ⟨l, l', shared, hi, hact, rfl⟩ := Interleaving.step_party hstep
  obtain ⟨hitems, hqueue, houtbox⟩ := FollowUpScheduler.idle_of_act hact hs.world.followUps
    (hs.schedulers l (List.mem_of_getElem? hi))
  refine ⟨hs.webhooks, hs.queue, hs.handlers, ⟨?_, hqueue⟩, hs.drainers, ?_, hs.applied⟩
  · intro r hr
    have hold : r ∈ shared.outbox.rows := hr
    rw [houtbox] at hold
    exact hs.world.outbox r hold
  · intro l₁ hl₁
    rcases List.mem_or_eq_of_mem_set hl₁ with hold | rfl
    · exact hs.schedulers l₁ hold
    · exact hitems

theorem inv_startScheduler (hs : Inv pipeline s) {c : FollowUpScheduler.PromotionConfig}
    (hstep : pipeline.scheduler.schedulers.machine.step s.promotions (.environment .start) =
      some c) : Inv pipeline (s.promoted c) := by
  cases hstep
  refine ⟨hs.webhooks, hs.queue, hs.handlers, hs.world, hs.drainers, ?_, hs.applied⟩
  intro l hl
  rcases List.mem_append.1 hl with hold | hnew
  · exact hs.schedulers l hold
  · rw [List.mem_singleton.1 hnew]
    rfl

theorem inv_step (hlower : pipeline.filters.text.LowersWords) (hs : Inv pipeline s) (move : Move)
    (hstep : pipeline.machine.step s move = some t) : Inv pipeline t := by
  cases move with
  | webhook a =>
      obtain ⟨webhooks, hwebhooks, rfl⟩ := step_webhook hstep
      exact inv_webhook hs hwebhooks
  | deliver position =>
      change pipeline.onWorkers s (.environment (.deliver position)) = some t at hstep
      obtain ⟨workers, hworkers, rfl⟩ := onWorkers_eq_some hstep
      exact inv_deliver hs hworkers
  | worker i a =>
      change pipeline.onWorkers s (.party i a) = some t at hstep
      obtain ⟨workers, hworkers, rfl⟩ := onWorkers_eq_some hstep
      exact inv_worker hlower hs hworkers
  | drain i a reminder =>
      change pipeline.onDrainers s (.party i a) (pipeline.reminded s i a reminder) = some t at hstep
      obtain ⟨c, hc, rfl⟩ := onDrainers_eq_some hstep
      rw [reminded_of_inv hs]
      exact inv_drain hs hc
  | promote i a =>
      change pipeline.onSchedulers s (.party i a) = some t at hstep
      obtain ⟨c, hc, rfl⟩ := onSchedulers_eq_some hstep
      exact inv_promote hs hc
  | startDrainer =>
      change pipeline.onDrainers s (.environment .start) s.world.followUps = some t at hstep
      obtain ⟨c, hc, rfl⟩ := onDrainers_eq_some hstep
      exact inv_startDrainer hs hc
  | startScheduler =>
      change pipeline.onSchedulers s (.environment .start) = some t at hstep
      obtain ⟨c, hc, rfl⟩ := onSchedulers_eq_some hstep
      exact inv_startScheduler hs hc
  | tick elapsed =>
      change pipeline.onWorkers s (.environment (.tick elapsed)) = some t at hstep
      obtain ⟨workers, hworkers, rfl⟩ := onWorkers_eq_some hstep
      exact inv_tick hs hworkers

theorem inv_initially (pipeline : Pipeline) (checkpoints : String → GraphState)
    (leases : LeaseTable) : Inv pipeline (initially checkpoints leases) where
  webhooks := ⟨[], rfl⟩
  queue := by
    intro m hm
    cases hm
  handlers := by
    intro h hh
    cases hh
  world := by
    refine ⟨?_, rfl⟩
    intro r hr
    cases hr
  drainers := by
    intro l hl
    cases hl
  schedulers := by
    intro l hl
    cases hl
  applied := by
    intro entry hentry
    cases hentry

/-- The call is the reply to the message of the delivery. -/
structure Answers (pipeline : Pipeline) (d : Api.Delivery)
    (entry : (Uuid × String) × ProviderCall) : Prop where
  published : d.phase = .published
  checked : pipeline.router.checkEvent d.request = none
  tenant : entry.1.1 = d.request.tenant.tenantId
  bound : formatUuid d.request.tenant.tenantId = pipeline.tenantId
  call : ∃ content, Guarded pipeline.filters content ∧
    entry.2 = replyCall pipeline.workerSettings.chatwootAccountId
      d.request.event.conversationId content

/-- In every interleaving of the processes, whatever fails and whatever the
threads have seen, what the provider carries out are guarded replies to messages
that passed the rules of the endpoint, of the tenant that the registry is bound
to. -/
theorem applied_calls_answer (hlower : pipeline.filters.text.LowersWords)
    {checkpoints : String → GraphState} {leases : LeaseTable} {moves : List Move}
    (hrun : pipeline.machine.run (initially checkpoints leases) moves = some s) :
    ∀ entry ∈ s.applied, ∃ d ∈ s.webhooks.parties, pipeline.Answers d entry := by
  have hinv := pipeline.machine.invariant_of_step (I := Inv pipeline)
    (fun s move t hs hstep => inv_step hlower hs move hstep)
    (inv_initially pipeline checkpoints leases) hrun
  intro entry hentry
  obtain ⟨payload, ⟨job, hjob, rfl⟩, hcarries⟩ := hinv.applied entry hentry
  obtain ⟨actions, hwebhooks⟩ := hinv.webhooks
  obtain ⟨d, hd, hphase, rfl⟩ := Api.WebhookRouter.published_of_job rfl hwebhooks job hjob
  have htenant : entry.1.1 = d.request.tenant.tenantId := by
    have hparse := hcarries.tenant
    change parseUuid (formatUuid d.request.tenant.tenantId) = _ at hparse
    rw [parseUuid_formatUuid] at hparse
    exact (Option.some.inj hparse).symm
  have hbound := hcarries.bound
  rw [htenant] at hbound
  exact ⟨d, hd, hphase, Api.WebhookRouter.checkEvent_of_published hwebhooks d hd hphase, htenant,
    hbound, hcarries.call⟩

section Example

open Api.WebhookRouter

/-- A deployment whose registry is bound to the first tenant. -/
def echoPipeline : Pipeline where
  router := plainRouter
  cluster := { Cluster.plainCluster with worker.deps := Api.echoDeps }
  settings := Api.echoSettings
  built := Api.deps_echoSettings
  workerSettings := plainSettings
  tenantId := formatUuid 1
  accountIdRef := ""
  adapters :=
    [("chatwoot", (chatwootAdapter plainSettings (formatUuid 1) "").executeCommand),
      ("google_calendar", unavailable), ("clinicorp", unavailable)]
  wired := rfl
  hook :=
    { time := { fromIsoFormat := fun _ => none, isoFormat := fun _ => "" }
      sha256 := id
      str := fun _ => "" }
  scheduler := { digestUuid := id }

/-- One handler, from its message to the acknowledgement. -/
def handleSteps : List HandlerStep :=
  [.start, .select, .upsert .commits, .invoke true] ++ List.replicate 7 (.superstep true) ++
    [.release .commits, .settle]

def drainSteps : List OutboxDrainer.DrainStep :=
  [.fetch, .execute healthyPoll.exchange, .markSent .commits]

/-- A greeting on its way to the provider. -/
def greetingMoves : List Move :=
  [.webhook (.environment (.deliver greetingMessage))] ++ (acceptSteps 0).map .webhook ++
    [.deliver 0] ++ handleSteps.map (.worker 0) ++ [.startDrainer] ++ drainSteps.map (.drain 0 · {})

def greeted : Option State :=
  echoPipeline.machine.run (initially (fun _ => {}) .empty) greetingMoves

/-- The greeting is answered once, in the account of the settings. -/
theorem applied_calls_answer_greeting :
    ∃ s, greeted = some s ∧ s.applied.map Prod.snd = [replyCall "1" "7" "Oi"] ∧
      ∀ entry ∈ s.applied, ∃ d ∈ s.webhooks.parties, echoPipeline.Answers d entry := by
  have hcalls : (greeted.map fun s => s.applied.map Prod.snd) = some [replyCall "1" "7" "Oi"] := by
    decide +kernel
  obtain ⟨s, hrun, hcalls⟩ := Option.map_eq_some_iff.1 hcalls
  exact ⟨s, hrun, hcalls, applied_calls_answer asciiText_lowersWords hrun⟩

end Example

end Pipeline

end Iara.Workers
