import Iara.Graph.Builder

/-!
# What a node can do

`NodeUpdate` lists the updates a node can return and `NodeEffect` what it can do
to the world.  Nothing about a run unfolds a node again.
-/

namespace Iara.Graph

open Iara.Lib Iara.Persistence Iara.Tools

-- Comparing two calls must not evaluate them down to the UUID parser.
attribute [local irreducible] OutboxService.enqueueCommand AgentToolMcpGateway.invoke

variable {deps : Deps} {n : Node} {s u : GraphState} {w w' : World}

/-! ## The update -/

inductive NodeUpdate (s : GraphState) : Node → GraphState → Prop
  | eligibility (status admin) : NodeUpdate s .eligibility
      { eligibilityStatus := some status
        isAdminCommand := some admin
        stepCount := some (s.steps + 1) }
  | commandAssistant (text) : NodeUpdate s .commandAssistant
      { agentResponse := some (some text)
        responseSent := some true
        stepCount := some (s.steps + 1) }
  | mediaSkipped : NodeUpdate s .mediaUnderstanding
      { mediaProcessed := some true
        stepCount := some (s.steps + 1) }
  | mediaProcessed (metadata) : NodeUpdate s .mediaUnderstanding
      { mediaProcessed := some true
        metadata := some metadata
        stepCount := some (s.steps + 1) }
  | contextBuilder (metadata) : NodeUpdate s .contextBuilder
      { contextBuilt := some true
        metadata := some metadata
        stepCount := some (s.steps + 1) }
  | agentText (text) : NodeUpdate s .agent
      { agentResponse := some (some text)
        toolCallsPending := some []
        stepCount := some (s.steps + 1) }
  | agentFailed (exception) : NodeUpdate s .agent
      { error := some ("Agent execution failed: " ++ exception)
        stepCount := some (s.steps + 1) }
  | agentAnswered (text pending appended) : NodeUpdate s .agent
      { agentResponse := some text
        toolCallsPending := some pending
        messages := some appended
        stepCount := some (s.steps + 1) }
  | toolsIdle : NodeUpdate s .toolExecutor
      { stepCount := some (s.steps + 1) }
  | toolsStubbed (results) : NodeUpdate s .toolExecutor
      { toolResults := some results
        toolCallsPending := some []
        stepCount := some (s.steps + 1) }
  | toolsExecuted (results messages) : NodeUpdate s .toolExecutor
      { toolResults := some results
        toolCallsPending := some []
        messages := some messages
        stepCount := some (s.steps + 1) }
  | guardrailsIdle : NodeUpdate s .guardrails
      { stepCount := some (s.steps + 1) }
  | guardrailsBlocked : NodeUpdate s .guardrails
      { agentResponse := some (some blockedResponse)
        stepCount := some (s.steps + 1) }
  | guardrailsHeld (reason history) : NodeUpdate s .guardrails
      { agentResponse := some (some hitlEscalationResponse)
        hitlRequested := some true
        hitlReason := some reason
        responseHistory := some history
        stepCount := some (s.steps + 1) }
  | guardrailsPassed (text history) : NodeUpdate s .guardrails
      { agentResponse := some (some text)
        responseHistory := some history
        stepCount := some (s.steps + 1) }
  | hitl : NodeUpdate s .hitl
      { hitlRequested := some true
        stepCount := some (s.steps + 1) }
  | dispatchIdle : NodeUpdate s .commandDispatch
      { stepCount := some (s.steps + 1) }
  | dispatchSent : NodeUpdate s .commandDispatch (dispatchSent s)
  | dispatchFailed (exception) : NodeUpdate s .commandDispatch (dispatchFailed s exception)
  | memoryWriter : NodeUpdate s .memoryWriter
      { stepCount := some (s.steps + 1) }

theorem agentNode_update (llm : Option Llm) : NodeUpdate s .agent (agentNode llm s w).1 := by
  unfold agentNode
  cases llm with
  | none => exact .agentText _
  | some llm =>
      simp only
      split
      · exact .agentText _
      · cases llm.ainvoke w.draws (s.metadataOrEmpty.lcToolDefinitions.getD []) (llmInput s) with
        | error exception => exact .agentFailed exception
        | ok response => exact .agentAnswered _ _ _

theorem toolExecutorNode_update (uuids : UuidSupply) (gateway : Option AgentToolMcpGateway) :
    NodeUpdate s .toolExecutor (toolExecutorNode uuids gateway s w).1 := by
  unfold toolExecutorNode
  simp only
  split
  · exact .toolsIdle
  · cases gateway with
    | none => exact .toolsStubbed _
    | some gateway => exact .toolsExecuted _ _

theorem guardrailsNode_update (filters : GuardrailFilters) :
    NodeUpdate s .guardrails (guardrailsNode filters s w).1 := by
  unfold guardrailsNode
  simp only
  split
  · exact .guardrailsIdle
  · split
    · exact .guardrailsBlocked
    · split
      · exact .guardrailsHeld _ _
      · split
        · exact .guardrailsHeld _ _
        · exact .guardrailsPassed _ _

theorem commandDispatchNode_update (uuids : UuidSupply) (service : Option OutboxService) :
    NodeUpdate s .commandDispatch (commandDispatchNode uuids service s w).1 := by
  unfold commandDispatchNode
  simp only
  split
  · exact .dispatchIdle
  · cases service with
    | none => exact .dispatchSent
    | some service =>
        simp only
        split
        · exact .dispatchSent
        · exact .dispatchFailed _

theorem memoryWriterNode_update (text : PyText) (store : Option PostgresMemoryStore)
    (llm : Option Llm) : NodeUpdate s .memoryWriter (memoryWriterNode text store llm s w).1 := by
  unfold memoryWriterNode
  simp only
  split
  · split
    · exact .memoryWriter
    · split <;> exact .memoryWriter
  · exact .memoryWriter

theorem mediaUnderstandingNode_update (subgraph : Option MediaUnderstandingSubgraph) :
    NodeUpdate s .mediaUnderstanding (mediaUnderstandingNode subgraph s w).1 := by
  unfold mediaUnderstandingNode
  cases subgraph with
  | none => exact .mediaSkipped
  | some subgraph =>
      simp only
      split
      · exact .mediaSkipped
      · exact .mediaProcessed _

theorem runNode_update (deps : Deps) (n : Node) (s : GraphState) (w : World) :
    NodeUpdate s n (runNode deps n s w).1 := by
  cases n with
  | eligibility => exact .eligibility _ _
  | commandAssistant => exact .commandAssistant _
  | mediaUnderstanding =>
      unfold runNode
      exact mediaUnderstandingNode_update _
  | contextBuilder => exact .contextBuilder _
  | agent =>
      unfold runNode
      exact agentNode_update _
  | toolExecutor =>
      unfold runNode
      exact toolExecutorNode_update _ _
  | guardrails =>
      unfold runNode
      exact guardrailsNode_update _
  | hitl =>
      unfold runNode hitlNode
      cases deps.sessionFactory <;> exact .hitl
  | commandDispatch =>
      unfold runNode
      exact commandDispatchNode_update _ _
  | memoryWriter =>
      unfold runNode
      exact memoryWriterNode_update _ _ _

namespace NodeUpdate

/-- No node writes the identifiers of the run. -/
theorem identifiers (h : NodeUpdate s n u) :
    u.runId = none ∧ u.tenantId = none ∧ u.conversationId = none ∧ u.correlationId = none := by
  cases h <;> exact ⟨rfl, rfl, rfl, rfl⟩

theorem stepCount (h : NodeUpdate s n u) : u.stepCount = some (s.steps + 1) := by
  cases h <;> rfl

/-- Only two nodes write `response_sent`, and they write `True`. -/
theorem responseSent (h : NodeUpdate s n u) :
    u.responseSent = none ∨
      u.responseSent = some true ∧ (n = .commandDispatch ∨ n = .commandAssistant) := by
  cases h with
  | commandAssistant text => exact Or.inr ⟨rfl, Or.inr rfl⟩
  | dispatchSent => exact Or.inr ⟨rfl, Or.inl rfl⟩
  | _ => exact Or.inl rfl

/-- Nodes that write `hitl_requested` write `True`. -/
theorem hitlRequested (h : NodeUpdate s n u) :
    u.hitlRequested = none ∨ u.hitlRequested = some true := by
  cases h with
  | guardrailsHeld reason history => exact Or.inr rfl
  | hitl => exact Or.inr rfl
  | _ => exact Or.inl rfl

/-- Only the nodes of the agent loop append to the history. -/
theorem messages (h : NodeUpdate s n u) (hagent : n ≠ .agent) (htools : n ≠ .toolExecutor) :
    u.messages = none := by
  cases h with
  | agentText text => exact absurd rfl hagent
  | agentFailed exception => exact absurd rfl hagent
  | agentAnswered text pending appended => exact absurd rfl hagent
  | toolsIdle => exact absurd rfl htools
  | toolsStubbed results => exact absurd rfl htools
  | toolsExecuted results messages => exact absurd rfl htools
  | _ => rfl

/-- Only two nodes write `error`, and what they write is not empty. -/
theorem error (h : NodeUpdate s n u) :
    u.error = none ∨
      PyStr.truthyOption u.error = true ∧ (n = .agent ∨ n = .commandDispatch) := by
  have hnonempty (lead exception : String) (hlead : lead ≠ "") :
      PyStr.truthyOption (some (lead ++ exception)) = true := by
    simp [PyStr.truthyOption, PyStr.truthy, hlead]
  cases h with
  | agentFailed exception => exact Or.inr ⟨hnonempty _ _ (by decide), Or.inl rfl⟩
  | dispatchFailed exception => exact Or.inr ⟨hnonempty _ _ (by decide), Or.inr rfl⟩
  | _ => exact Or.inl rfl

end NodeUpdate

/-! ## Noninterference

No node reads `error`; only the edges do.
-/

theorem toolRequest_setError (uuids : UuidSupply) (e : Option String) (tc : PendingToolCall)
    (draw : Nat) :
    toolRequest uuids { s with error := e } tc draw = toolRequest uuids s tc draw := by
  simp only [toolRequest]

theorem dispatchCommand_setError (e : Option String) (cmd : String) (args : List String) :
    dispatchCommand cmd args { s with error := e } = dispatchCommand cmd args s := by
  have hstatus : statusText { s with error := e } = statusText s := rfl
  have hconfig : configText { s with error := e } = configText s := rfl
  unfold dispatchCommand
  rw [hstatus, hconfig]

theorem enqueueReply_setError (uuids : UuidSupply) (service : OutboxService) (e : Option String)
    (content : String) :
    enqueueReply uuids service { s with error := e } content w =
      enqueueReply uuids service s content w := rfl

theorem executeToolCalls_setError (uuids : UuidSupply) (gateway : AgentToolMcpGateway)
    (e : Option String) (pending : List PendingToolCall) :
    executeToolCalls uuids gateway { s with error := e } pending w =
      executeToolCalls uuids gateway s pending w := by
  induction pending generalizing w with
  | nil => rfl
  | cons tc rest ih =>
      have hcall : executeToolCall uuids gateway { s with error := e } tc w =
          executeToolCall uuids gateway s tc w := by
        simp only [executeToolCall, toolRequest_setError]
      unfold executeToolCalls
      simp only [hcall, ih]

theorem runNode_setError (deps : Deps) (n : Node) (s : GraphState) (w : World)
    (e : Option String) : runNode deps n { s with error := e } w = runNode deps n s w := by
  cases n with
  | toolExecutor =>
      simp only [runNode, toolExecutorNode, executeToolCalls_setError, GraphState.steps]
  | commandAssistant =>
      simp only [runNode, commandAssistantNode, dispatchCommand_setError, GraphState.steps,
        GraphState.history]
  | commandDispatch =>
      simp only [runNode, commandDispatchNode, dispatchSent, dispatchFailed,
        enqueueReply_setError, GraphState.steps, GraphState.response, GraphState.sent]
      rfl
  | _ => rfl

/-! ## The world -/

/-- The key a tool call of a run enqueues under. -/
def IsToolRow (runId : Option String) (r : OutboxRow) : Prop :=
  ∃ callId, r.idempotencyKey = runId.getD "None" ++ ":" ++ callId

def IsReplyRow (s : GraphState) (r : OutboxRow) : Prop :=
  r.capabilityName = sendMessage ∧ r.idempotencyKey = responseKey s.runId ∧
    r.parametersJson =
      replyParameters (s.conversationId.getD "") (s.response.getD "")

/-- The rows a node may add to the outbox. -/
def RowOf (n : Node) (s : GraphState) (r : OutboxRow) : Prop :=
  match n with
  | .toolExecutor => IsToolRow s.runId r
  | .commandDispatch => IsReplyRow s r
  | _ => False

structure NodeEffect (n : Node) (s : GraphState) (w w' : World) : Prop where
  draws : w.draws ≤ w'.draws
  calls : ∃ more, w'.calls = w.calls ++ more ∧ (more ≠ [] → n = .agent ∨ n = .memoryWriter)
  outbox : ∃ rows, w'.outbox.rows = w.outbox.rows ++ rows ∧ ∀ r ∈ rows, RowOf n s r

namespace NodeEffect

/-- A step that leaves the outbox and the log of calls alone. -/
theorem of_eq (hdraws : w.draws ≤ w'.draws) (hcalls : w'.calls = w.calls)
    (houtbox : w'.outbox = w.outbox) : NodeEffect n s w w' where
  draws := hdraws
  calls := ⟨[], by rw [hcalls, List.append_nil], by simp⟩
  outbox := ⟨[], by rw [houtbox, List.append_nil], by simp⟩

theorem refl : NodeEffect n s w w := of_eq (Nat.le_refl _) rfl rfl

theorem trans {w₁ w₂ w₃ : World} (h₁ : NodeEffect n s w₁ w₂) (h₂ : NodeEffect n s w₂ w₃) :
    NodeEffect n s w₁ w₃ := by
  obtain ⟨more₁, hmore₁, hcaller₁⟩ := h₁.calls
  obtain ⟨more₂, hmore₂, hcaller₂⟩ := h₂.calls
  obtain ⟨rows₁, hrows₁, hof₁⟩ := h₁.outbox
  obtain ⟨rows₂, hrows₂, hof₂⟩ := h₂.outbox
  refine ⟨Nat.le_trans h₁.draws h₂.draws, ⟨more₁ ++ more₂, ?_, ?_⟩, ⟨rows₁ ++ rows₂, ?_, ?_⟩⟩
  · rw [hmore₂, hmore₁, List.append_assoc]
  · intro hne
    by_cases hmore : more₁ = []
    · exact hcaller₂ (by simpa [hmore] using hne)
    · exact hcaller₁ hmore
  · rw [hrows₂, hrows₁, List.append_assoc]
  · intro r hr
    rcases List.mem_append.1 hr with h | h
    · exact hof₁ r h
    · exact hof₂ r h

theorem of_draw : NodeEffect n s w w.draw := of_eq (Nat.le_succ _) rfl rfl

theorem of_holds (holds : HitlHolds) : NodeEffect n s w { w.draw with holds := holds } :=
  of_eq (Nat.le_succ _) rfl rfl

/-- A step that logs one call. -/
theorem of_log (c : Call) (hn : n = .agent ∨ n = .memoryWriter) :
    NodeEffect n s w (w.draw.log c) where
  draws := Nat.le_succ _
  calls := ⟨[c], rfl, fun _ => hn⟩
  outbox := ⟨[], by simp, by simp⟩

end NodeEffect

theorem executeToolCall_effect (uuids : UuidSupply) (gateway : AgentToolMcpGateway)
    (tc : PendingToolCall) :
    NodeEffect .toolExecutor s w (executeToolCall uuids gateway s tc w).2 := by
  unfold executeToolCall
  cases hrequest : toolRequest uuids s tc w.draws with
  | error exception => exact .of_draw
  | ok request =>
      have hkey : ∃ callId, request.idempotencyKey = s.runId.getD "None" ++ ":" ++ callId := by
        unfold toolRequest at hrequest
        split at hrequest
        · cases hrequest
        · split at hrequest
          · cases hrequest
          · split at hrequest
            · cases hrequest
            · split at hrequest
              · cases hrequest
                exact ⟨_, rfl⟩
              · cases hrequest
      have houtbox := gateway.invoke_outbox w.draw.draws w.now request
        { outbox := w.outbox, followUps := w.followUps }
      simp only
      generalize gateway.invoke w.draw.draws w.now request
        { outbox := w.outbox, followUps := w.followUps } = r at houtbox ⊢
      have heffect : NodeEffect .toolExecutor s w
          { w.draw.draw with outbox := r.2.outbox, followUps := r.2.followUps } := by
        refine ⟨by simp only [World.draw]; omega, ⟨[], by simp, by simp⟩, ?_⟩
        rcases houtbox with hsame | ⟨row, hrowKey, hrows⟩
        · exact ⟨[], by simp [hsame], by simp⟩
        · refine ⟨[row], hrows, ?_⟩
          intro r' hr'
          rw [List.mem_singleton.1 hr']
          obtain ⟨callId, hcall⟩ := hkey
          exact ⟨callId, hrowKey.trans hcall⟩
      cases r.1 <;> exact heffect

theorem executeToolCalls_effect (uuids : UuidSupply) (gateway : AgentToolMcpGateway)
    (pending : List PendingToolCall) :
    NodeEffect .toolExecutor s w (executeToolCalls uuids gateway s pending w).2 := by
  induction pending generalizing w with
  | nil => exact .refl
  | cons tc rest ih => exact (executeToolCall_effect uuids gateway tc).trans ih

/-- The body of the dispatch adds at most one row. -/
theorem enqueueReply_rows (uuids : UuidSupply) (service : OutboxService) :
    (enqueueReply uuids service s (s.response.getD "") w).2.outbox.rows = w.outbox.rows ∨
      ∃ r, IsReplyRow s r ∧
        (enqueueReply uuids service s (s.response.getD "") w).2.outbox.rows =
          w.outbox.rows ++ [r] := by
  unfold enqueueReply
  split
  next tenantId conversationId htenant hconversation =>
    have houtbox := service.enqueueCommand_outbox w.draws w.now (uuids.gen w.draws)
      sendMessage (replyParameters conversationId (s.response.getD "")) tenantId
      s.correlationId (responseKey s.runId) w.outbox
    simp only [OutboxService.enqueue]
    generalize service.enqueueCommand w.draws w.now (uuids.gen w.draws) sendMessage
      (replyParameters conversationId (s.response.getD "")) tenantId s.correlationId
      (responseKey s.runId) w.outbox = r at houtbox ⊢
    rcases houtbox with hsame | ⟨row, hkey, hname, hparams, -, hrows⟩
    · exact Or.inl (congrArg Table.rows hsame)
    · exact Or.inr ⟨row, ⟨hname, hkey, by rw [hparams, hconversation]; rfl⟩, hrows⟩
  next => exact Or.inl rfl

theorem enqueueReply_effect (uuids : UuidSupply) (service : OutboxService) :
    NodeEffect .commandDispatch s w
      (enqueueReply uuids service s (s.response.getD "") w).2 where
  draws := by
    unfold enqueueReply
    split <;> exact Nat.le_succ _
  calls := by
    refine ⟨[], ?_, by simp⟩
    unfold enqueueReply
    split <;> simp
  outbox := by
    rcases enqueueReply_rows (s := s) (w := w) uuids service with h | ⟨r, hr, h⟩
    · exact ⟨[], by rw [h, List.append_nil], by simp⟩
    · refine ⟨[r], h, ?_⟩
      intro r' hr'
      rw [List.mem_singleton.1 hr']
      exact hr

theorem commandDispatchNode_effect (uuids : UuidSupply) (service : Option OutboxService) :
    NodeEffect .commandDispatch s w (commandDispatchNode uuids service s w).2 := by
  unfold commandDispatchNode
  simp only
  split
  · exact .refl
  · cases service with
    | none => exact .refl
    | some service =>
        simp only
        split <;> exact enqueueReply_effect _ _

theorem storeFacts_effect (store : PostgresMemoryStore) (conversationId : String) (i : Nat)
    (facts : List String) :
    NodeEffect .memoryWriter s w (storeFacts store conversationId i facts w) := by
  induction facts generalizing i w with
  | nil => exact .refl
  | cons fact rest ih =>
      have hlog := NodeEffect.of_log (n := .memoryWriter) (s := s) (w := w)
        (.memoryStore (conversationId ++ ":fact_" ++ toString i) fact) (Or.inr rfl)
      unfold storeFacts
      simp only
      split
      · exact hlog.trans (ih _)
      · exact hlog

theorem runNode_effect (deps : Deps) (n : Node) (s : GraphState) (w : World) :
    NodeEffect n s w (runNode deps n s w).2 := by
  cases n with
  | eligibility => exact .refl
  | commandAssistant => exact .refl
  | mediaUnderstanding =>
      unfold runNode mediaUnderstandingNode
      cases deps.mediaSubgraph with
      | none => exact .refl
      | some subgraph =>
          simp only
          split
          · exact .refl
          · exact .of_draw
  | contextBuilder => exact .of_draw
  | agent =>
      unfold runNode agentNode
      cases deps.llm with
      | none => exact .refl
      | some llm =>
          simp only
          split
          · exact ⟨Nat.le_refl _, ⟨[.maxIterations], rfl, fun _ => Or.inl rfl⟩,
              ⟨[], by simp, by simp⟩⟩
          · split <;> exact .of_log _ (Or.inl rfl)
  | toolExecutor =>
      unfold runNode toolExecutorNode
      simp only
      split
      · exact .refl
      · cases deps.gateway with
        | none => exact .refl
        | some gateway => exact executeToolCalls_effect _ _ _
  | guardrails =>
      unfold runNode guardrailsNode
      simp only
      repeat' split
      all_goals exact .refl
  | hitl =>
      unfold runNode hitlNode
      cases deps.sessionFactory with
      | none => exact .of_draw
      | some session => exact .of_holds _
  | commandDispatch =>
      unfold runNode
      exact commandDispatchNode_effect _ _
  | memoryWriter =>
      unfold runNode memoryWriterNode
      simp only
      split
      · split
        · exact .refl
        · split
          · exact .of_log _ (Or.inr rfl)
          · exact (NodeEffect.of_log _ (Or.inr rfl)).trans (storeFacts_effect _ _ _ _)
      · exact .refl

/-- A node that calls no model logs nothing. -/
theorem runNode_calls (hagent : n ≠ .agent) (hwriter : n ≠ .memoryWriter) :
    (runNode deps n s w).2.calls = w.calls := by
  obtain ⟨more, hmore, hcaller⟩ := (runNode_effect deps n s w).calls
  by_cases hempty : more = []
  · rw [hmore, hempty, List.append_nil]
  · rcases hcaller hempty with h | h
    · exact absurd h hagent
    · exact absurd h hwriter

/-- The agent either trips its guard or calls the model. -/
theorem agentNode_calls (llm : Llm) :
    (agentNode (some llm) s w).2.calls =
      w.calls ++ [if maxToolIterations * 2 ≤ s.steps then .maxIterations else .agentLlm] := by
  unfold agentNode
  simp only
  split
  · rfl
  · split <;> rfl

/-! ## The reply -/

section Reply

variable {uuids : UuidSupply} {service : OutboxService}

theorem commandDispatchNode_of_sent (uuids : UuidSupply) (service : OutboxService) (w : World)
    (h : s.sent = true) :
    commandDispatchNode uuids (some service) s w = ({ stepCount := some (s.steps + 1) }, w) := by
  unfold commandDispatchNode
  simp [h]

theorem commandDispatchNode_of_empty (uuids : UuidSupply) (service : OutboxService) (w : World)
    (h : PyStr.truthy (s.response.getD "") = false) :
    commandDispatchNode uuids (some service) s w = ({ stepCount := some (s.steps + 1) }, w) := by
  unfold commandDispatchNode
  simp [h]

theorem enqueueReply_ok {content : String}
    (hok : (enqueueReply uuids service s content w).1 = .ok ())
    (hnew : ∀ tenant, w.outbox.hasKey (tenant, responseKey s.runId) = false) :
    ∃ r : OutboxRow, r.capabilityName = sendMessage ∧ r.idempotencyKey = responseKey s.runId ∧
      r.parametersJson = replyParameters (s.conversationId.getD "") content ∧
      (enqueueReply uuids service s content w).2.outbox.rows = w.outbox.rows ++ [r] := by
  unfold enqueueReply OutboxService.enqueue at hok ⊢
  split at hok
  next tenantId conversationId htenant hconversation =>
    obtain ⟨r, hkey, hname, hparams, hrows⟩ := OutboxService.enqueueCommand_ok hok hnew
    exact ⟨r, hname, hkey, by rw [hparams, hconversation]; rfl, hrows⟩
  next => cases hok

theorem enqueueReply_error {content exception : String}
    (herror : (enqueueReply uuids service s content w).1 = .error exception)
    (hsession : ∀ e, service.session w.draws ≠ .commitsThenFails e) :
    (enqueueReply uuids service s content w).2.outbox = w.outbox := by
  unfold enqueueReply OutboxService.enqueue at herror ⊢
  split at herror
  next => exact OutboxService.enqueueCommand_error herror hsession
  next => rfl

/-- A dispatch of a new reply that reports no error has inserted it and says so. -/
theorem commandDispatchNode_of_new (hcontent : PyStr.truthy (s.response.getD "") = true)
    (hsent : s.sent = false)
    (hnew : ∀ tenant, w.outbox.hasKey (tenant, responseKey s.runId) = false)
    (herror : (commandDispatchNode uuids (some service) s w).1.error = none) :
    (commandDispatchNode uuids (some service) s w).1.responseSent = some true ∧
      ∃ r, IsReplyRow s r ∧
        (commandDispatchNode uuids (some service) s w).2.outbox.rows = w.outbox.rows ++ [r] := by
  have hgo : (!PyStr.truthy (s.response.getD "") || s.sent) = false := by simp [hcontent, hsent]
  unfold commandDispatchNode at herror ⊢
  simp only [hgo, Bool.false_eq_true, if_false] at herror ⊢
  cases hok : (enqueueReply uuids service s (s.response.getD "") w).1 with
  | error exception => simp [hok, dispatchFailed] at herror
  | ok result =>
      obtain ⟨r, hname, hkey, hparams, hrows⟩ := enqueueReply_ok hok hnew
      exact ⟨rfl, r, ⟨hname, hkey, hparams⟩, hrows⟩

/-- A dispatch whose session does not raise after its commit and that does not
say the reply is sent has left the outbox alone. -/
theorem commandDispatchNode_of_unsent
    (hsession : ∀ e, service.session w.draws ≠ .commitsThenFails e)
    (hunsent : (commandDispatchNode uuids (some service) s w).1.responseSent = none) :
    (commandDispatchNode uuids (some service) s w).2.outbox = w.outbox := by
  by_cases hskip : (!PyStr.truthy (s.response.getD "") || s.sent) = true
  · unfold commandDispatchNode
    simp only [hskip, if_true]
  · unfold commandDispatchNode at hunsent ⊢
    simp only [hskip, Bool.false_eq_true, if_false] at hunsent ⊢
    cases hresult : (enqueueReply uuids service s (s.response.getD "") w).1 with
    | ok result => simp [hresult, dispatchSent] at hunsent
    | error exception => exact enqueueReply_error hresult hsession

/-- The dispatch node adds at most one row, and none where its session fails or
where it has nothing to send. -/
theorem commandDispatchNode_rows (uuids : UuidSupply) (service : OutboxService) (s : GraphState)
    (w : World) :
    (commandDispatchNode uuids (some service) s w).2.outbox.rows = w.outbox.rows ∨
      ∃ r, IsReplyRow s r ∧
        (commandDispatchNode uuids (some service) s w).2.outbox.rows = w.outbox.rows ++ [r] := by
  unfold commandDispatchNode
  simp only
  split
  · exact Or.inl rfl
  · split <;> exact enqueueReply_rows _ _

theorem commandDispatchNode_of_fails {exception : String}
    (hsession : service.session w.draws = .fails exception) :
    (commandDispatchNode uuids (some service) s w).2.outbox = w.outbox := by
  have hreply : (enqueueReply uuids service s (s.response.getD "") w).2.outbox = w.outbox := by
    unfold enqueueReply OutboxService.enqueue
    split
    · exact OutboxService.enqueueCommand_of_fails hsession
    · rfl
  unfold commandDispatchNode
  simp only
  split
  · rfl
  · split <;> exact hreply

/-- A dispatch that adds rows is neither idle nor one whose session failed. -/
theorem commandDispatchNode_of_changed
    (hchanged : (commandDispatchNode uuids (some service) s w).2.outbox.rows ≠ w.outbox.rows) :
    s.sent = false ∧ PyStr.truthy (s.response.getD "") = true ∧
      ∀ e, service.session w.draws ≠ .fails e := by
  refine ⟨?_, ?_, ?_⟩
  · by_contra hsome
    rw [commandDispatchNode_of_sent _ _ _ (by simpa using hsome)] at hchanged
    exact hchanged rfl
  · by_contra hnone
    rw [commandDispatchNode_of_empty _ _ _ (by simpa using hnone)] at hchanged
    exact hchanged rfl
  · intro e hsession
    rw [commandDispatchNode_of_fails hsession] at hchanged
    exact hchanged rfl

end Reply

end Iara.Graph
