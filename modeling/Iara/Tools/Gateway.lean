import Iara.Lib.PyJson
import Iara.Persistence.FollowUp
import Iara.Tools.PolicyGuard

/-!
# The tool gateway and the tool executor

`AgentToolMcpGateway.invoke` and the four strategies of `ToolExecutor.execute`.
What a read handler answers and how a follow-up payload is computed depend on
other providers and on the clock, so both are fields of the executor.
-/

namespace Iara.Tools

open Iara.Lib Iara.Persistence

/-- The tools whose read handlers `_dispatch_read_tool` knows. -/
def readTools : List String :=
  ["availability", "kanban_analyze_conversation", "lead_search", "history_analyze_conversations",
    "campaign_status", "campaign_validate_audience", "kb_suggest"]

def followUpCapabilities : List String := ["followup_reengage_conversation"]

inductive FollowUpDecision where
  | skipped (payload : Parameters)
  | scheduled (payload : FollowUpPayload)

/-- The stores a tool call can write to. -/
structure ToolStores where
  outbox : Outbox
  followUps : FollowUpQueue

structure ToolExecutor where
  text : PyText
  uuids : UuidSupply
  tenantId : String
  outboxService : Option OutboxService
  followUpRepo : Option (Nat → Transaction)
  handleRead : Nat → String → Parameters → Except String Parameters
  buildFollowupSchedulePayload :
    Nat → Parameters → String → String → String → String → Except String FollowUpDecision

namespace ToolExecutor

def dispatchReadTool (executor : ToolExecutor) (draw : Nat) (toolName : String)
    (arguments : Parameters) : Except String Parameters :=
  if readTools.contains toolName then executor.handleRead draw toolName arguments
  else
    .ok [("status", .str "not_implemented"), ("tool_name", .str toolName),
      ("message", .str "This read capability has no registered handler.")]

def summarize (executor : ToolExecutor) (toolName : String) (resultData : Parameters) : String :=
  "Tool " ++ executor.text.repr toolName ++ " completed successfully with " ++
    toString resultData.length ++ " result fields."

def executeRead (executor : ToolExecutor) (draw : Nat) (request : ToolInvocationRequest) :
    Except String ToolInvocationResult := do
  let resultData ← executor.dispatchReadTool draw request.toolName request.arguments
  return {
    invocationId := request.invocationId
    toolName := request.toolName
    status := .success
    resultSummary := executor.summarize request.toolName resultData
    resultData := resultData
    callId := request.callId }

def executeDraft (executor : ToolExecutor) (draw : Nat) (request : ToolInvocationRequest)
    (policy : PolicyCheckResult) : ToolInvocationResult :=
  let draftRef := "draft:" ++ PyStr.slice (executor.uuids.gen draw) 8
  { invocationId := request.invocationId
    toolName := request.toolName
    status := .draftCreated
    resultSummary := "Draft created for " ++ executor.text.repr request.toolName ++ " (mode=" ++
      policy.mode.value ++ "). Human review required before execution."
    resultData :=
      [("draft_ref", .str draftRef), ("mode", .str policy.mode.value),
        ("tool_name", .str request.toolName),
        ("arguments_received", .arr (request.arguments.map fun e => .str e.1))]
    draftRef := some draftRef
    callId := request.callId }

def executeWithOutbox (executor : ToolExecutor) (draw now : Nat) (request : ToolInvocationRequest)
    (policy : PolicyCheckResult) (outbox : Outbox) :
    Except String ToolInvocationResult × Outbox :=
  let commandId := executor.uuids.gen draw
  let result (outboxRef : Option String) : ToolInvocationResult :=
    { invocationId := request.invocationId
      toolName := request.toolName
      status := .success
      resultSummary := "Tool " ++ executor.text.repr request.toolName ++ " queued for execution."
      resultData := [("command_id", .str commandId), ("mode", .str policy.mode.value)]
      outboxCommandId := outboxRef
      callId := request.callId }
  match executor.outboxService with
  | none => (.ok (result none), outbox)
  | some service =>
      let r := service.enqueueToolCommand draw now commandId request.toolName request.arguments
        executor.tenantId request.idempotencyKey (some request.correlationId) outbox
      (r.1.map fun _ => result (some commandId), r.2)

/-- The outbox after a tool call is the one before, or one row longer under the
request's own key. -/
theorem executeWithOutbox_outbox (executor : ToolExecutor) (draw now : Nat)
    (request : ToolInvocationRequest) (policy : PolicyCheckResult) (outbox : Outbox) :
    (executor.executeWithOutbox draw now request policy outbox).2 = outbox ∨
      ∃ r : OutboxRow, r.idempotencyKey = request.idempotencyKey ∧
        (executor.executeWithOutbox draw now request policy outbox).2.rows =
          outbox.rows ++ [r] := by
  unfold executeWithOutbox
  cases executor.outboxService with
  | none => exact Or.inl rfl
  | some service =>
      have houtbox := service.enqueueCommand_outbox draw now (executor.uuids.gen draw)
        request.toolName request.arguments executor.tenantId (some request.correlationId)
        request.idempotencyKey outbox
      simp only [OutboxService.enqueueToolCommand]
      generalize service.enqueueCommand draw now (executor.uuids.gen draw) request.toolName
        request.arguments executor.tenantId (some request.correlationId) request.idempotencyKey
        outbox = result at houtbox ⊢
      rcases houtbox with h | ⟨r, hkey, -, -, -, hrows⟩
      · exact Or.inl h
      · exact Or.inr ⟨r, hkey, hrows⟩

def argumentString (arguments : Parameters) (name : String) : String :=
  match arguments.lookup name with
  | some (.str s) => s
  | _ => ""

/-- `request.arguments.get("conversation_id", "")`, as the queue stores it. -/
def conversationArgument (executor : ToolExecutor) (arguments : Parameters) : String :=
  executor.text.str ((arguments.lookup "conversation_id").getD (.str ""))

def executeFollowUp (executor : ToolExecutor) (draw : Nat) (request : ToolInvocationRequest)
    (queue : FollowUpQueue) : Except String ToolInvocationResult × FollowUpQueue :=
  match executor.buildFollowupSchedulePayload draw request.arguments executor.tenantId
      (executor.conversationArgument request.arguments) request.idempotencyKey
      request.correlationId with
  | .error exception => (.error exception, queue)
  | .ok (.skipped payload) =>
      (.ok
        { invocationId := request.invocationId
          toolName := request.toolName
          status := .success
          resultSummary := "Follow-up skipped (opted-out or quiet hours)."
          resultData := payload
          callId := request.callId }, queue)
  | .ok (.scheduled payload) =>
      -- a failing enqueue is logged and the result below is returned all the same
      let queue' :=
        match executor.followUpRepo with
        | none => queue
        | some session =>
            (FollowUpRepository.enqueueRaw (session draw) (executor.uuids.gen draw) payload queue).2
      (.ok
        { invocationId := request.invocationId
          toolName := request.toolName
          status := .success
          resultSummary := "Follow-up scheduled for " ++ payload.triggerAtIso ++ "."
          resultData :=
            [("trigger_at", .str payload.triggerAtIso), ("message_ref", .str payload.messageRef),
              ("status", .str "scheduled")]
          callId := request.callId }, queue')

def execute (executor : ToolExecutor) (draw now : Nat) (request : ToolInvocationRequest)
    (tool : AgentToolDefinition) (policy : PolicyCheckResult) (stores : ToolStores) :
    Except String ToolInvocationResult × ToolStores :=
  if followUpCapabilities.contains request.toolName then
    let r := executor.executeFollowUp draw request stores.followUps
    (r.1, { stores with followUps := r.2 })
  else if !tool.isSideEffecting then (executor.executeRead draw request, stores)
  else if policy.producesDraft || policy.mode = .draftOnly || policy.mode = .suggestOnly ||
      policy.mode = .dryRun then
    (.ok (executor.executeDraft draw request policy), stores)
  else
    let r := executor.executeWithOutbox draw now request policy stores.outbox
    (r.1, { stores with outbox := r.2 })

theorem execute_outbox (executor : ToolExecutor) (draw now : Nat)
    (request : ToolInvocationRequest) (tool : AgentToolDefinition) (policy : PolicyCheckResult)
    (stores : ToolStores) :
    (executor.execute draw now request tool policy stores).2.outbox = stores.outbox ∨
      ∃ r : OutboxRow, r.idempotencyKey = request.idempotencyKey ∧
        (executor.execute draw now request tool policy stores).2.outbox.rows =
          stores.outbox.rows ++ [r] := by
  unfold execute
  split
  · exact Or.inl rfl
  · split
    · exact Or.inl rfl
    · split
      · exact Or.inl rfl
      · exact executor.executeWithOutbox_outbox draw now request policy stores.outbox

/-! ## The call id -/

theorem executeFollowUp_callId {executor : ToolExecutor} {draw : Nat}
    {request : ToolInvocationRequest} {queue : FollowUpQueue} {result : ToolInvocationResult}
    (h : (executor.executeFollowUp draw request queue).1 = .ok result) :
    result.callId = request.callId := by
  unfold executeFollowUp at h
  split at h <;> cases h <;> rfl

theorem executeRead_callId {executor : ToolExecutor} {draw : Nat}
    {request : ToolInvocationRequest} {result : ToolInvocationResult}
    (h : executor.executeRead draw request = .ok result) : result.callId = request.callId := by
  unfold executeRead at h
  cases hread : executor.dispatchReadTool draw request.toolName request.arguments with
  | error exception => simp [hread, bind, Except.bind] at h
  | ok resultData =>
      simp only [hread, bind, Except.bind, pure, Except.pure, Except.ok.injEq] at h
      rw [← h]

theorem executeWithOutbox_callId {executor : ToolExecutor} {draw now : Nat}
    {request : ToolInvocationRequest} {policy : PolicyCheckResult} {outbox : Outbox}
    {result : ToolInvocationResult}
    (h : (executor.executeWithOutbox draw now request policy outbox).1 = .ok result) :
    result.callId = request.callId := by
  unfold executeWithOutbox at h
  cases hservice : executor.outboxService with
  | none =>
      simp only [hservice, Except.ok.injEq] at h
      rw [← h]
  | some service =>
      simp only [hservice] at h
      generalize service.enqueueToolCommand draw now (executor.uuids.gen draw) request.toolName
        request.arguments executor.tenantId request.idempotencyKey (some request.correlationId)
        outbox = enqueued at h
      cases hresult : enqueued.1 with
      | error exception => simp [hresult, Except.map] at h
      | ok row =>
          simp only [hresult, Except.map, Except.ok.injEq] at h
          rw [← h]

theorem execute_callId {executor : ToolExecutor} {draw now : Nat}
    {request : ToolInvocationRequest} {tool : AgentToolDefinition} {policy : PolicyCheckResult}
    {stores : ToolStores} {result : ToolInvocationResult}
    (h : (executor.execute draw now request tool policy stores).1 = .ok result) :
    result.callId = request.callId := by
  unfold execute at h
  split at h
  · exact executeFollowUp_callId h
  · split at h
    · exact executeRead_callId h
    · split at h
      · cases h
        rfl
      · exact executeWithOutbox_callId h

end ToolExecutor

/-- The registry as its entries in registration order. -/
structure AgentToolRegistry where
  tools : List AgentToolDefinition

namespace AgentToolRegistry

/-- Assignment to the tool's entry: a known name keeps its place. -/
def register (registry : AgentToolRegistry) (tool : AgentToolDefinition) : AgentToolRegistry :=
  if registry.tools.any (fun t => t.toolName = tool.toolName) then
    ⟨registry.tools.map fun t => if t.toolName = tool.toolName then tool else t⟩
  else ⟨registry.tools ++ [tool]⟩

def getTool (registry : AgentToolRegistry) (toolName : String) : Option AgentToolDefinition :=
  registry.tools.find? fun t => t.toolName = toolName

def isActive (registry : AgentToolRegistry) (toolName : String) : Bool :=
  match registry.getTool toolName with
  | none => false
  | some tool => tool.status = .active

def getActiveTools (registry : AgentToolRegistry) : List AgentToolDefinition :=
  registry.tools.filter fun t => t.status = .active

end AgentToolRegistry

structure AgentToolMcpGateway where
  registry : AgentToolRegistry
  policyGuard : ToolPolicyGuard
  executor : ToolExecutor

namespace AgentToolMcpGateway

def blocked (request : ToolInvocationRequest) (status : ToolResultStatus)
    (resultSummary errorCode : String) (errorSummary : Option String) : ToolInvocationResult :=
  { invocationId := request.invocationId
    toolName := request.toolName
    status := status
    resultSummary := resultSummary
    errorCode := some errorCode
    errorSummary := errorSummary
    callId := request.callId }

def invoke (gateway : AgentToolMcpGateway) (draw now : Nat) (request : ToolInvocationRequest)
    (stores : ToolStores) : Except String ToolInvocationResult × ToolStores :=
  let name := gateway.executor.text.repr request.toolName
  match gateway.registry.getTool request.toolName with
  | none =>
      (.ok (blocked request .failed ("Tool " ++ name ++ " is not registered") "TOOL_NOT_FOUND"
        (some ("Tool " ++ name ++ " is not registered"))), stores)
  | some tool =>
      if !gateway.registry.isActive request.toolName then
        (.ok (blocked request .policyBlocked ("Tool " ++ name ++ " is not active") "TOOL_INACTIVE"
          none), stores)
      else
        match gateway.policyGuard.check tool with
        | .error e =>
            (.ok (blocked request .policyBlocked ("Tool blocked by policy: " ++ e.code) e.code
              (some e.message)), stores)
        | .ok policy =>
            if !policy.approved then
              (.ok (blocked request .policyBlocked ("Tool blocked by policy: " ++ policy.reason)
                "POLICY_BLOCKED" (some policy.reason)), stores)
            else gateway.executor.execute draw now request tool policy stores

/-- A tool call adds at most one row to the outbox, under the request's own key. -/
theorem invoke_outbox (gateway : AgentToolMcpGateway) (draw now : Nat)
    (request : ToolInvocationRequest) (stores : ToolStores) :
    (gateway.invoke draw now request stores).2.outbox = stores.outbox ∨
      ∃ r : OutboxRow, r.idempotencyKey = request.idempotencyKey ∧
        (gateway.invoke draw now request stores).2.outbox.rows = stores.outbox.rows ++ [r] := by
  unfold invoke
  cases gateway.registry.getTool request.toolName with
  | none => exact Or.inl rfl
  | some tool =>
      simp only
      split
      · exact Or.inl rfl
      · cases gateway.policyGuard.check tool with
        | error e => exact Or.inl rfl
        | ok policy =>
            simp only
            split
            · exact Or.inl rfl
            · exact gateway.executor.execute_outbox draw now request tool policy stores

/-- A result carries the id of the call it is for. -/
theorem invoke_callId {gateway : AgentToolMcpGateway} {draw now : Nat}
    {request : ToolInvocationRequest} {stores : ToolStores} {result : ToolInvocationResult}
    (h : (gateway.invoke draw now request stores).1 = .ok result) :
    result.callId = request.callId := by
  unfold invoke at h
  simp only at h
  split at h
  · cases h
    rfl
  · split at h
    · cases h
      rfl
    · split at h
      · cases h
        rfl
      · split at h
        · cases h
          rfl
        · exact ToolExecutor.execute_callId h

end AgentToolMcpGateway

end Iara.Tools
