import Iara.Graph.Frame
import Iara.Provider.ChatwootAdapter
import Iara.Workers.FollowUpScheduler

/-!
# From the producer of a message to the provider

Three producers put messages into the outbox, and one decoder reads the text
from `content` and the conversation from `conversation_id`.  A reply carries
both.  A follow-up carries a hash of its text only, and a comment what the model
put into the arguments of the tool call.
-/

namespace Iara.Proofs

open Iara.Lib Iara.Persistence Iara.Provider Iara.Tools Iara.Graph Iara.Workers

/-- One production: the reply of the dispatch node; a follow-up call, and the
promotion of what it put into the queue; or a comment call that goes to the
outbox. -/
inductive Production where
  | reply (uuids : UuidSupply) (service : OutboxService) (state : GraphState) (world : World)
  | followUp (executor : ToolExecutor) (draw : Nat) (request : ToolInvocationRequest)
      (queue : FollowUpQueue) (scheduler : FollowUpScheduler) (now newCount : Nat)
  | comment (executor : ToolExecutor) (draw now : Nat) (request : ToolInvocationRequest)
      (hname : request.toolName = "kanban_comment") (policy : PolicyCheckResult) (outbox : Outbox)

namespace Production

/-- The rows that the production adds to the outbox. -/
def rows : Production → List OutboxRow
  | .reply uuids service state world =>
      (commandDispatchNode uuids (some service) state world).2.outbox.rows.drop
        world.outbox.rows.length
  | .followUp executor draw request queue scheduler now newCount =>
      ((executor.executeFollowUp draw request queue).2.rows.drop queue.rows.length).map fun item =>
        OutboxRepository.row now (scheduler.providerCommand item newCount)
  | .comment executor draw now request _ policy outbox =>
      (executor.executeWithOutbox draw now request policy outbox).2.rows.drop outbox.rows.length

/-- The text of the message. -/
def text : Production → String
  | .reply _ _ state _ => state.response.getD ""
  | .followUp _ _ request _ _ _ _ => ToolExecutor.argumentString request.arguments "message"
  | .comment _ _ _ request _ _ _ => ToolExecutor.argumentString request.arguments "comment"

/-- The conversation of the request. -/
def conversation : Production → String
  | .reply _ _ state _ => state.conversationId.getD ""
  | .followUp _ _ request _ _ _ _ => request.conversationId
  | .comment _ _ _ request _ _ _ => request.conversationId

/-- A reply; or a comment whose call repeats the text under `content` and names
the conversation. -/
def Encodes : Production → Prop
  | .reply .. => True
  | .followUp .. => False
  | .comment _ _ _ request _ _ _ =>
      request.arguments.lookup "content" =
          some (.str (ToolExecutor.argumentString request.arguments "comment")) ∧
        ChatwootMcpAdapter.get request.arguments "conversation_id" (.str "") =
          .str request.conversationId

end Production

/-- The arguments that the adapter makes of a row. -/
def argumentsOf (adapter : ChatwootMcpAdapter) (r : OutboxRow) : Option Parameters :=
  (adapter.registry.resolveCapability adapter.text r.capabilityName "").resolvedToolName.map
    fun toolName => ChatwootMcpAdapter.buildMcpArguments r.capabilityName toolName r.parametersJson

/-- The arguments hold the text as their content, and the conversation. -/
def Carries (adapter : ChatwootMcpAdapter) (r : OutboxRow) (text conversation : String) : Prop :=
  ∃ arguments, argumentsOf adapter r = some arguments ∧
    arguments.lookup "content" = some (.str text) ∧
    arguments.lookup "conversation_id" = some (.str conversation)

/-- The decoder of the message tool, as what it reads from the parameters. -/
theorem carries_iff {adapter : ChatwootMcpAdapter} {r : OutboxRow}
    (hresolved : (adapter.registry.resolveCapability adapter.text r.capabilityName
      "").resolvedToolName = some messageSendTool) (text conversation : String) :
    Carries adapter r text conversation ↔
      ChatwootMcpAdapter.get r.parametersJson "content" (.str "") = .str text ∧
        ChatwootMcpAdapter.get r.parametersJson "conversation_id" (.str "") =
          .str conversation := by
  obtain ⟨hconversation, hcontent⟩ := ChatwootMcpAdapter.buildMcpArguments_message
    r.capabilityName r.parametersJson
  unfold Carries argumentsOf
  rw [hresolved, Option.map_some]
  constructor
  · rintro ⟨arguments, harguments, htext, hconv⟩
    cases harguments
    rw [hcontent, Option.some.injEq] at htext
    rw [hconversation, Option.some.injEq] at hconv
    exact ⟨htext, hconv⟩
  · rintro ⟨htext, hconv⟩
    refine ⟨_, rfl, ?_, ?_⟩
    · rw [hcontent, htext]
    · rw [hconversation, hconv]

/-! ## The three encoders -/

section Encoders

variable {r : OutboxRow}

/-- A reply's row holds the text and the conversation. -/
theorem parameters_of_reply {uuids : UuidSupply} {service : OutboxService} {state : GraphState}
    {world : World} (hr : r ∈ (Production.reply uuids service state world).rows) :
    r.parametersJson =
      replyParameters (state.conversationId.getD "") (state.response.getD "") := by
  simp only [Production.rows] at hr
  rcases commandDispatchNode_rows uuids service state world with hsame | ⟨row, hrow, hrows⟩
  · rw [hsame, List.drop_length] at hr
    cases hr
  · rw [hrows, List.drop_left, List.mem_singleton] at hr
    rw [hr]
    exact hrow.2.2

/-- A follow-up's row has no content. -/
theorem content_of_followUp {executor : ToolExecutor} {draw : Nat}
    {request : ToolInvocationRequest} {queue : FollowUpQueue} {scheduler : FollowUpScheduler}
    {now newCount : Nat}
    (hr : r ∈ (Production.followUp executor draw request queue scheduler now newCount).rows) :
    ChatwootMcpAdapter.get r.parametersJson "content" (.str "") = .str "" := by
  obtain ⟨item, -, rfl⟩ := List.mem_map.1 hr
  rfl

/-- A comment's row holds the arguments of the call. -/
theorem parameters_of_comment {executor : ToolExecutor} {draw now : Nat}
    {request : ToolInvocationRequest} {hname : request.toolName = "kanban_comment"}
    {policy : PolicyCheckResult} {outbox : Outbox}
    (hr : r ∈ (Production.comment executor draw now request hname policy outbox).rows) :
    r.parametersJson = request.arguments := by
  simp only [Production.rows, ToolExecutor.executeWithOutbox] at hr
  cases hservice : executor.outboxService with
  | none =>
      rw [hservice, List.drop_length] at hr
      cases hr
  | some service =>
      rw [hservice] at hr
      have houtbox := service.enqueueCommand_outbox draw now (executor.uuids.gen draw)
        request.toolName request.arguments executor.tenantId (some request.correlationId)
        request.idempotencyKey outbox
      simp only [OutboxService.enqueueToolCommand] at hr
      rcases houtbox with hsame | ⟨row, -, -, hparams, -, hrows⟩
      · rw [hsame, List.drop_length] at hr
        cases hr
      · rw [hrows, List.drop_left, List.mem_singleton] at hr
        rw [hr]
        exact hparams

end Encoders

/-- A non-empty message whose row goes to the message tool reaches the provider
with its text and its conversation if and only if its producer encodes them. -/
theorem carries_iff_encodes (adapter : ChatwootMcpAdapter) (p : Production) (r : OutboxRow)
    (htext : p.text ≠ "") (hr : r ∈ p.rows)
    (hresolved : (adapter.registry.resolveCapability adapter.text r.capabilityName
      "").resolvedToolName = some messageSendTool) :
    Carries adapter r p.text p.conversation ↔ p.Encodes := by
  rw [carries_iff hresolved]
  cases p with
  | reply uuids service state world =>
      rw [parameters_of_reply hr]
      exact iff_of_true ⟨rfl, rfl⟩ trivial
  | followUp executor draw request queue scheduler now newCount =>
      rw [content_of_followUp hr]
      apply iff_of_false
      · rintro ⟨hcontent, -⟩
        exact htext (Json.str.inj hcontent).symm
      · exact id
  | comment executor draw now request hname policy outbox =>
      rw [parameters_of_comment hr]
      have hcontent : ChatwootMcpAdapter.get request.arguments "content" (.str "") =
          .str (ToolExecutor.argumentString request.arguments "comment") ↔
            request.arguments.lookup "content" =
              some (.str (ToolExecutor.argumentString request.arguments "comment")) := by
        have hne : ToolExecutor.argumentString request.arguments "comment" ≠ "" := htext
        unfold ChatwootMcpAdapter.get
        cases hlookup : request.arguments.lookup "content" with
        | none => simp [hne.symm]
        | some value => simp
      exact and_congr_left' hcontent

section Example

def plainAdapter : ChatwootMcpAdapter where
  text := plainText
  registry := { tenantId := formatUuid 1, accountIdRef := "" }
  accountId := "1"
  maxRetries := 3

def committing : OutboxService where
  session := fun _ => .commits

def answered : GraphState where
  runId := some "run"
  tenantId := some (formatUuid 1)
  conversationId := some "7"
  correlationId := some "correlation"
  agentResponse := some (some "hello")

def answer : Production := .reply .unary committing answered {}

def firstRow (p : Production) : OutboxRow :=
  p.rows.headD
    { tenantId := 0
      commandId := ""
      idempotencyKey := ""
      correlationId := ""
      provider := ""
      capabilityName := ""
      parametersJson := []
      riskClass := .lowWrite
      scheduledAt := 0 }

theorem answer_carries_iff : Carries plainAdapter (firstRow answer) "hello" "7" ↔ True :=
  carries_iff_encodes plainAdapter answer (firstRow answer) (by decide) (by decide +kernel)
    (by decide +kernel)

def outboxExecutor : ToolExecutor where
  text := plainText
  uuids := .unary
  tenantId := formatUuid 1
  outboxService := some committing
  followUpRepo := none
  handleRead := fun _ _ _ => .ok []
  buildFollowupSchedulePayload := fun _ _ _ _ _ _ => .error "ValueError"

/-- The call of the tool as its schema has it. -/
def commentRequest : ToolInvocationRequest where
  invocationId := "invocation"
  toolName := "kanban_comment"
  arguments := [("comment", .str "call back on Monday")]
  tenantId := 1
  conversationId := "7"
  correlationId := "correlation"
  idempotencyKey := "run:call"
  callId := "call"

def note : Production :=
  .comment outboxExecutor 0 0 commentRequest rfl
    { approved := true, mode := .writeConfirmed, reason := "" } .empty

/-- The row of a comment resolves to the message tool, and sends no text. -/
theorem note_does_not_carry :
    firstRow note ∈ note.rows ∧ note.text ≠ "" ∧
      (plainAdapter.registry.resolveCapability plainText (firstRow note).capabilityName
        "").resolvedToolName = some messageSendTool ∧
      ¬ Carries plainAdapter (firstRow note) note.text note.conversation := by
  have hresolved : (plainAdapter.registry.resolveCapability plainText
      (firstRow note).capabilityName "").resolvedToolName = some messageSendTool := by
    decide +kernel
  refine ⟨by decide +kernel, by decide +kernel, hresolved, ?_⟩
  rw [carries_iff hresolved]
  decide +kernel

end Example

end Iara.Proofs
