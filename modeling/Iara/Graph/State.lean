import Iara.Persistence.HitlHolds
import Iara.Tools.Gateway

/-!
# The graph state and the world

`GraphState` is a `TypedDict` with `total=False`: a missing key is `none`.  The
same type serves for the checkpointed state, for a node's update and for the
input of a run, and `merge` is what LangGraph does with an update: its keys
overwrite, the other keys keep their value, and `messages` is concatenated.
-/

namespace Iara.Graph

open Iara.Lib Iara.Persistence Iara.Tools

inductive EligibilityStatus where
  | pending
  | accepted
  | rejectedUnauthorizedAdmin
  deriving DecidableEq, Repr

/-- A tool call as the LLM client reports it; its id may be `None`. -/
structure LlmToolCall where
  id : Option String
  name : String
  args : Parameters
  deriving DecidableEq, Repr

inductive Message where
  | system (content : String)
  | user (content : String)
  | assistant (content : String) (toolCalls : List LlmToolCall)
  | tool (toolCallId content : String)
  deriving DecidableEq, Repr

/-- An entry of `tool_calls_pending`. -/
structure PendingToolCall where
  callId : Option String
  toolName : String
  arguments : Parameters
  deriving DecidableEq, Repr

/-- An entry of `tool_results`. -/
structure ToolResult where
  callId : Option String
  toolName : String
  status : ToolResultStatus
  resultSummary : String
  draftRef : Option String := none
  deriving DecidableEq, Repr

structure Attachment where
  ref : String
  url : String
  contentType : String
  type : String
  deriving DecidableEq, Repr

inductive MediaStatus where
  | pending
  | processing
  | complete
  | partially
  | unsupported
  | failed
  deriving DecidableEq, Repr

structure MediaContext where
  mediaType : String
  status : MediaStatus
  extractedText : Option String
  description : Option String
  deriving DecidableEq, Repr

/-- A tool definition in the function-calling format of `bind_tools`. -/
structure LcToolDefinition where
  name : String
  description : String
  parameters : Parameters
  deriving DecidableEq, Repr

structure Metadata where
  idempotencyKey : String := ""
  eventRef : String := ""
  attachments : List Attachment := []
  senderType : Option String := some "contact"
  senderRef : Option String := some ""
  mediaContexts : Option (List MediaContext) := none
  activeTools : Option (List String) := none
  lcToolDefinitions : Option (List LcToolDefinition) := none
  systemPrompt : Option String := none
  kanbanMode : Option String := none
  campaignMode : Option String := none
  deriving DecidableEq, Repr

structure GraphState where
  runId : Option String := none
  tenantId : Option String := none
  conversationId : Option String := none
  correlationId : Option String := none
  eligibilityStatus : Option EligibilityStatus := none
  mediaProcessed : Option Bool := none
  contextBuilt : Option Bool := none
  agentResponse : Option (Option String) := none
  toolCallsPending : Option (List PendingToolCall) := none
  toolResults : Option (List ToolResult) := none
  responseSent : Option Bool := none
  error : Option String := none
  hitlRequested : Option Bool := none
  hitlApproved : Option Bool := none
  hitlReason : Option String := none
  stepCount : Option Nat := none
  responseHistory : Option (List String) := none
  messages : Option (List Message) := none
  isAdminCommand : Option Bool := none
  metadata : Option Metadata := none
  deriving DecidableEq, Repr

namespace GraphState

def merge (s u : GraphState) : GraphState where
  runId := u.runId.or s.runId
  tenantId := u.tenantId.or s.tenantId
  conversationId := u.conversationId.or s.conversationId
  correlationId := u.correlationId.or s.correlationId
  eligibilityStatus := u.eligibilityStatus.or s.eligibilityStatus
  mediaProcessed := u.mediaProcessed.or s.mediaProcessed
  contextBuilt := u.contextBuilt.or s.contextBuilt
  agentResponse := u.agentResponse.or s.agentResponse
  toolCallsPending := u.toolCallsPending.or s.toolCallsPending
  toolResults := u.toolResults.or s.toolResults
  responseSent := u.responseSent.or s.responseSent
  error := u.error.or s.error
  hitlRequested := u.hitlRequested.or s.hitlRequested
  hitlApproved := u.hitlApproved.or s.hitlApproved
  hitlReason := u.hitlReason.or s.hitlReason
  stepCount := u.stepCount.or s.stepCount
  responseHistory := u.responseHistory.or s.responseHistory
  messages := some (s.messages.getD [] ++ u.messages.getD [])
  isAdminCommand := u.isAdminCommand.or s.isAdminCommand
  metadata := u.metadata.or s.metadata

/-- `state.get("step_count", 0)`. -/
def steps (s : GraphState) : Nat := s.stepCount.getD 0

/-- `state.get("agent_response")`, where a missing key and `None` agree. -/
def response (s : GraphState) : Option String := s.agentResponse.join

/-- `state.get("response_sent", False)`. -/
def sent (s : GraphState) : Bool := s.responseSent.getD false

/-- The truth value of `state.get("error")`. -/
def failed (s : GraphState) : Bool := PyStr.truthyOption s.error

/-- The truth value of `state.get("hitl_requested")`. -/
def held (s : GraphState) : Bool := s.hitlRequested.getD false

def history (s : GraphState) : List Message := s.messages.getD []

/-- `state.get("metadata", {})`. -/
def metadataOrEmpty (s : GraphState) : Metadata := s.metadata.getD {}

end GraphState

/-- Calls that leave the graph, in the order they are made. -/
inductive Call where
  | agentLlm
  | maxIterations
  | memoryLlm (prompt : String)
  | memoryStore (key content : String)
  deriving DecidableEq, Repr

/-- What the nodes act on besides the state.  `draws` numbers the uses of
anything that the code does not decide (UUIDs, the LLM, sessions), so that every
use gets a number of its own. -/
structure World where
  now : Nat := 0
  draws : Nat := 0
  outbox : Outbox := .empty
  followUps : FollowUpQueue := .empty
  holds : HitlHolds := .empty
  calls : List Call := []

namespace World

def draw (w : World) : World := { w with draws := w.draws + 1 }

def log (w : World) (c : Call) : World := { w with calls := w.calls ++ [c] }

@[simp] theorem draw_outbox (w : World) : w.draw.outbox = w.outbox := rfl
@[simp] theorem draw_calls (w : World) : w.draw.calls = w.calls := rfl
@[simp] theorem draw_draws (w : World) : w.draw.draws = w.draws + 1 := rfl
@[simp] theorem log_outbox (w : World) (c : Call) : (w.log c).outbox = w.outbox := rfl
@[simp] theorem log_calls (w : World) (c : Call) : (w.log c).calls = w.calls ++ [c] := rfl
@[simp] theorem log_draws (w : World) (c : Call) : (w.log c).draws = w.draws := rfl

end World

end Iara.Graph
