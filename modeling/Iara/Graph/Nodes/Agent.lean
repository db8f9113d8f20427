import Iara.Graph.State

/-!
# The agent loop

`agent_node` and `tool_executor_node`.
-/

namespace Iara.Graph

open Iara.Lib Iara.Persistence Iara.Tools

def maxToolIterations : Nat := 5

/-- A content block of a response: a block of type `text`, a plain string, or a
block of another type, with what its `get("text", "")` returns. -/
inductive ContentBlock where
  | text (text : String)
  | plain (text : String)
  | other (text : String)
  deriving DecidableEq, Repr

inductive LlmContent where
  | text (content : String)
  | blocks (blocks : List ContentBlock)
  | other
  deriving DecidableEq, Repr

structure LlmResponse where
  content : LlmContent
  toolCalls : List LlmToolCall := []
  deriving DecidableEq, Repr

/-- The LLM client: its answer to a call is given by the number of the draw, the
bound tools and the messages; `error` holds the name of the exception. -/
structure Llm where
  ainvoke : Nat → List LcToolDefinition → List Message → Except String LlmResponse

def extractText (content : LlmContent) : Option String :=
  let orNone (s : String) : Option String := if PyStr.truthy s then some s else none
  match content with
  | .text s => orNone (PyStr.strip s)
  | .blocks bs =>
      let parts := bs.filterMap fun b =>
        match b with
        | .text t => some t
        | .plain t => some t
        | .other _ => none
      orNone (PyStr.strip (PyStr.join " " parts))
  | .other => none

def maxIterationsResponse : String :=
  "Desculpe, não consegui completar a operação. Por favor, tente novamente."

/-- The system prompt ahead of the history. -/
def llmInput (state : GraphState) : List Message :=
  match state.metadataOrEmpty.systemPrompt with
  | some prompt =>
      if PyStr.truthy prompt then .system prompt :: state.history else state.history
  | none => state.history

def agentNode (llm : Option Llm) (state : GraphState) (world : World) : GraphState × World :=
  match llm with
  | none =>
      ({ agentResponse := some (some "Olá! Como posso ajudar você hoje?")
         toolCallsPending := some []
         stepCount := some (state.steps + 1) }, world)
  | some llm =>
      if maxToolIterations * 2 ≤ state.steps then
        ({ agentResponse := some (some maxIterationsResponse)
           toolCallsPending := some []
           stepCount := some (state.steps + 1) }, world.log .maxIterations)
      else
        let tools := state.metadataOrEmpty.lcToolDefinitions.getD []
        let called := world.draw.log .agentLlm
        match llm.ainvoke world.draws tools (llmInput state) with
        | .error exception =>
            ({ error := some ("Agent execution failed: " ++ exception)
               stepCount := some (state.steps + 1) }, called)
        | .ok response =>
            let text := extractText response.content
            let pending := response.toolCalls.map fun tc =>
              { callId := tc.id, toolName := tc.name, arguments := tc.args : PendingToolCall }
            let appended : List Message :=
              if response.toolCalls ≠ [] then
                [.assistant (text.getD "") response.toolCalls]
              else
                match text with
                | some t => [.assistant t []]
                | none => []
            ({ agentResponse := some text
               toolCallsPending := some pending
               messages := some appended
               stepCount := some (state.steps + 1) }, called)

/-! ## Tool execution -/

/-- The request of one pending call, or the name of the exception its
construction raises. -/
def toolRequest (uuids : UuidSupply) (state : GraphState) (tc : PendingToolCall) (draw : Nat) :
    Except String ToolInvocationRequest :=
  match state.tenantId with
  | none => .error "KeyError"
  | some tenantId =>
      match parseUuid tenantId with
      | none => .error "ValueError"
      | some tenant =>
          match state.conversationId with
          | none => .error "KeyError"
          | some conversationId =>
              match state.correlationId, tc.callId with
              | some correlationId, some callId =>
                  .ok
                    { invocationId := uuids.gen draw
                      toolName := tc.toolName
                      arguments := tc.arguments
                      tenantId := tenant
                      conversationId := conversationId
                      correlationId := correlationId
                      idempotencyKey := state.runId.getD "None" ++ ":" ++ callId
                      callId := callId }
              | _, _ => .error "ValidationError"

def failedResult (tc : PendingToolCall) (exception : String) : ToolResult where
  callId := tc.callId
  toolName := tc.toolName
  status := .failed
  resultSummary := "Tool execution failed: " ++ exception

/-- One turn of the loop over the pending calls. -/
def executeToolCall (uuids : UuidSupply) (gateway : AgentToolMcpGateway) (state : GraphState)
    (tc : PendingToolCall) (world : World) : ToolResult × World :=
  match toolRequest uuids state tc world.draws with
  | .error exception => (failedResult tc exception, world.draw)
  | .ok request =>
      let r := gateway.invoke world.draw.draws world.now request
        { outbox := world.outbox, followUps := world.followUps }
      let written : World :=
        { world.draw.draw with outbox := r.2.outbox, followUps := r.2.followUps }
      match r.1 with
      | .error exception => (failedResult tc exception, written)
      | .ok result =>
          ({ callId := some result.callId
             toolName := result.toolName
             status := result.status
             resultSummary := result.resultSummary
             draftRef := result.draftRef }, written)

def executeToolCalls (uuids : UuidSupply) (gateway : AgentToolMcpGateway) (state : GraphState) :
    List PendingToolCall → World → List ToolResult × World
  | [], world => ([], world)
  | tc :: rest, world =>
      let r := executeToolCall uuids gateway state tc world
      let rs := executeToolCalls uuids gateway state rest r.2
      (r.1 :: rs.1, rs.2)

def toolMessages (results : List ToolResult) : List Message :=
  results.filterMap fun r =>
    match r.callId with
    | some id => if PyStr.truthy id then some (.tool id r.resultSummary) else none
    | none => none

def toolExecutorNode (uuids : UuidSupply) (gateway : Option AgentToolMcpGateway)
    (state : GraphState) (world : World) : GraphState × World :=
  let pending := state.toolCallsPending.getD []
  if pending.isEmpty then ({ stepCount := some (state.steps + 1) }, world)
  else
    match gateway with
    | none =>
        ({ toolResults := some <| pending.map fun tc =>
             { callId := tc.callId
               toolName := tc.toolName
               status := .success
               resultSummary := "Tool " ++ tc.toolName ++ " executed (stub)" }
           toolCallsPending := some []
           stepCount := some (state.steps + 1) }, world)
    | some gateway =>
        let r := executeToolCalls uuids gateway state pending world
        ({ toolResults := some r.1
           toolCallsPending := some []
           messages := some (toolMessages r.1)
           stepCount := some (state.steps + 1) }, r.2)

end Iara.Graph
