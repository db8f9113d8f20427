import Iara.Provider.Registry

/-!
# The Chatwoot adapter

`ChatwootMcpAdapter.execute_command`: the cross-tenant check, the resolution of
the capability, the translation of the parameters and the tool call with its
retries.  What the MCP server does with each POST is given from outside.
-/

namespace Iara.Provider

open Iara.Lib Iara.Persistence

structure ProviderMutationResult where
  commandId : String
  idempotencyKey : String
  success : Bool
  readbackConfirmed : Bool := false
  resultRef : Option String := none
  deriving DecidableEq, Repr

/-- A tool call as the server of an account received it. -/
structure ProviderCall where
  accountId : String
  toolName : String
  arguments : Parameters
  deriving DecidableEq

/-- How a POST ends: with a result, with a status or a network error that is
retried, or with any other error. -/
inductive PostAnswer where
  | result (resultRef : String)
  | retryable
  | fails (message : String)
  deriving DecidableEq, Repr

/-- One POST: whether the server carried the call out, and how the POST ended. -/
structure Post where
  applied : Bool
  answer : PostAnswer
  deriving DecidableEq, Repr

/-- What the server does during one command: with the attempts of the tool call,
by their number, and with the readback. -/
structure Exchange where
  posts : Nat → Post
  readback : Bool := true

/-- The calls that the provider carried out, and what `execute_command` returns
or raises. -/
structure Execution where
  applied : List ProviderCall := []
  result : Except IaraError ProviderMutationResult

structure ChatwootMcpAdapter where
  text : PyText
  registry : ChatwootMcpRegistry
  accountId : String
  maxRetries : Nat

namespace ChatwootMcpAdapter

/-! ## Arguments -/

/-- `p.get(key, default)`. -/
def get (p : Parameters) (key : String) (default : Json) : Json := (p.lookup key).getD default

def orElse (first second : Json) : Json := if first.truthy then first else second

/-- The arguments of the tools that take an id, a query and a body. -/
def idArguments (id body : Json) : Parameters := [("id", id), ("query", .obj []), ("body", body)]

def buildMcpArguments (intent toolName : String) (p : Parameters) : Parameters :=
  let convId := get p "conversation_id" (.str "")
  if toolName = messageSendTool then
    let isPrivate := if intent = "kanban_comment" then .bool true else get p "private" (.bool false)
    [("conversation_id", convId), ("content", get p "content" (.str "")),
      ("message_type", get p "message_type" (.str "outgoing")), ("private", isPrivate),
      ("content_type", .str "text"), ("content_attributes", .obj []),
      ("media_urls", get p "media_urls" (.arr [])), ("signed_ids", get p "signed_ids" (.arr []))]
  else if toolName = "conversations_set_labels" then
    let label := get p "label" (.str "")
    let labels := get p "labels" (.arr (if label.truthy then [label] else []))
    idArguments convId (.obj [("labels", labels)])
  else if toolName = "conversations_get" ∨ toolName = "conversations_toggle_status" then
    idArguments (orElse convId (get p "id" (.str ""))) (get p "body" (.obj []))
  else if toolName = "conversation_assignments_assign" then
    [("conversation_id", convId), ("query", .obj []),
      ("body", .obj [("assignee_id", get p "assignee_id" (.str ""))])]
  else if toolName = "contacts_update" then
    idArguments (get p "contact_id" (get p "id" (.str ""))) (get p "body" (.obj p))
  else if toolName = "contacts_get" then
    idArguments (get p "contact_id" (get p "id" (.str ""))) (.obj [])
  else if toolName = "kanban_tasks_move" then
    idArguments (get p "task_id" (.str ""))
      (.obj [("step_id", get p "step_id" (.str "")), ("stage", get p "stage" (.str ""))])
  else if toolName = "kanban_tasks_create" then
    [("query", .obj []),
      ("body", .obj
        [("conversation_id", convId), ("board_id", get p "board_id" (.str "")),
          ("step_id", get p "step_id" (.str "")), ("title", get p "title" (.str ""))])]
  else if toolName = "messages_list" ∨ toolName = "conversations_get_labels" then
    [("conversation_id", convId), ("query", .obj []), ("body", .obj [])]
  else [("query", get p "query" (.obj [])), ("body", get p "body" (.obj p))]

/-- What the message tool is told about the conversation and the text. -/
theorem buildMcpArguments_message (intent : String) (p : Parameters) :
    (buildMcpArguments intent messageSendTool p).lookup "conversation_id" =
        some (get p "conversation_id" (.str "")) ∧
      (buildMcpArguments intent messageSendTool p).lookup "content" =
        some (get p "content" (.str "")) := ⟨rfl, rfl⟩

/-! ## The tool call -/

/-- The loop of `_post_with_retry`: the attempts that are left and the number of
the next one. -/
def postWithRetry (call : ProviderCall) (posts : Nat → Post) :
    Nat → Nat → List ProviderCall × Except IaraError String
  | 0, _ => ([], .error { kind := .provider, message := "all retries exhausted" })
  | left + 1, attempt =>
      let here := if (posts attempt).applied then [call] else []
      match (posts attempt).answer with
      | .result resultRef => (here, .ok resultRef)
      | .fails message => (here, .error { kind := .provider, message := message })
      | .retryable =>
          let rest := postWithRetry call posts left (attempt + 1)
          (here ++ rest.1, rest.2)

theorem mem_postWithRetry {call call' : ProviderCall} {posts : Nat → Post} {left attempt : Nat}
    (h : call' ∈ (postWithRetry call posts left attempt).1) : call' = call := by
  induction left generalizing attempt with
  | zero => simp [postWithRetry] at h
  | succ left ih =>
      have hhere : call' ∈ (if (posts attempt).applied then [call] else []) → call' = call := by
        intro hmem
        by_cases happlied : (posts attempt).applied = true
        · simpa [happlied] using hmem
        · simp [happlied] at hmem
      simp only [postWithRetry] at h
      cases hanswer : (posts attempt).answer with
      | result resultRef => exact hhere (by simpa only [hanswer] using h)
      | fails message => exact hhere (by simpa only [hanswer] using h)
      | retryable =>
          simp only [hanswer, List.mem_append] at h
          rcases h with h | h
          · exact hhere h
          · exact ih h

/-- The label operations read the labels first, and keep the arguments as they
are whatever comes back. -/
def executeCommand (adapter : ChatwootMcpAdapter) (exchange : Exchange)
    (command : ProviderCommand) (context : ProviderSecurityContext) : Execution :=
  if command.tenantId ≠ context.tenantId then
    { result := .error
        { kind := .crossTenant
          message := "Command tenant " ++ formatUuid command.tenantId ++
            " does not match security context " ++ formatUuid context.tenantId } }
  else if command.accountIdRef ≠ context.accountIdRef then
    { result := .error
        { kind := .crossTenant
          message :=
            "Command account_id_ref does not match security context — refusing execution" } }
  else
    match adapter.registry.resolveIntent adapter.text command.capabilityName
        (formatUuid command.tenantId) command.accountIdRef with
    | .error e => { result := .error e }
    | .ok resolution =>
        if !resolution.allowed || !PyStr.truthyOption resolution.resolvedToolName then
          { result := .error
              { kind := .failClosed
                message := "Capability " ++ adapter.text.repr command.capabilityName ++
                  " is not allowed: " ++ resolution.denialReason.getD "None" } }
        else
          let toolName := resolution.resolvedToolName.getD ""
          let call : ProviderCall :=
            { accountId := adapter.accountId
              toolName := toolName
              arguments := buildMcpArguments command.capabilityName toolName command.parameters }
          let called := postWithRetry call exchange.posts (max 1 adapter.maxRetries) 0
          { applied := called.1
            result := called.2.map fun resultRef =>
              { commandId := command.commandId
                idempotencyKey := command.idempotencyKey
                success := true
                readbackConfirmed := !resolution.requiresReadback || exchange.readback
                resultRef := some resultRef } }

end ChatwootMcpAdapter

end Iara.Provider
