import Iara.Provider.Requests

/-!
# The MCP server behind the Chatwoot adapter

`execute_command` against a server with a state of its own: the JSON-RPC
responses, the loop of POSTs, the labels that are read before a write, and the
readback.  Of a response the adapter keeps a hash.
-/

namespace Iara.Provider

open Iara.Lib Iara.Persistence

/-- What `response.json()` raises: a `ValueError` on a body that is no JSON, or
another exception, as `RecursionError` on one that is nested too deeply. -/
inductive JsonFailure where
  | valueError
  | other (exception : String)

/-- How a POST ends: with a response, of which `json` is what `response.json()`
returns or raises, with an error of the network that is retried, or with any other
exception. -/
inductive HttpEnd where
  | response (status : Nat) (content : String) (json : Except JsonFailure Json)
  | network (exception : String)
  | raises (exception : String)

/-- A server: what it does with a `tools/call`, and what it answers. -/
structure McpServer where
  State : Type
  handle : State → ProviderCall → State × HttpEnd

/-- The adapter, with what it takes from the standard library. -/
structure ChatwootClient extends ChatwootMcpAdapter where
  /-- `hashlib.sha256(content).hexdigest()`. -/
  sha256 : String → String
  /-- `str(value)`. -/
  str : Json → String

namespace ChatwootClient

open ChatwootMcpAdapter (get idArguments)

variable (client : ChatwootClient)

/-! ## Errors -/

def providerName : String := "chatwoot"

def mapException (exception : String) : String :=
  "Provider " ++ client.text.repr providerName ++ " operation failed (" ++ exception ++ ")"

def httpSummaries : List (Nat × String) :=
  [(400, " rejected the request (invalid input)"), (401, " authentication failed"),
    (403, " authorization failed"), (404, " resource not found"), (409, " reported a conflict"),
    (422, " validation failed"), (429, " rate limit exceeded"), (500, " internal error"),
    (502, " unavailable (bad gateway)"), (503, " unavailable"), (504, " timeout")]

def mapHttpError (status : Nat) : String :=
  "Provider " ++ client.text.repr providerName ++
    (httpSummaries.lookup status).getD (" error (status " ++ toString status ++ ")")

def retryableStatusCodes : List Nat := [429, 500, 502, 503, 504]

/-! ## Responses -/

/-- What the checks on a JSON-RPC response come to: none of them objects, a
`ProviderError`, or another exception by its name. -/
inductive RpcVerdict where
  | accepted
  | refused (message : String)
  | raised (exception : String)

/-- The message of a tool error.  A `KeyError` is passed over, and the response is
accepted all the same. -/
def toolError (toolName : String) (content : Json) : RpcVerdict :=
  let refuse (shown : String) : RpcVerdict :=
    .refused ("MCP tool " ++ client.text.repr toolName ++ " returned isError=true: " ++ shown)
  if !content.truthy then refuse "tool error"
  else
    match content with
    | .arr (.obj first :: _) =>
        match get first "text" (.str "tool error") with
        | .str s => refuse (PyStr.slice s 200)
        | .arr items => refuse (client.str (.arr (items.take 200)))
        | .obj _ => .accepted
        | _ => .raised "TypeError"
    | .arr _ => .raised "AttributeError"
    | .str _ => .raised "AttributeError"
    | .obj _ => .accepted
    | _ => .raised "TypeError"

def rpcVerdict (toolName : String) (rpc : Json) : RpcVerdict :=
  match rpc with
  | .obj rpc =>
      let error := get rpc "error" .null
      if error.truthy then
        match error with
        | .obj err =>
            .refused ("MCP error " ++ client.str (get err "code" (.str "unknown")) ++ ": " ++
              PyStr.slice (client.str (get err "message" (.str ""))) 200)
        | _ => .raised "AttributeError"
      else
        match get rpc "result" (.obj []) with
        | .obj result =>
            if (get result "isError" (.bool false)).truthy then
              client.toolError toolName (get result "content" (.arr [.obj []]))
            else .accepted
        | _ => .raised "AttributeError"
  | _ => .raised "AttributeError"

def postAnswer (toolName : String) : HttpEnd → PostAnswer
  | .network _ => .retryable
  | .raises exception => .fails (client.mapException exception)
  | .response status content json =>
      if retryableStatusCodes.contains status then .retryable
      else if 400 ≤ status then .fails (client.mapHttpError status)
      else
        let hashed : PostAnswer := .result (PyStr.slice (client.sha256 content) 24)
        match json with
        | .error .valueError => hashed
        | .error (.other exception) => .fails (client.mapException exception)
        | .ok rpc =>
            match client.rpcVerdict toolName rpc with
            | .accepted => hashed
            | .refused message => .fails message
            | .raised exception => .fails (client.mapException exception)

/-! ## Calls -/

/-- A tool call: the state that its last POST met, the state afterwards, and the
reference of the result. -/
structure ToolRun (σ : Type) where
  seen : σ
  after : σ
  result : Except IaraError String

/-- The loop of `_post_with_retry`, with the last exception of the network. -/
def postWithRetry (server : McpServer) (call : ProviderCall) :
    Nat → String → server.State → ToolRun server.State
  | 0, lastExc, s =>
      { seen := s
        after := s
        result := .error { kind := .provider, message := client.mapException lastExc } }
  | left + 1, lastExc, s =>
      let r := server.handle s call
      match client.postAnswer call.toolName r.2 with
      | .result resultRef => { seen := s, after := r.1, result := .ok resultRef }
      | .fails message =>
          { seen := s
            after := r.1
            result := .error { kind := .provider, message := message } }
      | .retryable =>
          let lastExc' :=
            match r.2 with
            | .network exception => exception
            | _ => lastExc
          postWithRetry server call left lastExc' r.1

def callTool (server : McpServer) (toolName : String) (arguments : Parameters)
    (s : server.State) : ToolRun server.State :=
  client.postWithRetry server
    { accountId := client.accountId
      toolName := toolName
      arguments := arguments }
    (max 1 client.maxRetries) "RuntimeError" s

def setLabelsTool : String := "conversations_set_labels"

/-- The labels are read, and what was read is not used. -/
def mergeLabels (server : McpServer) (arguments : Parameters) (s : server.State) : server.State :=
  let conversationId := get arguments "id" (.str "")
  if !conversationId.truthy then s
  else
    (client.callTool server "conversations_get_labels"
      [("conversation_id", conversationId), ("query", .obj []), ("body", .obj [])] s).after

def readbackTools : List String := [messageSendTool, setLabelsTool]

/-- The conversation that a readback of the command would read. -/
def readbackTarget (command : ProviderCommand) (toolName : String) : Option Json :=
  let conversationId := get command.parameters "conversation_id" (.str "")
  if readbackTools.contains toolName && conversationId.truthy then some conversationId else none

/-- A readback: what it returns, the state that its read met, where it made one, and
the state afterwards. -/
structure Readback (σ : Type) where
  confirmed : Bool
  seen : Option σ
  after : σ

/-- What a command does and returns; `shown` is the state that the read of its
readback met. -/
structure Served (σ : Type) where
  shown : Option σ
  after : σ
  result : Except IaraError ProviderMutationResult

def verifyReadback (server : McpServer) (command : ProviderCommand) (toolName : String)
    (s : server.State) : Readback server.State :=
  match readbackTarget command toolName with
  | none => { confirmed := true, seen := none, after := s }
  | some conversationId =>
      let read := client.callTool server "conversations_get"
        (idArguments conversationId (.obj [])) s
      { confirmed := read.result.isOk, seen := some read.seen, after := read.after }

/-- The state that the write of a call starts from. -/
def beforeWrite (server : McpServer) (call : ProviderCall) (s : server.State) : server.State :=
  if call.toolName = setLabelsTool then client.mergeLabels server call.arguments s else s

def executeCommand (server : McpServer) (command : ProviderCommand)
    (context : ProviderSecurityContext) (s : server.State) : Served server.State :=
  match client.prepareCall command context with
  | .error e => { shown := none, after := s, result := .error e }
  | .ok (call, requiresReadback) =>
      let write := client.callTool server call.toolName call.arguments
        (client.beforeWrite server call s)
      match write.result with
      | .error e => { shown := none, after := write.after, result := .error e }
      | .ok resultRef =>
          let readback :=
            if requiresReadback then
              client.verifyReadback server command call.toolName write.after
            else { confirmed := true, seen := none, after := write.after }
          { shown := readback.seen
            after := readback.after
            result := .ok
              { commandId := command.commandId
                idempotencyKey := command.idempotencyKey
                success := true
                readbackConfirmed := readback.confirmed
                resultRef := some resultRef } }

/-! ## Answered calls -/

/-- Within so many attempts the server answers the call with a result: the state
that met the answered POST, and the one after it. -/
inductive Answers (server : McpServer) (call : ProviderCall) :
    Nat → server.State → server.State → server.State → Prop
  | answered {left : Nat} {s : server.State} {resultRef : String}
      (h : client.postAnswer call.toolName (server.handle s call).2 = .result resultRef) :
      Answers server call (left + 1) s s (server.handle s call).1
  | retried {left : Nat} {s seen after : server.State}
      (h : client.postAnswer call.toolName (server.handle s call).2 = .retryable)
      (hrest : Answers server call left (server.handle s call).1 seen after) :
      Answers server call (left + 1) s seen after

variable {client} {server : McpServer} {call : ProviderCall} {command : ProviderCommand}
  {context : ProviderSecurityContext} {left : Nat} {lastExc toolName : String}
  {arguments : Parameters} {s seen after : server.State}

/-- A loop of attempts returns exactly where the call is answered. -/
theorem answers_iff :
    client.Answers server call left s seen after ↔
      ∃ resultRef, client.postWithRetry server call left lastExc s =
        { seen := seen, after := after, result := .ok resultRef } := by
  constructor
  · intro h
    induction h generalizing lastExc with
    | @answered left s resultRef h => exact ⟨resultRef, by simp only [postWithRetry, h]⟩
    | retried h _ ih =>
        simp only [postWithRetry, h]
        exact ih
  · rintro ⟨resultRef, h⟩
    induction left generalizing s lastExc with
    | zero => simp [postWithRetry] at h
    | succ left ih =>
        simp only [postWithRetry] at h
        cases hanswer : client.postAnswer call.toolName (server.handle s call).2 with
        | result resultRef' =>
            simp only [hanswer, ToolRun.mk.injEq] at h
            obtain ⟨rfl, rfl, -⟩ := h
            exact .answered hanswer
        | fails message => simp [hanswer] at h
        | retryable =>
            simp only [hanswer] at h
            exact .retried hanswer (ih h)

/-- What the readback asks for. -/
def readCall (client : ChatwootClient) (conversationId : Json) : ProviderCall where
  accountId := client.accountId
  toolName := "conversations_get"
  arguments := idArguments conversationId (.obj [])

theorem accountId_of_prepared {requiresReadback : Bool}
    (h : client.prepareCall command context = .ok (call, requiresReadback)) :
    call.accountId = client.accountId := by
  unfold ChatwootMcpAdapter.prepareCall at h
  split at h
  · cases h
  · split at h
    · cases h
    · split at h
      · cases h
      · split at h
        · cases h
        · cases h
          rfl

theorem callTool_of_prepared {requiresReadback : Bool} (server : McpServer) (s : server.State)
    (h : client.prepareCall command context = .ok (call, requiresReadback)) :
    client.callTool server call.toolName call.arguments s =
      client.postWithRetry server call (max 1 client.maxRetries) "RuntimeError" s := by
  rw [callTool, ← accountId_of_prepared h]

end ChatwootClient

end Iara.Provider
