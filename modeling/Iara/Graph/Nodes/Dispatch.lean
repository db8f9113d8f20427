import Iara.Graph.Nodes.Agent
import Iara.Graph.Nodes.Intake

/-!
# The nodes after the guardrails

`command_dispatch_node`, `memory_writer_node` and `command_assistant_node`.
-/

namespace Iara.Graph

open Iara.Lib Iara.Persistence Iara.Tools

/-! ## Command dispatch -/

/-- The idempotency key of a reply. -/
def responseKey (runId : Option String) : String := "response:" ++ runId.getD "None"

def sendMessage : String := "send_message"

def replyParameters (conversationId content : String) : Parameters :=
  [("conversation_id", .str conversationId), ("content", .str content),
    ("message_type", .str "outgoing"), ("private", .bool false), ("content_type", .str "text")]

def dispatchFailed (state : GraphState) (exception : String) : GraphState where
  error := some ("Command dispatch failed: " ++ exception)
  stepCount := some (state.steps + 1)

def dispatchSent (state : GraphState) : GraphState where
  responseSent := some true
  stepCount := some (state.steps + 1)

/-- The body of the node's `try`. -/
def enqueueReply (uuids : UuidSupply) (service : OutboxService) (state : GraphState)
    (content : String) (world : World) : Except String Unit × World :=
  match state.tenantId, state.conversationId with
  | some tenantId, some conversationId =>
      let r := service.enqueue world.draws world.now (uuids.gen world.draws) tenantId
        sendMessage (replyParameters conversationId content) state.correlationId
        (responseKey state.runId) world.outbox
      (r.1, { world.draw with outbox := r.2 })
  | _, _ => (.error "KeyError", world.draw)

def commandDispatchNode (uuids : UuidSupply) (outboxService : Option OutboxService)
    (state : GraphState) (world : World) : GraphState × World :=
  let content := state.response.getD ""
  if !PyStr.truthy content || state.sent then ({ stepCount := some (state.steps + 1) }, world)
  else
    match outboxService with
    | none => (dispatchSent state, world)
    | some service =>
        let r := enqueueReply uuids service state content world
        match r.1 with
        | .ok _ => (dispatchSent state, r.2)
        | .error exception => (dispatchFailed state exception, r.2)

/-! ## Memory writing -/

def maxFacts : Nat := 3

def extractPrompt (conversationText : String) : String :=
  "Você é um extrator de memória. Leia a conversa abaixo e retorne até " ++
    toString maxFacts ++ " fatos curtos e objetivos que seriam úteis em conversas futuras " ++
    "sobre este contato. Cada fato deve:\n" ++
    "- Ter no máximo 80 caracteres\n" ++
    "- Ser uma sentença declarativa simples\n" ++
    "- Não conter PII (nome completo, CPF, telefone, e-mail)\n" ++
    "- Ser relevante para o relacionamento comercial\n\n" ++
    "Formato de resposta: uma linha por fato, começando com '- '.\n" ++
    "Se não houver fatos relevantes, responda apenas: NENHUM\n\n" ++
    "CONVERSA:\n" ++ conversationText

/-- The last `2 * maxTurns` user and assistant messages, one line each. -/
def formatConversation (messages : List Message) (maxTurns : Nat) : String :=
  let lines := messages.filterMap fun m =>
    match m with
    | .user content => some ("Contato: " ++ PyStr.slice content 500)
    | .assistant content _ => some ("IAra: " ++ PyStr.slice content 500)
    | _ => none
  PyStr.join "\n" (lines.drop (lines.length - maxTurns * 2))

def factText (content : LlmContent) : String :=
  match content with
  | .text s => s
  | .blocks bs =>
      PyStr.join " " <| bs.filterMap fun b =>
        match b with
        | .text t => some t
        | .other t => some t
        | .plain _ => none
  | .other => ""

def extractFacts (text : PyText) (content : LlmContent) : List String :=
  let answer := factText content
  if !PyStr.truthy answer || PyStr.contains (text.upper answer) "NENHUM" then []
  else
    let facts := (PyStr.splitlines (PyStr.strip answer)).filterMap fun line =>
      let line := PyStr.strip line
      let line :=
        if PyStr.startsWith line "- " then PyStr.strip (PyStr.sliceFrom line 2) else line
      if 5 < line.length then some (PyStr.slice line 200) else none
    facts.take maxFacts

/-- The loop over the facts; the first failing store ends it. -/
def storeFacts (store : PostgresMemoryStore) (conversationId : String) :
    Nat → List String → World → World
  | _, [], world => world
  | i, fact :: rest, world =>
      let key := conversationId ++ ":fact_" ++ toString i
      let called := world.draw.log (.memoryStore key fact)
      match store.store world.draws key fact with
      | .ok _ => storeFacts store conversationId (i + 1) rest called
      | .error _ => called

def memoryWriterNode (text : PyText) (memoryStore : Option PostgresMemoryStore) (llm : Option Llm)
    (state : GraphState) (world : World) : GraphState × World :=
  let update : GraphState := { stepCount := some (state.steps + 1) }
  match memoryStore, llm with
  | some store, some llm =>
      let conversation := formatConversation state.history 10
      if !store.enabled || !PyStr.truthy (PyStr.strip (state.response.getD "")) ||
          !PyStr.truthy (PyStr.strip conversation) then (update, world)
      else
        let prompt := extractPrompt (PyStr.slice conversation 3000)
        let called := world.draw.log (.memoryLlm prompt)
        match llm.ainvoke world.draws [] [.user prompt] with
        | .error _ => (update, called)
        | .ok response =>
            (update, storeFacts store (state.conversationId.getD "") 0
              (extractFacts text response.content) called)
  | _, _ => (update, world)

/-! ## Admin commands -/

def adminCommands : List (String × String) :=
  [("status", "Retorna o status do sistema IAra."),
    ("help", "Lista os comandos de administração disponíveis."),
    ("list_campaigns", "Lista as campanhas ativas."),
    ("enable_campaign", "Ativa uma campanha pelo ID."),
    ("disable_campaign", "Desativa uma campanha pelo ID."),
    ("set_mode",
      "Define o modo de operação (suggest_only, write_sandbox, write_confirmed)."),
    ("get_config", "Retorna a configuração atual do agente.")]

structure AdminCommand where
  command : String
  args : List String
  deriving DecidableEq, Repr

/-- The first matching lead of the three is cut off. -/
def parseAdminCommand (text : PyText) (content : String) : AdminCommand :=
  let stripped := PyStr.strip content
  let lead := ["/iara ", "/admin ", "@iara "].find? fun lead =>
    PyStr.startsWith (text.lower stripped) lead
  let body :=
    match lead with
    | some lead => PyStr.strip (PyStr.sliceFrom stripped lead.length)
    | none => stripped
  match PyStr.words body with
  | [] => ⟨"", []⟩
  | word :: args => ⟨text.lower word, args⟩

def validModes : List String := ["suggest_only", "write_sandbox", "write_confirmed"]

def statusText (state : GraphState) : String :=
  "✅ *IAra Runtime — Status*\n\n" ++
    "• Tenant: `" ++ PyStr.slice (state.tenantId.getD "") 16 ++ "…`\n" ++
    "• Conversa: `" ++ state.conversationId.getD "N/A" ++ "`\n" ++
    "• Modo: operacional\n" ++ "• Checkpoints: Postgres\n" ++
    "• Memória: habilitada via configuração\n"

def configText (state : GraphState) : String :=
  "ℹ️ Configuração atual:\n" ++
    "• Modo kanban: `" ++ state.metadataOrEmpty.kanbanMode.getD "N/A" ++ "`\n" ++
    "• Modo campanha: `" ++ state.metadataOrEmpty.campaignMode.getD "N/A" ++ "`\n"

def setModeUsage : String :=
  "❌ Uso: `/set_mode <modo>`\nModos válidos: " ++
    PyStr.join ", " (validModes.map fun m => "`" ++ m ++ "`")

def dispatchCommand (cmd : String) (args : List String) (state : GraphState) : String :=
  if cmd = "help" ∨ cmd = "" then
    PyStr.join "\n" ("*Comandos de administração disponíveis:*" :: "" ::
      adminCommands.map fun c => "• `/" ++ c.1 ++ "` — " ++ c.2)
  else if cmd = "status" then statusText state
  else if cmd = "list_campaigns" then
    "ℹ️ Listagem de campanhas não está disponível via comando no momento. " ++
      "Acesse o painel de configuração para gerenciar campanhas."
  else if cmd = "enable_campaign" ∨ cmd = "disable_campaign" then
    match args with
    | [] => "❌ Uso: `/" ++ cmd ++ " <campaign_id>`"
    | campaignId :: _ =>
        "✅ Solicitação de `" ++ cmd ++ "` para campanha `" ++ campaignId ++ "` enfileirada. " ++
          "A campanha será " ++ (if cmd = "enable_campaign" then "ativada" else "desativada") ++
          " em instantes via outbox."
  else if cmd = "set_mode" then
    match args with
    | mode :: _ =>
        if validModes.contains mode then
          "✅ Modo de operação alterado para `" ++ mode ++ "`. " ++
            "A mudança entrará em vigor na próxima conversa."
        else setModeUsage
    | [] => setModeUsage
  else if cmd = "get_config" then configText state
  else
    "❌ Comando `" ++ cmd ++ "` não reconhecido. " ++
      "Use `/iara help` para ver os comandos disponíveis."

def commandAssistantNode (text : PyText) (state : GraphState) (world : World) :
    GraphState × World :=
  let parsed := parseAdminCommand text (lastUserMessage state.history)
  ({ agentResponse := some (some (dispatchCommand parsed.command parsed.args state))
     responseSent := some true
     stepCount := some (state.steps + 1) }, world)

end Iara.Graph
