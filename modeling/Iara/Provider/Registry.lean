import Iara.Persistence.Outbox

/-!
# The Chatwoot capability registry

The provider contracts and `ChatwootMcpRegistry.resolve_intent`, with the
built-in list of capabilities.
-/

namespace Iara.Provider

open Iara.Lib Iara.Persistence

inductive ErrorKind where
  | failClosed
  | crossTenant
  | provider
  deriving DecidableEq, Repr

/-- A `FailClosedError`, `CrossTenantError` or `ProviderError` with its message. -/
structure IaraError where
  kind : ErrorKind
  message : String
  deriving DecidableEq, Repr

structure ProviderSecurityContext where
  tenantId : Uuid
  provider : String
  accountIdRef : String
  inboxId : String
  capabilityName : String
  riskClass : RiskClass
  deriving DecidableEq, Repr

structure CapabilityResolution where
  intent : String
  resolvedToolName : Option String := none
  allowed : Bool
  riskClass : RiskClass := .read
  requiresReadback : Bool := true
  denialReason : Option String := none
  deriving DecidableEq, Repr

def CapabilityResolution.denied (intent reason : String) : CapabilityResolution :=
  { intent := intent, allowed := false, denialReason := some reason }

inductive McpCapabilityStatus where
  | active
  | inactive
  | sandbox
  deriving DecidableEq, Repr

structure McpCapabilityEntry where
  intent : String
  mcpToolName : String
  riskClass : RiskClass
  requiresReadback : Bool := true
  status : McpCapabilityStatus := .active
  allowedAccounts : List String := []
  deniedAccounts : List String := []
  deriving DecidableEq, Repr

namespace McpCapabilityEntry

/-- A read capability, which needs no readback. -/
def reads (intent mcpToolName : String) : McpCapabilityEntry :=
  { intent := intent
    mcpToolName := mcpToolName
    riskClass := .read
    requiresReadback := false }

def writes (riskClass : RiskClass) (intent mcpToolName : String) : McpCapabilityEntry :=
  { intent := intent
    mcpToolName := mcpToolName
    riskClass := riskClass }

end McpCapabilityEntry

def messageSendTool : String := "conversation_message_send"

open McpCapabilityEntry in
def defaultChatwootCapabilities : List McpCapabilityEntry :=
  [reads "get_account_info" "account_context",
    reads "read_conversation" "conversations_get",
    reads "list_messages" "messages_list",
    reads "list_labels" "conversations_get_labels",
    reads "get_contact" "contacts_get",
    writes .lowWrite "send_message" messageSendTool,
    writes .lowWrite "followup_reengage_conversation" messageSendTool,
    writes .lowWrite "kanban_comment" messageSendTool,
    writes .lowWrite "label_conversation" "conversations_set_labels",
    writes .lowWrite "assign_conversation" "conversation_assignments_assign",
    writes .highWrite "close_conversation" "conversations_toggle_status",
    writes .highWrite "update_contact" "contacts_update",
    reads "list_kanban_boards" "kanban_boards_list",
    reads "list_kanban_steps" "kanban_steps_list",
    reads "list_kanban_tasks" "kanban_tasks_list",
    writes .lowWrite "kanban_update_status" "kanban_tasks_move",
    writes .lowWrite "create_kanban_task" "kanban_tasks_create"]

structure ChatwootMcpRegistry where
  tenantId : String
  accountIdRef : String
  capabilities : List McpCapabilityEntry := defaultChatwootCapabilities
  globalDenylist : List String := []

namespace ChatwootMcpRegistry

/-- A call of the constructor.  Neither the tenant nor the account reference
has a default, so a call without them raises. -/
def init (tenantId accountIdRef : Option String) : Except String ChatwootMcpRegistry :=
  match tenantId, accountIdRef with
  | some tenantId, some accountIdRef =>
      .ok { tenantId := tenantId, accountIdRef := accountIdRef }
  | _, _ => .error "TypeError"

/-- `self._by_intent.get(intent)`: of two entries the later one stays. -/
def byIntent (registry : ChatwootMcpRegistry) (intent : String) : Option McpCapabilityEntry :=
  registry.capabilities.reverse.find? fun cap => cap.intent = intent

/-- The checks on a registered capability, once tenant and account match. -/
def resolveCapability (registry : ChatwootMcpRegistry) (text : PyText)
    (intent accountIdRef : String) : CapabilityResolution :=
  if registry.globalDenylist.contains intent then
    .denied intent ("intent " ++ text.repr intent ++ " is globally denied")
  else
    match registry.byIntent intent with
    | none => .denied intent ("intent " ++ text.repr intent ++ " is not registered")
    | some cap =>
        if cap.status = .inactive then
          .denied intent ("capability for " ++ text.repr intent ++ " is inactive")
        else if cap.deniedAccounts.contains accountIdRef then
          .denied intent ("capability for " ++ text.repr intent ++ " is denied for this account")
        else if !cap.allowedAccounts.isEmpty && !cap.allowedAccounts.contains accountIdRef then
          .denied intent
            ("capability for " ++ text.repr intent ++ " is not allowed for this account")
        else
          { intent := intent
            resolvedToolName := some cap.mcpToolName
            allowed := true
            riskClass := cap.riskClass
            requiresReadback := cap.requiresReadback }

def resolveIntent (registry : ChatwootMcpRegistry) (text : PyText)
    (intent tenantId accountIdRef : String) : Except IaraError CapabilityResolution :=
  if PyStr.strip intent = "" then
    .error { kind := .failClosed, message := "Intent must not be empty or blank" }
  else if tenantId ≠ registry.tenantId then
    .error
      { kind := .failClosed
        message := "Registry tenant mismatch — cannot resolve intent for different tenant" }
  else if accountIdRef ≠ registry.accountIdRef then
    .error
      { kind := .failClosed
        message := "Registry account mismatch — cannot resolve intent for different account" }
  else .ok (registry.resolveCapability text intent accountIdRef)

/-- A resolution that comes through is the capability's, for the bound tenant
and account only. -/
theorem resolveIntent_eq_ok {registry : ChatwootMcpRegistry} {text : PyText}
    {intent tenantId accountIdRef : String} {resolution : CapabilityResolution}
    (h : registry.resolveIntent text intent tenantId accountIdRef = .ok resolution) :
    tenantId = registry.tenantId ∧ accountIdRef = registry.accountIdRef ∧
      resolution = registry.resolveCapability text intent accountIdRef := by
  unfold resolveIntent at h
  by_cases hblank : PyStr.strip intent = ""
  · rw [if_pos hblank] at h
    cases h
  · rw [if_neg hblank] at h
    by_cases htenant : tenantId = registry.tenantId
    · rw [if_neg (not_not_intro htenant)] at h
      by_cases haccount : accountIdRef = registry.accountIdRef
      · rw [if_neg (not_not_intro haccount)] at h
        exact ⟨htenant, haccount, (Except.ok.inj h).symm⟩
      · rw [if_pos haccount] at h
        cases h
    · rw [if_pos htenant] at h
      cases h

/-- The tool of an allowed resolution is the one that is registered for the intent. -/
theorem resolvedToolName_of_allowed {registry : ChatwootMcpRegistry} {text : PyText}
    {intent accountIdRef : String}
    (h : (registry.resolveCapability text intent accountIdRef).allowed = true) :
    (registry.resolveCapability text intent accountIdRef).resolvedToolName =
      (registry.byIntent intent).map McpCapabilityEntry.mcpToolName := by
  unfold resolveCapability at h ⊢
  split at h
  · cases h
  next hlisted =>
    rw [if_neg hlisted]
    cases hentry : registry.byIntent intent with
    | none => simp [hentry, CapabilityResolution.denied] at h
    | some cap =>
        simp only [hentry] at h ⊢
        split at h
        · cases h
        next hactive =>
          split at h
          · cases h
          next hdenied =>
            split at h
            · cases h
            next hallowed =>
              rw [if_neg hactive, if_neg hdenied, if_neg hallowed]
              rfl

end ChatwootMcpRegistry

end Iara.Provider
