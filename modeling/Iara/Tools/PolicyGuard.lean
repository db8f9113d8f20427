import Iara.Persistence.Outbox

/-!
# Tool contracts and the policy guard

The request and result of an agent tool, its definition, and
`ToolPolicyGuard.check`.
-/

namespace Iara.Tools

open Iara.Lib Iara.Persistence

inductive ToolStatus where
  | draft
  | active
  | inactive
  | deprecated
  | sandbox
  deriving DecidableEq, Repr

def ToolStatus.value : ToolStatus → String
  | draft => "draft"
  | active => "active"
  | inactive => "inactive"
  | deprecated => "deprecated"
  | sandbox => "sandbox"

inductive ToolResultStatus where
  | success
  | failed
  | policyBlocked
  | draftCreated
  deriving DecidableEq, Repr

structure ToolInvocationRequest where
  invocationId : String
  toolName : String
  arguments : Parameters
  tenantId : Uuid
  conversationId : String
  correlationId : String
  idempotencyKey : String
  callId : String
  deriving DecidableEq, Repr

structure ToolInvocationResult where
  invocationId : String
  toolName : String
  status : ToolResultStatus
  resultSummary : String
  resultData : Parameters := []
  draftRef : Option String := none
  outboxCommandId : Option String := none
  errorCode : Option String := none
  errorSummary : Option String := none
  callId : String
  deriving DecidableEq, Repr

structure AgentToolDefinition where
  toolName : String
  description : String
  parametersSchema : Parameters := []
  status : ToolStatus := .draft
  isSideEffecting : Bool := true
  deriving DecidableEq, Repr

inductive OperationMode where
  | readOnly
  | draftOnly
  | dryRun
  | suggestOnly
  | sandbox
  | approvedSend
  | writeConfirmed
  deriving DecidableEq, Repr

namespace OperationMode

def value : OperationMode → String
  | readOnly => "read_only"
  | draftOnly => "draft_only"
  | dryRun => "dry_run"
  | suggestOnly => "suggest_only"
  | sandbox => "sandbox"
  | approvedSend => "approved_send"
  | writeConfirmed => "write_confirmed"

def member : OperationMode → String
  | readOnly => "READ_ONLY"
  | draftOnly => "DRAFT_ONLY"
  | dryRun => "DRY_RUN"
  | suggestOnly => "SUGGEST_ONLY"
  | sandbox => "SANDBOX"
  | approvedSend => "APPROVED_SEND"
  | writeConfirmed => "WRITE_CONFIRMED"

/-- `repr` of the enumeration member. -/
def pyRepr (mode : OperationMode) : String :=
  "<OperationMode." ++ mode.member ++ ": '" ++ mode.value ++ "'>"

end OperationMode

def highRiskTools : List String :=
  ["campaign_dispatch_batch", "campaign_request_approval", "kanban_update_status",
    "kanban_comment", "followup_reengage_conversation", "voice_respond_audio"]

def draftSafeTools : List String :=
  ["schedule", "cancel", "reschedule", "qualify", "disqualify", "campaign_create_draft",
    "campaign_validate_audience", "kb_suggest_update"]

structure PolicyCheckResult where
  approved : Bool
  mode : OperationMode
  reason : String := ""
  producesDraft : Bool := false
  deriving DecidableEq, Repr

namespace PolicyCheckResult

def allow (mode : OperationMode) (producesDraft : Bool := false) : PolicyCheckResult :=
  { approved := true, mode := mode, producesDraft := producesDraft }

def deny (reason : String) (mode : OperationMode := .draftOnly) : PolicyCheckResult :=
  { approved := false, mode := mode, reason := reason }

end PolicyCheckResult

/-- A `FailClosedError` or `PolicyViolationError`: its code and its message. -/
structure PolicyError where
  code : String
  message : String
  deriving DecidableEq, Repr

structure ToolPolicyGuard where
  text : PyText
  kanbanMode : OperationMode := .suggestOnly
  campaignMode : OperationMode := .draftOnly

namespace ToolPolicyGuard

def checkKanban (guard : ToolPolicyGuard) (tool : AgentToolDefinition) : PolicyCheckResult :=
  if guard.kanbanMode = .suggestOnly then .allow .suggestOnly true
  else if guard.kanbanMode = .writeConfirmed ∨ guard.kanbanMode = .sandbox then
    .allow guard.kanbanMode
  else
    .deny ("kanban tool " ++ guard.text.repr tool.toolName ++ " not allowed in mode " ++
      guard.kanbanMode.value) guard.kanbanMode

def checkCampaign (guard : ToolPolicyGuard) (tool : AgentToolDefinition) : PolicyCheckResult :=
  if guard.campaignMode = .draftOnly then
    if tool.toolName = "campaign_dispatch_batch" then
      .deny "Campaign dispatch blocked in draft_only mode — create a draft first" .draftOnly
    else .allow .draftOnly true
  else if guard.campaignMode = .dryRun then .allow .dryRun true
  else if guard.campaignMode = .approvedSend then .allow .approvedSend
  else
    .deny ("campaign mode " ++ guard.campaignMode.pyRepr ++ " does not permit " ++
      guard.text.repr tool.toolName) guard.campaignMode

/-- All three branches of `_check_high_risk` produce a draft. -/
def checkHighRisk (tool : AgentToolDefinition) : PolicyCheckResult :=
  if tool.toolName = "voice_respond_audio" then .allow .draftOnly true
  else if tool.toolName = "followup_reengage_conversation" then .allow .draftOnly true
  else .allow .draftOnly true

def check (guard : ToolPolicyGuard) (tool : AgentToolDefinition) :
    Except PolicyError PolicyCheckResult :=
  if tool.status ≠ .active then
    .error
      { code := "FAIL_CLOSED"
        message := "Tool " ++ guard.text.repr tool.toolName ++ " is not active (status=" ++
          tool.status.value ++ ") — fail-closed" }
  else if PyStr.startsWith tool.toolName "kanban_" && tool.isSideEffecting then
    .ok (guard.checkKanban tool)
  else if PyStr.startsWith tool.toolName "campaign_" && tool.isSideEffecting then
    .ok (guard.checkCampaign tool)
  else if highRiskTools.contains tool.toolName then .ok (checkHighRisk tool)
  else if !tool.isSideEffecting then .ok (.allow .readOnly)
  else if draftSafeTools.contains tool.toolName then .ok (.allow .draftOnly true)
  else .ok (.allow .draftOnly true)

end ToolPolicyGuard

end Iara.Tools
