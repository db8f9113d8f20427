import Iara.Graph.Builder
import Iara.Tools.FollowUpCatalog
import Iara.Tools.Registry

/-!
# The wiring of the production graph

What `build_production_graph` makes of the settings: one executor, one policy
guard and one binding, all under the tenant id `__production__`.
-/

namespace Iara.Graph

open Iara.Lib Iara.Persistence Iara.Security Iara.Tools

inductive KanbanMode where
  | suggestOnly
  | writeSandbox
  | writeConfirmed
  deriving DecidableEq, Repr

inductive CampaignMode where
  | draftOnly
  | dryRun
  | sandbox
  | approvedSend
  deriving DecidableEq, Repr

def KanbanMode.value : KanbanMode → String
  | suggestOnly => "suggest_only"
  | writeSandbox => "write_sandbox"
  | writeConfirmed => "write_confirmed"

def CampaignMode.value : CampaignMode → String
  | draftOnly => "draft_only"
  | dryRun => "dry_run"
  | sandbox => "sandbox"
  | approvedSend => "approved_send"

/-- `OperationMode(value)`. -/
def operationMode (value : String) : Except String OperationMode :=
  match [OperationMode.readOnly, .draftOnly, .dryRun, .suggestOnly, .sandbox, .approvedSend,
      .writeConfirmed].find? fun mode => mode.value = value with
  | some mode => .ok mode
  | none => .error "ValueError"

def productionTenant : String := "__production__"

/-- The settings, with the components that are built from them elsewhere. -/
structure ProductionSettings where
  uuids : UuidSupply
  filters : GuardrailFilters
  llm : Llm
  mediaSubgraph : MediaUnderstandingSubgraph
  /-- The memory store in the namespace of the settings. -/
  memoryStore : PostgresMemoryStore
  iaraMemoryEnabled : Bool
  iaraKanbanDefaultMode : KanbanMode
  iaraCampaignDefaultMode : CampaignMode
  sessionFactory : Nat → Transaction
  handleRead : Nat → String → Parameters → Except String Parameters
  followUp : FollowUpRuntime

namespace ProductionSettings

variable (settings : ProductionSettings)

def executor : ToolExecutor where
  text := settings.filters.text
  uuids := settings.uuids
  tenantId := productionTenant
  outboxService := some { session := settings.sessionFactory }
  followUpRepo := some settings.sessionFactory
  handleRead := settings.handleRead
  buildFollowupSchedulePayload := settings.followUp.buildFollowupSchedulePayload

def gateway (kanbanMode campaignMode : OperationMode) : AgentToolMcpGateway where
  registry := .buildDefault
  policyGuard :=
    { text := settings.filters.text
      kanbanMode := kanbanMode
      campaignMode := campaignMode }
  executor := settings.executor

/-- The kanban mode `write_sandbox` is no operation mode, so the build raises. -/
def deps : Except String ProductionDeps := do
  let kanbanMode ← operationMode settings.iaraKanbanDefaultMode.value
  let campaignMode ← operationMode settings.iaraCampaignDefaultMode.value
  return {
    uuids := settings.uuids
    filters := settings.filters
    llm := settings.llm
    registry := .buildDefault
    gateway := settings.gateway kanbanMode campaignMode
    outboxService := { session := settings.sessionFactory }
    mediaSubgraph := settings.mediaSubgraph
    memoryStore := if settings.iaraMemoryEnabled then some settings.memoryStore else none
    authGuard :=
      (CommandAuthorizationGuard.mk settings.filters.text []).register
        { tenantId := productionTenant }
    sessionFactory := settings.sessionFactory }

variable {settings} {p : ProductionDeps}

/-- The build succeeds in every kanban mode but one. -/
theorem exists_deps_iff :
    (∃ p, settings.deps = .ok p) ↔ settings.iaraKanbanDefaultMode ≠ .writeSandbox := by
  unfold deps
  constructor
  · rintro ⟨p, hp⟩ hmode
    rw [hmode] at hp
    cases hp
  · intro hmode
    cases hkanban : settings.iaraKanbanDefaultMode with
    | writeSandbox => exact absurd hkanban hmode
    | suggestOnly => cases settings.iaraCampaignDefaultMode <;> exact ⟨_, rfl⟩
    | writeConfirmed => cases settings.iaraCampaignDefaultMode <;> exact ⟨_, rfl⟩

/-- Whatever the modes, the gateway has the production executor and the default tools. -/
theorem deps_spec (h : settings.deps = .ok p) :
    p.uuids = settings.uuids ∧
      ∃ kanbanMode campaignMode, p.gateway = settings.gateway kanbanMode campaignMode := by
  unfold deps at h
  obtain ⟨kanbanMode, -, h⟩ := bind_eq_ok h
  obtain ⟨campaignMode, -, h⟩ := bind_eq_ok h
  cases h
  exact ⟨rfl, kanbanMode, campaignMode, rfl⟩

end ProductionSettings

/-- No UUID is spelled like the production tenant. -/
theorem parseUuid_productionTenant : parseUuid productionTenant = none := by decide +kernel

/-- The follow-up tool is one of the default tools, and active. -/
theorem getTool_followUp :
    ∃ tool, AgentToolRegistry.buildDefault.getTool "followup_reengage_conversation" = some tool ∧
      tool.status = .active := by
  have hsome : (AgentToolRegistry.buildDefault.getTool "followup_reengage_conversation").map
      AgentToolDefinition.status = some .active := by
    decide +kernel
  exact Option.map_eq_some_iff.1 hsome

end Iara.Graph
