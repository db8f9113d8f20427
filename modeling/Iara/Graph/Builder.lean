import Iara.Graph.Edges
import Iara.Graph.Nodes.Dispatch
import Iara.Graph.Nodes.Guardrails
import Iara.Lib.StateGraph

/-!
# The conversational graph

`build_conversational_graph`: the nodes with their dependencies, and the path
maps of the conditional edges.  A label that a path map lacks makes the edge
raise, which is the `none` of `route`.
-/

namespace Iara.Graph

open Iara.Lib Iara.Persistence Iara.Security Iara.Tools

inductive Node where
  | eligibility
  | commandAssistant
  | mediaUnderstanding
  | contextBuilder
  | agent
  | toolExecutor
  | guardrails
  | hitl
  | commandDispatch
  | memoryWriter
  deriving DecidableEq, Repr

structure Deps where
  uuids : UuidSupply
  filters : GuardrailFilters
  llm : Option Llm := none
  registry : Option AgentToolRegistry := none
  skillResolver : Option ToolSkillResolver := none
  gateway : Option AgentToolMcpGateway := none
  outboxService : Option OutboxService := none
  mediaSubgraph : Option MediaUnderstandingSubgraph := none
  memoryStore : Option PostgresMemoryStore := none
  authGuard : Option CommandAuthorizationGuard := none
  sessionFactory : Option (Nat → Transaction) := none

def runNode (deps : Deps) : Node → GraphState → World → GraphState × World
  | .eligibility => eligibilityNode deps.authGuard
  | .commandAssistant => commandAssistantNode deps.filters.text
  | .mediaUnderstanding => mediaUnderstandingNode deps.mediaSubgraph
  | .contextBuilder => contextBuilderNode deps.registry deps.skillResolver deps.memoryStore
  | .agent => agentNode deps.llm
  | .toolExecutor => toolExecutorNode deps.uuids deps.gateway
  | .guardrails => guardrailsNode deps.filters
  | .hitl => hitlNode deps.uuids deps.sessionFactory
  | .commandDispatch => commandDispatchNode deps.uuids deps.outboxService
  | .memoryWriter => memoryWriterNode deps.filters.text deps.memoryStore deps.llm

def eligibilityPaths : EdgeLabel → Option (Next Node)
  | .commandAssistant => some (.goto .commandAssistant)
  | .mediaUnderstanding => some (.goto .mediaUnderstanding)
  | .ends => some .finish
  | _ => none

def mediaPaths : EdgeLabel → Option (Next Node)
  | .contextBuilder => some (.goto .contextBuilder)
  | .ends => some .finish
  | _ => none

def contextPaths : EdgeLabel → Option (Next Node)
  | .agent => some (.goto .agent)
  | .ends => some .finish
  | _ => none

def agentPaths : EdgeLabel → Option (Next Node)
  | .toolExecutor => some (.goto .toolExecutor)
  | .guardrails => some (.goto .guardrails)
  | .hitlInterrupt => some .finish
  | .ends => some .finish
  | _ => none

def toolPaths : EdgeLabel → Option (Next Node)
  | .agent => some (.goto .agent)
  | .ends => some .finish
  | _ => none

def guardrailsPaths : EdgeLabel → Option (Next Node)
  | .hitl => some (.goto .hitl)
  | .commandDispatch => some (.goto .commandDispatch)
  | .ends => some .finish
  | _ => none

/-- The map of the dispatch node has no entry for `end`. -/
def dispatchPaths : EdgeLabel → Option (Next Node)
  | .memoryWriter => some (.goto .memoryWriter)
  | _ => none

def route : Node → GraphState → Option (Next Node)
  | .eligibility, s => eligibilityPaths (shouldContinueAfterEligibility s)
  | .commandAssistant, _ => some .finish
  | .mediaUnderstanding, s => mediaPaths (shouldContinueAfterMedia s)
  | .contextBuilder, s => contextPaths (shouldContinueAfterContext s)
  | .agent, s => agentPaths (shouldContinueAfterAgent s)
  | .toolExecutor, s => toolPaths (shouldContinueAfterTools s)
  | .guardrails, s => guardrailsPaths (shouldContinueAfterGuardrails s)
  | .hitl, _ => some .finish
  | .commandDispatch, s => dispatchPaths (shouldContinueAfterDispatch s)
  | .memoryWriter, _ => some .finish

abbrev ConversationalGraph := StateGraph Node GraphState GraphState World

def buildConversationalGraph (deps : Deps) : ConversationalGraph where
  entry := .eligibility
  node := runNode deps
  merge := GraphState.merge
  route := route

/-- What `build_production_graph` wires: only the memory store is optional. -/
structure ProductionDeps where
  uuids : UuidSupply
  filters : GuardrailFilters
  llm : Llm
  registry : AgentToolRegistry
  skillResolver : ToolSkillResolver := {}
  gateway : AgentToolMcpGateway
  outboxService : OutboxService
  mediaSubgraph : MediaUnderstandingSubgraph
  memoryStore : Option PostgresMemoryStore := none
  authGuard : CommandAuthorizationGuard
  sessionFactory : Nat → Transaction

namespace ProductionDeps

def deps (p : ProductionDeps) : Deps where
  uuids := p.uuids
  filters := p.filters
  llm := some p.llm
  registry := some p.registry
  skillResolver := some p.skillResolver
  gateway := some p.gateway
  outboxService := some p.outboxService
  mediaSubgraph := some p.mediaSubgraph
  memoryStore := p.memoryStore
  authGuard := some p.authGuard
  sessionFactory := some p.sessionFactory

end ProductionDeps

def buildProductionGraph (p : ProductionDeps) : ConversationalGraph :=
  buildConversationalGraph p.deps

end Iara.Graph
