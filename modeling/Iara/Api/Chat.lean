import Iara.Graph.Production
import Iara.Tenancy.Resolver
import Iara.Workers.History

/-!
# The chat endpoint

`POST /chat/{tenant_key}`: a run of the production graph that is answered to the caller, next
to a worker on the same database.  The router has a resolver of its own, whose repository
knows the tenant of the environment variables, and its graph keeps checkpoints in the process.
-/

namespace Iara.Tenancy.TenantResolver

variable (resolver : TenantResolver)

/-- A call with nothing in between, as on a repository in memory. -/
def resolveNow (s : ResolverShared) (tenantKey : String) (resolvedAt : Nat) :
    ResolvePhase × ResolverShared :=
  let phase := resolver.checkCache s tenantKey
  match resolver.act s phase .read with
  | none => (phase, s)
  | some (fetched, s') => (resolver.act s' fetched (.resume resolvedAt)).getD (fetched, s')

end Iara.Tenancy.TenantResolver

namespace Iara.Api

open Iara.Lib Iara.Persistence Iara.Graph Iara.Tenancy Iara.Workers
open JobConsumerWorker (startWorld)

/-! ## The tenant of the environment -/

structure ChatEnvironment where
  iaraEnv : String := "development"
  iaraDevTenantKey : String := "test_tenant_001"
  iaraDevTenantId : String := "12345678-1234-5678-1234-567812345678"
  iaraDevAccountId : String := "11111"
  deriving DecidableEq, Repr

namespace ChatEnvironment

variable (env : ChatEnvironment)

def isDevelopment : Bool := env.iaraEnv == "development" || env.iaraEnv == "sandbox"

def devTenant : TenantRecord :=
  [("tenant_id", .str env.iaraDevTenantId), ("name", .str "Dev Tenant"),
    ("status", .str "sandbox"), ("provider", .str "chatwoot"),
    ("provider_account_id", .str env.iaraDevAccountId)]

/-- `_test_repository` -/
def testRepository : String → Option TenantRecord :=
  if env.isDevelopment then
    Function.update (fun _ => none) env.iaraDevTenantKey (some env.devTenant)
  else fun _ => none

end ChatEnvironment

/-! ## Requests -/

structure ChatMessage where
  role : String
  content : String
  deriving DecidableEq, Repr

/-- The message as the nodes read it: none of them looks at a message of another role. -/
def ChatMessage.toMessage (m : ChatMessage) : Option Graph.Message :=
  if m.role = "user" then some (.user m.content)
  else if m.role = "assistant" then some (.assistant m.content [])
  else if m.role = "system" then some (.system m.content)
  else if m.role = "tool" then some (.tool "" m.content)
  else none

structure ChatRequest where
  conversationId : String
  messages : List ChatMessage
  deriving DecidableEq, Repr

def ChatRequest.initialState (body : ChatRequest) (tenantId runId correlationId : String) :
    GraphState where
  runId := some runId
  tenantId := some tenantId
  conversationId := some body.conversationId
  correlationId := some correlationId
  eligibilityStatus := some .pending
  mediaProcessed := some false
  contextBuilt := some false
  messages := some (body.messages.filterMap ChatMessage.toMessage)
  metadata := some { idempotencyKey := runId }

inductive ChatAnswer where
  /-- 200 -/
  | reply (reply conversationId runId : String)
  /-- 404 -/
  | tenantNotFound
  /-- 500, with the error of the run, or `none` where the graph raised -/
  | failed (error : Option String)
  deriving DecidableEq, Repr

/-- `f"chat:{tenant_id}:{conversation_id}:{run_id}"` -/
def chatThread (tenantId conversationId runId : String) : String :=
  "chat:" ++ tenantId ++ ":" ++ conversationId ++ ":" ++ runId

/-- What a run that ended in `final` is answered with. -/
def chatAnswer (conversationId runId : String) (final : GraphState) : Ending → ChatAnswer
  | .finished =>
      if final.failed then .failed final.error
      else .reply (final.response.getD "") conversationId runId
  | _ => .failed none

/-! ## The deployment -/

/-- The API process and a worker, built from the same settings, for which the build of the
production graph succeeds. -/
structure ChatDeployment where
  env : ChatEnvironment
  settings : ProductionSettings
  deps : ProductionDeps
  built : settings.deps = .ok deps
  langGraph : LangGraph
  sha256 : String → String

/-- `threads` is the `MemorySaver` of the chat graph; the checkpoints of the runtime are those of
the worker. -/
structure ChatSystem where
  resolver : TenantResolver.ResolverShared
  threads : String → GraphState
  runtime : Runtime

namespace ChatDeployment

variable (deployment : ChatDeployment)

/-- `_resolver` -/
def resolver : TenantResolver where
  text := deployment.settings.filters.text
  sha256 := deployment.sha256
  cacheTtlSeconds := 60

def worker : JobConsumerWorker where
  deps := deployment.deps
  langGraph := deployment.langGraph

def runId (s : ChatSystem) : String := deployment.deps.uuids.gen s.runtime.world.draws

def startState (s : ChatSystem) (tenant : TenantContext) (body : ChatRequest) : GraphState :=
  let tenantId := formatUuid tenant.tenantId
  let correlationId := deployment.deps.uuids.gen (s.runtime.world.draws + 1)
  (s.threads (chatThread tenantId body.conversationId (deployment.runId s))).merge
    (body.initialState tenantId (deployment.runId s) correlationId)

/-- `graph.ainvoke(initial_state, config)`. -/
def ainvoke (s : ChatSystem) (tenant : TenantContext) (body : ChatRequest) :
    List GraphVisit × Ending :=
  (buildProductionGraph deployment.deps).execute deployment.langGraph.recursionLimit .eligibility
    (deployment.startState s tenant body) (startWorld s.runtime)

/-- The request of a resolved tenant. -/
def invoke (s : ChatSystem) (tenant : TenantContext) (body : ChatRequest) :
    ChatAnswer × ChatSystem :=
  let start := deployment.startState s tenant body
  let run := deployment.ainvoke s tenant body
  let thread :=
    chatThread (formatUuid tenant.tenantId) body.conversationId (deployment.runId s)
  let checkpoint := StateGraph.stateAfter start (deployment.worker.committed run)
  (chatAnswer body.conversationId (deployment.runId s) (StateGraph.stateAfter start run.1) run.2,
    { s with
      threads := Function.update s.threads thread checkpoint
      runtime :=
        { s.runtime with world := StateGraph.worldAfter (startWorld s.runtime) run.1 } })

def chat (s : ChatSystem) (tenantKey : String) (body : ChatRequest) : ChatAnswer × ChatSystem :=
  let resolved := deployment.resolver.resolveNow s.resolver tenantKey s.runtime.world.now
  let s := { s with resolver := resolved.2 }
  match resolved.1 with
  | .returned _ tenant _ => deployment.invoke s tenant body
  | _ => (.tenantNotFound, s)

/-! ## Histories -/

inductive ChatEvent where
  | chat (tenantKey : String) (body : ChatRequest)
  /-- A job of the worker. -/
  | deliver (d : Workers.Delivery)
  | tick (elapsed : Nat)
  /-- The API process is started again. -/
  | restart

/-- A process that has just been started. -/
def freshResolver (now : Nat) : TenantResolver.ResolverShared where
  repository := deployment.env.testRepository
  now := now

def apply (s : ChatSystem) : ChatEvent → ChatSystem
  | .chat tenantKey body => (deployment.chat s tenantKey body).2
  | .deliver d => { s with runtime := deployment.worker.deliver s.runtime d }
  | .tick elapsed =>
      { s with resolver := { s.resolver with now := s.resolver.now + elapsed } }
  | .restart =>
      { s with
        resolver := deployment.freshResolver s.resolver.now
        threads := fun _ => {} }

def initial : ChatSystem where
  resolver := deployment.freshResolver 0
  threads := fun _ => {}
  runtime := emptyRuntime

def applyAll (s : ChatSystem) (events : List ChatEvent) : ChatSystem :=
  events.foldl deployment.apply s

end ChatDeployment

end Iara.Api
