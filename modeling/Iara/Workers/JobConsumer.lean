import Iara.Graph.Runs

/-!
# Jobs on a checkpointed thread

`JobConsumerWorker._handle_job` for one delivery after another: the payload, the
input of the graph run, and what a delivery leaves in the checkpoints and in the
world, also when it is interrupted.
-/

namespace Iara.Workers

open Iara.Lib Iara.Persistence Iara.Graph

/-- A job message.  The fields have the defaults `_handle_job` reads missing
keys with; a missing correlation id is replaced by a fresh UUID. -/
structure JobPayload where
  tenantId : String := ""
  conversationId : String := ""
  correlationId : Option String := none
  idempotencyKey : String := ""
  eventRef : String := ""
  content : Option String := none
  attachments : List Attachment := []
  senderType : Option String := some "contact"
  senderRef : Option String := some ""
  deriving DecidableEq, Repr

namespace JobPayload

def threadId (payload : JobPayload) : String := payload.tenantId ++ ":" ++ payload.conversationId

/-- The check behind `job_missing_required_fields`. -/
def complete (payload : JobPayload) : Bool :=
  PyStr.truthy payload.tenantId && PyStr.truthy payload.conversationId

def initialState (payload : JobPayload) (correlationId runId : String) : GraphState :=
  let content := payload.content.getD ""
  { runId := some runId
    tenantId := some payload.tenantId
    conversationId := some payload.conversationId
    correlationId := some correlationId
    eligibilityStatus := some .pending
    mediaProcessed := some false
    contextBuilt := some false
    messages := some (if PyStr.truthy content then [.user content] else [])
    metadata := some
      { idempotencyKey := payload.idempotencyKey
        eventRef := payload.eventRef
        attachments := payload.attachments
        senderType := payload.senderType
        senderRef := payload.senderRef } }

end JobPayload

/-- What the code takes from LangGraph besides the merging of updates: the
default recursion limit, and whether the update of a node whose edge function
returned an undeclared label is still checkpointed. -/
structure LangGraph where
  recursionLimit : Nat := 25
  le_recursionLimit : 25 ≤ recursionLimit := by decide
  commitsFailedRouting : Bool

/-- The checkpoints by thread, and the world. -/
structure Runtime where
  checkpoints : String → GraphState
  world : World

inductive LeaseOutcome where
  | acquired
  | conflict
  | failed
  | noDatabase
  deriving DecidableEq, Repr

/-- Where a delivery stops short: after so many supersteps, with so many tool
calls of the next one made, and with the input and so many supersteps
checkpointed (`none`: not even the input). -/
structure Interruption where
  executed : Nat
  toolCalls : Nat := 0
  persisted : Option Nat
  deriving DecidableEq, Repr

structure Delivery where
  payload : JobPayload
  lease : LeaseOutcome := .acquired
  interruption : Option Interruption := none
  deriving DecidableEq, Repr

/-- A worker process: the graph it runs and the library it runs it on. -/
structure JobConsumerWorker where
  deps : ProductionDeps
  langGraph : LangGraph

namespace JobConsumerWorker

variable (worker : JobConsumerWorker)

def runId (rt : Runtime) : String := worker.deps.uuids.gen (rt.world.draws + 1)

def startState (payload : JobPayload) (rt : Runtime) : GraphState :=
  let correlationId := payload.correlationId.getD (worker.deps.uuids.gen rt.world.draws)
  (rt.checkpoints payload.threadId).merge
    (payload.initialState correlationId (worker.runId rt))

def startWorld (rt : Runtime) : World := rt.world.draw.draw

/-- `graph.ainvoke(initial_state, config)`. -/
def ainvoke (payload : JobPayload) (rt : Runtime) : List GraphVisit × Ending :=
  (buildProductionGraph worker.deps).execute worker.langGraph.recursionLimit .eligibility
    (worker.startState payload rt) (startWorld rt)

/-- The visits of a run whose updates are committed to the thread. -/
def committed (run : List GraphVisit × Ending) : List GraphVisit :=
  match run.2 with
  | .routingError => if worker.langGraph.commitsFailedRouting then run.1 else run.1.dropLast
  | _ => run.1

/-- Whether the delivery gets as far as running the graph. -/
def runsGraph (d : Delivery) : Bool := d.payload.complete && d.lease ≠ .conflict

/-- The visits of the delivery that took place. -/
def executedVisits (rt : Runtime) (d : Delivery) : List GraphVisit :=
  if runsGraph d then
    let run := worker.ainvoke d.payload rt
    match d.interruption with
    | none => run.1
    | some i => run.1.take i.executed
  else []

/-- The visits of the delivery that the checkpoint knows of. -/
def persistedVisits (rt : Runtime) (d : Delivery) : List GraphVisit :=
  if runsGraph d then
    let run := worker.ainvoke d.payload rt
    match d.interruption with
    | none => worker.committed run
    | some i => (worker.committed run).take (min i.executed (i.persisted.getD 0))
  else []

def checkpointAfter (rt : Runtime) (d : Delivery) : GraphState :=
  if runsGraph d && (d.interruption.map fun i => i.persisted.isSome).getD true then
    StateGraph.stateAfter (worker.startState d.payload rt) (worker.persistedVisits rt d)
  else rt.checkpoints d.payload.threadId

/-- The effects of the visit that was interrupted: some of its tool calls. -/
def interruptedWorld (v : GraphVisit) (toolCalls : Nat) : World :=
  if v.node = .toolExecutor then
    (executeToolCalls worker.deps.uuids worker.deps.gateway v.pre
      ((v.pre.toolCallsPending.getD []).take toolCalls) v.worldBefore).2
  else v.worldBefore

def worldAfter (rt : Runtime) (d : Delivery) : World :=
  if runsGraph d then
    let run := worker.ainvoke d.payload rt
    match d.interruption with
    | none => StateGraph.worldAfter (startWorld rt) run.1
    | some i =>
        match run.1[i.executed]? with
        | some v => worker.interruptedWorld v i.toolCalls
        | none => StateGraph.worldAfter (startWorld rt) run.1
  else rt.world

def deliver (rt : Runtime) (d : Delivery) : Runtime where
  checkpoints := Function.update rt.checkpoints d.payload.threadId (worker.checkpointAfter rt d)
  world := worker.worldAfter rt d

/-- A history of deliveries, on any threads. -/
def deliverAll (rt : Runtime) (ds : List Delivery) : Runtime := ds.foldl worker.deliver rt

end JobConsumerWorker

end Iara.Workers
