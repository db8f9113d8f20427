import Iara.Lib.Interleaving
import Iara.Persistence.Leases
import Iara.Workers.JobConsumer

/-!
# Workers side by side

`JobConsumerWorker._handle_job` under `MessageConsumer.consume`, step by step,
for any number of deliveries at once: the statements of `acquire`, the graph run
with one enqueue at a time, `release`, and what the broker is told in the end.
The deliveries share the database, the checkpoints and the queue; a tick of the
clock, a failing statement, an exception or the end of a worker process can come
between any two steps.
-/

namespace Iara.Workers

open Iara.Lib Iara.Persistence Iara.Graph

namespace JobPayload

/-- What the leases are keyed by; `none` where `uuid.UUID(tenant_id)` raises. -/
def leaseKey (payload : JobPayload) : Option ConversationKey :=
  (parseUuid payload.tenantId).map fun tenant => (tenant, payload.conversationId)

/-- The conversation of a job: spellings of one tenant id count as one. -/
def conversation (payload : JobPayload) : (Uuid ⊕ String) × String :=
  (((parseUuid payload.tenantId).map Sum.inl).getD (.inr payload.tenantId), payload.conversationId)

end JobPayload

structure Message where
  id : Nat
  payload : JobPayload
  deriving DecidableEq, Repr

/-- What becomes of a message: the handler returned, it raised, or the delivery
was cut short. -/
inductive Outcome where
  | acked
  | deadLettered
  | requeued
  deriving DecidableEq, Repr

/-- A graph run between two supersteps, or between two calls of a tool executor
that has got some results. -/
structure GraphRun where
  node : Node
  state : GraphState
  limit : Nat
  results : List ToolResult := []
  deriving DecidableEq, Repr

inductive Phase where
  | received
  | leasing
  | selected (workerId : String) (startedAt : Nat) (own : Bool)
  | ready
  | running (run : GraphRun)
  | releasing (outcome : Outcome)
  | settling (outcome : Outcome)
  | settled (outcome : Outcome)
  deriving DecidableEq, Repr

/-- One delivery in the hands of a worker.  `drawnToken` is the UUID its
`acquire` drew, `fencingToken` the variable of `_handle_job`, and `leased` tells
whether the token reached the table. -/
structure Handler where
  message : Message
  phase : Phase := .received
  drawnToken : Option String := none
  fencingToken : Option String := none
  leased : Bool := false
  conflicted : Bool := false
  ranGraph : Bool := false
  deriving DecidableEq, Repr

structure Shared where
  rt : Runtime
  leases : LeaseTable
  queue : List Message
  published : Nat

inductive HandlerStep where
  | start
  /-- There is no database, or the lease block raised before it had a token. -/
  | skipLease
  | select
  | upsert (session : Transaction)
  | invoke (saved : Bool)
  | toolCall
  | superstep (saved : Bool)
  | raise
  | cancel
  | release (session : Transaction)
  | settle
  | crash
  deriving DecidableEq, Repr

inductive Event where
  | publish (payload : JobPayload)
  | deliver (position : Nat)
  | tick (elapsed : Nat)
  deriving DecidableEq, Repr

/-- The workers of a deployment: one program and one lease setting. -/
structure Cluster where
  worker : JobConsumerWorker
  leaseTtlSeconds : Nat := 300
  le_ttl : 10 ≤ leaseTtlSeconds := by decide
  ttl_le : leaseTtlSeconds ≤ 7200 := by decide

namespace Cluster

variable (cluster : Cluster)

def text : PyText := cluster.worker.deps.filters.text

def repository (workerId : String) : LeaseRepository where
  leaseTtlSeconds := cluster.leaseTtlSeconds
  workerId := workerId
  le_ttl := cluster.le_ttl
  ttl_le := cluster.ttl_le

def checkpoint (saved : Bool) (rt : Runtime) (payload : JobPayload) (state : GraphState) :
    Runtime :=
  if saved then { rt with checkpoints := Function.update rt.checkpoints payload.threadId state }
  else rt

/-- Where the first statement of `acquire` leads: after a conflict the handler
returns, and the consumer acknowledges. -/
def afterSelect (workerId : String) (now : Nat) : LeaseRepository.Selected → Phase
  | .conflict _ => .settling .acked
  | .own => .selected workerId now true
  | .free => .selected workerId now false

def selected (s : Shared) (key : ConversationKey) : LeaseRepository.Selected :=
  (cluster.repository (cluster.worker.deps.uuids.gen s.rt.world.draws)).select cluster.text
    s.rt.world.now key s.leases

def select (s : Shared) (h : Handler) (key : ConversationKey) : Handler × Shared :=
  let world := s.rt.world
  let uuids := cluster.worker.deps.uuids
  ({ h with
      phase := afterSelect (uuids.gen world.draws) world.now (cluster.selected s key)
      drawnToken := some (uuids.gen (world.draws + 1))
      conflicted := h.conflicted || (cluster.selected s key).isConflict },
    { s with rt := { s.rt with world := world.draw.draw } })

/-- The statement that `acquire` writes with. -/
def written (s : Shared) (key : ConversationKey) (repo : LeaseRepository) (startedAt : Nat)
    (own : Bool) (token : String) : Except LeaseConflictError LeaseTable :=
  if own then .ok (repo.refresh token startedAt key s.leases)
  else repo.upsert cluster.text token startedAt key s.leases

/-- The second statement of `acquire`, and the commit.  A commit that raises
leaves `fencing_token` assigned. -/
def write (s : Shared) (h : Handler) (key : ConversationKey) (repo : LeaseRepository)
    (startedAt : Nat) (own : Bool) (token : String) (session : Transaction) : Handler × Shared :=
  match cluster.written s key repo startedAt own token, session with
  | .error _, _ => ({ h with phase := .settling .acked, conflicted := true }, s)
  | .ok _, .fails _ => ({ h with phase := .ready, fencingToken := some token }, s)
  | .ok leases, _ =>
      ({ h with phase := .ready, fencingToken := some token, leased := true },
        { s with leases := leases })

/-- `graph.ainvoke` up to its first node. -/
def invoke (saved : Bool) (s : Shared) (h : Handler) : Handler × Shared :=
  let payload := h.message.payload
  let state := cluster.worker.startState payload s.rt
  let run : GraphRun :=
    { node := .eligibility, state := state, limit := cluster.worker.langGraph.recursionLimit }
  let rt : Runtime := { s.rt with world := JobConsumerWorker.startWorld s.rt }
  ({ h with phase := .running run, ranGraph := true },
    { s with rt := checkpoint saved rt payload state })

def pending (run : GraphRun) : List PendingToolCall := run.state.toolCallsPending.getD []

/-- What the tool executor returns once its calls are made. -/
def toolUpdate (run : GraphRun) : GraphState :=
  if (pending run).isEmpty then { stepCount := some (run.state.steps + 1) }
  else
    { toolResults := some run.results
      toolCallsPending := some []
      messages := some (toolMessages run.results)
      stepCount := some (run.state.steps + 1) }

def toolCall (s : Shared) (h : Handler) (run : GraphRun) (tc : PendingToolCall) :
    Handler × Shared :=
  let deps := cluster.worker.deps
  let r := executeToolCall deps.uuids deps.gateway run.state tc s.rt.world
  ({ h with phase := .running { run with results := run.results ++ [r.1] } },
    { s with rt := { s.rt with world := r.2 } })

/-- Where a run goes from a node. -/
def continueRun (run : GraphRun) (state : GraphState) : Phase :=
  match route run.node state with
  | none => .releasing .deadLettered
  | some .finish => .releasing .acked
  | some (.goto n) =>
      if run.limit ≤ 1 then .releasing .deadLettered
      else .running { node := n, state := state, limit := run.limit - 1 }

def superstep (saved : Bool) (s : Shared) (h : Handler) (run : GraphRun) : Handler × Shared :=
  let r :=
    if run.node = .toolExecutor then (toolUpdate run, s.rt.world)
    else runNode cluster.worker.deps.deps run.node run.state s.rt.world
  let state := run.state.merge r.1
  ({ h with phase := continueRun run state },
    { s with rt := checkpoint saved { s.rt with world := r.2 } h.message.payload state })

def release (s : Shared) (key : ConversationKey) (token : String) (session : Transaction) :
    Shared :=
  match session with
  | .fails _ => s
  | _ => { s with leases := LeaseRepository.release token s.rt.world.now key s.leases }

def settle (s : Shared) (h : Handler) (outcome : Outcome) : Handler × Shared :=
  ({ h with phase := .settled outcome },
    if outcome = .requeued then { s with queue := s.queue ++ [h.message] } else s)

def act (s : Shared) (h : Handler) : HandlerStep → Option (Handler × Shared)
  | .start =>
      match h.phase with
      | .received =>
          if h.message.payload.complete then some ({ h with phase := .leasing }, s)
          else some ({ h with phase := .settling .acked }, s)
      | _ => none
  | .skipLease =>
      match h.phase with
      | .leasing => some ({ h with phase := .ready }, s)
      | .selected _ _ _ => some ({ h with phase := .ready }, s)
      | _ => none
  | .select =>
      match h.phase, h.message.payload.leaseKey with
      | .leasing, some key => some (cluster.select s h key)
      | _, _ => none
  | .upsert session =>
      match h.phase, h.message.payload.leaseKey, h.drawnToken with
      | .selected workerId startedAt own, some key, some token =>
          some (cluster.write s h key (cluster.repository workerId) startedAt own token session)
      | _, _, _ => none
  | .invoke saved =>
      match h.phase with
      | .ready => some (cluster.invoke saved s h)
      | _ => none
  | .toolCall =>
      match h.phase with
      | .running run =>
          if run.node = .toolExecutor then
            ((pending run)[run.results.length]?).map fun tc => cluster.toolCall s h run tc
          else none
      | _ => none
  | .superstep saved =>
      match h.phase with
      | .running run =>
          if run.node = .toolExecutor ∧ run.results.length < (pending run).length then none
          else some (cluster.superstep saved s h run)
      | _ => none
  | .raise =>
      match h.phase with
      | .running _ => some ({ h with phase := .releasing .deadLettered }, s)
      | _ => none
  | .cancel =>
      match h.phase with
      | .running _ => some ({ h with phase := .releasing .requeued }, s)
      | _ => none
  | .release session =>
      match h.phase with
      | .releasing outcome =>
          match h.fencingToken, h.message.payload.leaseKey with
          | some token, some key =>
              some ({ h with phase := .settling outcome }, release s key token session)
          | _, _ => some ({ h with phase := .settling outcome }, s)
      | _ => none
  | .settle =>
      match h.phase with
      | .settling outcome => some (settle s h outcome)
      | _ => none
  | .crash =>
      match h.phase with
      | .settled _ => none
      | _ => some (settle s h .requeued)

def environment (s : Shared) : Event → Option (List Handler × Shared)
  | .publish payload =>
      some ([],
        { s with
          queue := s.queue ++ [⟨s.published, payload⟩]
          published := s.published + 1 })
  | .deliver position =>
      match s.queue[position]? with
      | some message =>
          some ([{ message := message }], { s with queue := s.queue.eraseIdx position })
      | none => none
  | .tick elapsed =>
      some ([], { s with
        rt := { s.rt with world := { s.rt.world with now := s.rt.world.now + elapsed } } })

abbrev State := Interleaving.Config Shared Handler

abbrev Action := Interleaving.Move HandlerStep Event

def system : Interleaving Shared Handler HandlerStep Event where
  act := cluster.act
  environment := environment

def machine : Machine State Action := cluster.system.machine

/-- Before the first delivery. -/
def initially (rt : Runtime) (leases : LeaseTable) : State where
  shared := { rt := rt, leases := leases, queue := [], published := 0 }

end Cluster

end Iara.Workers
