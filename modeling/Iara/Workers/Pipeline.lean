import Iara.Api.WebhookSteps
import Iara.Graph.Production
import Iara.Workers.Cluster
import Iara.Workers.PromotionSteps
import Iara.Workers.Reminders
import Iara.Workers.Wiring

/-!
# From the webhook to the provider

The processes of a deployment over one database and one broker: the webhook
endpoint, whose jobs go to the queue, and the three workers that `workers.main`
starts, in any number of processes.  A step of the whole is a step of one of
them, on its part of the state.
-/

namespace Iara.Workers

open Iara.Lib Iara.Persistence Iara.Graph Iara.Provider

/-- `tenantId` and `accountIdRef` are the arguments of the registry's
constructor. -/
structure Pipeline where
  router : Api.WebhookRouter
  cluster : Cluster
  settings : ProductionSettings
  built : settings.deps = .ok cluster.worker.deps
  workerSettings : WorkerSettings
  tenantId : String
  accountIdRef : String
  adapters : List (String × ProviderAdapter)
  wired : workerSettings.wire (some tenantId) (some accountIdRef) = .ok adapters
  hook : ReminderHook
  scheduler : FollowUpScheduler

namespace Pipeline

variable (pipeline : Pipeline)

def drainer : OutboxDrainer := pipeline.workerSettings.outboxDrainer pipeline.adapters

/-! ## The state and its parts -/

/-- `applied` lists what the provider carried out, each call with the key of its
row. -/
structure State where
  webhooks : Api.WebhookRouter.State := { shared := {} }
  workers : Cluster.State
  drainers : List OutboxDrainer.DrainPhase := []
  schedulers : List FollowUpScheduler.PromotionPhase := []
  applied : List ((Uuid × String) × ProviderCall) := []

namespace State

variable (s : State)

def world : World := s.workers.shared.rt.world

def withWorld (w : World) : State :=
  { s with
    workers :=
      { s.workers with
        shared := { s.workers.shared with rt := { s.workers.shared.rt with world := w } } } }

def drains : OutboxDrainer.DrainConfig where
  shared :=
    { outbox := s.world.outbox
      now := s.world.now
      applied := s.applied }
  parties := s.drainers

def drained (followUps : FollowUpQueue) (c : OutboxDrainer.DrainConfig) : State :=
  { s.withWorld { s.world with outbox := c.shared.outbox, followUps := followUps } with
    drainers := c.parties
    applied := c.shared.applied }

def promotions : FollowUpScheduler.PromotionConfig where
  shared :=
    { queue := s.world.followUps
      outbox := s.world.outbox
      now := s.world.now }
  parties := s.schedulers

def promoted (c : FollowUpScheduler.PromotionConfig) : State :=
  { s.withWorld { s.world with followUps := c.shared.queue, outbox := c.shared.outbox } with
    schedulers := c.parties }

end State

/-! ## Steps -/

/-- The broker takes a job. -/
def publish (s : Shared) (job : Api.PublishedJob) : Shared :=
  { s with
    queue := s.queue ++ [⟨s.published, job.payload⟩]
    published := s.published + 1 }

/-- The jobs of a webhook step are the new ones among the router's jobs. -/
def published (s : State) (webhooks : Api.WebhookRouter.State) : State :=
  { s with
    webhooks := webhooks
    workers :=
      { s.workers with
        shared :=
          (webhooks.shared.jobs.drop s.webhooks.shared.jobs.length).foldl publish
            s.workers.shared } }

/-- The session of `_post_schedule_hook`, and the id drawn for its item. -/
structure Reminder where
  session : Transaction := .commits
  itemId : String := ""

/-- The follow-up queue after a drainer's step: the hook runs when an appointment
has been marked as sent. -/
def reminded (s : State) (i : Nat) (a : OutboxDrainer.DrainStep) (reminder : Reminder) :
    FollowUpQueue :=
  match s.drainers[i]?, a with
  | some (.executed row _), .markSent .commits =>
      if row.capabilityName = ReminderHook.scheduleAppointment then
        pipeline.hook.postScheduleHook reminder.session reminder.itemId
          (OutboxDrainer.providerCommand row) s.world.followUps
      else s.world.followUps
  | _, _ => s.world.followUps

inductive Move where
  | webhook (a : Api.WebhookRouter.Action)
  | deliver (position : Nat)
  | worker (i : Nat) (a : HandlerStep)
  | drain (i : Nat) (a : OutboxDrainer.DrainStep) (reminder : Reminder)
  | promote (i : Nat) (a : FollowUpScheduler.PromotionStep)
  | startDrainer
  | startScheduler
  | tick (elapsed : Nat)

def onWorkers (s : State) (a : Cluster.Action) : Option State :=
  (pipeline.cluster.machine.step s.workers a).map fun c => { s with workers := c }

def onDrainers (s : State) (a : OutboxDrainer.DrainMove) (followUps : FollowUpQueue) :
    Option State :=
  (pipeline.drainer.drainers.machine.step s.drains a).map (s.drained followUps)

def onSchedulers (s : State) (a : FollowUpScheduler.PromotionMove) : Option State :=
  (pipeline.scheduler.schedulers.machine.step s.promotions a).map s.promoted

def machine : Machine State Move where
  step s
    | .webhook a => (pipeline.router.machine.step s.webhooks a).map (published s)
    | .deliver position => pipeline.onWorkers s (.environment (.deliver position))
    | .worker i a => pipeline.onWorkers s (.party i a)
    | .drain i a reminder =>
        pipeline.onDrainers s (.party i a) (pipeline.reminded s i a reminder)
    | .promote i a => pipeline.onSchedulers s (.party i a)
    | .startDrainer => pipeline.onDrainers s (.environment .start) s.world.followUps
    | .startScheduler => pipeline.onSchedulers s (.environment .start)
    | .tick elapsed => pipeline.onWorkers s (.environment (.tick elapsed))

section Inversion

variable {pipeline} {s t : State}

/-! A step of a part is a step of its machine, written back. -/

theorem step_webhook {a : Api.WebhookRouter.Action}
    (h : pipeline.machine.step s (.webhook a) = some t) :
    ∃ webhooks, pipeline.router.machine.step s.webhooks a = some webhooks ∧
      published s webhooks = t := Option.map_eq_some_iff.1 h

theorem onWorkers_eq_some {a : Cluster.Action} (h : pipeline.onWorkers s a = some t) :
    ∃ workers, pipeline.cluster.machine.step s.workers a = some workers ∧
      { s with workers := workers } = t := Option.map_eq_some_iff.1 h

theorem onDrainers_eq_some {a : OutboxDrainer.DrainMove} {followUps : FollowUpQueue}
    (h : pipeline.onDrainers s a followUps = some t) :
    ∃ c, pipeline.drainer.drainers.machine.step s.drains a = some c ∧
      s.drained followUps c = t := Option.map_eq_some_iff.1 h

theorem onSchedulers_eq_some {a : FollowUpScheduler.PromotionMove}
    (h : pipeline.onSchedulers s a = some t) :
    ∃ c, pipeline.scheduler.schedulers.machine.step s.promotions a = some c ∧
      s.promoted c = t := Option.map_eq_some_iff.1 h

end Inversion

/-- An empty outbox, an empty follow-up queue and an empty broker; the threads
may have been written to before. -/
def initially (checkpoints : String → GraphState) (leases : LeaseTable) : State where
  workers := Cluster.initially { checkpoints := checkpoints, world := {} } leases

end Pipeline

end Iara.Workers
