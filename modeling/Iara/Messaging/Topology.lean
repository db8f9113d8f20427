import Iara.Lib.AmqpBroker
import Iara.Lib.Interleaving
import Iara.Messaging.Publisher

/-!
# The queues of the jobs

`declare_topology`, statement by statement, and the clients of the broker: the background
tasks of the webhook, which publish one job each, and the workers, which consume them.  Every
client declares the topology first.
-/

namespace Iara.Messaging

open Iara.Lib Iara.Lib.Amqp

def exchangeDlx : String := "iara.dlx"

def exchangeRetry : String := "iara.retry"

def queueConversationJobs : String := "iara.jobs.conversation"

def queueDeadLetters : String := "iara.jobs.dead"

def queueRetryDelay : String := "iara.jobs.retry.delay"

/-- Bound without a routing key, where `aio_pika` takes the queue's name for one: a fanout exchange
looks at none. -/
def dlxBinding : Binding where
  exchange := exchangeDlx
  queue := queueDeadLetters

def retryBinding : Binding where
  exchange := exchangeRetry
  queue := queueRetryDelay
  routingKey := "#"

def jobsBinding : Binding where
  exchange := exchangeJobs
  queue := queueConversationJobs
  routingKey := routingConversationJob

/-- The statements of `RabbitMQTopology.declare`, in their order. -/
def declaration : List Statement :=
  [.exchange exchangeDlx .fanout,
    .exchange exchangeJobs .topic,
    .exchange exchangeRetry .topic,
    .queue queueDeadLetters {},
    .bind dlxBinding,
    .queue queueRetryDelay { messageTtl := some 30000, deadLetterExchange := some exchangeJobs },
    .bind retryBinding,
    .queue queueConversationJobs { deadLetterExchange := some exchangeDlx },
    .bind jobsBinding]

/-- A channel to the broker.  A background task has a job to publish, a worker has none. -/
structure Client (μ : Type) where
  channel : Nat
  job : Option μ
  declared : Nat := 0
  /-- A statement was refused, which ends the channel. -/
  refused : Bool := false
  closed : Bool := false
  deriving DecidableEq, Repr

structure Shared (μ : Type) where
  broker : Broker μ := {}
  channels : Nat := 0
  published : List μ := []

inductive ClientStep where
  | declare
  | publish
  | deliver (i : Nat)
  | ack (i : Nat)
  | nack (i : Nat)
  /-- `message.process(requeue=True)` of a cancelled handler. -/
  | requeue (i : Nat)
  | close
  deriving DecidableEq, Repr

inductive Event (μ : Type) where
  | connect (job : Option μ)
  | expire (i : Nat)
  deriving DecidableEq, Repr

namespace Client

variable {μ : Type}

def ready (client : Client μ) : Bool :=
  !client.refused && !client.closed && client.declared = declaration.length

/-- The delivery is one of the channel's own. -/
def holds (client : Client μ) (s : Shared μ) (i : Nat) : Bool :=
  ((s.broker.unacked[i]?).map Prod.fst) = some client.channel

end Client

/-- The clients of a broker. -/
structure JobQueues where
  prefetchCount : Nat := 10

namespace JobQueues

variable (queues : JobQueues) {μ : Type}

/-- The number of deliveries the channel has not settled. -/
def outstanding (s : Shared μ) (client : Client μ) : Nat :=
  s.broker.unacked.countP fun held => held.1 = client.channel

/-- An action of the broker on behalf of a client. -/
def perform (s : Shared μ) (client : Client μ) (a : Amqp.Action μ) :
    Option (Client μ × Shared μ) :=
  (s.broker.step a).map fun broker => (client, { s with broker := broker })

def act (s : Shared μ) (client : Client μ) : ClientStep → Option (Client μ × Shared μ)
  | .declare =>
      if client.refused || client.closed then none
      else
        (declaration[client.declared]?).map fun statement =>
          match s.broker.step (.declare statement) with
          | some broker =>
              ({ client with declared := client.declared + 1 }, { s with broker := broker })
          | none => ({ client with refused := true }, s)
  | .publish =>
      match client.job with
      | none => none
      | some job =>
          if client.ready then
            (s.broker.step (.publish exchangeJobs routingConversationJob job)).map fun broker =>
              ({ client with closed := true },
                { s with broker := broker, published := s.published ++ [job] })
          else none
  | .deliver i =>
      if client.ready && client.job.isNone &&
          ((s.broker.ready[i]?).map Entry.queue) = some queueConversationJobs &&
          outstanding s client < queues.prefetchCount then
        perform s client (.deliver client.channel i)
      else none
  | .ack i =>
      if client.ready && client.holds s i then perform s client (.ack i) else none
  | .nack i =>
      if client.ready && client.holds s i then perform s client (.reject i false) else none
  | .requeue i =>
      if client.ready && client.holds s i then perform s client (.reject i true) else none
  | .close =>
      if client.closed then none
      else perform s { client with closed := true } (.close client.channel)

def environment (s : Shared μ) : Event μ → Option (List (Client μ) × Shared μ)
  | .connect job =>
      some ([{ channel := s.channels, job := job }], { s with channels := s.channels + 1 })
  | .expire i => (s.broker.step (.expire i)).map fun broker => ([], { s with broker := broker })

abbrev State (μ : Type) := Interleaving.Config (Shared μ) (Client μ)

def system : Interleaving (Shared μ) (Client μ) ClientStep (Event μ) where
  act := queues.act
  environment := environment

def machine : Machine (State μ) (Interleaving.Move ClientStep (Event μ)) := queues.system.machine

end JobQueues

end Iara.Messaging
