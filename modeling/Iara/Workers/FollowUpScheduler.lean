import Iara.Lib.Interleaving
import Iara.Persistence.FollowUpQueue

/-!
# Follow-up schedulers side by side

`FollowUpSchedulerWorker._process_batch` and `_promote_item`, session by session,
for any number of schedulers on one queue and one outbox.  A scheduler works
through the items it fetched, which are copies of the rows as they were then.
-/

namespace Iara.Workers

open Iara.Lib Iara.Persistence

def reengageCapability : String := "followup_reengage_conversation"

/-- `digestUuid` is the UUID of the first 32 digits of the SHA-256 of a text,
`batchSize` is `DEFAULT_BATCH_SIZE`. -/
structure FollowUpScheduler where
  digestUuid : String → String
  batchSize : Nat := 50

namespace FollowUpScheduler

/-! ## One item -/

/-- Whether the item is skipped, for its opt-out or its attempts. -/
def skips (item : FollowUpQueueItem) : Bool :=
  item.optedOut || decide (item.attemptLimit ≤ item.attemptCount)

def providerCommand (scheduler : FollowUpScheduler) (item : FollowUpQueueItem) (newCount : Nat) :
    ProviderCommand where
  commandId :=
    scheduler.digestUuid ("followup:" ++ item.idempotencyKey ++ ":" ++ toString newCount)
  idempotencyKey := item.idempotencyKey ++ ":attempt:" ++ toString newCount
  tenantId := item.tenantId
  provider := "chatwoot"
  accountIdRef := ""
  capabilityName := reengageCapability
  parameters :=
    [("conversation_id", .str item.conversationId), ("message_ref", .str item.messageRef),
      ("message_length", .num item.messageLength), ("reason_ref", .str item.reasonRef),
      ("follow_up_item_id", .str item.id)]
  riskClass := .lowWrite
  correlationId := item.correlationId

/-! ## Schedulers -/

inductive PromotionPhase where
  | sleeping
  | promoting (item : FollowUpQueueItem) (rest : List FollowUpQueueItem)
  | incremented (item : FollowUpQueueItem) (rest : List FollowUpQueueItem) (newCount : Nat)
  | enqueued (item : FollowUpQueueItem) (rest : List FollowUpQueueItem) (newCount : Nat)
  | failed (item : FollowUpQueueItem) (rest : List FollowUpQueueItem)
  | stopped
  deriving DecidableEq, Repr

def nextItem : List FollowUpQueueItem → PromotionPhase
  | [] => .sleeping
  | item :: rest => .promoting item rest

/-- The handler of an exception in the enqueue or in `mark_sent`. -/
def afterFailure (item : FollowUpQueueItem) (rest : List FollowUpQueueItem) (newCount : Nat) :
    PromotionPhase :=
  if item.attemptLimit ≤ newCount then .failed item rest else nextItem rest

inductive PromotionStep where
  | fetch
  | skip (session : Transaction)
  | increment (session : Transaction)
  | enqueue (session : Transaction)
  | markSent (session : Transaction)
  | markFailed (session : Transaction)
  | crash
  deriving DecidableEq, Repr

structure PromotionShared where
  queue : FollowUpQueue
  outbox : Outbox
  now : Nat := 0

variable (scheduler : FollowUpScheduler)

/-- An exception outside the `try` leaves `_process_batch`: the rest of the
batch is dropped. -/
def act (s : PromotionShared) (phase : PromotionPhase) (step : PromotionStep) :
    Option (PromotionPhase × PromotionShared) :=
  match phase, step with
  | .sleeping, .fetch =>
      some (nextItem (FollowUpRepository.fetchDue scheduler.batchSize s.now s.queue), s)
  | .promoting item rest, .skip session =>
      if skips item then
        let queue' := FollowUpRepository.markSkipped item.id s.queue
        some (session.close s { s with queue := queue' } (nextItem rest) .sleeping)
      else none
  | .promoting item rest, .increment session =>
      if skips item then none
      else
        let r := FollowUpRepository.incrementAttempt item.id s.queue
        some (session.close s { s with queue := r.1 } (.incremented item rest r.2) .sleeping)
  | .incremented item rest newCount, .enqueue session =>
      let command := scheduler.providerCommand item newCount
      let outbox' := (OutboxRepository.enqueue s.now command s.outbox).1
      some (session.close s { s with outbox := outbox' } (.enqueued item rest newCount)
        (afterFailure item rest newCount))
  | .enqueued item rest newCount, .markSent session =>
      let queue' := FollowUpRepository.markSent item.id s.queue
      some (session.close s { s with queue := queue' } (nextItem rest)
        (afterFailure item rest newCount))
  | .failed item rest, .markFailed session =>
      let queue' := FollowUpRepository.markFailed item.id s.queue
      some (session.close s { s with queue := queue' } (nextItem rest) .sleeping)
  | .stopped, _ => none
  | _, .crash => some (.stopped, s)
  | _, _ => none

inductive PromotionEvent where
  | tick (elapsed : Nat)
  | schedule (itemId : String) (payload : FollowUpPayload)
  | enqueue (command : ProviderCommand)
  | start

/-- `id` is the primary key of the queue.  The other producers of outbox rows
never use the capability of the schedulers. -/
def environment (s : PromotionShared) :
    PromotionEvent → Option (List PromotionPhase × PromotionShared)
  | .tick elapsed => some ([], { s with now := s.now + elapsed })
  | .schedule itemId payload =>
      if s.queue.rows.any (fun r => r.id = itemId) then none
      else
        let queue' := (FollowUpRepository.enqueueRaw .commits itemId payload s.queue).2
        some ([], { s with queue := queue' })
  | .enqueue command =>
      if command.capabilityName = reengageCapability then none
      else
        let outbox' := (OutboxRepository.enqueue s.now command s.outbox).1
        some ([], { s with outbox := outbox' })
  | .start => some ([.sleeping], s)

def schedulers : Interleaving PromotionShared PromotionPhase PromotionStep PromotionEvent where
  act := scheduler.act
  environment := environment

/-! ## Opt-outs -/

/-- The environment, and calls of `mark_opted_out` with the commits of their
sessions. -/
inductive FollowUpEvent where
  | queue (e : PromotionEvent)
  | optOut (conversationId tenantId : String) (session : Transaction)

def optOutEnvironment (s : PromotionShared) :
    FollowUpEvent → Option (List PromotionPhase × PromotionShared)
  | .queue e => environment s e
  | .optOut conversationId tenantId session =>
      match FollowUpRepository.markOptedOut conversationId tenantId s.queue with
      | .error _ => some ([], s)
      | .ok (_, queue') => some ([], (session.close s { s with queue := queue' } () ()).2)

def schedulersWithOptOuts :
    Interleaving PromotionShared PromotionPhase PromotionStep FollowUpEvent where
  act := scheduler.act
  environment := optOutEnvironment

abbrev PromotionConfig := Interleaving.Config PromotionShared PromotionPhase

abbrev PromotionMove := Interleaving.Move PromotionStep PromotionEvent

end FollowUpScheduler

end Iara.Workers
