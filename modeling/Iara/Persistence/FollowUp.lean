import Iara.Persistence.Outbox

/-!
# The follow-up queue

`FollowUpRepository.enqueue_raw` over the `follow_up_queue` table, whose
constraint `uq_follow_up_idempotency` is on the idempotency key alone.
-/

namespace Iara.Persistence

open Iara.Lib

inductive FollowUpStatus where
  | pending
  | sent
  | skipped
  | failed
  deriving DecidableEq, Repr

/-- What `build_followup_schedule_payload` returns for a send that is not suppressed. -/
structure FollowUpPayload where
  tenantId : String
  conversationId : String
  contactRef : String
  messageRef : String
  messageLength : Nat
  reasonRef : String
  triggerAt : Int
  triggerAtIso : String
  idempotencyKey : String
  correlationId : String
  maxAttempts : Int
  deriving DecidableEq, Repr

structure FollowUpQueueItem where
  id : String
  tenantId : Uuid
  conversationId : String
  contactRef : String
  messageRef : String
  messageLength : Nat
  reasonRef : String
  triggerAt : Int
  status : FollowUpStatus := .pending
  attemptCount : Nat := 0
  maxAttempts : Int
  optedOut : Bool := false
  correlationId : String
  idempotencyKey : String
  deriving DecidableEq, Repr

abbrev FollowUpQueue := Table FollowUpQueueItem String FollowUpQueueItem.idempotencyKey

namespace FollowUpRepository

def item (itemId : String) (tenant : Uuid) (payload : FollowUpPayload) : FollowUpQueueItem where
  id := itemId
  tenantId := tenant
  conversationId := payload.conversationId
  contactRef := payload.contactRef
  messageRef := payload.messageRef
  messageLength := payload.messageLength
  reasonRef := payload.reasonRef
  triggerAt := payload.triggerAt
  maxAttempts := payload.maxAttempts
  correlationId := payload.correlationId
  idempotencyKey := payload.idempotencyKey

/-- `enqueue_raw` and the commit of its session; `itemId` is the UUID drawn for
the row. -/
def enqueueRaw (session : Transaction) (itemId : String) (payload : FollowUpPayload)
    (queue : FollowUpQueue) : Except String Unit × FollowUpQueue :=
  match parseUuid payload.tenantId with
  | none => (.error "ValueError", queue)
  | some tenant =>
      let written := queue.insertOrIgnore (item itemId tenant payload)
      match session with
      | .commits => (.ok (), written)
      | .fails exception => (.error exception, queue)
      | .commitsThenFails exception => (.error exception, written)

end FollowUpRepository

end Iara.Persistence
