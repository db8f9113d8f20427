import Iara.Eligibility.Decision
import Iara.Lib.Interleaving
import Iara.Persistence.Receipts
import Iara.Workers.JobConsumer

/-!
# The webhook endpoint

`receive_chatwoot_webhook` from the normalized event on, statement by statement,
for any number of deliveries at once.  A delivery's transaction sees what is
committed (read committed); a row it has written but not committed makes another
transaction that writes the same key wait.  The job is published by a background
task after the response.
-/

namespace Iara.Api

open Iara.Lib Iara.Persistence Iara.Eligibility

/-- A request whose tenant is resolved and whose payload is normalized, with what
the job takes from the raw payload. -/
structure WebhookRequest where
  tenant : TenantContext
  event : NormalizedChatwootEvent
  attachments : List Graph.Attachment := []
  senderType : String := "contact"
  senderRef : String := ""
  deriving DecidableEq, Repr

namespace WebhookRequest

variable (request : WebhookRequest)

/-- What `event_receipts` knows the event by. -/
def eventKey : EventKey := (request.tenant.tenantId, request.event.idempotencyKey)

def conversationKey : ConversationKey := (request.tenant.tenantId, request.event.conversationId)

def receipt : EventReceipt where
  tenantId := request.tenant.tenantId
  idempotencyKey := request.event.idempotencyKey
  rawHash := request.event.rawHash
  correlationId := request.event.correlationId

def window (lockedUntil : Nat) : ConversationDebounce where
  tenantId := request.tenant.tenantId
  conversationId := request.event.conversationId
  lockedUntil := lockedUntil

/-- The `ConversationJob` of `_queue_processing_job`, as a worker reads it. -/
def job : Workers.JobPayload where
  tenantId := formatUuid request.tenant.tenantId
  conversationId := request.event.conversationId
  correlationId := some request.event.correlationId
  idempotencyKey := request.event.idempotencyKey
  eventRef := request.event.rawHash
  content := request.event.contentText
  attachments := request.attachments
  senderType := some request.senderType
  senderRef := some request.senderRef

end WebhookRequest

/-- A clock reading is taken when the statement before has returned. -/
inductive Phase where
  | received
  | notDuplicate (now : Nat)
  | eligible
  | recorded (inserted : Bool) (now : Nat)
  | debounced (inserted : Bool) (lockedUntil : Nat)
  | accepted
  | rejected (decision : EligibilityDecision)
  | published
  | unpublished
  | abandoned
  deriving DecidableEq, Repr

/-- Whether the delivery is inside the `try` around the database part. -/
def Phase.inDatabase : Phase → Bool
  | .received => true
  | .notDuplicate _ => true
  | .eligible => true
  | .recorded _ _ => true
  | .debounced _ _ => true
  | _ => false

/-- Whether the delivery has come to its end. -/
def Phase.finished : Phase → Bool
  | .rejected _ => true
  | .published => true
  | .unpublished => true
  | .abandoned => true
  | _ => false

structure Delivery where
  request : WebhookRequest
  phase : Phase := .received
  deriving DecidableEq, Repr

/-- A published job, with the event it was published for. -/
structure PublishedJob where
  eventKey : EventKey
  payload : Workers.JobPayload
  deriving DecidableEq, Repr

/-- The committed tables, the keys with an uncommitted row, and the broker. -/
structure Shared where
  now : Nat := 0
  receipts : EventReceipts := .empty
  windows : DebounceWindows := .empty
  receiptLocks : List EventKey := []
  windowLocks : List ConversationKey := []
  jobs : List PublishedJob := []

/-- What the background task meets: no connection, an exception before or after
the broker has the message, or none. -/
inductive Broker where
  | takes
  | takesThenRaises
  | raises
  | missing
  deriving DecidableEq, Repr

def Broker.took : Broker → Bool
  | .takes => true
  | .takesThenRaises => true
  | _ => false

inductive DeliveryStep where
  | selectReceipt
  | selectDebounce
  | record
  | setDebounce
  | commit
  /-- There is no session factory, or the database part raised. -/
  | databaseFails
  | publish (broker : Broker)
  /-- The process ends. -/
  | abandon
  deriving DecidableEq, Repr

inductive Event where
  | deliver (request : WebhookRequest)
  | tick (elapsed : Nat)
  deriving DecidableEq, Repr

structure WebhookRouter where
  sha256 : String → String
  debounceSeconds : Nat := 3
  debounceSeconds_le : debounceSeconds ≤ 3600 := by decide

namespace WebhookRouter

variable (router : WebhookRouter)

def checker (request : WebhookRequest) : EligibilityChecker where
  sha256 := router.sha256
  tenant := request.tenant

/-- The rules that need no database. -/
def checkEvent (request : WebhookRequest) : Option EligibilityDecision :=
  (router.checker request).checkEvent request.event

/-- Up to the `SELECT` of `is_duplicate`. -/
def selectReceipt (s : Shared) (request : WebhookRequest) : Phase :=
  match router.checkEvent request with
  | some decision => .rejected decision
  | none =>
      if IdempotencyRepository.isDuplicate request.eventKey s.receipts then
        .rejected EligibilityChecker.duplicateEvent
      else .notDuplicate s.now

def selectDebounce (s : Shared) (request : WebhookRequest) (now : Nat) : Phase :=
  if DebounceRepository.isDebouncing now request.conversationKey s.windows then
    .rejected EligibilityChecker.debounceActive
  else .eligible

/-- `record` inserts, or finds the key and does nothing; what it returns is not
looked at. -/
def recordReceipt (s : Shared) (d : Delivery) : Delivery × Shared :=
  if (IdempotencyRepository.record d.request.receipt s.receipts).1 then
    ({ d with phase := .recorded true s.now },
      { s with receiptLocks := d.request.eventKey :: s.receiptLocks })
  else ({ d with phase := .recorded false s.now }, s)

def releaseLocks (s : Shared) (d : Delivery) : Shared :=
  match d.phase with
  | .recorded true _ => { s with receiptLocks := s.receiptLocks.erase d.request.eventKey }
  | .debounced inserted _ =>
      { s with
        receiptLocks :=
          if inserted then s.receiptLocks.erase d.request.eventKey else s.receiptLocks
        windowLocks := s.windowLocks.erase d.request.conversationKey }
  | _ => s

def commit (s : Shared) (d : Delivery) (inserted : Bool) (lockedUntil : Nat) : Shared :=
  { releaseLocks s d with
    receipts :=
      if inserted then (IdempotencyRepository.record d.request.receipt s.receipts).2
      else s.receipts
    windows := DebounceRepository.setDebounce (d.request.window lockedUntil) s.windows }

/-- The check without a database, after the transaction is gone. -/
def degrade (s : Shared) (d : Delivery) : Delivery × Shared :=
  ({ d with
      phase := match router.checkEvent d.request with
        | some decision => .rejected decision
        | none => .accepted },
    releaseLocks s d)

def queueProcessingJob (s : Shared) (d : Delivery) (broker : Broker) : Delivery × Shared :=
  if broker.took then
    ({ d with phase := .published },
      { s with jobs := s.jobs ++ [{ eventKey := d.request.eventKey, payload := d.request.job }] })
  else ({ d with phase := .unpublished }, s)

def act (s : Shared) (d : Delivery) : DeliveryStep → Option (Delivery × Shared)
  | .selectReceipt =>
      match d.phase with
      | .received => some ({ d with phase := router.selectReceipt s d.request }, s)
      | _ => none
  | .selectDebounce =>
      match d.phase with
      | .notDuplicate now => some ({ d with phase := selectDebounce s d.request now }, s)
      | _ => none
  | .record =>
      match d.phase with
      | .eligible =>
          if d.request.eventKey ∈ s.receiptLocks then none else some (recordReceipt s d)
      | _ => none
  | .setDebounce =>
      match d.phase with
      | .recorded inserted now =>
          if d.request.conversationKey ∈ s.windowLocks then none
          else
            some ({ d with
                phase := .debounced inserted (now + timedelta router.debounceSeconds) },
              { s with windowLocks := d.request.conversationKey :: s.windowLocks })
      | _ => none
  | .commit =>
      match d.phase with
      | .debounced inserted lockedUntil =>
          some ({ d with phase := .accepted }, commit s d inserted lockedUntil)
      | _ => none
  | .databaseFails => if d.phase.inDatabase then some (router.degrade s d) else none
  | .publish broker =>
      match d.phase with
      | .accepted => some (queueProcessingJob s d broker)
      | _ => none
  | .abandon =>
      if d.phase.finished then none else some ({ d with phase := .abandoned }, releaseLocks s d)

def environment (s : Shared) : Event → Option (List Delivery × Shared)
  | .deliver request => some ([{ request := request }], s)
  | .tick elapsed => some ([], { s with now := s.now + elapsed })

abbrev State := Interleaving.Config Shared Delivery

abbrev Action := Interleaving.Move DeliveryStep Event

def system : Interleaving Shared Delivery DeliveryStep Event where
  act := router.act
  environment := environment

def machine : Machine State Action := router.system.machine

end WebhookRouter

end Iara.Api
