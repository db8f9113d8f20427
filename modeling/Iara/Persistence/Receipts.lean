import Iara.Persistence.Leases

/-!
# Event receipts and debounce windows

`IdempotencyRepository` over `event_receipts` with its constraint
`uq_event_receipt`, and `DebounceRepository` over `conversation_debounce` with
`uq_debounce_conversation`.
-/

namespace Iara.Persistence

open Iara.Lib

/-- A row of `event_receipts`. -/
structure EventReceipt where
  tenantId : Uuid
  idempotencyKey : String
  rawHash : String
  correlationId : String
  status : String := "received"
  deriving DecidableEq, Repr

abbrev EventKey := Uuid × String

/-- `uq_event_receipt`. -/
def EventReceipt.key (r : EventReceipt) : EventKey := (r.tenantId, r.idempotencyKey)

abbrev EventReceipts := Table EventReceipt EventKey EventReceipt.key

namespace IdempotencyRepository

def isDuplicate (key : EventKey) (receipts : EventReceipts) : Bool := receipts.hasKey key

/-- `record`, with the number of rows it inserts compared to zero. -/
def record (receipt : EventReceipt) (receipts : EventReceipts) : Bool × EventReceipts :=
  (!receipts.hasKey receipt.key, receipts.insertOrIgnore receipt)

end IdempotencyRepository

/-- A row of `conversation_debounce`. -/
structure ConversationDebounce where
  tenantId : Uuid
  conversationId : String
  lockedUntil : Nat
  deriving DecidableEq, Repr

/-- `uq_debounce_conversation`. -/
def ConversationDebounce.key (r : ConversationDebounce) : ConversationKey :=
  (r.tenantId, r.conversationId)

abbrev DebounceWindows := Table ConversationDebounce ConversationKey ConversationDebounce.key

namespace DebounceRepository

/-- `locked_until > now`. -/
def isDebouncing (now : Nat) (key : ConversationKey) (windows : DebounceWindows) : Bool :=
  (windows.find key).any fun r => now < r.lockedUntil

def extend (lockedUntil : Nat) (r : ConversationDebounce) : ConversationDebounce :=
  { r with lockedUntil := lockedUntil }

theorem key_extend (lockedUntil : Nat) (r : ConversationDebounce) :
    (extend lockedUntil r).key = r.key := rfl

/-- `set_debounce`, whose upsert has no `WHERE`. -/
def setDebounce (window : ConversationDebounce) (windows : DebounceWindows) : DebounceWindows :=
  (Table.upsert windows window (fun _ => true) (extend window.lockedUntil)
    (key_extend window.lockedUntil)).getD windows

end DebounceRepository

end Iara.Persistence
