import Iara.Persistence.Outbox

/-!
# The memory store

`PostgresMemoryStore` over the `agent_memory_items` table, whose constraint
`uq_memory_namespace_key` is on the namespace and the item key.  Instants are
microseconds.
-/

namespace Iara.Memory

open Iara.Lib Iara.Persistence

structure AgentMemoryItem where
  id : String
  tenantId : Uuid
  memoryNamespace : String
  itemKey : String
  content : String
  ttlDays : Int
  consentRef : Option String
  isAnonymized : Bool := false
  createdAt : Int
  updatedAt : Int
  expiresAt : Int
  deriving DecidableEq, Repr

namespace AgentMemoryItem

def key (r : AgentMemoryItem) : String × String := (r.memoryNamespace, r.itemKey)

/-- The assignments of `store` to an existing item. -/
def overwrite (content : String) (consentRef : Option String) (now expiresAt : Int)
    (r : AgentMemoryItem) : AgentMemoryItem :=
  { r with
    content := content
    updatedAt := now
    expiresAt := expiresAt
    consentRef := consentRef }

def anonymized (r : AgentMemoryItem) : AgentMemoryItem :=
  { r with
    content := "[ANONYMIZED]"
    isAnonymized := true }

end AgentMemoryItem

abbrev AgentMemoryItems := Table AgentMemoryItem (String × String) AgentMemoryItem.key

def dayLength : Int := 86400000000

structure PostgresMemoryStore where
  tenantId : String
  memoryNamespace : String
  enabled : Bool
  ttlDays : Int

/-- The operations of a store; `itemId` is the UUID drawn for a new row. -/
inductive MemoryOp where
  | store (itemId key content : String) (consentRef : Option String)
  | retrieve (key : String)
  | listRecent (limit : Nat)
  | purge (key : String)
  | purgeTenant
  | anonymize (key : String)
  deriving DecidableEq, Repr

/-- An operation with the outcome of its session and the time it is called at. -/
structure MemoryCall where
  op : MemoryOp
  session : Transaction := .commits
  now : Int
  deriving DecidableEq, Repr

/-- What an operation returns, or the exception it raises. -/
inductive MemoryAnswer where
  | raised (exception : String)
  | flag (b : Bool)
  | item (r : Option AgentMemoryItem)
  | items (rs : List AgentMemoryItem)
  | count (n : Nat)
  deriving DecidableEq, Repr

/-- The end of a session that has written `after`. -/
def finish (session : Transaction) (answer : MemoryAnswer) (before after : AgentMemoryItems) :
    MemoryAnswer × AgentMemoryItems :=
  match session with
  | .commits => (answer, after)
  | .fails exception => (.raised exception, before)
  | .commitsThenFails exception => (.raised exception, after)

namespace PostgresMemoryStore

/-- The constructor: `namespace or tenant_id`. -/
def init (tenantId : String) (memoryNamespace : Option String) (enabled : Bool) (ttlDays : Int) :
    PostgresMemoryStore where
  tenantId := tenantId
  memoryNamespace :=
    if PyStr.truthyOption memoryNamespace then memoryNamespace.getD "" else tenantId
  enabled := enabled
  ttlDays := ttlDays

variable (s : PostgresMemoryStore)

/-- The `WHERE` clause of every statement but one. -/
def isItem (key : String) (r : AgentMemoryItem) : Bool :=
  r.memoryNamespace = s.memoryNamespace ∧ r.itemKey = key

def newItem (itemId key content : String) (consentRef : Option String) (now : Int)
    (tenant : Uuid) : AgentMemoryItem where
  id := itemId
  tenantId := tenant
  memoryNamespace := s.memoryNamespace
  itemKey := key
  content := content
  ttlDays := s.ttlDays
  consentRef := consentRef
  createdAt := now
  updatedAt := now
  expiresAt := now + dayLength * s.ttlDays

/-- The statements of `store` and `anonymize` that change an item. -/
def overwriteItem (key content : String) (consentRef : Option String) (now : Int)
    (items : AgentMemoryItems) : AgentMemoryItems :=
  items.update (s.isItem key)
    (AgentMemoryItem.overwrite content consentRef now (now + dayLength * s.ttlDays)) fun _ => rfl

def anonymizeItem (key : String) (items : AgentMemoryItems) : AgentMemoryItems :=
  items.update (s.isItem key) AgentMemoryItem.anonymized fun _ => rfl

def store (itemId key content : String) (consentRef : Option String) (session : Transaction)
    (now : Int) (items : AgentMemoryItems) : MemoryAnswer × AgentMemoryItems :=
  if !s.enabled then (.flag false, items)
  else
    match items.find (s.memoryNamespace, key) with
    | some _ =>
        finish session (.flag true) items (s.overwriteItem key content consentRef now items)
    | none =>
        match parseUuid s.tenantId with
        | none => (.raised "ValueError", items)
        | some tenant =>
            finish session (.flag true) items
              (items.insertOrIgnore (s.newItem itemId key content consentRef now tenant))

def retrieve (key : String) (session : Transaction) (now : Int) (items : AgentMemoryItems) :
    MemoryAnswer × AgentMemoryItems :=
  if !s.enabled then (.item none, items)
  else
    finish session (.item ((items.find (s.memoryNamespace, key)).filter fun r => now < r.expiresAt))
      items items

/-- Items with equal times are listed in the order of the table. -/
def recent (limit : Nat) (now : Int) (items : AgentMemoryItems) : List AgentMemoryItem :=
  let live := items.rows.filter fun r =>
    r.memoryNamespace = s.memoryNamespace ∧ now < r.expiresAt ∧ r.isAnonymized = false
  (live.mergeSort fun r r' => r'.updatedAt ≤ r.updatedAt).take limit

def listRecent (limit : Nat) (session : Transaction) (now : Int) (items : AgentMemoryItems) :
    MemoryAnswer × AgentMemoryItems :=
  if !s.enabled then (.items [], items)
  else finish session (.items (s.recent limit now items)) items items

/-- The LGPD operations do not look at `enabled`. -/
def purge (key : String) (session : Transaction) (items : AgentMemoryItems) :
    MemoryAnswer × AgentMemoryItems :=
  finish session (.flag (items.rows.any (s.isItem key))) items (items.delete (s.isItem key))

def purgeTenant (session : Transaction) (items : AgentMemoryItems) :
    MemoryAnswer × AgentMemoryItems :=
  match parseUuid s.tenantId with
  | none => (.raised "ValueError", items)
  | some tenant =>
      let ofTenant (r : AgentMemoryItem) : Bool := r.tenantId = tenant
      finish session (.count (items.rows.countP ofTenant)) items (items.delete ofTenant)

def anonymize (key : String) (session : Transaction) (items : AgentMemoryItems) :
    MemoryAnswer × AgentMemoryItems :=
  finish session (.flag (items.rows.any (s.isItem key))) items (s.anonymizeItem key items)

def call (c : MemoryCall) (items : AgentMemoryItems) : MemoryAnswer × AgentMemoryItems :=
  match c.op with
  | .store itemId key content consentRef =>
      s.store itemId key content consentRef c.session c.now items
  | .retrieve key => s.retrieve key c.session c.now items
  | .listRecent limit => s.listRecent limit c.session c.now items
  | .purge key => s.purge key c.session items
  | .purgeTenant => s.purgeTenant c.session items
  | .anonymize key => s.anonymize key c.session items

end PostgresMemoryStore

def MemoryOp.reads : MemoryOp → Bool
  | retrieve _ => true
  | listRecent _ => true
  | _ => false

end Iara.Memory
