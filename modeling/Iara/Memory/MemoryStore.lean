import Iara.Lib.Agreement
import Iara.Lib.PyDatetime
import Iara.Lib.Varchar
import Iara.Memory.PostgresStore

/-!
# The two memory stores

`MemoryStore` keeps its items in a dictionary.  The operations that it shares with
`PostgresMemoryStore`, and what their caller sees of the answers.  Of the table, what
its columns and keys make of the values of a call.
-/

namespace Iara.Memory

open Iara.Lib Iara.Persistence

/-- The operations that both stores have; `itemId` is the UUID that the Postgres
store draws. -/
inductive ItemOp where
  | store (key content : String) (consentRef : Option String)
  | retrieve (key : String)
  | purge (key : String)
  | anonymize (key : String)
  deriving DecidableEq, Repr

structure ItemCall where
  op : ItemOp
  itemId : String := ""
  now : Int
  deriving DecidableEq, Repr

def ItemOp.key : ItemOp → String
  | store key _ _ => key
  | retrieve key => key
  | purge key => key
  | anonymize key => key

/-- What a caller sees of an item. -/
structure ItemView where
  content : String
  isAnonymized : Bool
  consentRef : Option String
  deriving DecidableEq, Repr

inductive ItemAnswer where
  | raised (exception : String)
  | flag (b : Bool)
  | item (view : Option ItemView)
  deriving DecidableEq, Repr

/-- `now + timedelta(days=ttl_days)` is a datetime. -/
def expiryFits (ttlDays now : Int) : Bool :=
  Datetime.minWall ≤ now + dayLength * ttlDays ∧ now + dayLength * ttlDays ≤ Datetime.maxWall

/-! ## The dictionary -/

structure MemoryItem where
  key : String
  memoryNamespace : String
  content : String
  ttlDays : Int
  createdAt : Int
  expiresAt : Int
  consentRef : Option String
  isAnonymized : Bool := false
  deriving DecidableEq, Repr

def MemoryItem.view (item : MemoryItem) : ItemView :=
  ⟨item.content, item.isAnonymized, item.consentRef⟩

abbrev MemoryItems := String → Option MemoryItem

structure MemoryStore where
  tenantId : String
  memoryNamespace : String
  enabled : Bool
  ttlDays : Int

namespace MemoryStore

variable (s : MemoryStore)

def newItem (key content : String) (consentRef : Option String) (now : Int) : MemoryItem where
  key := key
  memoryNamespace := s.memoryNamespace
  content := content
  ttlDays := s.ttlDays
  createdAt := now
  expiresAt := now + dayLength * s.ttlDays
  consentRef := consentRef

def store (key content : String) (consentRef : Option String) (now : Int) (items : MemoryItems) :
    ItemAnswer × MemoryItems :=
  if !s.enabled then (.flag false, items)
  else if !expiryFits s.ttlDays now then (.raised "OverflowError", items)
  else (.flag true, Function.update items key (some (s.newItem key content consentRef now)))

/-- An item that has expired is deleted. -/
def retrieve (key : String) (now : Int) (items : MemoryItems) : ItemAnswer × MemoryItems :=
  if !s.enabled then (.item none, items)
  else
    match items key with
    | none => (.item none, items)
    | some item =>
        if item.expiresAt < now then (.item none, Function.update items key none)
        else (.item (some item.view), items)

def purge (key : String) (items : MemoryItems) : ItemAnswer × MemoryItems :=
  match items key with
  | some _ => (.flag true, Function.update items key none)
  | none => (.flag false, items)

def anonymize (key : String) (items : MemoryItems) : ItemAnswer × MemoryItems :=
  match items key with
  | none => (.flag false, items)
  | some item =>
      (.flag true, Function.update items key
        (some { item with content := "[ANONYMIZED]", isAnonymized := true }))

def call (items : MemoryItems) (c : ItemCall) : ItemAnswer × MemoryItems :=
  match c.op with
  | .store key content consentRef => s.store key content consentRef c.now items
  | .retrieve key => s.retrieve key c.now items
  | .purge key => purge key items
  | .anonymize key => anonymize key items

def component : Component MemoryItems ItemCall ItemAnswer := ⟨s.call⟩

end MemoryStore

/-! ## The table -/

def AgentMemoryItem.view (r : AgentMemoryItem) : ItemView :=
  ⟨r.content, r.isAnonymized, r.consentRef⟩

/-- Of the answers of these operations. -/
def MemoryAnswer.seen : MemoryAnswer → ItemAnswer
  | raised exception => .raised exception
  | flag b => .flag b
  | item r => .item (r.map AgentMemoryItem.view)
  | items _ => .item none
  | count _ => .item none

/-- What decides whether a row goes in: the tenants that the foreign key knows, and the
pairs of namespace and key for which the unique index has room. -/
structure MemoryDatabase where
  registered : Uuid → Bool
  indexable : String × String → Bool

/-- The columns `namespace` and `item_key` are `String(512)`. -/
def MemoryDatabase.storedKey (d : MemoryDatabase) (key : String × String) :
    Option (String × String) :=
  match varchar 512 key.1, varchar 512 key.2 with
  | some memoryNamespace, some itemKey =>
      if d.indexable (memoryNamespace, itemKey) then some (memoryNamespace, itemKey) else none
  | _, _ => none

/-- What is stored is stored again as it is. -/
theorem MemoryDatabase.storedKey_stored {d : MemoryDatabase} {key stored : String × String}
    (h : d.storedKey key = some stored) : d.storedKey stored = some stored := by
  unfold storedKey at h
  split at h
  next memoryNamespace itemKey hnamespace hkey =>
    split at h
    next hindexable =>
      obtain rfl := Option.some.inj h
      unfold storedKey
      simp only [varchar_stored hnamespace, varchar_stored hkey, hindexable, if_true]
    next => cases h
  next => cases h

/-- `content` is `Text` and `consent_ref` is `String(256)`. -/
def storedConsentRef (content : String) (consentRef : Option String) : Option (Option String) :=
  if isSendable content then
    match consentRef with
    | none => some none
    | some ref => (varchar 256 ref).map some
  else none

namespace PostgresMemoryStore

variable (s : PostgresMemoryStore) (d : MemoryDatabase)

/-- The key that the statements select by. -/
def rowKey (key : String) : String × String := (s.memoryNamespace, key)

/-- The statements can be sent with this key. -/
def sendsKey (key : String) : Bool := isSendable s.memoryNamespace && isSendable key

/-- The key of the row that `store` writes, with its `consent_ref`, in a table that has the keys
`known`; or the exception. -/
def written (known : String × String → Bool) (key content : String) (consentRef : Option String) :
    Except String ((String × String) × Option String) :=
  if !s.sendsKey key then .error "DBAPIError"
  else if known (s.rowKey key) then
    match storedConsentRef content consentRef with
    | none => .error "DBAPIError"
    | some consent => .ok (s.rowKey key, consent)
  else
    match parseUuid s.tenantId with
    | none => .error "ValueError"
    | some tenant =>
        match storedConsentRef content consentRef, d.storedKey (s.rowKey key) with
        | some consent, some stored =>
            -- the foreign key and the unique key
            if !d.registered tenant || known stored then .error "IntegrityError"
            else .ok (stored, consent)
        | _, _ => .error "DBAPIError"

/-- `store` while the database is up. -/
def storeRow (itemId key content : String) (consentRef : Option String) (now : Int)
    (items : AgentMemoryItems) : MemoryAnswer × AgentMemoryItems :=
  if !s.enabled then (.flag false, items)
  else if !expiryFits s.ttlDays now then (.raised "OverflowError", items)
  else
    match s.written d (fun k => (items.find k).isSome) key content consentRef with
    | .error exception => (.raised exception, items)
    | .ok (stored, consent) =>
        { s with memoryNamespace := stored.1 }.store itemId stored.2 content consent .commits now
          items

/-- How the session of another operation ends while the database is up. -/
def sessionOf (key : String) : Transaction :=
  if s.sendsKey key then .commits else .fails "DBAPIError"

def itemCall (items : AgentMemoryItems) (c : ItemCall) : ItemAnswer × AgentMemoryItems :=
  let r :=
    match c.op with
    | .store key content consentRef => s.storeRow d c.itemId key content consentRef c.now items
    | .retrieve key => s.retrieve key (s.sessionOf key) c.now items
    | .purge key => s.purge key (s.sessionOf key) items
    | .anonymize key => s.anonymize key (s.sessionOf key) items
  (r.1.seen, r.2)

def component : Component AgentMemoryItems ItemCall ItemAnswer := ⟨s.itemCall d⟩

/-- The store of the other kind with the same settings. -/
def inMemory : MemoryStore := ⟨s.tenantId, s.memoryNamespace, s.enabled, s.ttlDays⟩

end PostgresMemoryStore

end Iara.Memory
