import Iara.Memory.StoreCalls
import Iara.Workers.History

/-!
# Deliveries and the memory table

The graph is given a `PostgresMemoryStore`: the context builder lists the recent items and the
memory writer stores the facts of the conversation.  A delivery reads the table as it finds it,
and what it stores is written to the table in the order of the calls.
-/

namespace Iara.Workers

open Iara.Lib Iara.Persistence Iara.Graph Iara.Memory

/-- What the memory calls of one delivery take from outside: the outcomes of their sessions, the
clock, and the ids of new rows.  A run stores no key twice, so a call is given by its key. -/
structure MemoryIo where
  reading : Transaction := .commits
  readAt : Int := 0
  writing : String → Transaction := fun _ => .commits
  writtenAt : String → Int := fun _ => 0
  itemId : String → String := id

/-- A call of `memory_store.store(key=..., content=...)`. -/
def storeItem (store : Memory.PostgresMemoryStore) (io : MemoryIo) (key content : String)
    (items : AgentMemoryItems) : MemoryAnswer × AgentMemoryItems :=
  store.store (io.itemId key) key content none (io.writing key) (io.writtenAt key) items

/-- The store as the graph calls it, over a table. -/
def answering (store : Memory.PostgresMemoryStore) (io : MemoryIo) (items : AgentMemoryItems) :
    Graph.PostgresMemoryStore where
  enabled := store.enabled
  listRecent _ limit :=
    match (store.listRecent limit io.reading io.readAt items).1 with
    | .raised exception => .error exception
    | .items rows => .ok (rows.map AgentMemoryItem.content)
    | _ => .ok []
  store _ key content :=
    match (storeItem store io key content items).1 with
    | .raised exception => .error exception
    | _ => .ok ()

/-- What a call of a run leaves of the table. -/
def applyCall (store : Memory.PostgresMemoryStore) (io : MemoryIo) (items : AgentMemoryItems) :
    Call → AgentMemoryItems
  | .memoryStore key content => (storeItem store io key content items).2
  | _ => items

structure Remembered where
  runtime : Runtime
  items : AgentMemoryItems

structure RememberedDelivery where
  delivery : Delivery
  io : MemoryIo

namespace JobConsumerWorker

variable (worker : JobConsumerWorker) (store : Memory.PostgresMemoryStore)

def withMemory (io : MemoryIo) (items : AgentMemoryItems) : JobConsumerWorker :=
  { worker with
    deps := { worker.deps with memoryStore := some (answering store io items) } }

/-- The calls that a delivery has made. -/
def callsSince (before after : World) : List Call := after.calls.drop before.calls.length

def remember (r : Remembered) (m : RememberedDelivery) : Remembered :=
  let runtime := (worker.withMemory store m.io r.items).deliver r.runtime m.delivery
  { runtime := runtime
    items := (callsSince r.runtime.world runtime.world).foldl (applyCall store m.io) r.items }

def rememberAll (r : Remembered) (ms : List RememberedDelivery) : Remembered :=
  ms.foldl (worker.remember store) r

end JobConsumerWorker

/-! ## The order of the calls -/

section Order

variable {store : Memory.PostgresMemoryStore} {io : MemoryIo} {items items' : AgentMemoryItems}
  {key key' : String}

/-- The answer depends on whether there is an item, not on the item. -/
theorem storeItem_answer_congr (content : String)
    (h : (items.find (store.memoryNamespace, key)).isSome =
      (items'.find (store.memoryNamespace, key)).isSome) :
    (storeItem store io key content items).1 = (storeItem store io key content items').1 := by
  unfold storeItem Memory.PostgresMemoryStore.store
  split
  · rfl
  · cases hitem : items.find (store.memoryNamespace, key) with
    | none =>
        rw [hitem] at h
        rw [Option.not_isSome_iff_eq_none.1 (Bool.eq_false_iff.1 h.symm)]
        cases parseUuid store.tenantId with
        | none => rfl
        | some tenant => cases io.writing key <;> rfl
    | some item =>
        rw [hitem] at h
        obtain ⟨item', hitem'⟩ := Option.isSome_iff_exists.1 h.symm
        rw [hitem']
        cases io.writing key <;> rfl

theorem isSome_find_storeItem (content : String) (hne : key' ≠ key) :
    ((storeItem store io key content items).2.find (store.memoryNamespace, key')).isSome =
      (items.find (store.memoryNamespace, key')).isSome := by
  unfold storeItem Memory.PostgresMemoryStore.store
  split
  · rfl
  · split
    · apply finish_induction
        (P := fun t => (t.find (store.memoryNamespace, key')).isSome =
          (items.find (store.memoryNamespace, key')).isSome) rfl
      exact (congrArg Option.isSome Table.find_update).trans Option.isSome_map
    · split
      · rfl
      · apply finish_induction
          (P := fun t => (t.find (store.memoryNamespace, key')).isSome =
            (items.find (store.memoryNamespace, key')).isSome) rfl
        rw [Table.find_insertOrIgnore, if_neg, Option.or_none]
        intro hkey
        exact hne (congrArg Prod.snd hkey).symm

/-- A run stores under different keys, so the calls before it change nothing of what a call is
answered: the table at the start of the run answers them all. -/
theorem storeItem_answer_of_other_key (content content' : String) (hne : key' ≠ key) :
    (storeItem store io key' content' (storeItem store io key content items).2).1 =
      (storeItem store io key' content' items).1 :=
  storeItem_answer_congr content' (isSome_find_storeItem content hne)

end Order

end Iara.Workers
