import Iara.Lib.Batch
import Iara.Persistence.FollowUp
import Mathlib.Data.List.Sort

/-!
# The follow-up queue as a queue

The statements of `FollowUpRepository` that the scheduler runs.  The updates
address rows by their primary key `id`.
-/

namespace Iara.Persistence

open Iara.Lib

namespace FollowUpQueueItem

def markSent (r : FollowUpQueueItem) : FollowUpQueueItem := { r with status := .sent }

def markSkipped (r : FollowUpQueueItem) : FollowUpQueueItem := { r with status := .skipped }

def markFailed (r : FollowUpQueueItem) : FollowUpQueueItem := { r with status := .failed }

def markOptedOut (r : FollowUpQueueItem) : FollowUpQueueItem := { r with optedOut := true }

def incrementAttempt (r : FollowUpQueueItem) : FollowUpQueueItem :=
  { r with attemptCount := r.attemptCount + 1 }

/-- `int(item.max_attempts or 3)`. -/
def attemptLimit (r : FollowUpQueueItem) : Int := if r.maxAttempts = 0 then 3 else r.maxAttempts

end FollowUpQueueItem

namespace FollowUpRepository

def fetchDue (batchSize now : Nat) (queue : FollowUpQueue) : List FollowUpQueueItem :=
  let due := queue.rows.filter fun r => r.status = .pending && r.triggerAt ≤ (now : Int)
  (due.insertionSort fun r r' => r.triggerAt ≤ r'.triggerAt).take batchSize

/-- `SELECT ... WHERE id = itemId`. -/
def itemOf (queue : FollowUpQueue) (itemId : String) : Option FollowUpQueueItem :=
  queue.rows.find? fun r => r.id = itemId

/-- `UPDATE ... SET f WHERE id = itemId`. -/
def updateItem (itemId : String) (f : FollowUpQueueItem → FollowUpQueueItem)
    (hf : ∀ r, (f r).idempotencyKey = r.idempotencyKey) (queue : FollowUpQueue) : FollowUpQueue :=
  queue.update (fun r => r.id = itemId) f hf

def markSent (itemId : String) (queue : FollowUpQueue) : FollowUpQueue :=
  updateItem itemId FollowUpQueueItem.markSent (fun _ => rfl) queue

def markSkipped (itemId : String) (queue : FollowUpQueue) : FollowUpQueue :=
  updateItem itemId FollowUpQueueItem.markSkipped (fun _ => rfl) queue

def markFailed (itemId : String) (queue : FollowUpQueue) : FollowUpQueue :=
  updateItem itemId FollowUpQueueItem.markFailed (fun _ => rfl) queue

/-- The table after the increment, and the count it returns: the new one, or 0
where there is no row. -/
def incrementAttempt (itemId : String) (queue : FollowUpQueue) : FollowUpQueue × Nat :=
  (updateItem itemId FollowUpQueueItem.incrementAttempt (fun _ => rfl) queue,
    (itemOf queue itemId).elim 0 fun r => r.attemptCount + 1)

/-- The condition of `mark_opted_out`. -/
def optsOut (conversationId : String) (tenant : Uuid) (r : FollowUpQueueItem) : Bool :=
  r.conversationId = conversationId && r.tenantId = tenant && r.status = .pending

def optOut (conversationId : String) (tenant : Uuid) (queue : FollowUpQueue) : FollowUpQueue :=
  queue.update (optsOut conversationId tenant) FollowUpQueueItem.markOptedOut fun _ => rfl

/-- The number of rows it updates, and the table after the update. -/
def markOptedOut (conversationId tenantId : String) (queue : FollowUpQueue) :
    Except String (Nat × FollowUpQueue) :=
  match parseUuid tenantId with
  | none => .error "ValueError"
  | some tenant =>
      .ok ((queue.rows.filter (optsOut conversationId tenant)).length,
        optOut conversationId tenant queue)

/-! ## Due items -/

instance : Std.Total fun r r' : FollowUpQueueItem => r.triggerAt ≤ r'.triggerAt :=
  ⟨fun r r' => Int.le_total r.triggerAt r'.triggerAt⟩

instance : IsTrans FollowUpQueueItem fun r r' => r.triggerAt ≤ r'.triggerAt :=
  ⟨fun _ _ _ => Int.le_trans⟩

theorem mem_fetchDue {batchSize now : Nat} {queue : FollowUpQueue} {r : FollowUpQueueItem}
    (h : r ∈ fetchDue batchSize now queue) :
    r ∈ queue.rows ∧ r.status = .pending ∧ r.triggerAt ≤ now := by
  unfold fetchDue at h
  have hsorted := List.mem_of_mem_take h
  rw [List.mem_insertionSort, List.mem_filter] at hsorted
  simpa using hsorted

theorem nodup_fetchDue {queue : FollowUpQueue}
    (hids : (queue.rows.map FollowUpQueueItem.id).Nodup) (batchSize now : Nat) :
    ((fetchDue batchSize now queue).map FollowUpQueueItem.id).Nodup := by
  unfold fetchDue
  apply List.Nodup.sublist ((List.take_sublist _ _).map _)
  apply ((List.perm_insertionSort _ _).map _).nodup_iff.2
  exact hids.sublist (List.filter_sublist.map _)

/-- A due item is left out only where items that are no later fill the batch. -/
theorem fetchDue_of_notMem {batchSize now : Nat} {queue : FollowUpQueue} {r : FollowUpQueueItem}
    (hr : r ∈ queue.rows) (hpending : r.status = .pending) (hdue : r.triggerAt ≤ now)
    (hnot : r ∉ fetchDue batchSize now queue) :
    (fetchDue batchSize now queue).length = batchSize ∧
      ∀ r' ∈ fetchDue batchSize now queue, r'.triggerAt ≤ r.triggerAt := by
  have hmem : r ∈ queue.rows.filter fun r => r.status = .pending && r.triggerAt ≤ (now : Int) := by
    rw [List.mem_filter]
    simp [hr, hpending, hdue]
  exact Batch.take_of_notMem (List.pairwise_insertionSort _ _) ((List.mem_insertionSort _).2 hmem)
    hnot

/-! ## One item -/

theorem id_of_itemOf {queue : FollowUpQueue} {itemId : String} {r : FollowUpQueueItem}
    (h : itemOf queue itemId = some r) : r.id = itemId := by
  unfold itemOf at h
  simpa using List.find?_some h

theorem itemOf_update {queue : FollowUpQueue} {itemId : String} {p : FollowUpQueueItem → Bool}
    {f : FollowUpQueueItem → FollowUpQueueItem} {hf : ∀ r, (f r).idempotencyKey = r.idempotencyKey}
    (hid : ∀ r, (f r).id = r.id) :
    itemOf (queue.update p f hf) itemId =
      (itemOf queue itemId).map fun r => if p r then f r else r := by
  have hsame : ∀ r : FollowUpQueueItem, (if p r then f r else r).id = r.id := by
    intro r
    split
    · exact hid r
    · rfl
  unfold itemOf Table.update
  rw [List.find?_map]
  congr 2
  funext r
  simp only [Function.comp_apply, hsame]

theorem itemOf_updateItem {queue : FollowUpQueue} {itemId : String}
    {f : FollowUpQueueItem → FollowUpQueueItem} {hf : ∀ r, (f r).idempotencyKey = r.idempotencyKey}
    (hid : ∀ r, (f r).id = r.id) (itemId' : String) :
    itemOf (updateItem itemId f hf queue) itemId' =
      if itemId' = itemId then (itemOf queue itemId).map f else itemOf queue itemId' := by
  unfold updateItem
  rw [itemOf_update hid]
  by_cases h : itemId' = itemId
  · subst h
    rw [if_pos rfl]
    cases hfind : itemOf queue itemId' with
    | none => rfl
    | some r => simp [id_of_itemOf hfind]
  · rw [if_neg h]
    cases hfind : itemOf queue itemId' with
    | none => rfl
    | some r => simp [id_of_itemOf hfind, h]

theorem itemOf_of_mem {queue : FollowUpQueue}
    (hids : (queue.rows.map FollowUpQueueItem.id).Nodup) {r : FollowUpQueueItem}
    (hr : r ∈ queue.rows) : itemOf queue r.id = some r := by
  unfold itemOf
  cases hfind : queue.rows.find? fun r' => decide (r'.id = r.id) with
  | none =>
      have hne := List.find?_eq_none.1 hfind r hr
      simp at hne
  | some r' =>
      have hid : r'.id = r.id := by simpa using List.find?_some hfind
      rw [List.inj_on_of_nodup_map hids (List.mem_of_find?_eq_some hfind) hr hid]

theorem itemOf_eq_some_iff {queue : FollowUpQueue} {itemId : String} {r : FollowUpQueueItem}
    (hids : (queue.rows.map FollowUpQueueItem.id).Nodup) :
    itemOf queue itemId = some r ↔ r ∈ queue.rows ∧ r.id = itemId := by
  constructor
  · intro h
    exact ⟨List.mem_of_find?_eq_some h, id_of_itemOf h⟩
  · rintro ⟨hr, rfl⟩
    exact itemOf_of_mem hids hr

/-- A new item leaves the others alone. -/
theorem itemOf_insertOrIgnore (queue : FollowUpQueue) (item : FollowUpQueueItem)
    (itemId : String) :
    itemOf (queue.insertOrIgnore item) itemId = itemOf queue itemId ∨
      itemOf queue itemId = none ∧ itemOf (queue.insertOrIgnore item) itemId = some item := by
  unfold itemOf
  cases hkey : queue.hasKey item.idempotencyKey with
  | true =>
      rw [Table.insertOrIgnore_of_hasKey hkey]
      exact Or.inl rfl
  | false =>
      rw [Table.rows_insertOrIgnore_of_new hkey, List.find?_append]
      cases hfind : queue.rows.find? fun r => decide (r.id = itemId) with
      | some r => exact Or.inl rfl
      | none =>
          rw [Option.none_or]
          by_cases hid : item.id = itemId
          · exact Or.inr ⟨rfl, by simp [hid]⟩
          · exact Or.inl (by simp [hid])

theorem itemOf_optOut {queue : FollowUpQueue} {itemId : String} (conversationId : String)
    (tenant : Uuid) :
    itemOf (optOut conversationId tenant queue) itemId = (itemOf queue itemId).map fun r =>
      if optsOut conversationId tenant r then r.markOptedOut else r :=
  itemOf_update fun _ => rfl

/-! ## Ids -/

theorem ids_update (queue : FollowUpQueue) (p : FollowUpQueueItem → Bool)
    (f : FollowUpQueueItem → FollowUpQueueItem)
    (hf : ∀ r, (f r).idempotencyKey = r.idempotencyKey) (hid : ∀ r, (f r).id = r.id) :
    (queue.update p f hf).rows.map FollowUpQueueItem.id =
      queue.rows.map FollowUpQueueItem.id := by
  unfold Table.update
  rw [List.map_map]
  apply List.map_congr_left
  intro r _
  simp only [Function.comp_apply]
  split
  · exact hid r
  · rfl

theorem ids_optOut (conversationId : String) (tenant : Uuid) (queue : FollowUpQueue) :
    (optOut conversationId tenant queue).rows.map FollowUpQueueItem.id =
      queue.rows.map FollowUpQueueItem.id :=
  ids_update queue _ FollowUpQueueItem.markOptedOut (fun _ => rfl) fun _ => rfl

/-- A row with a new id keeps the ids apart. -/
theorem nodup_ids_insertOrIgnore {queue : FollowUpQueue} {item : FollowUpQueueItem}
    (hids : (queue.rows.map FollowUpQueueItem.id).Nodup)
    (hnew : ∀ r ∈ queue.rows, r.id ≠ item.id) :
    ((queue.insertOrIgnore item).rows.map FollowUpQueueItem.id).Nodup := by
  cases hkey : queue.hasKey item.idempotencyKey with
  | true =>
      rw [Table.insertOrIgnore_of_hasKey hkey]
      exact hids
  | false =>
      rw [Table.rows_insertOrIgnore_of_new hkey, List.map_append, List.nodup_append]
      refine ⟨hids, by simp, ?_⟩
      intro itemId hold itemId' hitem heq
      obtain ⟨r, hr, rfl⟩ := List.mem_map.1 hold
      rw [List.map_singleton, List.mem_singleton] at hitem
      exact hnew r hr (heq.trans hitem)

end FollowUpRepository

end Iara.Persistence
