import Iara.Workers.FollowUpScheduler

/-!
# What a scheduler's step can do

`PromotionEffect` lists the steps of a scheduler: which item is in its hands
before and after, and what becomes of the queue and of the outbox.  No later
proof unfolds `act`.
-/

namespace Iara.Workers

open Iara.Lib Iara.Persistence

namespace FollowUpScheduler

namespace PromotionPhase

/-- The items a scheduler has fetched and not yet dealt with. -/
def items : PromotionPhase → List FollowUpQueueItem
  | .sleeping => []
  | .promoting item rest => item :: rest
  | .incremented item rest _ => item :: rest
  | .enqueued item rest _ => item :: rest
  | .failed item rest => item :: rest
  | .stopped => []

/-- The item between its increment and its last mark, the count that the
increment returned, and whether the item was enqueued. -/
def inHand : PromotionPhase → Option (FollowUpQueueItem × Nat × Bool)
  | .incremented item _ newCount => some (item, newCount, false)
  | .enqueued item _ newCount => some (item, newCount, true)
  | _ => none

end PromotionPhase

@[simp] theorem items_nextItem (rest : List FollowUpQueueItem) : (nextItem rest).items = rest := by
  cases rest <;> rfl

@[simp] theorem inHand_nextItem (rest : List FollowUpQueueItem) :
    (nextItem rest).inHand = none := by
  cases rest <;> rfl

theorem items_afterFailure {item r : FollowUpQueueItem} {rest : List FollowUpQueueItem}
    {newCount : Nat} (h : r ∈ (afterFailure item rest newCount).items) : r ∈ item :: rest := by
  unfold afterFailure at h
  split at h
  · exact h
  · rw [items_nextItem] at h
    exact List.mem_cons_of_mem _ h

@[simp] theorem inHand_afterFailure (item : FollowUpQueueItem) (rest : List FollowUpQueueItem)
    (newCount : Nat) : (afterFailure item rest newCount).inHand = none := by
  unfold afterFailure
  split
  · rfl
  · exact inHand_nextItem rest

/-- What the schedulers write to a row. -/
inductive ItemUpdate where
  | skipped
  | counted
  | sent
  | failed

namespace ItemUpdate

def apply : ItemUpdate → FollowUpQueueItem → FollowUpQueueItem
  | .skipped => FollowUpQueueItem.markSkipped
  | .counted => FollowUpQueueItem.incrementAttempt
  | .sent => FollowUpQueueItem.markSent
  | .failed => FollowUpQueueItem.markFailed

theorem apply_key (u : ItemUpdate) (r : FollowUpQueueItem) :
    (u.apply r).idempotencyKey = r.idempotencyKey := by
  cases u <;> rfl

theorem apply_id (u : ItemUpdate) (r : FollowUpQueueItem) : (u.apply r).id = r.id := by
  cases u <;> rfl

theorem apply_limit (u : ItemUpdate) (r : FollowUpQueueItem) :
    (u.apply r).attemptLimit = r.attemptLimit := by
  cases u <;> rfl

theorem attemptCount_le_apply (u : ItemUpdate) (r : FollowUpQueueItem) :
    r.attemptCount ≤ (u.apply r).attemptCount := by
  cases u with
  | counted => exact Nat.le_succ r.attemptCount
  | skipped => exact Nat.le_refl _
  | sent => exact Nat.le_refl _
  | failed => exact Nat.le_refl _

/-- The queue after the update of one row. -/
def write (u : ItemUpdate) (itemId : String) (queue : FollowUpQueue) : FollowUpQueue :=
  FollowUpRepository.updateItem itemId u.apply u.apply_key queue

end ItemUpdate

theorem itemOf_write (u : ItemUpdate) (itemId : String) (queue : FollowUpQueue)
    (itemId' : String) :
    FollowUpRepository.itemOf (u.write itemId queue) itemId' =
      if itemId' = itemId then (FollowUpRepository.itemOf queue itemId).map u.apply
      else FollowUpRepository.itemOf queue itemId' :=
  FollowUpRepository.itemOf_updateItem u.apply_id itemId'

theorem ids_write (u : ItemUpdate) (itemId : String) (queue : FollowUpQueue) :
    (u.write itemId queue).rows.map FollowUpQueueItem.id =
      queue.rows.map FollowUpQueueItem.id :=
  FollowUpRepository.ids_update queue _ u.apply u.apply_key u.apply_id

inductive PromotionEffect (scheduler : FollowUpScheduler) (s : PromotionShared) :
    PromotionPhase → PromotionStep → PromotionPhase → PromotionShared → Prop
  | moved {l a l'} (hl : l.inHand = none) (hl' : l'.inHand = none)
      (hitems : ∀ r ∈ l'.items, r ∈ l.items ∨ r ∈ s.queue.rows) :
      PromotionEffect scheduler s l a l' s
  | updated {l a l'} (u : ItemUpdate) (item) (hu : u ≠ .sent) (hitem : item ∈ l.items)
      (hl : l.inHand = none) (hl' : l'.inHand = none) (hitems : ∀ r ∈ l'.items, r ∈ l.items) :
      PromotionEffect scheduler s l a l' { s with queue := u.write item.id s.queue }
  | taken (item rest) :
      PromotionEffect scheduler s (.promoting item rest) (.increment .commits)
        (.incremented item rest (FollowUpRepository.incrementAttempt item.id s.queue).2)
        { s with queue := ItemUpdate.counted.write item.id s.queue }
  | enqueued (item rest newCount) :
      PromotionEffect scheduler s (.incremented item rest newCount) (.enqueue .commits)
        (.enqueued item rest newCount)
        { s with
          outbox := (OutboxRepository.enqueue s.now (scheduler.providerCommand item newCount)
            s.outbox).1 }
  | notEnqueued (item rest newCount exception) :
      PromotionEffect scheduler s (.incremented item rest newCount) (.enqueue (.fails exception))
        (afterFailure item rest newCount) s
  | enqueuedThenRaised (item rest newCount exception) :
      PromotionEffect scheduler s (.incremented item rest newCount)
        (.enqueue (.commitsThenFails exception)) (afterFailure item rest newCount)
        { s with
          outbox := (OutboxRepository.enqueue s.now (scheduler.providerCommand item newCount)
            s.outbox).1 }
  | sent {a l'} (item rest newCount) (hl' : l'.inHand = none)
      (hitems : ∀ r ∈ l'.items, r ∈ item :: rest) :
      PromotionEffect scheduler s (.enqueued item rest newCount) a l'
        { s with queue := ItemUpdate.sent.write item.id s.queue }
  | notSent (item rest newCount exception) :
      PromotionEffect scheduler s (.enqueued item rest newCount) (.markSent (.fails exception))
        (afterFailure item rest newCount) s
  | crashed (l) : PromotionEffect scheduler s l .crash .stopped s

variable {scheduler : FollowUpScheduler} {s t : PromotionShared} {l l' : PromotionPhase}
  {a : PromotionStep}

theorem fetch_effect (h : scheduler.act s .sleeping .fetch = some (l', t)) :
    PromotionEffect scheduler s .sleeping .fetch l' t := by
  cases h
  refine .moved rfl (inHand_nextItem _) ?_
  intro r hr
  rw [items_nextItem] at hr
  exact Or.inr (FollowUpRepository.mem_fetchDue hr).1

/-- A session that updates the row of the item at the head of the batch. -/
theorem close_effect {item : FollowUpQueueItem} {rest : List FollowUpQueueItem} (u : ItemUpdate)
    (hu : u ≠ .sent) {session : Transaction} (hitems : l.items = item :: rest)
    (hl : l.inHand = none)
    (h : session.close s { s with queue := u.write item.id s.queue } (nextItem rest) .sleeping =
      (l', t)) : PromotionEffect scheduler s l a l' t := by
  have hitem : item ∈ l.items := by
    rw [hitems]
    exact List.mem_cons_self
  cases session with
  | commits =>
      cases h
      refine .updated u item hu hitem hl (inHand_nextItem rest) ?_
      intro r hr
      rw [items_nextItem] at hr
      rw [hitems]
      exact List.mem_cons_of_mem _ hr
  | fails exception =>
      cases h
      exact .moved hl rfl (by simp [PromotionPhase.items])
  | commitsThenFails exception =>
      cases h
      exact .updated u item hu hitem hl rfl (by simp [PromotionPhase.items])

theorem skip_effect {item : FollowUpQueueItem} {rest : List FollowUpQueueItem}
    {session : Transaction}
    (h : scheduler.act s (.promoting item rest) (.skip session) = some (l', t)) :
    PromotionEffect scheduler s (.promoting item rest) (.skip session) l' t := by
  simp only [act] at h
  split at h
  · exact close_effect .skipped (by simp) rfl rfl (Option.some.inj h)
  · cases h

theorem increment_effect {item : FollowUpQueueItem} {rest : List FollowUpQueueItem}
    {session : Transaction}
    (h : scheduler.act s (.promoting item rest) (.increment session) = some (l', t)) :
    PromotionEffect scheduler s (.promoting item rest) (.increment session) l' t := by
  simp only [act] at h
  split at h
  · cases h
  · cases session with
    | commits =>
        cases h
        exact .taken item rest
    | fails exception =>
        cases h
        exact .moved rfl rfl (by simp [PromotionPhase.items])
    | commitsThenFails exception =>
        cases h
        exact .updated .counted item (by simp) List.mem_cons_self rfl rfl
          (by simp [PromotionPhase.items])

theorem enqueue_effect {item : FollowUpQueueItem} {rest : List FollowUpQueueItem}
    {newCount : Nat} {session : Transaction}
    (h : scheduler.act s (.incremented item rest newCount) (.enqueue session) = some (l', t)) :
    PromotionEffect scheduler s (.incremented item rest newCount) (.enqueue session) l' t := by
  cases session with
  | commits =>
      cases h
      exact .enqueued item rest newCount
  | fails exception =>
      cases h
      exact .notEnqueued item rest newCount exception
  | commitsThenFails exception =>
      cases h
      exact .enqueuedThenRaised item rest newCount exception

theorem markSent_effect {item : FollowUpQueueItem} {rest : List FollowUpQueueItem}
    {newCount : Nat} {session : Transaction}
    (h : scheduler.act s (.enqueued item rest newCount) (.markSent session) = some (l', t)) :
    PromotionEffect scheduler s (.enqueued item rest newCount) (.markSent session) l' t := by
  cases session with
  | commits =>
      cases h
      refine .sent item rest newCount (inHand_nextItem rest) ?_
      intro r hr
      rw [items_nextItem] at hr
      exact List.mem_cons_of_mem _ hr
  | fails exception =>
      cases h
      exact .notSent item rest newCount exception
  | commitsThenFails exception =>
      cases h
      exact .sent item rest newCount (inHand_afterFailure item rest newCount)
        fun r hr => items_afterFailure hr

/-- Every step of a scheduler has one of the listed effects. -/
theorem act_effect (h : scheduler.act s l a = some (l', t)) :
    PromotionEffect scheduler s l a l' t := by
  have hcrash : ∀ l, some (PromotionPhase.stopped, s) = some (l', t) →
      PromotionEffect scheduler s l .crash l' t := by
    intro l hstopped
    cases hstopped
    exact .crashed l
  cases l with
  | sleeping =>
      cases a with
      | fetch => exact fetch_effect h
      | crash => exact hcrash _ h
      | _ => cases h
  | promoting item rest =>
      cases a with
      | skip session => exact skip_effect h
      | increment session => exact increment_effect h
      | crash => exact hcrash _ h
      | _ => cases h
  | incremented item rest newCount =>
      cases a with
      | enqueue session => exact enqueue_effect h
      | crash => exact hcrash _ h
      | _ => cases h
  | enqueued item rest newCount =>
      cases a with
      | markSent session => exact markSent_effect h
      | crash => exact hcrash _ h
      | _ => cases h
  | failed item rest =>
      cases a with
      | markFailed session =>
          exact close_effect .failed (by simp) rfl rfl (Option.some.inj h)
      | crash => exact hcrash _ h
      | _ => cases h
  | stopped => cases h

/-! ## What every step leaves alone -/

/-- A scheduler gets its items from the queue. -/
theorem PromotionEffect.items (h : PromotionEffect scheduler s l a l' t) :
    ∀ r ∈ l'.items, r ∈ l.items ∨ r ∈ s.queue.rows := by
  cases h with
  | moved _ _ hitems => exact hitems
  | updated u item _ _ _ _ hitems => exact fun r hr => Or.inl (hitems r hr)
  | taken item rest => exact fun r hr => Or.inl hr
  | enqueued item rest newCount => exact fun r hr => Or.inl hr
  | notEnqueued item rest newCount exception => exact fun r hr => Or.inl (items_afterFailure hr)
  | enqueuedThenRaised item rest newCount exception =>
      exact fun r hr => Or.inl (items_afterFailure hr)
  | sent item rest newCount _ hitems => exact fun r hr => Or.inl (hitems r hr)
  | notSent item rest newCount exception => exact fun r hr => Or.inl (items_afterFailure hr)
  | crashed l => simp [PromotionPhase.items]

/-- The queue is the one before, up to the update of one row. -/
theorem PromotionEffect.queue (h : PromotionEffect scheduler s l a l' t) :
    t.queue = s.queue ∨ ∃ (u : ItemUpdate) (itemId : String), t.queue = u.write itemId s.queue := by
  cases h with
  | updated u item _ _ _ _ _ => exact Or.inr ⟨u, item.id, rfl⟩
  | taken item rest => exact Or.inr ⟨.counted, item.id, rfl⟩
  | sent item rest newCount _ _ => exact Or.inr ⟨.sent, item.id, rfl⟩
  | _ => exact Or.inl rfl

end FollowUpScheduler

end Iara.Workers
