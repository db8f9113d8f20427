import Iara.Workers.SoloScheduler

/-!
# The queue of one scheduler

What the steps of a single scheduler do to a row, and how its copies of the rows keep in
step with them.  An attempt is counted in the row before the item is enqueued.
-/

namespace Iara.Workers

open Iara.Lib Iara.Persistence

namespace FollowUpScheduler

open FollowUpRepository

/-! ## Rows -/

section Rows

variable {queue : FollowUpQueue} {itemId : String} {r : FollowUpQueueItem}

theorem itemOf_written (session : Transaction) (u : ItemUpdate) (itemId itemId' : String) :
    itemOf (written session u itemId queue) itemId' = (itemOf queue itemId').map fun r =>
      if session.writes = true ∧ itemId' = itemId then u.apply r else r := by
  unfold written
  cases session.writes with
  | false => simp
  | true =>
      simp only [if_true, itemOf_write, true_and]
      split
      next heq => rw [heq]
      next => simp

theorem ids_written (session : Transaction) (u : ItemUpdate) (itemId : String) :
    (written session u itemId queue).rows.map FollowUpQueueItem.id =
      queue.rows.map FollowUpQueueItem.id := by
  unfold written
  split
  · exact ids_write u itemId queue
  · rfl

end Rows

/-! ## What a step does to a row -/

section Steps

variable {scheduler : FollowUpScheduler} {s t : PromotionShared} {l l' : PromotionPhase}
  {move : SoloMove} {itemId : String} {r : FollowUpQueueItem}

def concluded (r : FollowUpQueueItem) : Prop :=
  r.status = .sent ∨ r.status = .skipped ∨ r.status = .failed

theorem concluded_apply {u : ItemUpdate} (hu : u ≠ .counted) (r : FollowUpQueueItem) :
    concluded (u.apply r) := by
  cases u with
  | skipped => exact .inr (.inl rfl)
  | counted => exact absurd rfl hu
  | sent => exact .inl rfl
  | failed => exact .inr (.inr rfl)

/-- What a row keeps: its limits, and its end. -/
structure Continues (r r' : FollowUpQueueItem) : Prop where
  maxAttempts : r'.maxAttempts = r.maxAttempts
  triggerAt : r'.triggerAt = r.triggerAt
  status : r'.status = r.status ∨ concluded r'

theorem Continues.refl (r : FollowUpQueueItem) : Continues r r := ⟨rfl, rfl, .inl rfl⟩

theorem Continues.concluded {r' : FollowUpQueueItem} (h : Continues r r') (hr : concluded r) :
    FollowUpScheduler.concluded r' := by
  rcases h.status with hsame | hdone
  · unfold FollowUpScheduler.concluded at hr ⊢
    rw [hsame]
    exact hr
  · exact hdone

theorem continues_apply (u : ItemUpdate) (r : FollowUpQueueItem) : Continues r (u.apply r) := by
  cases u with
  | skipped => exact ⟨rfl, rfl, .inr (.inr (.inl rfl))⟩
  | counted => exact ⟨rfl, rfl, .inl rfl⟩
  | sent => exact ⟨rfl, rfl, .inr (.inl rfl)⟩
  | failed => exact ⟨rfl, rfl, .inr (.inr (.inr rfl))⟩

/-- The item whose attempt a step counts. -/
def counting (l : PromotionPhase) : SoloMove → Option FollowUpQueueItem
  | .act (.increment session) =>
      match l with
      | .promoting item _ => if session.writes && !skips item then some item else none
      | _ => none
  | _ => none

/-- The items whose attempt a step counts, as a number for each id. -/
def counted (l : PromotionPhase) (move : SoloMove) (itemId : String) : Nat :=
  if (counting l move).any (fun item => item.id = itemId) then 1 else 0

theorem counted_increment {item : FollowUpQueueItem} {rest : List FollowUpQueueItem}
    {session : Transaction} (hskips : skips item = false) :
    counted (.promoting item rest) (.act (.increment session)) itemId =
      if session.writes = true ∧ itemId = item.id then 1 else 0 := by
  unfold counted counting
  simp only [hskips]
  cases session.writes <;> simp [eq_comm]

theorem counting_eq_some {item : FollowUpQueueItem} (h : counting l move = some item) :
    (∃ rest, l = .promoting item rest) ∧ skips item = false ∧
      ∃ session, move = .act (.increment session) := by
  unfold counting at h
  split at h
  · split at h
    · split at h
      next hcounts =>
        cases h
        exact ⟨⟨_, rfl⟩, by simpa using (Bool.and_eq_true_iff.1 hcounts).2, _, rfl⟩
      · cases h
    · cases h
  · cases h

theorem counted_cases (l : PromotionPhase) (move : SoloMove) (itemId : String) :
    counted l move itemId = 0 ∨
      counted l move itemId = 1 ∧ ∃ item, counting l move = some item ∧ item.id = itemId := by
  unfold counted
  cases hcounting : counting l move with
  | none => exact .inl rfl
  | some item =>
      by_cases hid : item.id = itemId
      · exact .inr ⟨by simp [hid], item, rfl, hid⟩
      · exact .inl (by simp [hid])

/-- A row continues, and its count grows by the attempt that the step counts. -/
theorem SoloStep.row (hstep : SoloStep scheduler s l move l' t)
    (hfind : itemOf s.queue itemId = some r) :
    ∃ r', itemOf t.queue itemId = some r' ∧ Continues r r' ∧
      r'.attemptCount = r.attemptCount + counted l move itemId := by
  have hkept : t.queue = s.queue → counted l move itemId = 0 → ∃ r',
      itemOf t.queue itemId = some r' ∧ Continues r r' ∧
        r'.attemptCount = r.attemptCount + counted l move itemId := by
    intro hqueue hnone
    exact ⟨r, by rw [hqueue, hfind], .refl r, by rw [hnone, Nat.add_zero]⟩
  cases hstep with
  | fetched => exact hkept rfl rfl
  | @marked l a l' u item rest session hu ha hl hrest hidle hl' htodo hcommits =>
      have hnone : counted l (.act a) itemId = 0 := by
        cases a with
        | increment session' => cases ha
        | _ => rfl
      refine ⟨_, by rw [itemOf_written, hfind]; rfl, ?_, ?_⟩
      · split
        · exact continues_apply u r
        · exact .refl r
      · rw [hnone]
        split
        · cases u <;> first | rfl | exact absurd rfl hu
        · rfl
  | incremented item rest session hskips =>
      refine ⟨_, by rw [itemOf_written, hfind]; rfl, ?_, ?_⟩
      · split
        · exact continues_apply .counted r
        · exact .refl r
      · rw [counted_increment hskips]
        split <;> rfl
  | enqueued item rest newCount session outbox' => exact hkept rfl rfl
  | crashed l => exact hkept rfl rfl
  | started => exact hkept rfl rfl
  | elapsed l hqueue hnow => exact hkept hqueue rfl
  | scheduled l itemId' tenant payload hnew =>
      rcases itemOf_insertOrIgnore s.queue (FollowUpRepository.item itemId' tenant payload) itemId
        with hold | ⟨hnone, -⟩
      · exact ⟨r, hold.trans hfind, .refl r, rfl⟩
      · rw [hnone] at hfind
        cases hfind
  | optedOut l conversationId tenant =>
      refine ⟨_, by rw [itemOf_optOut, hfind, Option.map_some], ?_, ?_⟩
      · split
        · exact ⟨rfl, rfl, .inl rfl⟩
        · exact .refl r
      · split <;> rfl

/-- A row that was not there is a new one. -/
theorem SoloStep.newRow (hstep : SoloStep scheduler s l move l' t)
    (hfind : itemOf s.queue itemId = none) {r' : FollowUpQueueItem}
    (hfind' : itemOf t.queue itemId = some r') : r'.attemptCount = 0 ∧
      ∃ payload, move = .around (.queue (.schedule itemId payload)) ∧
        r'.triggerAt = payload.triggerAt := by
  cases hstep with
  | marked u item rest session =>
      rw [itemOf_written, hfind] at hfind'
      cases hfind'
  | incremented item rest session hskips =>
      rw [itemOf_written, hfind] at hfind'
      cases hfind'
  | scheduled l itemId' tenant payload hnew =>
      have hrow := hfind'
      rcases itemOf_insertOrIgnore s.queue (FollowUpRepository.item itemId' tenant payload) itemId
        with hold | ⟨-, hadded⟩
      · rw [hold, hfind] at hfind'
        cases hfind'
      · obtain rfl := Option.some.inj (hadded.symm.trans hfind')
        obtain rfl : itemId' = itemId := id_of_itemOf hrow
        exact ⟨rfl, payload, rfl, rfl⟩
  | optedOut l conversationId tenant =>
      rw [itemOf_optOut, hfind] at hfind'
      cases hfind'
  | elapsed l hqueue hnow =>
      rw [hqueue, hfind] at hfind'
      cases hfind'
  | _ =>
      rw [hfind] at hfind'
      cases hfind'

theorem SoloStep.ids (hstep : SoloStep scheduler s l move l' t)
    (hids : (s.queue.rows.map FollowUpQueueItem.id).Nodup) :
    (t.queue.rows.map FollowUpQueueItem.id).Nodup := by
  cases hstep with
  | marked u item rest session =>
      rw [ids_written]
      exact hids
  | incremented item rest session hskips =>
      rw [ids_written]
      exact hids
  | scheduled l itemId' tenant payload hnew => exact nodup_ids_insertOrIgnore hids hnew
  | optedOut l conversationId tenant =>
      rw [ids_optOut]
      exact hids
  | elapsed l hqueue hnow =>
      rw [hqueue]
      exact hids
  | _ => exact hids

/-! ## The copies in hand -/

/-- The scheduler's copies agree with their rows, but for opt-outs. -/
structure InStep (s : PromotionShared) (l : PromotionPhase) : Prop where
  ids : (s.queue.rows.map FollowUpQueueItem.id).Nodup
  distinct : (l.items.map FollowUpQueueItem.id).Nodup
  copies : ∀ item ∈ l.todo, ∃ r, itemOf s.queue item.id = some r ∧
    r.attemptCount = item.attemptCount ∧ r.maxAttempts = item.maxAttempts

/-- A step keeps a copy in hand in step with its row if it counts no attempt at it. -/
theorem SoloStep.copy (hstep : SoloStep scheduler s l move l' t) (h : InStep s l)
    {item : FollowUpQueueItem} (hitem : item ∈ l.todo) (hnone : counted l move item.id = 0) :
    ∃ r, itemOf t.queue item.id = some r ∧ r.attemptCount = item.attemptCount ∧
      r.maxAttempts = item.maxAttempts := by
  obtain ⟨r, hfind, hcount, hmax⟩ := h.copies item hitem
  obtain ⟨r', hfind', hcontinues, hcount'⟩ := hstep.row hfind
  rw [hnone, Nat.add_zero] at hcount'
  exact ⟨r', hfind', hcount'.trans hcount, hcontinues.maxAttempts.trans hmax⟩

theorem SoloStep.inStep (hstep : SoloStep scheduler s l move l' t) (h : InStep s l) :
    InStep t l' := by
  have hcopy : ∀ item ∈ l.todo, counted l move item.id = 0 → _ :=
    fun item hitem hnone => hstep.copy h hitem hnone
  refine ⟨hstep.ids h.ids, ?_, ?_⟩
  · cases hstep with
    | fetched =>
        rw [items_nextItem]
        exact nodup_fetchDue h.ids _ _
    | marked u item rest session hu ha hl hrest hidle hl' =>
        exact h.distinct.sublist ((hl ▸ hl').map _)
    | incremented item rest session =>
        split
        · exact h.distinct
        · exact List.nodup_nil
    | enqueued item rest newCount session =>
        split
        · exact h.distinct
        · exact h.distinct.sublist ((items_afterFailure_sublist item rest newCount).map _)
    | crashed => exact List.nodup_nil
    | _ => exact h.distinct
  · intro item hitem
    cases hstep with
    | fetched =>
        rw [todo_nextItem] at hitem
        exact ⟨item, itemOf_of_mem h.ids (mem_fetchDue hitem).1, rfl, rfl⟩
    | @marked l a l' u item' rest session hu ha hl hrest hidle hl' htodo =>
        refine hcopy item (hrest item (htodo item hitem)) ?_
        cases a with
        | increment session' => cases ha
        | _ => rfl
    | incremented item' rest session hskips =>
        split at hitem
        · have hne : item.id ≠ item'.id := by
            intro heq
            exact (List.nodup_cons.1 h.distinct).1 (heq ▸ List.mem_map_of_mem hitem)
          refine hcopy item (List.mem_cons_of_mem _ hitem) ?_
          rw [counted_increment hskips, if_neg fun hcounted => hne hcounted.2]
        · cases hitem
    | enqueued item' rest newCount session =>
        refine hcopy item ?_ rfl
        split at hitem
        · exact hitem
        · exact todo_afterFailure item' rest newCount ▸ hitem
    | crashed => cases hitem
    | started => cases hitem
    | elapsed => exact hcopy item hitem rfl
    | scheduled => exact hcopy item hitem rfl
    | optedOut => exact hcopy item hitem rfl

end Steps

end FollowUpScheduler

end Iara.Workers
