import Iara.Lib.Custody
import Iara.Workers.PromotionSteps

/-!
# One outbox row per follow-up

A follow-up gives rise to at most one outbox row in every run of any number of
schedulers in which an item is promoted by one scheduler at a time and a row
that was written is followed by `mark_sent`, or written on the last attempt.
Nothing in the scheduler sees to either: `fetch_due` claims no items, and the
key of the outbox row holds the attempt, so that a second promotion has a new
key.

Each item is in custody from its increment to its last mark.  An item whose
attempts are used up counts as shelved: no scheduler that fetches it then
promotes it.
-/

namespace Iara.Workers

open Iara.Lib Iara.Persistence Iara.Lib.Custody

namespace FollowUpScheduler

open FollowUpRepository

/-! ## The claim -/

def promotedFrom (itemId : String) (r : OutboxRow) : Bool :=
  decide (r.capabilityName = reengageCapability) &&
    decide (r.parametersJson.lookup "follow_up_item_id" = some (.str itemId))

/-- The number of outbox rows that the item gave rise to. -/
def promotions (s : PromotionShared) (itemId : String) : Nat :=
  (s.outbox.rows.filter (promotedFrom itemId)).length

/-- At no point of a run did an item give rise to a second row. -/
def PromotedOnce (scheduler : FollowUpScheduler) (start : PromotionConfig)
    (moves : List PromotionMove) : Prop :=
  ∀ earlier c, earlier <+: moves → scheduler.schedulers.machine.run start earlier = some c →
    ∀ itemId, promotions c.shared itemId ≤ 1

/-- Empty tables and no scheduler yet. -/
def initially (now : Nat) : PromotionConfig where
  shared := { queue := .empty, outbox := .empty, now := now }

/-! ## The condition -/

def standingOf (r : FollowUpQueueItem) : Standing :=
  match r.status with
  | .pending => if r.attemptLimit ≤ r.attemptCount then .shelved else .available
  | .sent => .done
  | _ => .shelved

def heldItem (l : PromotionPhase) : Option String := l.inHand.map fun p => p.1.id

/-- The item is still pending with attempts left, and no other scheduler is
between its increment and its last mark. -/
def promotable (c : PromotionConfig) (item : FollowUpQueueItem) : Bool :=
  (itemOf c.shared.queue item.id).any (fun r => standingOf r = .available) &&
    !(c.parties.any fun l => heldItem l = some item.id)

/-- Items are promoted in turn, and between the insert and `mark_sent` nothing
fails, unless it was the last attempt. -/
def promotesInTurn (c : PromotionConfig) : PromotionMove → Bool
  | .party i (.increment .commits) =>
      match c.parties[i]? with
      | some (.promoting item _) => promotable c item
      | _ => true
  | .party i (.enqueue (.commitsThenFails _)) =>
      match c.parties[i]? with
      | some (.incremented item _ newCount) => item.attemptLimit ≤ newCount
      | _ => true
  | .party i (.markSent (.fails _)) =>
      match c.parties[i]? with
      | some (.enqueued item _ newCount) => item.attemptLimit ≤ newCount
      | _ => true
  | .party i .crash =>
      match c.parties[i]? with
      | some (.enqueued item _ newCount) => item.attemptLimit ≤ newCount
      | _ => true
  | _ => true

/-! ## Items in custody -/

def standing (queue : FollowUpQueue) (itemId : String) : Standing :=
  (itemOf queue itemId).elim .absent standingOf

def held (itemId : String) (l : PromotionPhase) : Option Bool :=
  l.inHand.bind fun p => if p.1.id = itemId then some p.2.2 else none

def view (c : PromotionConfig) (itemId : String) : View where
  standing := standing c.shared.queue itemId
  effects := promotions c.shared itemId
  holders := holders (held itemId) c.parties

/-- The row of a fetched item, with at least the attempts counted for it. -/
def Known (queue : FollowUpQueue) (item : FollowUpQueueItem) (newCount : Nat) : Prop :=
  ∃ r, itemOf queue item.id = some r ∧ r.attemptLimit = item.attemptLimit ∧
    newCount ≤ r.attemptCount

structure Consistent (c : PromotionConfig) : Prop where
  ids : (c.shared.queue.rows.map FollowUpQueueItem.id).Nodup
  known : ∀ l ∈ c.parties, ∀ item ∈ l.items, Known c.shared.queue item 0
  counted : ∀ l ∈ c.parties, ∀ item newCount enqueued,
    l.inHand = some (item, newCount, enqueued) → Known c.shared.queue item newCount

theorem Known.write {queue : FollowUpQueue} {item : FollowUpQueueItem} {newCount : Nat}
    (h : Known queue item newCount) (u : ItemUpdate) (itemId : String) :
    Known (u.write itemId queue) item newCount := by
  obtain ⟨r, hfind, hlimit, hcount⟩ := h
  unfold Known
  rw [itemOf_write]
  by_cases hid : item.id = itemId
  · rw [if_pos hid, ← hid, hfind]
    have hle := u.attemptCount_le_apply r
    exact ⟨u.apply r, rfl, (u.apply_limit r).trans hlimit, by omega⟩
  · rw [if_neg hid]
    exact ⟨r, hfind, hlimit, hcount⟩

/-- A last attempt shelves the item. -/
theorem Known.not_available {queue : FollowUpQueue} {item : FollowUpQueueItem} {newCount : Nat}
    (h : Known queue item newCount) (hlast : item.attemptLimit ≤ newCount) :
    standing queue item.id ≠ .available := by
  obtain ⟨r, hfind, hlimit, hcount⟩ := h
  have hexhausted : r.attemptLimit ≤ r.attemptCount := by omega
  unfold standing
  rw [hfind, Option.elim_some, standingOf]
  cases r.status <;> simp [hexhausted]

theorem standingOf_pending {r : FollowUpQueueItem} (h : r.status = .pending) :
    standingOf r = .available ∨ standingOf r = .shelved := by
  unfold standingOf
  rw [h]
  simp only
  split
  · exact Or.inr rfl
  · exact Or.inl rfl

/-- An update other than `mark_sent` leaves the standing alone or shelves the item. -/
theorem standingOf_apply {u : ItemUpdate} (hu : u ≠ .sent) (r : FollowUpQueueItem) :
    standingOf (u.apply r) = standingOf r ∨ standingOf (u.apply r) = .shelved := by
  cases u with
  | sent => exact absurd rfl hu
  | skipped => exact Or.inr rfl
  | failed => exact Or.inr rfl
  | counted =>
      have hstatus : (ItemUpdate.counted.apply r).status = r.status := rfl
      have hlimit : (ItemUpdate.counted.apply r).attemptLimit = r.attemptLimit := rfl
      have hcount : (ItemUpdate.counted.apply r).attemptCount = r.attemptCount + 1 := rfl
      unfold standingOf
      rw [hstatus, hlimit, hcount]
      cases r.status with
      | pending =>
          simp only
          by_cases hmore : r.attemptLimit ≤ (r.attemptCount + 1 : Nat)
          · rw [if_pos hmore]
            exact Or.inr rfl
          · have hless : ¬ r.attemptLimit ≤ r.attemptCount := by omega
            rw [if_neg hmore, if_neg hless]
            exact Or.inl rfl
      | sent => exact Or.inl rfl
      | skipped => exact Or.inl rfl
      | failed => exact Or.inl rfl

theorem standing_write (u : ItemUpdate) (itemId : String) (queue : FollowUpQueue)
    (itemId' : String) :
    standing (u.write itemId queue) itemId' =
      if itemId' = itemId then (itemOf queue itemId).elim .absent (fun r => standingOf (u.apply r))
      else standing queue itemId' := by
  unfold standing
  rw [itemOf_write]
  by_cases hid : itemId' = itemId
  · rw [if_pos hid, if_pos hid]
    cases itemOf queue itemId <;> rfl
  · rw [if_neg hid, if_neg hid]

/-- An update other than `mark_sent`, seen from any item. -/
theorem standing_write_of_ne_sent {u : ItemUpdate} (hu : u ≠ .sent) (itemId : String)
    (queue : FollowUpQueue) (itemId' : String) :
    standing (u.write itemId queue) itemId' = standing queue itemId' ∨
      standing (u.write itemId queue) itemId' = .shelved := by
  rw [standing_write]
  by_cases hid : itemId' = itemId
  · rw [if_pos hid, hid]
    unfold standing
    cases hfind : itemOf queue itemId with
    | none => exact Or.inl rfl
    | some r =>
        simp only [Option.elim_some]
        exact standingOf_apply hu r
  · rw [if_neg hid]
    exact Or.inl rfl

/-! ## What a step does to the items -/

section Steps

variable {scheduler : FollowUpScheduler} {c c' : PromotionConfig}

/-- The item in a scheduler's hands after a step was in its hands before, or was
just counted. -/
theorem PromotionEffect.inHand {s t : PromotionShared} {l l' : PromotionPhase}
    {a : PromotionStep} (h : PromotionEffect scheduler s l a l' t) {item : FollowUpQueueItem}
    {newCount : Nat} {enqueued : Bool} (hl' : l'.inHand = some (item, newCount, enqueued)) :
    (∃ before, l.inHand = some (item, newCount, before)) ∨
      (item ∈ l.items ∧ newCount = (incrementAttempt item.id s.queue).2 ∧
        t.queue = ItemUpdate.counted.write item.id s.queue) := by
  cases h with
  | taken item' rest =>
      cases hl'
      exact Or.inr ⟨List.mem_cons_self, rfl, rfl⟩
  | enqueued item' rest newCount' =>
      cases hl'
      exact Or.inl ⟨false, rfl⟩
  | moved _ hnone _ => simp [hnone] at hl'
  | updated _ _ _ _ _ hnone _ => simp [hnone] at hl'
  | sent _ _ _ hnone _ => simp [hnone] at hl'
  | notEnqueued => simp at hl'
  | enqueuedThenRaised => simp at hl'
  | notSent => simp at hl'
  | crashed => cases hl'

theorem known_counted {queue : FollowUpQueue} {item : FollowUpQueueItem}
    (h : Known queue item 0) :
    Known (ItemUpdate.counted.write item.id queue) item (incrementAttempt item.id queue).2 := by
  obtain ⟨r, hfind, hlimit, -⟩ := h
  have hcount : (incrementAttempt item.id queue).2 = r.attemptCount + 1 := by
    unfold incrementAttempt
    rw [hfind]
    rfl
  refine ⟨ItemUpdate.counted.apply r, ?_, hlimit, ?_⟩
  · rw [itemOf_write, if_pos rfl, hfind, Option.map_some]
  · rw [hcount]
    exact Nat.le_refl _

theorem Consistent.party_step (hc : Consistent c) {i : Nat} {a : PromotionStep}
    (hstep : scheduler.schedulers.machine.step c (.party i a) = some c') : Consistent c' := by
  obtain ⟨l, l', t, hi, hact, rfl⟩ := Interleaving.step_party hstep
  have hl : l ∈ c.parties := List.mem_of_getElem? hi
  have heffect := act_effect hact
  have hids : t.queue.rows.map FollowUpQueueItem.id =
      c.shared.queue.rows.map FollowUpQueueItem.id := by
    rcases heffect.queue with hsame | ⟨u, itemId, hwritten⟩
    · rw [hsame]
    · rw [hwritten, ids_write]
  have hknown : ∀ item newCount, Known c.shared.queue item newCount →
      Known t.queue item newCount := by
    intro item newCount h
    rcases heffect.queue with hsame | ⟨u, itemId, hwritten⟩
    · rw [hsame]
      exact h
    · rw [hwritten]
      exact h.write u itemId
  constructor
  · show (t.queue.rows.map FollowUpQueueItem.id).Nodup
    rw [hids]
    exact hc.ids
  · intro l₁ hl₁ item hitem
    apply hknown
    rcases List.mem_or_eq_of_mem_set hl₁ with hold | rfl
    · exact hc.known l₁ hold item hitem
    · rcases heffect.items item hitem with hbefore | htable
      · exact hc.known l hl item hbefore
      · exact ⟨item, itemOf_of_mem hc.ids htable, rfl, Nat.zero_le _⟩
  · intro l₁ hl₁ item newCount enqueued hhand
    rcases List.mem_or_eq_of_mem_set hl₁ with hold | rfl
    · exact hknown item newCount (hc.counted l₁ hold item newCount enqueued hhand)
    · rcases heffect.inHand hhand with ⟨before, hbefore⟩ | ⟨hitem, rfl, hwritten⟩
      · exact hknown item newCount (hc.counted l hl item newCount before hbefore)
      · show Known t.queue item _
        rw [hwritten]
        exact known_counted (hc.known l hl item hitem)

/-- The environment lists a new item at most, and promotes none. -/
theorem promotions_congr {s t : PromotionShared} (h : t.outbox = s.outbox) (itemId : String) :
    promotions t itemId = promotions s itemId := by
  unfold promotions
  rw [h]

theorem environment_effect {s t : PromotionShared} {e : PromotionEvent} {ls : List PromotionPhase}
    (h : environment s e = some (ls, t)) :
    (∀ l ∈ ls, l = .sleeping) ∧
      (t.queue = s.queue ∨ ∃ item, (∀ r ∈ s.queue.rows, r.id ≠ item.id) ∧
        item.status = .pending ∧ t.queue = s.queue.insertOrIgnore item) ∧
      ∀ itemId, promotions t itemId = promotions s itemId := by
  cases e with
  | tick elapsed =>
      cases h
      exact ⟨by simp, Or.inl rfl, fun _ => rfl⟩
  | start =>
      cases h
      exact ⟨by simp, Or.inl rfl, fun _ => rfl⟩
  | schedule itemId payload =>
      simp only [environment] at h
      split at h
      · cases h
      · rename_i hfresh
        cases h
        refine ⟨by simp, ?_, promotions_congr rfl⟩
        simp only [FollowUpRepository.enqueueRaw]
        cases parseUuid payload.tenantId with
        | none => exact Or.inl rfl
        | some tenant =>
            right
            refine ⟨FollowUpRepository.item itemId tenant payload, ?_, rfl, rfl⟩
            intro r hr heq
            apply hfresh
            exact List.any_eq_true.2 ⟨r, hr, decide_eq_true heq⟩
  | enqueue command =>
      simp only [environment] at h
      split at h
      · cases h
      · rename_i hother
        cases h
        refine ⟨by simp, Or.inl rfl, ?_⟩
        intro itemId
        unfold promotions OutboxRepository.enqueue
        have hnot : promotedFrom itemId (OutboxRepository.row s.now command) = false := by
          simp [promotedFrom, OutboxRepository.row, hother]
        cases hkey : s.outbox.hasKey (OutboxRepository.row s.now command).key with
        | true => rw [Table.insertOrIgnore_of_hasKey hkey]
        | false =>
            rw [Table.rows_insertOrIgnore_of_new hkey, List.filter_append, List.length_append,
              List.filter_singleton, hnot]
            rfl

theorem Consistent.environment_step (hc : Consistent c) {e : PromotionEvent}
    (hstep : scheduler.schedulers.machine.step c (.environment e) = some c') : Consistent c' := by
  obtain ⟨ls, t, henv, rfl⟩ := Interleaving.step_environment hstep
  obtain ⟨hidle, hqueue, -⟩ := environment_effect henv
  have hknown : ∀ item newCount, Known c.shared.queue item newCount →
      Known t.queue item newCount := by
    rintro item newCount ⟨r, hfind, hlimit, hcount⟩
    rcases hqueue with hsame | ⟨new, -, -, hinserted⟩
    · rw [hsame]
      exact ⟨r, hfind, hlimit, hcount⟩
    · rw [hinserted]
      rcases itemOf_insertOrIgnore c.shared.queue new item.id with hold | ⟨hnone, -⟩
      · exact ⟨r, hold.trans hfind, hlimit, hcount⟩
      · rw [hnone] at hfind
        cases hfind
  have hparty : ∀ l ∈ c.parties ++ ls, l ∈ c.parties ∨ l = .sleeping := by
    intro l hl
    rcases List.mem_append.1 hl with hold | hnew
    · exact Or.inl hold
    · exact Or.inr (hidle l hnew)
  constructor
  · show (t.queue.rows.map FollowUpQueueItem.id).Nodup
    rcases hqueue with hsame | ⟨new, hfresh, -, hinserted⟩
    · rw [hsame]
      exact hc.ids
    · rw [hinserted]
      exact nodup_ids_insertOrIgnore hc.ids hfresh
  · intro l hl item hitem
    rcases hparty l hl with hold | rfl
    · exact hknown item 0 (hc.known l hold item hitem)
    · cases hitem
  · intro l hl item newCount enqueued hhand
    rcases hparty l hl with hold | rfl
    · exact hknown item newCount (hc.counted l hold item newCount enqueued hhand)
    · cases hhand

/-! ## What a step does to one item's custody -/

theorem view_step_of_eq {itemId : String}
    (hstanding : standing c'.shared.queue itemId = standing c.shared.queue itemId ∨
      standing c'.shared.queue itemId = .shelved)
    (hcount : promotions c'.shared itemId = promotions c.shared itemId)
    (hholders : holders (held itemId) c'.parties = holders (held itemId) c.parties) :
    (view c itemId).Step (view c' itemId) := by
  rcases hstanding with hsame | hshelved
  · have hview : view c' itemId = view c itemId := by
      unfold view
      rw [hsame, hcount, hholders]
    rw [hview]
    exact .stays
  · have hview : view c' itemId = { view c itemId with standing := .shelved } := by
      unfold view
      rw [hshelved, hcount, hholders]
    rw [hview]
    exact .shelved

section Party

variable {i : Nat} {l l' : PromotionPhase} {t : PromotionShared} {itemId : String}

theorem held_of_inHand_eq_none (h : l.inHand = none) (itemId : String) : held itemId l = none := by
  unfold held
  rw [h, Option.bind_none]

/-- A step of the scheduler that holds an item: for that item it is `hstep`, the
others it leaves alone. -/
theorem view_step_held {item : FollowUpQueueItem} {newCount : Nat} {enqueued : Bool}
    (hi : c.parties[i]? = some l) (honce : (view c itemId).Once)
    (hl : l.inHand = some (item, newCount, enqueued))
    (hl' : ∀ p, l'.inHand = some p → p.1 = item)
    (hother : itemId ≠ item.id → standing t.queue itemId = standing c.shared.queue itemId ∧
      promotions t itemId = promotions c.shared itemId)
    (hstep : item.id = itemId → (view c itemId).holders = [enqueued] →
      (view c itemId).Step
        { standing := standing t.queue itemId
          effects := promotions t itemId
          holders := (l'.inHand.map fun p => p.2.2).toList }) :
    (view c itemId).Step (view ⟨t, c.parties.set i l'⟩ itemId) := by
  by_cases hid : item.id = itemId
  · have hheld : held itemId l = some enqueued := by
      unfold held
      rw [hl, Option.bind_some, if_pos hid]
    obtain ⟨hone, hset⟩ := holders_of_held hi honce.holders_le hheld
    have hview : view ⟨t, c.parties.set i l'⟩ itemId =
        { standing := standing t.queue itemId
          effects := promotions t itemId
          holders := (l'.inHand.map fun p => p.2.2).toList } := by
      unfold view
      rw [hset]
      congr 2
      unfold held
      cases hhand : l'.inHand with
      | none => rfl
      | some p => rw [Option.bind_some, hl' p hhand, if_pos hid, Option.map_some]
    rw [hview]
    exact hstep hid hone
  · obtain ⟨hstanding, hcount⟩ := hother (Ne.symm hid)
    apply view_step_of_eq (Or.inl hstanding) hcount
    apply holders_set_of_eq hi
    unfold held
    rw [hl, Option.bind_some, if_neg hid]
    cases hhand : l'.inHand with
    | none => rfl
    | some p => rw [Option.bind_some, hl' p hhand, if_neg hid]

/-- The increment takes an item with attempts left that nobody holds. -/
theorem view_step_increment {item : FollowUpQueueItem} {rest : List FollowUpQueueItem}
    {newCount : Nat} (hi : c.parties[i]? = some (.promoting item rest))
    (hmeets : promotable c item = true) :
    (view c itemId).Step
      (view ⟨{ c.shared with queue := ItemUpdate.counted.write item.id c.shared.queue },
        c.parties.set i (.incremented item rest newCount)⟩ itemId) := by
  have hstanding :=
    standing_write_of_ne_sent (u := .counted) (by simp) item.id c.shared.queue itemId
  by_cases hid : item.id = itemId
  · simp only [promotable, Bool.and_eq_true, Bool.not_eq_true', Option.any_eq_true,
      List.any_eq_false, decide_eq_true_eq] at hmeets
    obtain ⟨⟨r, hfind, hpromotable⟩, hnobody⟩ := hmeets
    have havailable : (view c itemId).standing = .available := by
      show standing c.shared.queue itemId = .available
      unfold standing
      rw [← hid, hfind, Option.elim_some, hpromotable]
    have hfree : (view c itemId).holders = [] := by
      apply List.filterMap_eq_nil_iff.2
      intro l hl
      have hother := hnobody l hl
      unfold held
      cases hhand : l.inHand with
      | none => rfl
      | some p =>
          have hne : p.1.id ≠ itemId := by
            intro heq
            apply hother
            unfold heldItem
            rw [hhand, Option.map_some, heq, hid]
          rw [Option.bind_some, if_neg hne]
    have hview : view ⟨{ c.shared with
          queue := ItemUpdate.counted.write item.id c.shared.queue },
        c.parties.set i (.incremented item rest newCount)⟩ itemId =
        { standing := standing (ItemUpdate.counted.write item.id c.shared.queue) itemId
          effects := (view c itemId).effects
          holders := [false] } := by
      unfold view
      rw [holders_set_of_free hi hfree]
      congr 1
      simp [held, PromotionPhase.inHand, hid]
    rw [hview]
    refine .taken _ _ _ havailable hfree (Or.inl rfl) ?_
    have hbefore : standing c.shared.queue itemId = .available := havailable
    rw [hbefore] at hstanding
    exact hstanding
  · apply view_step_of_eq hstanding
    · rfl
    · apply holders_set_of_eq hi
      simp [held, PromotionPhase.inHand, hid]

theorem promotions_enqueue (scheduler : FollowUpScheduler) (s : PromotionShared)
    (item : FollowUpQueueItem) (newCount : Nat)
    (itemId : String) :
    let outbox' := (OutboxRepository.enqueue s.now (scheduler.providerCommand item newCount)
      s.outbox).1
    promotions { s with outbox := outbox' } itemId = promotions s itemId ∨
      item.id = itemId ∧
        promotions { s with outbox := outbox' } itemId = promotions s itemId + 1 := by
  intro outbox'
  have hpromoted : promotedFrom itemId
      (OutboxRepository.row s.now (scheduler.providerCommand item newCount)) =
        decide (item.id = itemId) := by
    simp [promotedFrom, OutboxRepository.row, providerCommand, List.lookup_cons]
  show (outbox'.rows.filter _).length = _ ∨ _ ∧ (outbox'.rows.filter _).length = _
  simp only [outbox', OutboxRepository.enqueue]
  cases hkey : s.outbox.hasKey
      (OutboxRepository.row s.now (scheduler.providerCommand item newCount)).key with
  | true =>
      rw [Table.insertOrIgnore_of_hasKey hkey]
      exact Or.inl rfl
  | false =>
      rw [Table.rows_insertOrIgnore_of_new hkey, List.filter_append, List.length_append,
        List.filter_singleton, hpromoted]
      by_cases hid : item.id = itemId
      · right
        rw [decide_eq_true hid]
        exact ⟨hid, rfl⟩
      · left
        rw [decide_eq_false hid]
        rfl

theorem view_step_of_effect {a : PromotionStep}
    (heffect : PromotionEffect scheduler c.shared l a l' t) (hc : Consistent c)
    (honce : (view c itemId).Once) (hi : c.parties[i]? = some l)
    (hmeets : promotesInTurn c (.party i a) = true) :
    (view c itemId).Step (view ⟨t, c.parties.set i l'⟩ itemId) := by
  have hl : l ∈ c.parties := List.mem_of_getElem? hi
  have hidle : l.inHand = none → l'.inHand = none →
      holders (held itemId) (c.parties.set i l') = holders (held itemId) c.parties := by
    intro hnone hnone'
    apply holders_set_of_eq hi
    rw [held_of_inHand_eq_none hnone, held_of_inHand_eq_none hnone']
  have hlast : ∀ item newCount enqueued, l.inHand = some (item, newCount, enqueued) →
      item.attemptLimit ≤ newCount → item.id = itemId → (view c itemId).holders = [enqueued] →
        standing c.shared.queue itemId = .shelved := by
    intro item newCount enqueued hhand hlimit hid hheld
    have hnot := (hc.counted l hl item newCount enqueued hhand).not_available hlimit
    rw [hid] at hnot
    exact (honce.available_or_shelved hheld).resolve_left hnot
  cases heffect with
  | moved hnone hnone' _ => exact view_step_of_eq (Or.inl rfl) rfl (hidle hnone hnone')
  | updated u item hu _ hnone hnone' _ =>
      exact view_step_of_eq (standing_write_of_ne_sent hu item.id c.shared.queue itemId) rfl
        (hidle hnone hnone')
  | taken item rest =>
      simp only [promotesInTurn, hi] at hmeets
      exact view_step_increment hi hmeets
  | enqueued item rest newCount =>
      have hcount := promotions_enqueue scheduler c.shared item newCount itemId
      refine view_step_held hi honce rfl (by simp [PromotionPhase.inHand]) ?_ ?_
      · intro hid
        exact ⟨rfl, hcount.resolve_right fun h => hid h.1.symm⟩
      · intro hid hheld
        exact .acted _ hheld (hcount.imp_right And.right)
  | notEnqueued item rest newCount exception =>
      refine view_step_held hi honce rfl (by simp) (fun _ => ⟨rfl, rfl⟩) ?_
      intro hid hheld
      rw [inHand_afterFailure]
      exact .dropped false _ hheld (Or.inr rfl) (honce.available_or_shelved hheld)
  | enqueuedThenRaised item rest newCount exception =>
      have hcount := promotions_enqueue scheduler c.shared item newCount itemId
      simp only [promotesInTurn, hi, decide_eq_true_eq] at hmeets
      refine view_step_held hi honce rfl (by simp) ?_ ?_
      · intro hid
        exact ⟨rfl, hcount.resolve_right fun h => hid h.1.symm⟩
      · intro hid hheld
        rw [inHand_afterFailure]
        refine .closed _ false _ hheld ?_ (Or.inl (hlast item newCount false rfl hmeets hid hheld))
        exact hcount.imp_right fun h => ⟨h.2, rfl⟩
  | sent item rest newCount hnone _ =>
      refine view_step_held hi honce rfl (by simp [hnone]) ?_ ?_
      · intro hid
        exact ⟨(standing_write .sent item.id c.shared.queue itemId).trans (if_neg hid), rfl⟩
      · intro hid hheld
        obtain ⟨r, hfind, -, -⟩ := hc.counted _ hl item newCount true rfl
        have hdone : standing (ItemUpdate.sent.write item.id c.shared.queue) itemId = .done := by
          rw [standing_write, if_pos hid.symm, hfind]
          rfl
        rw [hnone]
        exact .closed _ true _ hheld (Or.inl rfl) (Or.inr hdone)
  | notSent item rest newCount exception =>
      simp only [promotesInTurn, hi, decide_eq_true_eq] at hmeets
      refine view_step_held hi honce rfl (by simp) (fun _ => ⟨rfl, rfl⟩) ?_
      intro hid hheld
      rw [inHand_afterFailure]
      exact .closed _ true _ hheld (Or.inl rfl)
        (Or.inl (hlast item newCount true rfl hmeets hid hheld))
  | crashed =>
      cases hhand : l.inHand with
      | none => exact view_step_of_eq (Or.inl rfl) rfl (hidle hhand rfl)
      | some p =>
          obtain ⟨item, newCount, enqueued⟩ := p
          refine view_step_held hi honce hhand (by simp [PromotionPhase.inHand])
            (fun _ => ⟨rfl, rfl⟩) ?_
          intro hid hheld
          cases l with
          | enqueued item' rest newCount' =>
              cases hhand
              simp only [promotesInTurn, hi, decide_eq_true_eq] at hmeets
              exact .closed _ true _ hheld (Or.inl rfl)
                (Or.inl (hlast item newCount true rfl hmeets hid hheld))
          | incremented item' rest newCount' =>
              cases hhand
              exact .dropped false _ hheld (Or.inr rfl) (honce.available_or_shelved hheld)
          | _ => cases hhand

end Party

theorem view_step_environment {e : PromotionEvent}
    (hstep : scheduler.schedulers.machine.step c (.environment e) = some c') (itemId : String) :
    (view c itemId).Step (view c' itemId) := by
  obtain ⟨ls, t, henv, rfl⟩ := Interleaving.step_environment hstep
  obtain ⟨hidle, hqueue, hcount⟩ := environment_effect henv
  have hholders : holders (held itemId) (c.parties ++ ls) = holders (held itemId) c.parties := by
    apply holders_append_of_idle
    intro l hl
    rw [hidle l hl]
    rfl
  rcases hqueue with hsame | ⟨item, -, hpending, hinserted⟩
  · apply view_step_of_eq (Or.inl ?_) (hcount itemId) hholders
    show standing t.queue itemId = standing c.shared.queue itemId
    rw [hsame]
  · rcases itemOf_insertOrIgnore c.shared.queue item itemId with hold | ⟨hnone, hnew⟩
    · apply view_step_of_eq (Or.inl ?_) (hcount itemId) hholders
      show standing t.queue itemId = standing c.shared.queue itemId
      unfold standing
      rw [hinserted, hold]
    · have habsent : standing c.shared.queue itemId = .absent := by
        unfold standing
        rw [hnone]
        rfl
      have hlisted : standing t.queue itemId = standingOf item := by
        unfold standing
        rw [hinserted, hnew]
        rfl
      rcases standingOf_pending hpending with havailable | hshelved
      · have hview : view ⟨t, c.parties ++ ls⟩ itemId =
            { view c itemId with standing := .available } := by
          unfold view
          rw [hlisted, havailable, hcount, hholders]
        rw [hview]
        exact .listed habsent
      · exact view_step_of_eq (Or.inr (hlisted.trans hshelved)) (hcount itemId) hholders

theorem custody_step (c : PromotionConfig) (move : PromotionMove) (c' : PromotionConfig)
    (hc : Consistent c) (honce : ∀ itemId, (view c itemId).Once)
    (hmeets : promotesInTurn c move = true)
    (hstep : scheduler.schedulers.machine.step c move = some c') :
    Consistent c' ∧ ∀ itemId, (view c itemId).Step (view c' itemId) := by
  cases move with
  | party i a =>
      refine ⟨hc.party_step hstep, ?_⟩
      obtain ⟨l, l', t, hi, hact, rfl⟩ := Interleaving.step_party hstep
      exact fun itemId => view_step_of_effect (act_effect hact) hc (honce itemId) hi hmeets
  | environment e => exact ⟨hc.environment_step hstep, view_step_environment hstep⟩

theorem consistent_initially (now : Nat) : Consistent (initially now) where
  ids := List.nodup_nil
  known := by
    intro l hl
    cases hl
  counted := by
    intro l hl
    cases hl

theorem once_initially (now : Nat) (itemId : String) : (view (initially now) itemId).Once where
  effects_le := Nat.zero_le 1
  holders_le := Nat.zero_le 1
  acted := by
    intro hone
    cases hone
  free_of_done := fun _ => rfl
  free_of_absent := fun _ => ⟨rfl, rfl⟩

end Steps

/-! ## Runs -/

theorem promotedOnce_of_promotesInTurn (scheduler : FollowUpScheduler) (now : Nat)
    (moves : List PromotionMove)
    (hall : scheduler.schedulers.machine.AllSteps (fun c move => promotesInTurn c move = true)
      (initially now) moves) :
    PromotedOnce scheduler (initially now) moves := by
  rintro earlier c ⟨rest, rfl⟩ hrun itemId
  exact effects_le_one_of_allSteps custody_step ⟨consistent_initially now, once_initially now⟩
    hall.append_left hrun itemId

section Example

def oneScheduler : FollowUpScheduler where
  digestUuid := id

def reminder : FollowUpPayload where
  tenantId := formatUuid 1
  conversationId := "7"
  contactRef := "contact"
  messageRef := "message"
  messageLength := 5
  reasonRef := "reason"
  triggerAt := 0
  triggerAtIso := "soon"
  idempotencyKey := "reminder"
  correlationId := "correlation"
  maxAttempts := 3

def afterIncrement : List PromotionMove :=
  [.environment (.schedule "item" reminder), .environment .start, .party 0 .fetch,
    .party 0 (.increment .commits)]

/-- The enqueue fails at first, and the next poll promotes the item. -/
def retriedRun : List PromotionMove :=
  afterIncrement ++
    [.party 0 (.enqueue (.fails "OperationalError")), .party 0 .fetch,
      .party 0 (.increment .commits), .party 0 (.enqueue .commits),
      .party 0 (.markSent .commits)]

theorem retriedRun_promotedOnce : PromotedOnce oneScheduler (initially 0) retriedRun := by
  apply promotedOnce_of_promotesInTurn oneScheduler 0 retriedRun
  apply Machine.allSteps_of_trace
  have hall : (oneScheduler.schedulers.machine.trace (initially 0) retriedRun).all
      (fun p => promotesInTurn p.1 p.2) = true := by decide +kernel
  exact List.all_eq_true.1 hall

/-- `mark_sent` fails after the enqueue, and the next poll promotes the item
again, under the key of its second attempt. -/
def unmarkedRun : List PromotionMove :=
  afterIncrement ++
    [.party 0 (.enqueue .commits), .party 0 (.markSent (.fails "OperationalError")),
      .party 0 .fetch, .party 0 (.increment .commits), .party 0 (.enqueue .commits)]

theorem unmarkedRun_not_promotedOnce :
    ¬ PromotedOnce oneScheduler (initially 0) unmarkedRun := by
  intro honce
  have hrun := eq_some_getD (s := initially 0)
    (o := oneScheduler.schedulers.machine.run (initially 0) unmarkedRun) (by decide +kernel)
  have hle := honce unmarkedRun _ (List.prefix_refl _) hrun "item"
  revert hle
  decide +kernel

end Example

end FollowUpScheduler

end Iara.Workers
