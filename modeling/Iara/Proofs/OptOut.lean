import Iara.Proofs.PromotedOnce

/-!
# Opting out of follow-ups

A scheduler decides from the copies it fetched.  So an opt-out is final exactly
where no scheduler has a copy of one of its items in hand that it is going to
enqueue: copies fetched later show the opt-out.
-/

namespace Iara.Workers

open Iara.Lib Iara.Persistence

namespace FollowUpScheduler

open FollowUpRepository

abbrev OptOutMove := Interleaving.Move PromotionStep FollowUpEvent

/-! ## The claim -/

/-- The ids of the items that an opt-out applies to. -/
def optedOutIds (conversationId : String) (tenant : Uuid) (queue : FollowUpQueue) : List String :=
  (queue.rows.filter (optsOut conversationId tenant)).map FollowUpQueueItem.id

/-- The move enqueues the item to the outbox. -/
def enqueuesItem (c : PromotionConfig) (itemId : String) : OptOutMove → Bool
  | .party i (.enqueue session) =>
      session.writes && (c.parties[i]?).any fun l =>
        match l with
        | .incremented item _ _ => item.id = itemId
        | _ => false
  | _ => false

/-- In no run from here is one of the items enqueued. -/
def NeverEnqueued (scheduler : FollowUpScheduler) (c : PromotionConfig) (itemIds : List String) :
    Prop :=
  ∀ moves last, scheduler.schedulersWithOptOuts.machine.run c moves = some last →
    ∀ move, ∀ itemId ∈ itemIds, enqueuesItem last itemId move = false

/-! ## The condition -/

namespace PromotionPhase

/-- The copies in a scheduler's hands that it is going to enqueue. -/
def toEnqueue : PromotionPhase → List FollowUpQueueItem
  | .promoting item rest => (item :: rest).filter fun r => !skips r
  | .incremented item rest _ => item :: rest.filter fun r => !skips r
  | .enqueued _ rest _ => rest.filter fun r => !skips r
  | .failed _ rest => rest.filter fun r => !skips r
  | _ => []

end PromotionPhase

/-- No scheduler is going to enqueue one of the items. -/
def noneInHand (c : PromotionConfig) (itemIds : List String) : Bool :=
  c.parties.all fun l => l.toEnqueue.all fun r => !itemIds.contains r.id

theorem noneInHand_iff {c : PromotionConfig} {itemIds : List String} :
    noneInHand c itemIds = true ↔ ∀ l ∈ c.parties, ∀ r ∈ l.toEnqueue, r.id ∉ itemIds := by
  simp [noneInHand]

/-! ## What a step takes in hand -/

section Steps

variable {scheduler : FollowUpScheduler} {s t : PromotionShared} {l l' : PromotionPhase}
  {a : PromotionStep} {c c' : PromotionConfig} {itemIds : List String}

theorem toEnqueue_nextItem (rest : List FollowUpQueueItem) :
    (nextItem rest).toEnqueue = rest.filter fun r => !skips r := by
  cases rest <;> rfl

theorem toEnqueue_afterFailure (item : FollowUpQueueItem) (rest : List FollowUpQueueItem)
    (newCount : Nat) :
    (afterFailure item rest newCount).toEnqueue = rest.filter fun r => !skips r := by
  unfold afterFailure
  split
  · rfl
  · exact toEnqueue_nextItem rest

/-- A session goes on with the rest of the batch, or drops it. -/
theorem toEnqueue_close {session : Transaction} {before after : PromotionShared}
    {committed raised : PromotionPhase} {r : FollowUpQueueItem} {rest : List FollowUpQueueItem}
    (h : session.close before after committed raised = (l', t))
    (hcommitted : ∀ r ∈ committed.toEnqueue, r ∈ rest)
    (hraised : ∀ r ∈ raised.toEnqueue, r ∈ rest) (hr : r ∈ l'.toEnqueue) : r ∈ rest := by
  cases session <;> cases h
  · exact hcommitted r hr
  · exact hraised r hr
  · exact hraised r hr

/-- What a scheduler is going to enqueue it was going to enqueue before, or it
has just fetched it without an opt-out. -/
theorem toEnqueue_act (h : scheduler.act s l a = some (l', t)) {r : FollowUpQueueItem}
    (hr : r ∈ l'.toEnqueue) : r ∈ l.toEnqueue ∨ (r ∈ s.queue.rows ∧ r.optedOut = false) := by
  have hrest : ∀ rest : List FollowUpQueueItem, ∀ r ∈ (nextItem rest).toEnqueue,
      r ∈ rest.filter fun r => !skips r := by
    intro rest r hr
    rwa [toEnqueue_nextItem] at hr
  have hcons : ∀ (item : FollowUpQueueItem) (rest : List FollowUpQueueItem),
      ∀ r ∈ rest.filter (fun r => !skips r), r ∈ (item :: rest).filter fun r => !skips r := by
    intro item rest r hr
    rw [List.mem_filter] at hr ⊢
    exact ⟨List.mem_cons_of_mem _ hr.1, hr.2⟩
  cases a with
  | crash => cases l <;> cases h <;> cases hr
  | fetch =>
      cases l <;> cases h
      have hfetched := List.mem_filter.1 (hrest _ r hr)
      have hskips : skips r = false := by simpa using hfetched.2
      right
      refine ⟨(mem_fetchDue hfetched.1).1, ?_⟩
      simp only [skips, Bool.or_eq_false_iff] at hskips
      exact hskips.1
  | skip session =>
      cases l with
      | promoting item rest =>
          simp only [act] at h
          split at h
          · exact Or.inl (hcons item rest r (toEnqueue_close (Option.some.inj h) (hrest rest)
              (by simp [PromotionPhase.toEnqueue]) hr))
          · cases h
      | _ => cases h
  | increment session =>
      cases l with
      | promoting item rest =>
          simp only [act] at h
          split at h
          · cases h
          next hskips =>
            have hitem : ∀ r ∈ item :: rest.filter (fun r => !skips r),
                r ∈ (item :: rest).filter fun r => !skips r := by
              intro r hr
              rw [List.filter_cons_of_pos (by simpa using hskips)]
              exact hr
            exact Or.inl (hitem r (toEnqueue_close (Option.some.inj h) (fun _ h => h)
              (by simp [PromotionPhase.toEnqueue]) hr))
      | _ => cases h
  | enqueue session =>
      cases l with
      | incremented item rest newCount =>
          simp only [act, Option.some.injEq] at h
          refine Or.inl (List.mem_cons_of_mem _ (toEnqueue_close h (fun _ h => h) ?_ hr))
          intro r hr
          rwa [toEnqueue_afterFailure] at hr
      | _ => cases h
  | markSent session =>
      cases l with
      | enqueued item rest newCount =>
          simp only [act, Option.some.injEq] at h
          refine Or.inl (toEnqueue_close h (hrest rest) ?_ hr)
          intro r hr
          rwa [toEnqueue_afterFailure] at hr
      | _ => cases h
  | markFailed session =>
      cases l with
      | failed item rest =>
          simp only [act, Option.some.injEq] at h
          exact Or.inl (toEnqueue_close h (hrest rest) (by simp [PromotionPhase.toEnqueue]) hr)
      | _ => cases h

/-! ## After the opt-out -/

/-- The rows keep their ids and their opt-outs, and a new row has a new id. -/
structure KeepsOptOuts (queue queue' : FollowUpQueue) : Prop where
  kept : ∀ r ∈ queue.rows, ∃ r' ∈ queue'.rows, r'.id = r.id
  origin : ∀ r' ∈ queue'.rows, (∃ r ∈ queue.rows, r.id = r'.id ∧
    (r.optedOut = true → r'.optedOut = true)) ∨ ∀ r ∈ queue.rows, r.id ≠ r'.id

namespace KeepsOptOuts

variable {queue queue' : FollowUpQueue}

theorem refl : KeepsOptOuts queue queue where
  kept := fun r hr => ⟨r, hr, rfl⟩
  origin := fun r hr => Or.inl ⟨r, hr, rfl, id⟩

theorem update (p : FollowUpQueueItem → Bool) (f : FollowUpQueueItem → FollowUpQueueItem)
    (hf : ∀ r, (f r).idempotencyKey = r.idempotencyKey) (hid : ∀ r, (f r).id = r.id)
    (hout : ∀ r, r.optedOut = true → (f r).optedOut = true) :
    KeepsOptOuts queue (queue.update p f hf) := by
  have hsame : ∀ r : FollowUpQueueItem, (if p r then f r else r).id = r.id ∧
      (r.optedOut = true → (if p r then f r else r).optedOut = true) := by
    intro r
    split
    · exact ⟨hid r, hout r⟩
    · exact ⟨rfl, id⟩
  constructor
  · intro r hr
    exact ⟨if p r then f r else r, List.mem_map_of_mem hr, (hsame r).1⟩
  · intro r' hr'
    obtain ⟨r, hr, rfl⟩ := List.mem_map.1 hr'
    exact Or.inl ⟨r, hr, (hsame r).1.symm, (hsame r).2⟩

theorem insert {item : FollowUpQueueItem} (hnew : ∀ r ∈ queue.rows, r.id ≠ item.id) :
    KeepsOptOuts queue (queue.insertOrIgnore item) where
  kept := fun r hr => ⟨r, Table.mem_insertOrIgnore_of_mem hr, rfl⟩
  origin := by
    intro r' hr'
    rcases Table.mem_insertOrIgnore hr' with hold | ⟨rfl, -⟩
    · exact Or.inl ⟨r', hold, rfl, id⟩
    · exact Or.inr hnew

end KeepsOptOuts

theorem keepsOptOuts_optOut (conversationId : String) (tenant : Uuid) (queue : FollowUpQueue) :
    KeepsOptOuts queue (optOut conversationId tenant queue) :=
  .update _ FollowUpQueueItem.markOptedOut (fun _ => rfl) (fun _ => rfl) fun _ _ => rfl

theorem optedOut_apply (u : ItemUpdate) (r : FollowUpQueueItem) :
    (u.apply r).optedOut = r.optedOut := by
  cases u <;> rfl

theorem keepsOptOuts_act (h : scheduler.act s l a = some (l', t)) :
    KeepsOptOuts s.queue t.queue := by
  rcases (act_effect h).queue with hsame | ⟨u, itemId, hwritten⟩
  · rw [hsame]
    exact .refl
  · rw [hwritten]
    exact .update _ _ u.apply_key u.apply_id fun r hr => (optedOut_apply u r).trans hr

theorem keepsOptOuts_environment {e : FollowUpEvent} {ls : List PromotionPhase}
    (h : optOutEnvironment s e = some (ls, t)) :
    (∀ l ∈ ls, l = .sleeping) ∧ KeepsOptOuts s.queue t.queue := by
  cases e with
  | queue e =>
      obtain ⟨hidle, hqueue, -⟩ := environment_effect h
      refine ⟨hidle, ?_⟩
      rcases hqueue with hsame | ⟨item, hnew, -, hinserted⟩
      · rw [hsame]
        exact .refl
      · rw [hinserted]
        exact .insert hnew
  | optOut conversationId tenantId session =>
      simp only [optOutEnvironment, markOptedOut] at h
      split at h
      · cases h
        exact ⟨by simp, .refl⟩
      next count queue' hmarked =>
        split at hmarked
        · cases hmarked
        · cases hmarked
          cases h
          refine ⟨by simp, ?_⟩
          cases session with
          | fails exception => exact .refl
          | commits => exact keepsOptOuts_optOut _ _ _
          | commitsThenFails exception => exact keepsOptOuts_optOut _ _ _

/-- The items are in the queue and opted out, and no scheduler is going to
enqueue one of them. -/
structure OptedOut (c : PromotionConfig) (itemIds : List String) : Prop where
  rows : ∀ r ∈ c.shared.queue.rows, r.id ∈ itemIds → r.optedOut = true
  known : ∀ itemId ∈ itemIds, ∃ r ∈ c.shared.queue.rows, r.id = itemId
  hands : ∀ l ∈ c.parties, ∀ r ∈ l.toEnqueue, r.id ∉ itemIds

/-- The part of the invariant that is about the queue. -/
theorem OptedOut.queue {queue queue' : FollowUpQueue}
    (hrows : ∀ r ∈ queue.rows, r.id ∈ itemIds → r.optedOut = true)
    (hknown : ∀ itemId ∈ itemIds, ∃ r ∈ queue.rows, r.id = itemId)
    (h : KeepsOptOuts queue queue') :
    (∀ r ∈ queue'.rows, r.id ∈ itemIds → r.optedOut = true) ∧
      ∀ itemId ∈ itemIds, ∃ r ∈ queue'.rows, r.id = itemId := by
  constructor
  · intro r' hr' hid
    rcases h.origin r' hr' with ⟨r, hr, hsame, hout⟩ | hnew
    · exact hout (hrows r hr (hsame ▸ hid))
    · obtain ⟨r, hr, hold⟩ := hknown r'.id hid
      exact absurd hold (hnew r hr)
  · intro itemId hid
    obtain ⟨r, hr, rfl⟩ := hknown itemId hid
    exact h.kept r hr

theorem optedOut_step {move : OptOutMove} (h : OptedOut c itemIds)
    (hstep : scheduler.schedulersWithOptOuts.machine.step c move = some c') :
    OptedOut c' itemIds := by
  cases move with
  | party i a =>
      obtain ⟨l, l', t, hi, hact, rfl⟩ := Interleaving.step_party hstep
      obtain ⟨hrows, hknown⟩ := OptedOut.queue h.rows h.known (keepsOptOuts_act hact)
      refine ⟨hrows, hknown, ?_⟩
      intro l₁ hl₁ r hr
      rcases List.mem_or_eq_of_mem_set hl₁ with hold | rfl
      · exact h.hands l₁ hold r hr
      · rcases toEnqueue_act hact hr with hbefore | ⟨hfetched, hnot⟩
        · exact h.hands l (List.mem_of_getElem? hi) r hbefore
        · intro hid
          rw [h.rows r hfetched hid] at hnot
          cases hnot
  | environment e =>
      obtain ⟨ls, t, henv, rfl⟩ := Interleaving.step_environment hstep
      have hevent : optOutEnvironment c.shared e = some (ls, t) := henv
      obtain ⟨hidle, hkeeps⟩ := keepsOptOuts_environment hevent
      obtain ⟨hrows, hknown⟩ := OptedOut.queue h.rows h.known hkeeps
      refine ⟨hrows, hknown, ?_⟩
      intro l₁ hl₁ r hr
      rcases List.mem_append.1 hl₁ with hold | hnew
      · exact h.hands l₁ hold r hr
      · rw [hidle l₁ hnew] at hr
        cases hr

/-- While the items are opted out, no move enqueues one. -/
theorem OptedOut.enqueuesItem (h : OptedOut c itemIds) (move : OptOutMove) {itemId : String}
    (hid : itemId ∈ itemIds) : enqueuesItem c itemId move = false := by
  by_contra hsome
  cases move with
  | environment e => simp [FollowUpScheduler.enqueuesItem] at hsome
  | party i a =>
      cases a with
      | enqueue session =>
          simp only [FollowUpScheduler.enqueuesItem, Bool.not_eq_false, Bool.and_eq_true,
            Option.any_eq_true] at hsome
          obtain ⟨-, l, hl, hhand⟩ := hsome
          cases l with
          | incremented item rest newCount =>
              rw [decide_eq_true_eq] at hhand
              refine h.hands _ (List.mem_of_getElem? hl) item List.mem_cons_self ?_
              rw [hhand]
              exact hid
          | _ => cases hhand
      | _ => simp [FollowUpScheduler.enqueuesItem] at hsome

/-! ## What a scheduler with a copy in hand can do -/

/-- One step of the scheduler, and what it does after that. -/
theorem reaches_of_act {i : Nat} {P : PromotionConfig → Prop} (hi : c.parties[i]? = some l)
    (hact : scheduler.act c.shared l a = some (l', t))
    (hrest : ∀ c', c'.parties[i]? = some l' →
      ∃ moves last, scheduler.schedulersWithOptOuts.machine.run c' moves = some last ∧ P last) :
    ∃ moves last, scheduler.schedulersWithOptOuts.machine.run c moves = some last ∧ P last := by
  obtain ⟨hstep, hi'⟩ :=
    Interleaving.step_of_act (p := scheduler.schedulersWithOptOuts) hi hact
  obtain ⟨moves, last, hrun, hlast⟩ := hrest ⟨t, c.parties.set i l'⟩ hi'
  exact ⟨_ :: moves, last, (Machine.run_cons_eq_some _).2 ⟨_, hstep, hrun⟩, hlast⟩

/-- The scheduler has the copy at the point where it enqueues it. -/
def AtEnqueue (i : Nat) (r : FollowUpQueueItem) (c : PromotionConfig) : Prop :=
  ∃ rest newCount, c.parties[i]? = some (.incremented r rest newCount)

/-- With sessions that commit, a scheduler gets to every item of its batch that
it does not skip. -/
theorem reaches_of_batch {i : Nat} {r : FollowUpQueueItem} (hskips : skips r = false)
    (batch : List FollowUpQueueItem) (hr : r ∈ batch) (c : PromotionConfig)
    (hi : c.parties[i]? = some (nextItem batch)) :
    ∃ moves last, scheduler.schedulersWithOptOuts.machine.run c moves = some last ∧
      AtEnqueue i r last := by
  induction batch generalizing c with
  | nil => cases hr
  | cons item rest ih =>
      by_cases hitem : skips item = true
      · have hrest : r ∈ rest := by
          rcases List.mem_cons.1 hr with rfl | hrest
          · rw [hitem] at hskips
            cases hskips
          · exact hrest
        exact reaches_of_act (a := .skip .commits) hi
          (by simp only [nextItem, act, hitem, if_true]; rfl) fun c' hc' => ih hrest c' hc'
      · refine reaches_of_act (a := .increment .commits) hi
          (by simp only [nextItem, act, hitem, Bool.false_eq_true, if_false]; rfl) ?_
        intro c₁ hc₁
        by_cases hself : r = item
        · subst hself
          exact ⟨[], c₁, rfl, rest, _, hc₁⟩
        · have hrest : r ∈ rest := (List.mem_cons.1 hr).resolve_left hself
          refine reaches_of_act (a := .enqueue .commits) hc₁ (by simp only [act]; rfl) ?_
          intro c₂ hc₂
          exact reaches_of_act (a := .markSent .commits) hc₂ (by simp only [act]; rfl)
            fun c₃ hc₃ => ih hrest c₃ hc₃

/-- A scheduler that is going to enqueue a copy gets there. -/
theorem reaches_of_toEnqueue (scheduler : FollowUpScheduler) {i : Nat} {r : FollowUpQueueItem}
    (hi : c.parties[i]? = some l)
    (hr : r ∈ l.toEnqueue) :
    ∃ moves last, scheduler.schedulersWithOptOuts.machine.run c moves = some last ∧
      AtEnqueue i r last := by
  have hkept : ∀ rest : List FollowUpQueueItem, r ∈ rest.filter (fun r => !skips r) →
      r ∈ rest ∧ skips r = false := by
    intro rest hmem
    rw [List.mem_filter] at hmem
    exact ⟨hmem.1, by simpa using hmem.2⟩
  cases l with
  | sleeping => cases hr
  | stopped => cases hr
  | promoting item rest =>
      obtain ⟨hmem, hskips⟩ := hkept (item :: rest) hr
      exact reaches_of_batch hskips (item :: rest) hmem c hi
  | incremented item rest newCount =>
      rcases List.mem_cons.1 hr with rfl | hr
      · exact ⟨[], c, rfl, rest, newCount, hi⟩
      · obtain ⟨hmem, hskips⟩ := hkept rest hr
        refine reaches_of_act (a := .enqueue .commits) hi (by simp only [act]; rfl) ?_
        intro c₁ hc₁
        exact reaches_of_act (a := .markSent .commits) hc₁ (by simp only [act]; rfl)
          fun c₂ hc₂ => reaches_of_batch hskips rest hmem c₂ hc₂
  | enqueued item rest newCount =>
      obtain ⟨hmem, hskips⟩ := hkept rest hr
      exact reaches_of_act (a := .markSent .commits) hi (by simp only [act]; rfl)
        fun c₁ hc₁ => reaches_of_batch hskips rest hmem c₁ hc₁
  | failed item rest =>
      obtain ⟨hmem, hskips⟩ := hkept rest hr
      exact reaches_of_act (a := .markFailed .commits) hi (by simp only [act]; rfl)
        fun c₁ hc₁ => reaches_of_batch hskips rest hmem c₁ hc₁

/-! ## The opt-out itself -/

/-- The id is the primary key of the queue. -/
def DistinctIds (c : PromotionConfig) : Prop :=
  (c.shared.queue.rows.map FollowUpQueueItem.id).Nodup

/-- An opt-out that is committed is an update of the queue and nothing else. -/
theorem optOut_effect {conversationId tenantId : String} {tenant : Uuid} {session : Transaction}
    (htenant : parseUuid tenantId = some tenant) (hsession : session.writes = true)
    (hstep : scheduler.schedulersWithOptOuts.machine.step c
      (.environment (.optOut conversationId tenantId session)) = some c') :
    c'.parties = c.parties ∧
      c'.shared.queue = optOut conversationId tenant c.shared.queue := by
  obtain ⟨ls, t, henv, rfl⟩ := Interleaving.step_environment hstep
  simp only [schedulersWithOptOuts, optOutEnvironment, markOptedOut, htenant] at henv
  cases session with
  | fails exception => cases hsession
  | commits =>
      cases henv
      exact ⟨List.append_nil _, rfl⟩
  | commitsThenFails exception =>
      cases henv
      exact ⟨List.append_nil _, rfl⟩

theorem distinctIds_step {move : OptOutMove} (h : DistinctIds c)
    (hstep : scheduler.schedulersWithOptOuts.machine.step c move = some c') : DistinctIds c' := by
  unfold DistinctIds at h ⊢
  cases move with
  | party i a =>
      obtain ⟨l, l', t, hi, hact, rfl⟩ := Interleaving.step_party hstep
      rcases (act_effect hact).queue with hsame | ⟨u, itemId, hwritten⟩
      · rw [hsame]
        exact h
      · rw [hwritten, ids_write]
        exact h
  | environment e =>
      cases e with
      | queue e =>
          obtain ⟨ls, t, henv, rfl⟩ := Interleaving.step_environment hstep
          obtain ⟨-, hsame | ⟨item, hnew, -, hinserted⟩, -⟩ := environment_effect henv
          · rw [hsame]
            exact h
          · rw [hinserted]
            exact nodup_ids_insertOrIgnore h hnew
      | optOut conversationId tenantId session =>
          cases htenant : parseUuid tenantId with
          | none =>
              simp only [Interleaving.machine, schedulersWithOptOuts, optOutEnvironment,
                markOptedOut, htenant, Option.map_some, Option.some.injEq] at hstep
              rw [← hstep]
              exact h
          | some tenant =>
              cases hsession : session.writes with
              | true =>
                  rw [(optOut_effect htenant hsession hstep).2, ids_optOut]
                  exact h
              | false =>
                  cases session with
                  | fails exception =>
                      simp only [Interleaving.machine, schedulersWithOptOuts, optOutEnvironment,
                        markOptedOut, htenant, Transaction.close, Option.map_some,
                        Option.some.injEq] at hstep
                      rw [← hstep]
                      exact h
                  | _ => cases hsession

/-- Right after the opt-out, the queue shows it. -/
theorem optedOut_after {conversationId tenantId : String} {tenant : Uuid} {session : Transaction}
    (hids : DistinctIds c) (htenant : parseUuid tenantId = some tenant)
    (hsession : session.writes = true)
    (hnone : noneInHand c (optedOutIds conversationId tenant c.shared.queue) = true)
    (hstep : scheduler.schedulersWithOptOuts.machine.step c
      (.environment (.optOut conversationId tenantId session)) = some c') :
    OptedOut c' (optedOutIds conversationId tenant c.shared.queue) := by
  obtain ⟨hparties, hqueue⟩ := optOut_effect htenant hsession hstep
  have hmem : ∀ {itemId}, itemId ∈ optedOutIds conversationId tenant c.shared.queue ↔
      ∃ r ∈ c.shared.queue.rows, optsOut conversationId tenant r = true ∧ r.id = itemId := by
    intro itemId
    simp only [optedOutIds, List.mem_map, List.mem_filter, and_assoc]
  constructor
  · intro r' hr' hid
    rw [hqueue] at hr'
    obtain ⟨r, hr, rfl⟩ := List.mem_map.1 hr'
    cases hopts : optsOut conversationId tenant r with
    | true => rfl
    | false =>
        simp only [hopts, Bool.false_eq_true, if_false] at hid
        obtain ⟨r₀, hr₀, hopts₀, hsame⟩ := hmem.1 hid
        rw [List.inj_on_of_nodup_map hids hr₀ hr hsame, hopts] at hopts₀
        cases hopts₀
  · intro itemId hid
    obtain ⟨r, hr, -, rfl⟩ := hmem.1 hid
    rw [hqueue]
    exact (keepsOptOuts_optOut conversationId tenant c.shared.queue).kept r hr
  · rw [hparties]
    exact noneInHand_iff.1 hnone

end Steps

/-! ## The result -/

/-- An opt-out that is committed at any point of a run is final exactly where no
scheduler has a copy of one of its items in hand that it is going to enqueue. -/
theorem neverEnqueued_iff_noneInHand (scheduler : FollowUpScheduler) (now : Nat)
    (moves : List OptOutMove) (c c' : PromotionConfig) (conversationId tenantId : String)
    (tenant : Uuid) (session : Transaction)
    (hrun : scheduler.schedulersWithOptOuts.machine.run (initially now) moves = some c)
    (htenant : parseUuid tenantId = some tenant) (hsession : session.writes = true)
    (hstep : scheduler.schedulersWithOptOuts.machine.step c
      (.environment (.optOut conversationId tenantId session)) = some c') :
    NeverEnqueued scheduler c' (optedOutIds conversationId tenant c.shared.queue) ↔
      noneInHand c (optedOutIds conversationId tenant c.shared.queue) = true := by
  have hempty : DistinctIds (initially now) := List.nodup_nil
  have hids : DistinctIds c := scheduler.schedulersWithOptOuts.machine.invariant_of_step
    (fun _ _ _ h hs => distinctIds_step h hs) hempty hrun
  constructor
  · intro hnever
    rw [noneInHand_iff]
    intro l hl r hr hid
    obtain ⟨i, hi⟩ := List.mem_iff_getElem?.1 hl
    rw [← (optOut_effect htenant hsession hstep).1] at hi
    obtain ⟨later, last, hlater, rest, newCount, hlast⟩ :=
      reaches_of_toEnqueue scheduler hi hr
    have hno := hnever later last hlater (.party i (.enqueue .commits)) r.id hid
    simp [enqueuesItem, hlast, Transaction.writes] at hno
  · intro hnone later last hlater move itemId hid
    have hlast := scheduler.schedulersWithOptOuts.machine.invariant_of_step
      (I := fun c₁ => OptedOut c₁ (optedOutIds conversationId tenant c.shared.queue))
      (fun _ _ _ h hs => optedOut_step h hs) (optedOut_after hids htenant hsession hnone hstep)
      hlater
    exact hlast.enqueuesItem move hid

section Example

/-- A scheduler that has fetched nothing yet. -/
def beforeFetch : List OptOutMove :=
  [.environment (.queue (.schedule "item" reminder)), .environment (.queue .start)]

/-- The opt-out of the conversation of the reminder. -/
def reminderOptOut : FollowUpEvent := .optOut "7" (formatUuid 1) .commits

def schedulerMachine : Machine PromotionConfig OptOutMove :=
  oneScheduler.schedulersWithOptOuts.machine

def beforeOptOut (moves : List OptOutMove) : PromotionConfig :=
  (schedulerMachine.run (initially 0) moves).getD (initially 0)

def afterOptOut (moves : List OptOutMove) : PromotionConfig :=
  (schedulerMachine.step (beforeOptOut moves) (.environment reminderOptOut)).getD (initially 0)

/-- An opt-out before the fetch is final. -/
theorem beforeFetch_neverEnqueued :
    NeverEnqueued oneScheduler (afterOptOut beforeFetch)
      (optedOutIds "7" 1 (beforeOptOut beforeFetch).shared.queue) := by
  refine (neverEnqueued_iff_noneInHand oneScheduler 0 beforeFetch (beforeOptOut beforeFetch)
    (afterOptOut beforeFetch) "7" (formatUuid 1) 1 .commits ?_ (by decide +kernel) rfl ?_).2
    (by decide +kernel)
  · exact eq_some_getD (by decide +kernel)
  · exact eq_some_getD (by decide +kernel)

/-- The opt-out is committed while the scheduler has the item in its batch, and
the scheduler goes on to enqueue it. -/
theorem fetched_enqueued :
    ¬ NeverEnqueued oneScheduler (afterOptOut (beforeFetch ++ [.party 0 .fetch]))
      (optedOutIds "7" 1 (beforeOptOut (beforeFetch ++ [.party 0 .fetch])).shared.queue) := by
  intro h
  have hrun : schedulerMachine.run (afterOptOut (beforeFetch ++ [.party 0 .fetch]))
      [.party 0 (.increment .commits)] = some ((schedulerMachine.run
        (afterOptOut (beforeFetch ++ [.party 0 .fetch]))
        [.party 0 (.increment .commits)]).getD (initially 0)) :=
    eq_some_getD (by decide +kernel)
  have hno := h _ _ hrun (.party 0 (.enqueue .commits)) "item" (by decide +kernel)
  revert hno
  decide +kernel

end Example

end FollowUpScheduler

end Iara.Workers
