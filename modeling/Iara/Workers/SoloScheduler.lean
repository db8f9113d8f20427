import Iara.Workers.PromotionSteps

/-!
# One scheduler

Runs of a single scheduler, whatever becomes of its sessions, while time passes, items are
scheduled, conversations opt out and other commands come in.  Once it has stopped, it may
be started again.  `SoloStep` lists the steps.
-/

namespace Iara.Workers

open Iara.Lib Iara.Persistence

namespace FollowUpScheduler

open FollowUpRepository

structure SoloState where
  shared : PromotionShared
  phase : PromotionPhase := .stopped

inductive SoloMove where
  | act (a : PromotionStep)
  | around (e : FollowUpEvent)

def solo (scheduler : FollowUpScheduler) : Machine SoloState SoloMove where
  step c
    | .act a => (scheduler.act c.shared c.phase a).map fun r => ⟨r.2, r.1⟩
    | .around e =>
        match optOutEnvironment c.shared e with
        | none => none
        | some ([], s) => some ⟨s, c.phase⟩
        | some (l :: _, s) => if c.phase = .stopped then some ⟨s, l⟩ else none

/-- Empty tables and no scheduler yet. -/
def noScheduler (now : Nat) : SoloState where
  shared := { queue := .empty, outbox := .empty, now := now }

/-- The sessions of the scheduler commit, and it does not end. -/
def commits : SoloMove → Bool
  | .act (.skip session) => session = .commits
  | .act (.increment session) => session = .commits
  | .act (.enqueue session) => session = .commits
  | .act (.markSent session) => session = .commits
  | .act (.markFailed session) => session = .commits
  | .act .crash => false
  | _ => true

/-- The last step of an item. -/
def closes : PromotionStep → Bool
  | .skip _ => true
  | .markSent _ => true
  | .markFailed _ => true
  | _ => false

/-- The copies in the scheduler's hands that it has not promoted yet. -/
def PromotionPhase.todo : PromotionPhase → List FollowUpQueueItem
  | .promoting item rest => item :: rest
  | .incremented _ rest _ => rest
  | .enqueued _ rest _ => rest
  | .failed _ rest => rest
  | _ => []

/-- The queue after a session. -/
def written (session : Transaction) (u : ItemUpdate) (itemId : String) (queue : FollowUpQueue) :
    FollowUpQueue :=
  if session.writes then u.write itemId queue else queue

inductive SoloStep (scheduler : FollowUpScheduler) (s : PromotionShared) :
    PromotionPhase → SoloMove → PromotionPhase → PromotionShared → Prop
  | fetched :
      SoloStep scheduler s .sleeping (.act .fetch)
        (nextItem (fetchDue scheduler.batchSize s.now s.queue)) s
  | marked {l a l'} (u : ItemUpdate) (item rest session) (hu : u ≠ .counted)
      (ha : closes a = true)
      (hl : l.items = item :: rest) (hrest : ∀ r ∈ rest, r ∈ l.todo) (hidle : l'.inHand = none)
      (hl' : l'.items.Sublist (item :: rest)) (htodo : ∀ r ∈ l'.todo, r ∈ rest)
      (hcommits : commits (.act a) = true → session = .commits ∧ l' = nextItem rest) :
      SoloStep scheduler s l (.act a) l'
        { s with queue := written session u item.id s.queue }
  | incremented (item rest session) (hskips : skips item = false) :
      SoloStep scheduler s (.promoting item rest) (.act (.increment session))
        (if session = .commits then .incremented item rest (incrementAttempt item.id s.queue).2
          else .sleeping)
        { s with queue := written session .counted item.id s.queue }
  | enqueued (item rest newCount session outbox') :
      SoloStep scheduler s (.incremented item rest newCount) (.act (.enqueue session))
        (if session = .commits then .enqueued item rest newCount
          else afterFailure item rest newCount)
        { s with outbox := outbox' }
  | crashed (l) : SoloStep scheduler s l (.act .crash) .stopped s
  | started : SoloStep scheduler s .stopped (.around (.queue .start)) .sleeping s
  | elapsed {e t} (l) (hqueue : t.queue = s.queue) (hnow : s.now ≤ t.now) :
      SoloStep scheduler s l (.around e) l t
  | scheduled (l itemId tenant payload) (hnew : ∀ r ∈ s.queue.rows, r.id ≠ itemId) :
      SoloStep scheduler s l (.around (.queue (.schedule itemId payload))) l
        { s with queue := s.queue.insertOrIgnore (FollowUpRepository.item itemId tenant payload) }
  | optedOut {e} (l conversationId tenant) :
      SoloStep scheduler s l (.around e) l
        { s with queue := optOut conversationId tenant s.queue }

variable {scheduler : FollowUpScheduler} {s t : PromotionShared} {l l' : PromotionPhase}
  {move : SoloMove} {c c' : SoloState}

@[simp] theorem todo_nextItem (rest : List FollowUpQueueItem) : (nextItem rest).todo = rest := by
  cases rest <;> rfl

theorem items_afterFailure_sublist (item : FollowUpQueueItem) (rest : List FollowUpQueueItem)
    (newCount : Nat) : (afterFailure item rest newCount).items.Sublist (item :: rest) := by
  unfold afterFailure
  split
  · exact List.Sublist.refl _
  · rw [items_nextItem]
    exact List.sublist_cons_self item rest

theorem todo_afterFailure (item : FollowUpQueueItem) (rest : List FollowUpQueueItem)
    (newCount : Nat) : (afterFailure item rest newCount).todo = rest := by
  unfold afterFailure
  split
  · rfl
  · exact todo_nextItem rest

theorem close_marked {a : PromotionStep} {item : FollowUpQueueItem}
    {rest : List FollowUpQueueItem} (u : ItemUpdate) (session : Transaction)
    (raised : PromotionPhase) (hu : u ≠ .counted)
    (hlast : closes a = true)
    (hl : l.items = item :: rest)
    (hrest : ∀ r ∈ rest, r ∈ l.todo) (hidle : raised.inHand = none)
    (hraised : raised.items.Sublist (item :: rest))
    (htodo : ∀ r ∈ raised.todo, r ∈ rest) (ha : commits (.act a) = true → session = .commits)
    (h : session.close s { s with queue := u.write item.id s.queue } (nextItem rest) raised =
      (l', t)) : SoloStep scheduler s l (.act a) l' t := by
  cases session with
  | commits =>
      cases h
      refine .marked u item rest .commits hu hlast hl hrest (inHand_nextItem rest) ?_ ?_
        fun _ => ⟨rfl, rfl⟩
      · rw [items_nextItem]
        exact List.sublist_cons_self item rest
      · rw [todo_nextItem]
        exact fun r hr => hr
  | fails exception =>
      cases h
      exact .marked u item rest (.fails exception) hu hlast hl hrest hidle hraised
        htodo fun hall => absurd (ha hall) (by simp)
  | commitsThenFails exception =>
      cases h
      exact .marked u item rest (.commitsThenFails exception) hu hlast hl hrest hidle
        hraised htodo fun hall => absurd (ha hall) (by simp)

theorem soloStep_of_promoting {item : FollowUpQueueItem} {rest : List FollowUpQueueItem}
    {a : PromotionStep} (h : scheduler.act s (.promoting item rest) a = some (l', t)) :
    SoloStep scheduler s (.promoting item rest) (.act a) l' t := by
  cases a with
  | skip session =>
      simp only [act] at h
      split at h
      · exact close_marked .skipped session .sleeping (by simp) rfl rfl
          (fun r hr => List.mem_cons_of_mem _ hr) rfl (List.nil_sublist _)
          (List.forall_mem_nil _) (fun hall => by simpa [commits] using hall)
          (Option.some.inj h)
      · cases h
  | increment session =>
      simp only [act] at h
      split at h
      · cases h
      next hskips =>
        have hstep : SoloStep scheduler s (.promoting item rest) _ _ _ :=
          .incremented item rest session (by simpa using hskips)
        cases session <;> cases h <;> exact hstep
  | crash =>
      cases h
      exact .crashed _
  | _ => cases h

/-- Every act of the scheduler is one of the listed steps. -/
theorem soloStep_of_act {a : PromotionStep} (h : scheduler.act s l a = some (l', t)) :
    SoloStep scheduler s l (.act a) l' t := by
  cases l with
  | sleeping =>
      cases a with
      | fetch =>
          cases h
          exact .fetched
      | crash =>
          cases h
          exact .crashed _
      | _ => cases h
  | promoting item rest => exact soloStep_of_promoting h
  | incremented item rest newCount =>
      cases a with
      | enqueue session =>
          cases session with
          | commits =>
              cases h
              exact .enqueued item rest newCount .commits _
          | fails exception =>
              cases h
              exact .enqueued item rest newCount (.fails exception) s.outbox
          | commitsThenFails exception =>
              cases h
              exact .enqueued item rest newCount (.commitsThenFails exception) _
      | crash =>
          cases h
          exact .crashed _
      | _ => cases h
  | enqueued item rest newCount =>
      cases a with
      | markSent session =>
          simp only [act, Option.some.injEq] at h
          exact close_marked .sent session (afterFailure item rest newCount) (by simp) rfl rfl
            (fun r hr => hr) (inHand_afterFailure item rest newCount)
            (items_afterFailure_sublist item rest newCount)
            (fun r hr => todo_afterFailure item rest newCount ▸ hr)
            (fun hall => by simpa [commits] using hall) h
      | crash =>
          cases h
          exact .crashed _
      | _ => cases h
  | failed item rest =>
      cases a with
      | markFailed session =>
          simp only [act, Option.some.injEq] at h
          exact close_marked .failed session .sleeping (by simp) rfl rfl (fun r hr => hr) rfl
            (List.nil_sublist _) (List.forall_mem_nil _)
            (fun hall => by simpa [commits] using hall) h
      | crash =>
          cases h
          exact .crashed _
      | _ => cases h
  | stopped => cases h

theorem soloStep_of_queue {e : PromotionEvent} {ls : List PromotionPhase}
    (h : environment s e = some (ls, t)) :
    (ls = [] ∧ ∀ l, SoloStep scheduler s l (.around (.queue e)) l t) ∨
      e = .start ∧ ls = [.sleeping] ∧ t = s := by
  cases e with
  | tick elapsed =>
      cases h
      exact .inl ⟨rfl, fun l => .elapsed l rfl (Nat.le_add_right _ _)⟩
  | start =>
      cases h
      exact .inr ⟨rfl, rfl, rfl⟩
  | schedule itemId payload =>
      simp only [environment] at h
      split at h
      · cases h
      next hfresh =>
        cases h
        refine .inl ⟨rfl, fun l => ?_⟩
        simp only [enqueueRaw]
        cases parseUuid payload.tenantId with
        | none => exact .elapsed l rfl (Nat.le_refl _)
        | some tenant =>
            refine .scheduled l itemId tenant payload fun r hr heq => hfresh ?_
            exact List.any_eq_true.2 ⟨r, hr, decide_eq_true heq⟩
  | enqueue command =>
      simp only [environment] at h
      split at h
      · cases h
      · cases h
        exact .inl ⟨rfl, fun l => .elapsed l rfl (Nat.le_refl _)⟩

theorem soloStep_of_optOut {conversationId tenantId : String} {session : Transaction}
    {ls : List PromotionPhase}
    (h : optOutEnvironment s (.optOut conversationId tenantId session) = some (ls, t)) :
    ls = [] ∧
      ∀ l, SoloStep scheduler s l (.around (.optOut conversationId tenantId session)) l t := by
  simp only [optOutEnvironment, markOptedOut] at h
  split at h
  · cases h
    exact ⟨rfl, fun l => .elapsed l rfl (Nat.le_refl _)⟩
  next count queue' hmarked =>
    split at hmarked
    · cases hmarked
    next tenant htenant =>
      cases hmarked
      cases session with
      | fails exception =>
          cases h
          exact ⟨rfl, fun l => .elapsed l rfl (Nat.le_refl _)⟩
      | commits =>
          cases h
          exact ⟨rfl, fun l => .optedOut l conversationId tenant⟩
      | commitsThenFails exception =>
          cases h
          exact ⟨rfl, fun l => .optedOut l conversationId tenant⟩

/-- Every step is one of the listed ones. -/
theorem soloStep_of_step (h : scheduler.solo.step c move = some c') :
    SoloStep scheduler c.shared c.phase move c'.phase c'.shared := by
  cases move with
  | act a =>
      simp only [solo, Option.map_eq_some_iff] at h
      obtain ⟨⟨l', t⟩, hact, rfl⟩ := h
      exact soloStep_of_act hact
  | around e =>
      have hcases : ∃ ls t, optOutEnvironment c.shared e = some (ls, t) ∧
          ((ls = [] ∧ ∀ l, SoloStep scheduler c.shared l (.around e) l t) ∨
            e = .queue .start ∧ ls = [.sleeping] ∧ t = c.shared) := by
        cases henv : optOutEnvironment c.shared e with
        | none => simp [solo, henv] at h
        | some result =>
            obtain ⟨ls, t⟩ := result
            refine ⟨ls, t, rfl, ?_⟩
            cases e with
            | optOut conversationId tenantId session => exact .inl (soloStep_of_optOut henv)
            | queue e =>
                rcases soloStep_of_queue henv with hinside | ⟨rfl, hstart⟩
                · exact .inl hinside
                · exact .inr ⟨rfl, hstart⟩
      obtain ⟨ls, t, henv, ⟨rfl, hstep⟩ | ⟨rfl, rfl, rfl⟩⟩ := hcases
      · simp only [solo, henv, Option.some.injEq] at h
        subst h
        exact hstep c.phase
      · simp only [solo, henv] at h
        split at h
        next hstopped =>
          cases h
          rw [hstopped]
          exact .started
        next => cases h

end FollowUpScheduler

end Iara.Workers
