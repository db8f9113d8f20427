import Iara.Lib.EventLog
import Iara.Proofs.OptOut
import Iara.Workers.SoloQueue

/-!
# The attempts at a follow-up

One scheduler tries to promote an item at most `max_attempts` times and brings it to an
end once its sessions commit, except that `int(item.max_attempts or 3)` reads a
`max_attempts` of zero as three.
-/

namespace Iara.Workers

open Iara.Lib Iara.Persistence

namespace FollowUpScheduler

open FollowUpRepository

/-! ## The claim -/

/-- The item that a step tries to enqueue. -/
def attempted (c : SoloState) : SoloMove → List String
  | .act (.enqueue _) =>
      match c.phase with
      | .incremented item _ _ => [item.id]
      | _ => []
  | _ => []

/-- How often a run has tried to enqueue the item. -/
def attempts (scheduler : FollowUpScheduler) (start : SoloState) (moves : List SoloMove)
    (itemId : String) : Nat :=
  (scheduler.solo.emitted attempted start moves).count itemId

/-- At no point of a run has an item been tried, or counted, more often than it says. -/
def WithinBudget (scheduler : FollowUpScheduler) (start : SoloState) (moves : List SoloMove) :
    Prop :=
  ∀ earlier c, earlier <+: moves → scheduler.solo.run start earlier = some c →
    ∀ r ∈ c.shared.queue.rows, (r.attemptCount : Int) ≤ max 0 r.maxAttempts ∧
      (scheduler.attempts start earlier r.id : Int) ≤ max 0 r.maxAttempts

/-- The pending items that are due no later than at `time`. -/
def pendingBy (time : Int) (queue : FollowUpQueue) : List FollowUpQueueItem :=
  queue.rows.filter fun r => r.status = .pending && r.triggerAt ≤ time

def polls : SoloMove → Bool
  | .act .fetch => true
  | _ => false

/-- The move schedules an item that is due no later than at `time`. -/
def arrives (time : Int) : SoloMove → Bool
  | .around (.queue (.schedule _ payload)) => payload.triggerAt ≤ time
  | _ => false

/-- While all its sessions commit, a due item comes to an end by the time that the polls
could have fetched all items due no later than it, those that came in meanwhile among them. -/
def Concludes (scheduler : FollowUpScheduler) (start : SoloState) (moves : List SoloMove) : Prop :=
  ∀ earlier later c c', earlier ++ later <+: moves → scheduler.solo.run start earlier = some c →
    scheduler.solo.run c later = some c' → (∀ move ∈ later, commits move = true) →
    c'.phase = .sleeping →
    ∀ r ∈ c.shared.queue.rows, r.status = .pending → r.triggerAt ≤ c.shared.now →
      (pendingBy r.triggerAt c.shared.queue).length + later.countP (arrives r.triggerAt) ≤
        later.countP polls * scheduler.batchSize →
      ∃ r' ∈ c'.shared.queue.rows, r'.id = r.id ∧ concluded r'

/-- A poll can be run to its end with all its sessions committing. -/
def Completes (scheduler : FollowUpScheduler) (start : SoloState) (moves : List SoloMove) : Prop :=
  ∀ earlier c, earlier <+: moves → scheduler.solo.run start earlier = some c →
    c.phase = .sleeping → ∃ steps c', scheduler.solo.run c (.act .fetch :: steps) = some c' ∧
      (∀ move ∈ steps, commits move = true ∧ polls move = false) ∧ c'.phase = .sleeping

structure BoundsAttempts (scheduler : FollowUpScheduler) (start : SoloState)
    (moves : List SoloMove) : Prop where
  budget : scheduler.WithinBudget start moves
  concludes : scheduler.Concludes start moves
  completes : scheduler.Completes start moves

/-! ## The condition -/

/-- No item that allows no attempts is counted. -/
def countsAllowed (c : SoloState) (move : SoloMove) : Bool :=
  (counting c.phase move).all fun item => item.maxAttempts != 0

/-! ## Counting attempts -/

section Steps

variable {scheduler : FollowUpScheduler} {s t : PromotionShared} {l l' : PromotionPhase}
  {move : SoloMove} {itemId : String} {r : FollowUpQueueItem}

/-- A counted attempt that has still to be made. -/
def toTry (l : PromotionPhase) (itemId : String) : Nat :=
  match l with
  | .incremented item _ _ => if item.id = itemId then 1 else 0
  | _ => 0

theorem toTry_of_idle (h : l.inHand = none) (itemId : String) : toTry l itemId = 0 := by
  cases l with
  | incremented item rest newCount => cases h
  | _ => rfl

/-- An attempt is counted before it is made. -/
theorem SoloStep.attempted_le (hstep : SoloStep scheduler s l move l' t) (itemId : String) :
    (attempted ⟨s, l⟩ move).count itemId + toTry l' itemId ≤
      toTry l itemId + counted l move itemId := by
  cases hstep with
  | fetched =>
      rw [toTry_of_idle (inHand_nextItem _)]
      exact Nat.zero_le _
  | @marked l a l' u item rest session hu ha hl hrest hidle =>
      have hnone : attempted ⟨s, l⟩ (.act a) = [] := by
        cases a with
        | enqueue session' => cases ha
        | _ => rfl
      rw [hnone, toTry_of_idle hidle]
      exact Nat.zero_le _
  | incremented item rest session hskips =>
      rw [counted_increment hskips]
      split
      next hcommits =>
        rw [hcommits]
        simp [attempted, toTry, Transaction.writes, eq_comm]
      next => exact Nat.zero_le _
  | enqueued item rest newCount session outbox' =>
      have hlater : toTry (if session = .commits then .enqueued item rest newCount
          else afterFailure item rest newCount) itemId = 0 := by
        split
        · rfl
        · exact toTry_of_idle (inHand_afterFailure item rest newCount) itemId
      rw [hlater]
      simp [attempted, toTry, List.count_singleton]
  | crashed => exact Nat.zero_le _
  | started => exact Nat.zero_le _
  | elapsed => exact Nat.le_of_eq (Nat.zero_add _)
  | scheduled => exact Nat.le_of_eq (Nat.zero_add _)
  | optedOut => exact Nat.le_of_eq (Nat.zero_add _)

/-- The attempts counted for an item, none if it is not there. -/
def tally (queue : FollowUpQueue) (itemId : String) : Nat :=
  (itemOf queue itemId).elim 0 FollowUpQueueItem.attemptCount

theorem SoloStep.tally_le (hstep : SoloStep scheduler s l move l' t) (h : InStep s l)
    (itemId : String) :
    tally s.queue itemId + counted l move itemId ≤ tally t.queue itemId := by
  unfold tally
  cases hfind : itemOf s.queue itemId with
  | some r =>
      obtain ⟨r', hfind', -, hcount⟩ := hstep.row hfind
      rw [hfind', Option.elim_some, Option.elim_some, hcount]
  | none =>
      rcases counted_cases l move itemId with hnone | ⟨-, item, hcounting, rfl⟩
      · rw [hnone]
        exact Nat.zero_le _
      · obtain ⟨⟨rest, rfl⟩, -⟩ := counting_eq_some hcounting
        obtain ⟨r, hfind', -⟩ := h.copies item List.mem_cons_self
        rw [hfind] at hfind'
        cases hfind'

/-- What holds of the attempts of every item, while no item without attempts is counted. -/
structure Tallied (s : PromotionShared) (l : PromotionPhase) (log : List String) : Prop where
  inStep : InStep s l
  bounded : ∀ itemId r, itemOf s.queue itemId = some r →
    (r.attemptCount : Int) ≤ max 0 r.maxAttempts
  tried : ∀ itemId, log.count itemId + toTry l itemId ≤ tally s.queue itemId

/-- An item is counted only while it has attempts left. -/
theorem attemptCount_lt {item : FollowUpQueueItem} (hskips : skips item = false)
    (hallowed : item.maxAttempts ≠ 0) : (item.attemptCount : Int) < item.maxAttempts := by
  have hleft : ¬ item.attemptLimit ≤ item.attemptCount := by
    intro hused
    rw [skips, decide_eq_true hused, Bool.or_true] at hskips
    cases hskips
  rw [FollowUpQueueItem.attemptLimit, if_neg hallowed] at hleft
  omega

theorem SoloStep.bounded (hstep : SoloStep scheduler s l move l' t) (h : InStep s l)
    (hallowed : countsAllowed ⟨s, l⟩ move = true)
    (hbounded : ∀ itemId r, itemOf s.queue itemId = some r →
      (r.attemptCount : Int) ≤ max 0 r.maxAttempts) {r' : FollowUpQueueItem}
    (hfind' : itemOf t.queue itemId = some r') :
    (r'.attemptCount : Int) ≤ max 0 r'.maxAttempts := by
  cases hfind : itemOf s.queue itemId with
  | none =>
      rw [(hstep.newRow hfind hfind').1]
      exact le_max_left _ _
  | some r =>
      obtain ⟨r'', hrow, hcontinues, hcount⟩ := hstep.row hfind
      obtain rfl := Option.some.inj (hrow.symm.trans hfind')
      rw [hcontinues.maxAttempts, hcount]
      rcases counted_cases l move itemId with hnone | ⟨hone, item, hcounting, rfl⟩
      · rw [hnone]
        exact hbounded itemId r hfind
      · obtain ⟨⟨rest, rfl⟩, hskips, -⟩ := counting_eq_some hcounting
        obtain ⟨r₁, hfind₁, hsame, hmax⟩ := h.copies item List.mem_cons_self
        obtain rfl := Option.some.inj (hfind₁.symm.trans hfind)
        have hmaxAttempts : item.maxAttempts ≠ 0 := by
          simpa [countsAllowed, hcounting] using hallowed
        have hlt := attemptCount_lt hskips hmaxAttempts
        rw [hone, hsame, hmax]
        omega

theorem SoloStep.tallied {log : List String} (hstep : SoloStep scheduler s l move l' t)
    (h : Tallied s l log) (hallowed : countsAllowed ⟨s, l⟩ move = true) :
    Tallied t l' (log ++ attempted ⟨s, l⟩ move) where
  inStep := hstep.inStep h.inStep
  bounded := fun _ _ hfind' => hstep.bounded h.inStep hallowed h.bounded hfind'
  tried := by
    intro itemId
    have hbefore := h.tried itemId
    have hattempted := hstep.attempted_le itemId
    have htally := hstep.tally_le h.inStep itemId
    rw [List.count_append]
    omega

end Steps

/-! ## Runs -/

section Runs

variable {scheduler : FollowUpScheduler} {now : Nat} {c c' : SoloState} {moves : List SoloMove}

theorem tallied_noScheduler (now : Nat) :
    Tallied (noScheduler now).shared (noScheduler now).phase [] where
  inStep := ⟨List.nodup_nil, List.nodup_nil, fun _ h => nomatch h⟩
  bounded := fun _ _ h => nomatch h
  tried := fun _ => Nat.le_refl 0

theorem inStep_of_run (hrun : scheduler.solo.run (noScheduler now) moves = some c) :
    InStep c.shared c.phase :=
  scheduler.solo.invariant_of_step (fun _ _ _ h hstep => (soloStep_of_step hstep).inStep h)
    (tallied_noScheduler now).inStep hrun

theorem withinBudget_of_allSteps
    (hall : scheduler.solo.AllSteps (fun c move => countsAllowed c move = true)
      (noScheduler now) moves) :
    scheduler.WithinBudget (noScheduler now) moves := by
  rintro earlier c ⟨later, rfl⟩ hrun r hr
  have htallied : Tallied c.shared c.phase
      ([] ++ scheduler.solo.emitted attempted (noScheduler now) earlier) :=
    Machine.emitted_invariant (I := fun c log => Tallied c.shared c.phase log)
      (fun _ _ _ _ h hallowed hstep => (soloStep_of_step hstep).tallied h hallowed)
      (tallied_noScheduler now) hall.append_left hrun
  have hfind : itemOf c.shared.queue r.id = some r := itemOf_of_mem htallied.inStep.ids hr
  have hbounded := htallied.bounded r.id r hfind
  refine ⟨hbounded, ?_⟩
  have htried := htallied.tried r.id
  have htally : tally c.shared.queue r.id = r.attemptCount := by
    rw [tally, hfind, Option.elim_some]
  rw [List.nil_append] at htried
  unfold attempts
  omega

/-- An item that allows no attempts is over its budget once one is counted. -/
theorem not_withinBudget_of_counting {earlier later : List SoloMove} {move : SoloMove}
    {item : FollowUpQueueItem} (hrun : scheduler.solo.run (noScheduler now) earlier = some c)
    (hcounting : counting c.phase move = some item) (hnone : item.maxAttempts = 0) :
    ¬ scheduler.WithinBudget (noScheduler now) (earlier ++ move :: later) := by
  intro hbudget
  obtain ⟨⟨rest, hphase⟩, hskips, session, rfl⟩ := counting_eq_some hcounting
  obtain ⟨c', hstep⟩ : ∃ c', scheduler.solo.step c (.act (.increment session)) = some c' := by
    simp [solo, hphase, act, hskips]
  have hinStep := inStep_of_run hrun
  have hlisted := soloStep_of_step hstep
  obtain ⟨r, hfind, -, hmax⟩ := hinStep.copies item (by rw [hphase]; exact List.mem_cons_self)
  obtain ⟨r', hfind', hcontinues, hcount⟩ := hlisted.row hfind
  have hrun' : scheduler.solo.run (noScheduler now) (earlier ++ [.act (.increment session)]) =
      some c' := by
    rw [Machine.run_append, hrun, Option.bind_some, Machine.run_cons, hstep]
    rfl
  have hmem : r' ∈ c'.shared.queue.rows := List.mem_of_find?_eq_some hfind'
  have hprefix : earlier ++ [.act (.increment session)] <+:
      earlier ++ .act (.increment session) :: later :=
    ⟨later, by rw [List.append_assoc]; rfl⟩
  have hwithin := (hbudget _ c' hprefix hrun' r' hmem).1
  have hone : counted c.phase (.act (.increment session)) item.id = 1 := by
    simp [counted, hcounting]
  rw [hcontinues.maxAttempts, hmax, hnone, hcount, hone] at hwithin
  omega

theorem withinBudget_iff : scheduler.WithinBudget (noScheduler now) moves ↔
    scheduler.solo.AllSteps (fun c move => countsAllowed c move = true)
      (noScheduler now) moves := by
  constructor
  · intro hbudget
    apply Machine.allSteps_of_splits
    rintro earlier move later c rfl hrun
    unfold countsAllowed
    cases hcounting : counting c.phase move with
    | none => rfl
    | some item =>
        by_contra hnone
        refine not_withinBudget_of_counting hrun hcounting ?_ hbudget
        simpa using hnone
  · exact withinBudget_of_allSteps

end Runs

/-! ## Waiting for a poll -/

section Waiting

variable {scheduler : FollowUpScheduler} {s t : PromotionShared} {l l' : PromotionPhase}
  {move : SoloMove} {itemId : String} {r : FollowUpQueueItem} {time : Int}
  {queue : FollowUpQueue}

/-- The ids that are pending by `time`, without those in the scheduler's hands. -/
def ahead (time : Int) (l : PromotionPhase) (queue : FollowUpQueue) : List String :=
  ((pendingBy time queue).map FollowUpQueueItem.id).filter fun k =>
    !l.items.any fun item => item.id = k

theorem mem_pendingBy :
    r ∈ pendingBy time queue ↔ r ∈ queue.rows ∧ r.status = .pending ∧ r.triggerAt ≤ time := by
  simp [pendingBy]

theorem nodup_pendingBy (hids : (queue.rows.map FollowUpQueueItem.id).Nodup) (time : Int) :
    ((pendingBy time queue).map FollowUpQueueItem.id).Nodup :=
  hids.sublist (List.filter_sublist.map _)

theorem mem_ahead (hids : (queue.rows.map FollowUpQueueItem.id).Nodup) :
    itemId ∈ ahead time l queue ↔
      (∃ r, itemOf queue itemId = some r ∧ r.status = .pending ∧ r.triggerAt ≤ time) ∧
        itemId ∉ l.items.map FollowUpQueueItem.id := by
  have hpending : itemId ∈ (pendingBy time queue).map FollowUpQueueItem.id ↔
      ∃ r, itemOf queue itemId = some r ∧ r.status = .pending ∧ r.triggerAt ≤ time := by
    simp only [List.mem_map, mem_pendingBy, itemOf_eq_some_iff hids]
    exact exists_congr fun r => by tauto
  unfold ahead
  rw [List.mem_filter, hpending]
  simp

theorem ahead_sleeping (time : Int) (queue : FollowUpQueue) :
    ahead time .sleeping queue = (pendingBy time queue).map FollowUpQueueItem.id :=
  List.filter_eq_self.2 fun _ _ => rfl

/-- The item's promotion has begun or is over. -/
def Served (itemId : String) (s : PromotionShared) (l : PromotionPhase) : Prop :=
  ∃ r, itemOf s.queue itemId = some r ∧
    (concluded r ∨ itemId ∈ l.items.map FollowUpQueueItem.id)

/-- While the sessions commit, an item in hand stays there until it is concluded. -/
theorem SoloStep.served (hstep : SoloStep scheduler s l move l' t) (hcommits : commits move = true)
    (h : Served itemId s l) : Served itemId t l' := by
  obtain ⟨r, hfind, hserved⟩ := h
  obtain ⟨r', hfind', hcontinues, -⟩ := hstep.row hfind
  rcases hserved with hdone | hhand
  · exact ⟨r', hfind', .inl (hcontinues.concluded hdone)⟩
  · cases hstep with
    | fetched => cases hhand
    | marked u item rest session hu ha hl hrest hidle hl' htodo hlast =>
        obtain ⟨rfl, rfl⟩ := hlast hcommits
        rw [hl, List.map_cons] at hhand
        rcases List.mem_cons.1 hhand with rfl | hlater
        · have hrow : u.apply r = r' := by
            rw [itemOf_written, hfind, Option.map_some, if_pos ⟨rfl, rfl⟩] at hfind'
            exact Option.some.inj hfind'
          exact ⟨r', hfind', .inl (hrow ▸ concluded_apply hu r)⟩
        · refine ⟨r', hfind', .inr ?_⟩
          rw [items_nextItem]
          exact hlater
    | incremented item rest session =>
        rw [if_pos (by simpa [commits] using hcommits)]
        exact ⟨r', hfind', .inr hhand⟩
    | enqueued item rest newCount session =>
        rw [if_pos (by simpa [commits] using hcommits)]
        exact ⟨r', hfind', .inr hhand⟩
    | crashed => cases hcommits
    | started => cases hhand
    | elapsed => exact ⟨r', hfind', .inr hhand⟩
    | scheduled => exact ⟨r', hfind', .inr hhand⟩
    | optedOut => exact ⟨r', hfind', .inr hhand⟩

theorem SoloStep.now_le (hstep : SoloStep scheduler s l move l' t) : s.now ≤ t.now := by
  cases hstep with
  | elapsed l hqueue hnow => exact hnow
  | _ => exact Nat.le_refl _

/-- The id that a step may add to the queue. -/
def newcomer (time : Int) : SoloMove → List String
  | .around (.queue (.schedule itemId payload)) => if payload.triggerAt ≤ time then [itemId] else []
  | _ => []

theorem length_newcomer (time : Int) (move : SoloMove) :
    (newcomer time move).length = if arrives time move then 1 else 0 := by
  unfold newcomer arrives
  split
  · simp only [decide_eq_true_eq]
    split <;> rfl
  · rfl

/-- Between polls nothing gets ahead but what is newly scheduled. -/
theorem SoloStep.ahead_subset (hstep : SoloStep scheduler s l move l' t)
    (hids : (s.queue.rows.map FollowUpQueueItem.id).Nodup) (hcommits : commits move = true) :
    ahead time l' t.queue ⊆ newcomer time move ++ ahead time l s.queue := by
  intro k hk
  rw [mem_ahead (hstep.ids hids)] at hk
  obtain ⟨⟨r', hfind', hpending, hdue⟩, hhand⟩ := hk
  rw [List.mem_append]
  cases hfind : itemOf s.queue k with
  | none =>
      obtain ⟨-, payload, rfl, htrigger⟩ := hstep.newRow hfind hfind'
      left
      rw [htrigger] at hdue
      simp [newcomer, hdue]
  | some r =>
      right
      obtain ⟨r'', hrow, hcontinues, -⟩ := hstep.row hfind
      obtain rfl := Option.some.inj (hrow.symm.trans hfind')
      have hopen : ¬ concluded r'' := by
        simp [concluded, hpending]
      rw [mem_ahead hids]
      refine ⟨⟨r, hfind, ?_, hcontinues.triggerAt ▸ hdue⟩, fun hold => ?_⟩
      · rw [← hcontinues.status.resolve_right hopen]
        exact hpending
      · obtain ⟨r₁, hfind₁, hdone | hstill⟩ := hstep.served hcommits ⟨r, hfind, .inr hold⟩
        · obtain rfl := Option.some.inj (hfind₁.symm.trans hfind')
          exact hopen hdone
        · exact hhand hstill

theorem SoloStep.length_ahead_le (hstep : SoloStep scheduler s l move l' t)
    (hids : (s.queue.rows.map FollowUpQueueItem.id).Nodup) (hcommits : commits move = true) :
    (ahead time l' t.queue).length ≤
      (ahead time l s.queue).length + if arrives time move then 1 else 0 := by
  have hnodup : (ahead time l' t.queue).Nodup := (nodup_pendingBy (hstep.ids hids) time).filter _
  have hle := hnodup.length_le_of_subset (hstep.ahead_subset hids hcommits)
  rw [List.length_append, length_newcomer] at hle
  omega

/-- A poll that leaves a due item out takes a full batch of those ahead of it. -/
theorem length_ahead_fetched (hids : (queue.rows.map FollowUpQueueItem.id).Nodup)
    {batchSize now : Nat} (hr : r ∈ queue.rows) (hpending : r.status = .pending)
    (hdue : r.triggerAt ≤ now) (hnot : r ∉ fetchDue batchSize now queue) :
    (ahead r.triggerAt (nextItem (fetchDue batchSize now queue)) queue).length + batchSize ≤
      (ahead r.triggerAt .sleeping queue).length := by
  obtain ⟨hfull, hearlier⟩ := fetchDue_of_notMem hr hpending hdue hnot
  have hsub : (fetchDue batchSize now queue).map FollowUpQueueItem.id ⊆
      (pendingBy r.triggerAt queue).map FollowUpQueueItem.id := by
    intro k hk
    obtain ⟨r', hr', rfl⟩ := List.mem_map.1 hk
    obtain ⟨hmem, hpending', -⟩ := mem_fetchDue hr'
    exact List.mem_map_of_mem (mem_pendingBy.2 ⟨hmem, hpending', hearlier r' hr'⟩)
  have hle := Batch.length_filter_add_le (nodup_pendingBy hids r.triggerAt)
    (nodup_fetchDue hids batchSize now) hsub
    (p := fun k => !(nextItem (fetchDue batchSize now queue)).items.any fun item => item.id = k)
    (by simp)
  rw [List.length_map, hfull] at hle
  rw [ahead_sleeping]
  exact hle

/-- A step that does not serve a due item leaves no more ahead of it, by a full batch for a
poll, but for what is newly scheduled. -/
theorem SoloStep.length_ahead_add_le (hstep : SoloStep scheduler s l move l' t)
    (hids : (s.queue.rows.map FollowUpQueueItem.id).Nodup) (hcommits : commits move = true)
    (hfind : itemOf s.queue itemId = some r) (hpending : r.status = .pending)
    (hdue : r.triggerAt ≤ s.now) (hnot : ¬ Served itemId t l') :
    (ahead r.triggerAt l' t.queue).length +
        (if polls move then 1 else 0) * scheduler.batchSize ≤
      (ahead r.triggerAt l s.queue).length + if arrives r.triggerAt move then 1 else 0 := by
  cases hpoll : polls move with
  | false =>
      rw [if_neg Bool.false_ne_true, Nat.zero_mul, Nat.add_zero]
      exact hstep.length_ahead_le hids hcommits
  | true =>
      rw [if_pos rfl, Nat.one_mul]
      cases hstep with
      | fetched =>
          have hmem : r ∈ s.queue.rows := List.mem_of_find?_eq_some hfind
          have hleft : r ∉ fetchDue scheduler.batchSize s.now s.queue := by
            intro hfetched
            refine hnot ⟨r, hfind, .inr ?_⟩
            rw [items_nextItem, ← id_of_itemOf hfind]
            exact List.mem_map_of_mem hfetched
          exact length_ahead_fetched hids hmem hpending hdue hleft
      | @marked l a l' u item rest session hu ha =>
          cases a with
          | fetch => cases ha
          | _ => cases hpoll
      | _ => cases hpoll

/-- A due item that waits for a poll. -/
structure Waits (itemId : String) (time : Int) (c : SoloState) : Prop where
  inStep : InStep c.shared c.phase
  row : ∃ r, itemOf c.shared.queue itemId = some r ∧ r.status = .pending ∧ r.triggerAt = time
  due : time ≤ c.shared.now
  out : itemId ∉ c.phase.items.map FollowUpQueueItem.id

variable {c c' : SoloState} {moves : List SoloMove}

/-- An item that waits is served by a step, or waits on behind what is still ahead. -/
theorem waits_step (h : Waits itemId time c) (hcommits : commits move = true)
    (hstep : scheduler.solo.step c move = some c') :
    Served itemId c'.shared c'.phase ∨ Waits itemId time c' ∧
      (ahead time c'.phase c'.shared.queue).length +
          (if polls move then 1 else 0) * scheduler.batchSize ≤
        (ahead time c.phase c.shared.queue).length + if arrives time move then 1 else 0 := by
  have hlisted := soloStep_of_step hstep
  obtain ⟨r, hfind, hpending, htrigger⟩ := h.row
  obtain ⟨r', hfind', hcontinues, -⟩ := hlisted.row hfind
  by_cases hserved : Served itemId c'.shared c'.phase
  · exact .inl hserved
  have hopen : ¬ concluded r' := fun hdone => hserved ⟨r', hfind', .inl hdone⟩
  refine .inr ⟨⟨hlisted.inStep h.inStep, ⟨r', hfind', ?_, ?_⟩, ?_, ?_⟩, ?_⟩
  · exact (hcontinues.status.resolve_right hopen).trans hpending
  · exact hcontinues.triggerAt.trans htrigger
  · exact h.due.trans (by exact_mod_cast hlisted.now_le)
  · exact fun hhand => hserved ⟨r', hfind', .inr hhand⟩
  · subst htrigger
    exact hlisted.length_ahead_add_le h.inStep.ids hcommits hfind hpending h.due hserved

theorem served_run (h : Served itemId c.shared c.phase)
    (hcommits : ∀ move ∈ moves, commits move = true)
    (hrun : scheduler.solo.run c moves = some c') : Served itemId c'.shared c'.phase :=
  scheduler.solo.invariant_of_allSteps (C := fun _ move => commits move = true)
    (fun _ _ _ h hcommits hstep => (soloStep_of_step hstep).served hcommits h) h
    (Machine.allSteps_of_forall _ hcommits) hrun

/-- Over a run whose sessions commit. -/
theorem waits_run (h : Waits itemId time c) (hcommits : ∀ move ∈ moves, commits move = true)
    (hrun : scheduler.solo.run c moves = some c') :
    Served itemId c'.shared c'.phase ∨ Waits itemId time c' ∧
      (ahead time c'.phase c'.shared.queue).length + moves.countP polls * scheduler.batchSize ≤
        (ahead time c.phase c.shared.queue).length + moves.countP (arrives time) := by
  induction moves generalizing c with
  | nil =>
      cases hrun
      exact .inr ⟨h, by simp⟩
  | cons move moves ih =>
      obtain ⟨c₁, hstep, hrest⟩ := (scheduler.solo.run_cons_eq_some).1 hrun
      have hlater : ∀ move ∈ moves, commits move = true :=
        fun m hm => hcommits m (List.mem_cons_of_mem _ hm)
      rcases waits_step h (hcommits move List.mem_cons_self) hstep with hserved | ⟨hwaits, hle⟩
      · exact .inl (served_run hserved hlater hrest)
      · rcases ih hwaits hlater hrest with hserved | ⟨hwaits', hle'⟩
        · exact .inl hserved
        · refine .inr ⟨hwaits', ?_⟩
          rw [List.countP_cons, List.countP_cons, Nat.add_mul]
          omega

end Waiting

/-! ## The result -/

section Result

variable {scheduler : FollowUpScheduler} {now : Nat} {c c' : SoloState} {moves : List SoloMove}
  {r : FollowUpQueueItem}

/-- With enough polls, no due item is left waiting. -/
theorem served_of_polls (hinStep : InStep c.shared c.phase)
    (hrun : scheduler.solo.run c moves = some c') (hcommits : ∀ move ∈ moves, commits move = true)
    (hr : r ∈ c.shared.queue.rows) (hpending : r.status = .pending)
    (hdue : r.triggerAt ≤ c.shared.now)
    (hpolls : (pendingBy r.triggerAt c.shared.queue).length +
      moves.countP (arrives r.triggerAt) ≤ moves.countP polls * scheduler.batchSize) :
    Served r.id c'.shared c'.phase := by
  have hfind : itemOf c.shared.queue r.id = some r := itemOf_of_mem hinStep.ids hr
  by_cases hhand : r.id ∈ c.phase.items.map FollowUpQueueItem.id
  · exact served_run ⟨r, hfind, .inr hhand⟩ hcommits hrun
  · have hwaits : Waits r.id r.triggerAt c :=
      ⟨hinStep, ⟨r, hfind, hpending, rfl⟩, hdue, hhand⟩
    rcases waits_run hwaits hcommits hrun with hserved | ⟨hwaits', hle⟩
    · exact hserved
    · obtain ⟨r', hfind', hpending', htrigger⟩ := hwaits'.row
      have hmem : r.id ∈ ahead r.triggerAt c'.phase c'.shared.queue :=
        (mem_ahead hwaits'.inStep.ids).2 ⟨⟨r', hfind', hpending', htrigger.le⟩, hwaits'.out⟩
      have hpos := List.length_pos_of_mem hmem
      have hahead : (ahead r.triggerAt c.phase c.shared.queue).length ≤
          (pendingBy r.triggerAt c.shared.queue).length := by
        rw [← List.length_map (f := FollowUpQueueItem.id)]
        exact List.length_filter_le _ _
      omega

/-- The rest of a batch can be worked through, item by item. -/
theorem completes_batch (scheduler : FollowUpScheduler) (batch : List FollowUpQueueItem)
    (s : PromotionShared) : ∃ steps t,
      scheduler.solo.run ⟨s, nextItem batch⟩ steps = some ⟨t, .sleeping⟩ ∧
        ∀ move ∈ steps, commits move = true ∧ polls move = false := by
  induction batch generalizing s with
  | nil => exact ⟨[], s, rfl, fun _ h => nomatch h⟩
  | cons item rest ih =>
      cases hskips : skips item with
      | true =>
          have hstep : scheduler.solo.step ⟨s, nextItem (item :: rest)⟩ (.act (.skip .commits)) =
              some ⟨{ s with queue := markSkipped item.id s.queue }, nextItem rest⟩ := by
            simp [solo, act, nextItem, hskips, Transaction.close]
          obtain ⟨steps, t, hrun, hsteps⟩ := ih { s with queue := markSkipped item.id s.queue }
          refine ⟨.act (.skip .commits) :: steps, t, ?_, ?_⟩
          · rw [Machine.run_cons, hstep]
            exact hrun
          · exact List.forall_mem_cons.2 ⟨⟨rfl, rfl⟩, hsteps⟩
      | false =>
          let counted := incrementAttempt item.id s.queue
          let outbox' := (OutboxRepository.enqueue s.now
            (scheduler.providerCommand item counted.2) s.outbox).1
          have hpromoted : scheduler.solo.run ⟨s, nextItem (item :: rest)⟩
              [.act (.increment .commits), .act (.enqueue .commits), .act (.markSent .commits)] =
                some ⟨{ s with queue := markSent item.id counted.1, outbox := outbox' },
                  nextItem rest⟩ := by
            simp [Machine.run, solo, act, nextItem, hskips, Transaction.close, counted, outbox']
          obtain ⟨steps, t, hrun, hsteps⟩ :=
            ih { s with queue := markSent item.id counted.1, outbox := outbox' }
          refine ⟨[.act (.increment .commits), .act (.enqueue .commits),
            .act (.markSent .commits)] ++ steps, t, ?_, ?_⟩
          · rw [Machine.run_append, hpromoted]
            exact hrun
          · intro move hmove
            rcases List.mem_append.1 hmove with hthis | hlater
            · simp only [List.mem_cons, List.not_mem_nil, or_false] at hthis
              rcases hthis with rfl | rfl | rfl <;> exact ⟨rfl, rfl⟩
            · exact hsteps move hlater

theorem completes (scheduler : FollowUpScheduler) (start : SoloState) (moves : List SoloMove) :
    scheduler.Completes start moves := by
  rintro earlier ⟨s, l⟩ - - rfl
  obtain ⟨steps, t, hrun, hsteps⟩ :=
    scheduler.completes_batch (fetchDue scheduler.batchSize s.now s.queue) s
  exact ⟨steps, ⟨t, .sleeping⟩, hrun, hsteps, rfl⟩

theorem concludes (scheduler : FollowUpScheduler) (now : Nat) (moves : List SoloMove) :
    scheduler.Concludes (noScheduler now) moves := by
  intro earlier later c c' _ hearlier hlater hcommits hasleep r hr hpending hdue hpolls
  obtain ⟨r', hfind', hserved⟩ :=
    served_of_polls (inStep_of_run hearlier) hlater hcommits hr hpending hdue hpolls
  refine ⟨r', List.mem_of_find?_eq_some hfind', id_of_itemOf hfind', ?_⟩
  rcases hserved with hdone | hhand
  · exact hdone
  · rw [hasleep] at hhand
    cases hhand

end Result

/-- In every run of one scheduler, items are promoted within their `max_attempts` and come to
an end exactly where none with a `max_attempts` of zero is promoted. -/
theorem boundsAttempts_iff (scheduler : FollowUpScheduler) (now : Nat) (moves : List SoloMove) :
    scheduler.BoundsAttempts (noScheduler now) moves ↔
      scheduler.solo.AllSteps (fun c move => countsAllowed c move = true)
        (noScheduler now) moves := by
  rw [← withinBudget_iff]
  constructor
  · intro hbounds
    exact hbounds.budget
  · intro hbudget
    exact ⟨hbudget, concludes scheduler now moves, completes scheduler (noScheduler now) moves⟩

section Example

/-- A follow-up that is to be tried at no time. -/
def untried : FollowUpPayload := { reminder with maxAttempts := 0 }

def failedPoll : List SoloMove :=
  [.act .fetch, .act (.increment .commits), .act (.enqueue (.fails "OperationalError"))]

def thriceTried : List SoloMove :=
  [.around (.queue (.schedule "item" untried)), .around (.queue .start)] ++
    failedPoll ++ failedPoll ++ failedPoll

/-- It is tried three times. -/
theorem thriceTried_not_bounded :
    oneScheduler.attempts (noScheduler 0) thriceTried "item" = 3 ∧
      ¬ oneScheduler.BoundsAttempts (noScheduler 0) thriceTried := by
  refine ⟨by decide +kernel, fun hbounds => ?_⟩
  have hrun := eq_some_getD (s := noScheduler 0)
    (o := oneScheduler.solo.run (noScheduler 0) thriceTried) (by decide +kernel)
  have hrow := hbounds.budget thriceTried _ (List.prefix_refl _) hrun
  revert hrow
  decide +kernel

end Example

end FollowUpScheduler

end Iara.Workers
