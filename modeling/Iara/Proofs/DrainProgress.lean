import Iara.Lib.EventLog
import Iara.Workers.Batches

/-!
# The drainer makes progress

After a poll, every row that it fetched is sent, dead-lettered or put off, and no
overdue row waits longer than for those due before it, exactly where the drainer
can serve every row of every batch.  `_process_command` returns from a row whose
provider has no adapter without a word to the outbox: fifty such rows are every
batch from then on.
-/

namespace Iara.Workers

open Iara.Lib Iara.Persistence Iara.Provider

namespace OutboxDrainer

/-! ## The claim -/

/-- The batch that a move fetches. -/
def batchOf (drainer : OutboxDrainer) (c : DrainConfig) : DrainMove → List (List OutboxRow)
  | .party i .fetch =>
      match c.parties[i]? with
      | some .sleeping => [drainer.fetched c.shared]
      | _ => []
  | _ => []

/-- The batches that a run fetches, in order. -/
def batches (drainer : OutboxDrainer) (start : DrainConfig) (moves : List DrainMove) :
    List (List OutboxRow) :=
  drainer.drainers.machine.emitted drainer.batchOf start moves

/-- A fetched row is sent, dead-lettered, or pending for a later time than before. -/
def Advanced (outbox : Outbox) (row : OutboxRow) : Prop :=
  ∃ r, outbox.find row.key = some r ∧
    (r.status = .sent ∨ r.status = .deadLettered ∨
      r.status = .pending ∧ row.scheduledAt < r.scheduledAt)

/-- Whenever `_drain_batch` completes, every row that it fetched has advanced. -/
def Advances (drainer : OutboxDrainer) (start : DrainConfig) (moves : List DrainMove) : Prop :=
  ∀ earlier steps later c c', moves = earlier ++ (.party 0 .fetch :: steps) ++ later →
    (.party 0 .fetch) ∉ steps →
    drainer.drainers.machine.run start earlier = some c →
    drainer.drainers.machine.run c (.party 0 .fetch :: steps) = some c' →
    c'.parties = [.sleeping] →
    ∀ row ∈ drainer.fetched c.shared, Advanced c'.shared.outbox row

/-- The pending rows that are due no later than at `time`. -/
def waiting (time : Nat) (outbox : Outbox) : List OutboxRow :=
  outbox.rows.filter fun r => r.status = .pending && r.scheduledAt ≤ time

/-- An overdue row is fetched, or changed by a row with its command id, by the time
that the polls could have fetched all rows due no later than it. -/
def Unstarved (drainer : OutboxDrainer) (start : DrainConfig) (moves : List DrainMove) : Prop :=
  ∀ r ∈ start.shared.outbox.rows, r.status = .pending → r.scheduledAt < start.shared.now →
    (waiting r.scheduledAt start.shared.outbox).length ≤
      (drainer.batches start moves).length * drainer.batchSize →
    (∃ batch ∈ drainer.batches start moves, r ∈ batch) ∨
      ∃ earlier later c, moves = earlier ++ later ∧
        drainer.drainers.machine.run start earlier = some c ∧ r ∉ c.shared.outbox.rows

structure Progresses (drainer : OutboxDrainer) (start : DrainConfig) (moves : List DrainMove) :
    Prop where
  advances : drainer.Advances start moves
  unstarved : drainer.Unstarved start moves

/-! ## One batch -/

section Batch

variable {drainer : OutboxDrainer} {s t : DrainShared} {l l' : DrainPhase} {move : DrainMove}
  {batch : List OutboxRow} {since : Nat} {c c' : DrainConfig} {moves : List DrainMove}

/-- From the fetch to the end of the batch the drainer works on the rows of the batch. -/
theorem working_of_run (h : Working drainer batch since s l)
    (hquiet : ∀ move ∈ moves, undisturbed move = true) (hfetch : .party 0 .fetch ∉ moves)
    (hrun : drainer.drainers.machine.run ⟨s, [l]⟩ moves = some c) :
    ∃ t l', c = ⟨t, [l']⟩ ∧ Working drainer batch since t l' := by
  refine drainer.drainers.machine.invariant_of_allSteps
    (C := fun _ move => undisturbed move = true ∧ move ≠ .party 0 .fetch)
    (I := fun c => ∃ t l', c = ⟨t, [l']⟩ ∧ Working drainer batch since t l') ?_ ⟨s, l, rfl, h⟩
    (Machine.allSteps_of_forall _ fun move hmove => ⟨hquiet move hmove, ?_⟩) hrun
  · rintro c move c' ⟨s, l, rfl, hworking⟩ ⟨hquiet, hne⟩ hstep
    obtain ⟨l', t, rfl, hsolo⟩ := soloStep_of_step hquiet hstep
    exact ⟨t, l', rfl, hsolo.working hne hworking⟩
  · rintro rfl
    exact hfetch hmove

theorem fetch_step (hstep : drainer.drainers.machine.step ⟨s, [l]⟩ (.party 0 .fetch) = some c) :
    l = .sleeping ∧ c = ⟨s, [nextCommand (drainer.fetched s)]⟩ := by
  obtain ⟨l', t, rfl, hsolo⟩ := soloStep_of_step rfl hstep
  cases hsolo with
  | fetched => exact ⟨rfl, rfl⟩

theorem not_served_nil (drainer : OutboxDrainer) (row : OutboxRow) :
    ¬ drainer.Served [] row := by
  rintro ⟨mate, hmate, -⟩
  cases hmate

/-- The end of a batch: what could be served is settled. -/
theorem settled_of_working (h : Working drainer batch since s .sleeping) {row : OutboxRow}
    (hrow : row ∈ batch) (hserved : drainer.Served batch row) :
    ∃ r, s.outbox.find row.key = some r ∧ Settled since r :=
  (h.settled row hrow hserved).resolve_left (not_served_nil drainer row)

/-- Once its batch is complete, a row has advanced exactly where it could be served. -/
theorem advanced_iff_served (hquiet : ∀ move ∈ moves, undisturbed move = true)
    (hfetch : .party 0 .fetch ∉ moves)
    (hrun : drainer.drainers.machine.run (alone s) (.party 0 .fetch :: moves) = some c)
    (hasleep : c.parties = [.sleeping]) {row : OutboxRow} (hrow : row ∈ drainer.fetched s) :
    Advanced c.shared.outbox row ↔ drainer.Served (drainer.fetched s) row := by
  obtain ⟨c₁, hstep, hrest⟩ := (drainer.drainers.machine.run_cons_eq_some).1 hrun
  obtain ⟨-, rfl⟩ := fetch_step hstep
  obtain ⟨t, l', rfl, hworking⟩ := working_of_run (working_fetched drainer s) hquiet hfetch hrest
  obtain rfl : l' = .sleeping := by simpa using hasleep
  obtain ⟨-, hpending, hdue⟩ := mem_fetched hrow
  constructor
  · intro hadvanced
    by_contra hnot
    obtain ⟨r, hfind, hmoved⟩ := hadvanced
    have hsame : row = r := Option.some.inj ((hworking.stuck row hrow hnot).symm.trans hfind)
    rw [← hsame, hpending] at hmoved
    simp at hmoved
  · intro hserved
    obtain ⟨r, hfind, hsettled⟩ := settled_of_working hworking hrow hserved
    refine ⟨r, hfind, ?_⟩
    rcases hsettled with hsent | hdead | ⟨hlater, htime⟩
    · exact Or.inl hsent
    · exact Or.inr (Or.inl hdead)
    · exact Or.inr (Or.inr ⟨hlater, by omega⟩)

/-- A drainer at work falls asleep before its next poll. -/
theorem exists_completion (hquiet : ∀ move ∈ moves, undisturbed move = true)
    (hrun : drainer.drainers.machine.run ⟨s, [l]⟩ moves = some c)
    (hasleep : c.parties = [.sleeping]) :
    ∃ steps later c₁, moves = steps ++ later ∧ .party 0 .fetch ∉ steps ∧
      drainer.drainers.machine.run ⟨s, [l]⟩ steps = some c₁ ∧ c₁.parties = [.sleeping] := by
  induction moves generalizing s l with
  | nil =>
      cases hrun
      exact ⟨[], [], _, rfl, List.not_mem_nil, rfl, hasleep⟩
  | cons move moves ih =>
      by_cases hfetch : move = .party 0 .fetch
      · obtain ⟨c₁, hstep, -⟩ := (drainer.drainers.machine.run_cons_eq_some).1 hrun
        rw [hfetch] at hstep
        obtain ⟨rfl, -⟩ := fetch_step hstep
        exact ⟨[], move :: moves, _, rfl, List.not_mem_nil, rfl, rfl⟩
      · obtain ⟨c₁, hstep, hrest⟩ := (drainer.drainers.machine.run_cons_eq_some).1 hrun
        obtain ⟨l', t, rfl, -⟩ := soloStep_of_step (hquiet move List.mem_cons_self) hstep
        obtain ⟨steps, later, c₂, rfl, hnone, hsteps, hend⟩ :=
          ih (fun m hm => hquiet m (List.mem_cons_of_mem _ hm)) hrest
        refine ⟨move :: steps, later, c₂, rfl, ?_, ?_, hend⟩
        · intro hmem
          rcases List.mem_cons.1 hmem with heq | hlater
          · exact hfetch heq.symm
          · exact hnone hlater
        · exact (drainer.drainers.machine.run_cons_eq_some).2 ⟨_, hstep, hsteps⟩

/-! ## Every batch of a run -/

theorem solo_of_run (hquiet : ∀ move ∈ moves, undisturbed move = true)
    (hrun : drainer.drainers.machine.run ⟨s, [l]⟩ moves = some c) : ∃ t l', c = ⟨t, [l']⟩ := by
  refine drainer.drainers.machine.invariant_of_allSteps
    (C := fun _ move => undisturbed move = true) (I := fun c => ∃ t l', c = ⟨t, [l']⟩) ?_
    ⟨s, l, rfl⟩ (Machine.allSteps_of_forall _ hquiet) hrun
  rintro c move c' ⟨s, l, rfl⟩ hquiet hstep
  obtain ⟨l', t, rfl, -⟩ := soloStep_of_step hquiet hstep
  exact ⟨t, l', rfl⟩

theorem mem_batchOf (h : batch ∈ drainer.batchOf ⟨s, [l]⟩ move) :
    move = .party 0 .fetch ∧ l = .sleeping ∧ batch = drainer.fetched s := by
  cases move with
  | environment e => cases h
  | party i a =>
      cases a with
      | fetch =>
          cases i with
          | zero =>
              cases l with
              | sleeping => exact ⟨rfl, rfl, List.mem_singleton.1 h⟩
              | _ => cases h
          | succ i => simp [batchOf] at h
      | _ => cases h

theorem advances_iff (hquiet : ∀ move ∈ moves, undisturbed move = true)
    (hrun : drainer.drainers.machine.run (alone s) moves = some c)
    (hasleep : c.parties = [.sleeping]) :
    drainer.Advances (alone s) moves ↔
      ∀ batch ∈ drainer.batches (alone s) moves, ∀ row ∈ batch, drainer.Served batch row := by
  constructor
  · intro hadvances batch hbatch row hrow
    obtain ⟨earlier, move, rest, c₁, rfl, hearlier, hemit⟩ := Machine.mem_emitted hbatch
    have hquiet' : ∀ move ∈ rest, undisturbed move = true := by
      intro m hm
      exact hquiet m (List.mem_append_right _ (List.mem_cons_of_mem _ hm))
    obtain ⟨t, l, rfl⟩ :=
      solo_of_run (fun m hm => hquiet m (List.mem_append_left _ hm)) hearlier
    obtain ⟨rfl, rfl, rfl⟩ := mem_batchOf hemit
    rw [Machine.run_append, hearlier, Option.bind_some] at hrun
    obtain ⟨c₁, hstep, hrest⟩ := (drainer.drainers.machine.run_cons_eq_some).1 hrun
    obtain ⟨-, rfl⟩ := fetch_step hstep
    obtain ⟨steps, later, c₂, rfl, hnone, hsteps, hend⟩ := exists_completion hquiet' hrest hasleep
    have hpoll : drainer.drainers.machine.run (alone t) (.party 0 .fetch :: steps) = some c₂ :=
      (drainer.drainers.machine.run_cons_eq_some).2 ⟨_, hstep, hsteps⟩
    have hadvanced : Advanced c₂.shared.outbox row :=
      hadvances earlier steps later _ c₂ (by simp) hnone hearlier hpoll hend row hrow
    exact (advanced_iff_served (fun m hm => hquiet' m (List.mem_append_left _ hm)) hnone hpoll hend
      hrow).1 hadvanced
  · intro hserved earlier steps later c₁ c₂ hmoves hnone hearlier hpoll hend row hrow
    subst hmoves
    obtain ⟨t, l, rfl⟩ := solo_of_run (fun m hm => hquiet m (by simp [hm])) hearlier
    obtain ⟨c₃, hstep, -⟩ := (drainer.drainers.machine.run_cons_eq_some).1 hpoll
    obtain ⟨rfl, -⟩ := fetch_step hstep
    have hbatch : drainer.fetched t ∈
        drainer.batches (alone s) (earlier ++ (.party 0 .fetch :: steps) ++ later) := by
      unfold batches
      rw [List.append_assoc, Machine.emitted_append hearlier]
      exact List.mem_append_right _ (List.mem_append_left _ List.mem_cons_self)
    have hquiet' : ∀ move ∈ steps, undisturbed move = true := by
      intro m hm
      exact hquiet m (by simp [hm])
    exact (advanced_iff_served hquiet' hnone hpoll hend hrow).2 (hserved _ hbatch row hrow)

end Batch

/-! ## The queue before a row -/

section Queue

variable {drainer : OutboxDrainer} {s t : DrainShared} {l l' : DrainPhase} {move : DrainMove}
  {batch : List OutboxRow} {since time : Nat} {c c' : DrainConfig} {moves : List DrainMove}
  {r : OutboxRow}

theorem mem_waiting {outbox : Outbox} :
    r ∈ waiting time outbox ↔ r ∈ outbox.rows ∧ r.status = .pending ∧ r.scheduledAt ≤ time := by
  simp [waiting]

theorem not_waiting_of_settled (hsettled : Settled since r) (htime : time < since) :
    ¬ (r.status = .pending ∧ r.scheduledAt ≤ time) := by
  rintro ⟨hpending, hle⟩
  rcases hsettled with hsent | hdead | ⟨-, hlater⟩
  · rw [hsent] at hpending
    cases hpending
  · rw [hdead] at hpending
    cases hpending
  · omega

/-- What is waiting for a time that has passed was waiting before the step. -/
theorem SoloStep.waiting_subset (hstep : SoloStep drainer s l move l' t) (htime : time < s.now) :
    ∀ r ∈ waiting time t.outbox, r ∈ waiting time s.outbox := by
  intro r hr
  obtain ⟨hmem, hwaiting⟩ := mem_waiting.1 hr
  rcases hstep.outbox with hsame | ⟨commandId, hsettling⟩ | ⟨command, hnew⟩
  · rw [hsame] at hmem
    exact mem_waiting.2 ⟨hmem, hwaiting⟩
  · generalize t.outbox = outbox' at hsettling hmem
    obtain ⟨f, hf, -, hsettled⟩ := hsettling
    obtain ⟨r', hr', heq⟩ := List.mem_map.1 hmem
    split at heq
    · exact absurd hwaiting (heq ▸ not_waiting_of_settled (hsettled r') htime)
    · exact mem_waiting.2 ⟨heq ▸ hr', hwaiting⟩
  · rw [hnew] at hmem
    rcases Table.mem_insertOrIgnore hmem with hold | ⟨heq, -⟩
    · exact mem_waiting.2 ⟨hold, hwaiting⟩
    · rw [heq] at hwaiting
      have hnow : s.now ≤ time := hwaiting.2
      omega

/-- The keys that are waiting no later than a row, without those of the batch at work. -/
def ahead (r : OutboxRow) (batch : List OutboxRow) (outbox : Outbox) : List (Uuid × String) :=
  ((waiting r.scheduledAt outbox).map OutboxRow.key).filter fun k => !batch.any fun r => r.key = k

theorem mem_ahead {k : Uuid × String} {outbox : Outbox} :
    k ∈ ahead r batch outbox ↔
      k ∈ (waiting r.scheduledAt outbox).map OutboxRow.key ∧ k ∉ batch.map OutboxRow.key := by
  unfold ahead
  rw [List.mem_filter]
  simp

theorem nodup_waiting (time : Nat) (outbox : Outbox) :
    ((waiting time outbox).map OutboxRow.key).Nodup :=
  outbox.unique.sublist (List.filter_sublist.map _)

theorem length_ahead_le {outbox outbox' : Outbox}
    (h : ∀ r' ∈ waiting r.scheduledAt outbox', r' ∈ waiting r.scheduledAt outbox) :
    (ahead r batch outbox').length ≤ (ahead r batch outbox).length := by
  have hnodup : (ahead r batch outbox').Nodup := (nodup_waiting _ _).filter _
  apply hnodup.length_le_of_subset
  intro k hk
  rw [mem_ahead] at hk ⊢
  obtain ⟨r', hr', hkey⟩ := List.mem_map.1 hk.1
  exact ⟨List.mem_map.2 ⟨r', h r' hr', hkey⟩, hk.2⟩

/-- A poll that leaves a due row out takes a full batch from the queue before it. -/
theorem length_ahead_fetched (hadapters : drainer.adapters ≠ []) (hr : r ∈ s.outbox.rows)
    (hpending : r.status = .pending) (hdue : r.scheduledAt ≤ s.now)
    (hnot : r ∉ drainer.fetched s) :
    (ahead r (drainer.fetched s) s.outbox).length + drainer.batchSize ≤
      (waiting r.scheduledAt s.outbox).length := by
  have hfetched : drainer.fetched s =
      OutboxRepository.fetchPendingAll drainer.batchSize s.now s.outbox := by
    apply if_neg
    rw [List.isEmpty_iff]
    exact hadapters
  rw [hfetched] at hnot
  obtain ⟨hfull, hearlier⟩ :=
    OutboxRepository.fetchPendingAll_of_notMem hr hpending hdue hnot
  rw [← hfetched] at hfull hearlier
  have hsub : (drainer.fetched s).map OutboxRow.key ⊆
      (waiting r.scheduledAt s.outbox).map OutboxRow.key := by
    intro k hk
    obtain ⟨r', hr', rfl⟩ := List.mem_map.1 hk
    obtain ⟨hmem, hpending', -⟩ := mem_fetched hr'
    exact List.mem_map_of_mem (mem_waiting.2 ⟨hmem, hpending', hearlier r' hr'⟩)
  have hle := Batch.length_filter_add_le (nodup_waiting r.scheduledAt s.outbox)
    (nodup_fetched drainer s) hsub (fun k hk => (mem_ahead.1 hk).2)
  rw [List.length_map, List.length_map, hfull] at hle
  exact hle

/-- A due row that no poll has fetched yet: each poll so far has taken a full batch
from the queue before it. -/
def Queued (drainer : OutboxDrainer) (r : OutboxRow) (total : Nat) (c : DrainConfig)
    (log : List (List OutboxRow)) : Prop :=
  ∃ s l batch since, c = ⟨s, [l]⟩ ∧ Working drainer batch since s l ∧
    (∀ row ∈ batch, drainer.Served batch row) ∧ r.scheduledAt < since ∧
    r.key ∉ batch.map OutboxRow.key ∧
    (ahead r batch s.outbox).length + log.length * drainer.batchSize ≤ total

/-- The row stays as it is and is left out, and what is fetched can be served. -/
def LeavesOut (drainer : OutboxDrainer) (r : OutboxRow) (c : DrainConfig) (move : DrainMove) :
    Prop :=
  undisturbed move = true ∧ r ∈ c.shared.outbox.rows ∧
    ∀ batch ∈ drainer.batchOf c move, r ∉ batch ∧ ∀ row ∈ batch, drainer.Served batch row

theorem queued_start (hdue : r.scheduledAt < s.now) :
    Queued drainer r (waiting r.scheduledAt s.outbox).length (alone s) [] := by
  have hworking : Working drainer [] s.now s .sleeping := by
    constructor
    · exact Nat.le_refl _
    · simp [DrainPhase.rows]
    · simp [DrainPhase.inHand]
    · simp
    · simp
    · simp
  refine ⟨s, .sleeping, [], s.now, rfl, hworking, by simp, hdue, by simp, ?_⟩
  rw [List.length_nil, Nat.zero_mul, Nat.add_zero, ← List.length_map (f := OutboxRow.key)]
  exact List.length_filter_le _ _

/-- Nothing of a completed batch is left in the queue. -/
theorem ahead_of_completed (hworking : Working drainer batch since s .sleeping)
    (hserved : ∀ row ∈ batch, drainer.Served batch row) (htime : r.scheduledAt < since) :
    ahead r batch s.outbox = (waiting r.scheduledAt s.outbox).map OutboxRow.key := by
  unfold ahead
  rw [List.filter_eq_self]
  intro k hk
  obtain ⟨r', hr', rfl⟩ := List.mem_map.1 hk
  obtain ⟨hmem, hwaiting⟩ := mem_waiting.1 hr'
  rw [Bool.not_eq_true', List.any_eq_false]
  intro row hrow hsame
  have hkey : row.key = r'.key := of_decide_eq_true hsame
  obtain ⟨r'', hfind, hsettled⟩ := settled_of_working hworking hrow (hserved row hrow)
  have hsame : r'' = r' := by
    have hfind' : s.outbox.find r'.key = some r' := Table.find_eq_some_iff.2 ⟨hmem, rfl⟩
    rw [hkey, hfind'] at hfind
    exact (Option.some.inj hfind).symm
  rw [hsame] at hsettled
  exact not_waiting_of_settled hsettled htime hwaiting

theorem queued_step (hadapters : drainer.adapters ≠ []) (hpending : r.status = .pending)
    {total : Nat} {log : List (List OutboxRow)} (h : Queued drainer r total c log)
    (hout : LeavesOut drainer r c move) (hstep : drainer.drainers.machine.step c move = some c') :
    Queued drainer r total c' (log ++ drainer.batchOf c move) := by
  obtain ⟨s, l, batch, since, rfl, hworking, hserved, htime, hkey, hle⟩ := h
  obtain ⟨hquiet, hmem, hbatches⟩ := hout
  obtain ⟨l', t, rfl, hsolo⟩ := soloStep_of_step hquiet hstep
  have hnow : r.scheduledAt < s.now := Nat.lt_of_lt_of_le htime hworking.since_le
  by_cases hfetch : move = .party 0 .fetch
  · subst hfetch
    obtain ⟨rfl, hafter⟩ := fetch_step hstep
    cases hafter
    obtain ⟨hnot, hserved'⟩ := hbatches (drainer.fetched s) List.mem_cons_self
    have hfull : (ahead r (drainer.fetched s) s.outbox).length + drainer.batchSize ≤
        (waiting r.scheduledAt s.outbox).length :=
      length_ahead_fetched hadapters hmem hpending (Nat.le_of_lt hnow) hnot
    rw [ahead_of_completed hworking hserved htime, List.length_map] at hle
    refine ⟨s, _, drainer.fetched s, s.now, rfl, working_fetched drainer s, hserved', hnow, ?_, ?_⟩
    · intro hin
      obtain ⟨r', hr', hsame⟩ := List.mem_map.1 hin
      rw [s.outbox.row_eq_of_key_eq (mem_fetched hr').1 hmem hsame] at hr'
      exact hnot hr'
    · have hone : (drainer.batchOf ⟨s, [.sleeping]⟩ (.party 0 .fetch)).length = 1 := rfl
      rw [List.length_append, hone, Nat.add_mul, Nat.one_mul]
      omega
  · have hnone : drainer.batchOf ⟨s, [l]⟩ move = [] := by
      apply List.eq_nil_iff_forall_not_mem.2
      intro b hb
      exact hfetch (mem_batchOf hb).1
    have hshrinks : (ahead r batch t.outbox).length ≤ (ahead r batch s.outbox).length :=
      length_ahead_le (hsolo.waiting_subset hnow)
    refine ⟨t, l', batch, since, rfl, hsolo.working hfetch hworking, hserved, htime, hkey, ?_⟩
    rw [hnone, List.append_nil]
    omega

theorem batchOf_subset_batches {earlier later : List DrainMove}
    (hearlier : drainer.drainers.machine.run (alone s) earlier = some c)
    (hbatch : batch ∈ drainer.batchOf c move) :
    batch ∈ drainer.batches (alone s) (earlier ++ move :: later) := by
  unfold batches
  rw [Machine.emitted_append hearlier]
  exact List.mem_append_right _ (List.mem_append_left _ hbatch)

/-- Where every batch can be served, no overdue row starves. -/
theorem unstarved_of_served (hadapters : drainer.adapters ≠ [])
    (hquiet : ∀ move ∈ moves, undisturbed move = true)
    (hrun : drainer.drainers.machine.run (alone s) moves = some c)
    (hserved : ∀ batch ∈ drainer.batches (alone s) moves,
      ∀ row ∈ batch, drainer.Served batch row) :
    drainer.Unstarved (alone s) moves := by
  intro r _ hpending hdue hpolls
  by_contra hstarved
  push Not at hstarved
  obtain ⟨hnone, hstays⟩ := hstarved
  have hall : drainer.drainers.machine.AllSteps (LeavesOut drainer r) (alone s) moves := by
    apply Machine.allSteps_of_splits
    intro earlier move later c₁ hmoves hearlier
    refine ⟨hquiet move (by simp [hmoves]), hstays earlier (move :: later) c₁ hmoves hearlier, ?_⟩
    intro batch hbatch
    have hin : batch ∈ drainer.batches (alone s) moves :=
      hmoves ▸ batchOf_subset_batches hearlier hbatch
    exact ⟨hnone batch hin, hserved batch hin⟩
  have hend : Queued drainer r (waiting r.scheduledAt s.outbox).length c
      ([] ++ drainer.batches (alone s) moves) :=
    Machine.emitted_invariant
      (fun _ _ _ _ hqueued hout hstep => queued_step hadapters hpending hqueued hout hstep)
      (queued_start hdue) hall hrun
  obtain ⟨t, l, batch, since, rfl, hworking, -, htime, hkey, hle⟩ := hend
  have hmem : r ∈ t.outbox.rows := hstays moves [] _ (by simp) hrun
  have hahead : r.key ∈ ahead r batch t.outbox := by
    rw [mem_ahead]
    exact ⟨List.mem_map_of_mem (mem_waiting.2 ⟨hmem, hpending, Nat.le_refl _⟩), hkey⟩
  have hpos := List.length_pos_of_mem hahead
  rw [List.nil_append] at hle
  have hpolls' : (waiting r.scheduledAt s.outbox).length ≤
      (drainer.batches (alone s) moves).length * drainer.batchSize := hpolls
  omega

/-! ## Rows that nobody serves -/

theorem waiting_enqueue (now : Nat) (command : ProviderCommand) (outbox : Outbox)
    (htime : time < now) :
    waiting time (OutboxRepository.enqueue now command outbox).1 = waiting time outbox := by
  unfold OutboxRepository.enqueue waiting
  cases hkey : outbox.hasKey (OutboxRepository.row now command).key with
  | true => rw [Table.insertOrIgnore_of_hasKey hkey]
  | false =>
      have hlater : ¬ (OutboxRepository.row now command).scheduledAt ≤ time := Nat.not_le.2 htime
      rw [Table.filter_rows_insertOrIgnore_of_new _ hkey]
      simp [hlater]

/-- A batch comes from the rows of a time if these fill it. -/
theorem fetched_subset_waiting (htime : time < s.now)
    (hfull : drainer.batchSize ≤ (waiting time s.outbox).length) {row : OutboxRow}
    (hrow : row ∈ drainer.fetched s) : row ∈ waiting time s.outbox := by
  have hfetched : drainer.fetched s =
      OutboxRepository.fetchPendingAll drainer.batchSize s.now s.outbox := by
    apply if_neg
    intro hempty
    rw [fetched, if_pos hempty] at hrow
    cases hrow
  obtain ⟨hmem, hpending, hdue⟩ := mem_fetched hrow
  by_contra hnot
  -- one of the waiting rows is left out, for the batch holds a row besides them
  obtain ⟨r, hr, hout⟩ : ∃ r ∈ waiting time s.outbox, r ∉ drainer.fetched s := by
    by_contra hall
    push Not at hall
    have hnodup : (row :: waiting time s.outbox).Nodup :=
      List.nodup_cons.2 ⟨hnot, (s.outbox.unique.of_map _).filter _⟩
    have hsub : row :: waiting time s.outbox ⊆ drainer.fetched s :=
      List.cons_subset.2 ⟨hrow, hall⟩
    have hlength := hnodup.length_le_of_subset hsub
    have hbatch : (drainer.fetched s).length ≤ drainer.batchSize := by
      rw [hfetched]
      exact List.length_take_le _ _
    rw [List.length_cons] at hlength
    omega
  obtain ⟨hr', hpending', hdue'⟩ := mem_waiting.1 hr
  rw [hfetched] at hout hrow
  have hearlier : row.scheduledAt ≤ r.scheduledAt :=
    (OutboxRepository.fetchPendingAll_of_notMem hr' hpending' (by omega) hout).2 row hrow
  exact hnot (mem_waiting.2 ⟨hmem, hpending, by omega⟩)

/-- The rows waiting for `time` are `stuck`, and the drainer has only such rows to
pass over. -/
structure Blocked (time : Nat) (stuck : List OutboxRow) (s : DrainShared) (l : DrainPhase) :
    Prop where
  past : time < s.now
  same : waiting time s.outbox = stuck
  rows : ∀ row ∈ l.rows, row ∈ stuck
  inHand : l.inHand = none

theorem SoloStep.blocked {stuck : List OutboxRow} (hstep : SoloStep drainer s l move l' t)
    (hfull : drainer.batchSize ≤ stuck.length)
    (hunserved : ∀ row ∈ stuck, drainer.serves row = false) (h : Blocked time stuck s l) :
    Blocked time stuck t l' := by
  cases hstep with
  | fetched =>
      refine ⟨h.past, h.same, ?_, inHand_nextCommand _⟩
      rw [rows_nextCommand, ← h.same]
      rw [← h.same] at hfull
      exact fun row hrow => fetched_subset_waiting h.past hfull hrow
  | deadLettered row rest hexhausted =>
      have hserves := hunserved row (h.rows row List.mem_cons_self)
      rw [serves, hexhausted, Bool.true_or] at hserves
      cases hserves
  | skipped row rest exchange hexhausted hadapter =>
      refine ⟨h.past, h.same, ?_, inHand_nextCommand _⟩
      rw [rows_nextCommand]
      exact fun r hr => h.rows r (List.mem_cons_of_mem _ hr)
  | executed row rest exchange adapter hexhausted hadapter hl' =>
      have hserves := hunserved row (h.rows row List.mem_cons_self)
      rw [serves, hadapter, Option.isSome_some, Bool.or_true] at hserves
      cases hserves
  | sent row rest => cases h.inHand
  | recorded row rest => cases h.inHand
  | ticked l elapsed => exact ⟨Nat.lt_add_right _ h.past, h.same, h.rows, h.inHand⟩
  | enqueued l command =>
      exact ⟨h.past, (waiting_enqueue s.now command s.outbox h.past).trans h.same, h.rows, h.inHand⟩

/-- Rows that nobody serves and that fill a batch are every batch from then on. -/
theorem starved_of_unserved (htime : time < s.now)
    (hfull : drainer.batchSize ≤ (waiting time s.outbox).length)
    (hunserved : ∀ row ∈ waiting time s.outbox, drainer.serves row = false)
    (hquiet : ∀ move ∈ moves, undisturbed move = true)
    (hrun : drainer.drainers.machine.run (alone s) moves = some c) :
    ∀ batch ∈ drainer.batches (alone s) moves, ∀ row ∈ batch, row ∈ waiting time s.outbox := by
  let I : DrainConfig → List (List OutboxRow) → Prop := fun c log =>
    (∃ t l, c = ⟨t, [l]⟩ ∧ Blocked time (waiting time s.outbox) t l) ∧
      ∀ batch ∈ log, ∀ row ∈ batch, row ∈ waiting time s.outbox
  have hstart : Blocked time (waiting time s.outbox) s .sleeping :=
    ⟨htime, rfl, by simp [DrainPhase.rows], rfl⟩
  have hend : I c ([] ++ drainer.batches (alone s) moves) := by
    refine Machine.emitted_invariant (I := I) (C := fun _ move => undisturbed move = true) ?_
      ⟨⟨s, .sleeping, rfl, hstart⟩, by simp⟩ (Machine.allSteps_of_forall _ hquiet) hrun
    rintro c log move c' ⟨⟨t, l, rfl, hblocked⟩, hlog⟩ hquiet hstep
    obtain ⟨l', u, rfl, hsolo⟩ := soloStep_of_step hquiet hstep
    refine ⟨⟨u, l', rfl, hsolo.blocked hfull hunserved hblocked⟩, ?_⟩
    intro batch hbatch row hrow
    rcases List.mem_append.1 hbatch with hold | hnew
    · exact hlog batch hold row hrow
    · obtain ⟨-, -, rfl⟩ := mem_batchOf hnew
      have hsame := hblocked.same
      rw [← hsame] at hfull ⊢
      exact fetched_subset_waiting hblocked.past hfull hrow
  exact hend.2

/-- In a run of completed polls without a failing session the drainer makes
progress exactly where it can serve every row of every batch. -/
theorem progresses_iff (drainer : OutboxDrainer) (hadapters : drainer.adapters ≠ [])
    (s : DrainShared) (moves : List DrainMove) (hquiet : ∀ move ∈ moves, undisturbed move = true)
    (c : DrainConfig) (hrun : drainer.drainers.machine.run (alone s) moves = some c)
    (hasleep : c.parties = [.sleeping]) :
    drainer.Progresses (alone s) moves ↔
      ∀ batch ∈ drainer.batches (alone s) moves, ∀ row ∈ batch, drainer.Served batch row := by
  constructor
  · intro hprogresses
    exact (advances_iff hquiet hrun hasleep).1 hprogresses.advances
  · intro hserved
    exact ⟨(advances_iff hquiet hrun hasleep).2 hserved,
      unstarved_of_served hadapters hquiet hrun hserved⟩

end Queue

/-! ## Two outboxes -/

section Example

/-- A drainer whose only provider carries out every command. -/
def chatwootOnly : OutboxDrainer where
  adapters := [("chatwoot", fun _ command _ =>
    { result := .ok
        { commandId := command.commandId
          idempotencyKey := command.idempotencyKey
          success := true } })]

def pendingRow (tenantId : Uuid) (provider : String) (scheduledAt : Nat) : OutboxRow where
  tenantId := tenantId
  commandId := "command"
  idempotencyKey := "key"
  correlationId := "correlation"
  provider := provider
  capabilityName := "send_message"
  parametersJson := []
  riskClass := .lowWrite
  scheduledAt := scheduledAt

/-- An outbox with one row that is due. -/
def oneRow (provider : String) : DrainShared where
  outbox := ⟨[pendingRow 1 provider 0], List.nodup_singleton _⟩
  now := 1

def anyAnswer : Exchange where
  posts := fun _ => { applied := false, answer := .retryable }

def servedPoll : List DrainMove :=
  [.party 0 .fetch, .party 0 (.execute anyAnswer), .party 0 (.markSent .commits)]

theorem servedPoll_progresses :
    chatwootOnly.Progresses (alone (oneRow "chatwoot")) servedPoll := by
  have hrun := eq_some_getD (s := alone (oneRow "chatwoot"))
    (o := chatwootOnly.drainers.machine.run (alone (oneRow "chatwoot")) servedPoll)
    (by decide +kernel)
  refine (progresses_iff chatwootOnly (List.cons_ne_nil _ _) (oneRow "chatwoot") servedPoll
    (by decide) _ hrun (by decide +kernel)).2 ?_
  have hbatches : chatwootOnly.batches (alone (oneRow "chatwoot")) servedPoll =
      [[pendingRow 1 "chatwoot" 0]] := by decide +kernel
  rw [hbatches]
  intro batch hbatch row hrow
  rw [List.mem_singleton.1 hbatch, List.mem_singleton] at hrow
  rw [List.mem_singleton.1 hbatch, hrow]
  exact ⟨_, List.mem_singleton_self _, rfl, by decide +kernel⟩

def strayPoll : List DrainMove := [.party 0 .fetch, .party 0 (.execute anyAnswer)]

/-- Fifty rows of a provider without an adapter, and one of another provider that
is due after them. -/
def fiftyStrays : DrainShared where
  outbox :=
    { rows := ((List.range 50).map fun i => pendingRow i "whatsapp" 0) ++
        [pendingRow 50 "chatwoot" 1]
      unique := by decide +kernel }
  now := 2

/-- A poll leaves a stray row as it was, and fifty of them keep every poll from the
row after them. -/
theorem strays_starve :
    ¬ chatwootOnly.Progresses (alone (oneRow "whatsapp")) strayPoll ∧
      ∀ moves c, (∀ move ∈ moves, undisturbed move = true) →
        chatwootOnly.drainers.machine.run (alone fiftyStrays) moves = some c →
        ∀ batch ∈ chatwootOnly.batches (alone fiftyStrays) moves,
          pendingRow 50 "chatwoot" 1 ∉ batch := by
  constructor
  · intro hprogresses
    have hrun := eq_some_getD (s := alone (oneRow "whatsapp"))
      (o := chatwootOnly.drainers.machine.run (alone (oneRow "whatsapp")) strayPoll)
      (by decide +kernel)
    have hbatches : chatwootOnly.batches (alone (oneRow "whatsapp")) strayPoll =
        [[pendingRow 1 "whatsapp" 0]] := by decide +kernel
    have hserved := (advances_iff (by decide) hrun (by decide +kernel)).1 hprogresses.advances
    rw [hbatches] at hserved
    obtain ⟨row, hrow, -, hserves⟩ :=
      hserved _ (List.mem_singleton_self _) _ (List.mem_singleton_self _)
    rw [List.mem_singleton.1 hrow] at hserves
    revert hserves
    decide +kernel
  · intro moves c hquiet hrun batch hbatch hmem
    have hstray : pendingRow 50 "chatwoot" 1 ∈ waiting 0 fiftyStrays.outbox :=
      starved_of_unserved (by decide +kernel) (by decide +kernel) (by decide +kernel) hquiet hrun
        batch hbatch _ hmem
    exact absurd (mem_waiting.1 hstray).2.2 (by decide)

end Example

end OutboxDrainer

end Iara.Workers
