import Iara.Lib.Retry
import Iara.Workers.SoloDrainer

/-!
# The retries of an outbox row

One drainer, undisturbed, executes a row at most `maxRetries` times, waits out
the back-off of each failure and dead-letters the row on the last one.  Each row
of the outbox is a task that is retried: its count of retries and its schedule
are the stage of the task, and what the drainer does with it is its history.
-/

namespace Iara.Workers

open Iara.Lib Iara.Persistence Iara.Provider Iara.Lib.Retry

namespace OutboxDrainer

/-! ## The claim -/

/-- What a move does with the row of a key. -/
def attemptsOn (drainer : OutboxDrainer) (k : Uuid × String) (c : DrainConfig) :
    DrainMove → List Attempt
  | .party i a =>
      match c.parties[i]?, a with
      | some .sleeping, .fetch =>
          if (drainer.fetched c.shared).any fun r => r.key = k then [.fetched c.shared.now] else []
      | some (.draining row _), .deadLetter _ =>
          if row.key = k then [.shelved c.shared.now] else []
      | some (.draining row _), .execute exchange =>
          match drainer.adapterOf row with
          | none => []
          | some adapter =>
              if row.key = k then
                [.executed (execution adapter exchange row).result.isOk c.shared.now]
              else []
      | _, _ => []
  | .environment _ => []

def history (drainer : OutboxDrainer) (start : DrainConfig) (moves : List DrainMove)
    (k : Uuid × String) : List Attempt :=
  drainer.drainers.machine.emitted (drainer.attemptsOn k) start moves

def statusOf (c : DrainConfig) (k : Uuid × String) : Option CommandStatus :=
  (c.shared.outbox.find k).map OutboxRow.status

/-- The adapter has raised, and the handler of the exception is still to commit. -/
def recording (c : DrainConfig) (k : Uuid × String) : Bool :=
  c.parties.any fun l => held k l = some false

/-- The row of key `k` at the end of a run, against its history in the run. -/
structure RetryAccounting (drainer : OutboxDrainer) (start : DrainConfig) (moves : List DrainMove)
    (c : DrainConfig) (k : Uuid × String) : Prop where
  executions_le : executions (drainer.history start moves k) ≤ drainer.maxRetries
  retryCount : ∀ r, c.shared.outbox.find k = some r → r.status = .pending →
    r.retryCount + (if recording c k then 1 else 0) = failures (drainer.history start moves k)
  backoff : ∀ before time after, drainer.history start moves k = before ++ .fetched time :: after →
    ∀ (i failedAt : Nat), (failureTimes before)[i]? = some failedAt →
      i + 1 < drainer.maxRetries ∧ failedAt + timedelta (30 * 2 ^ i) ≤ time
  deadLettered : recording c k = false →
    (statusOf c k = some .deadLettered ↔
      if drainer.maxRetries = 0 then processings (drainer.history start moves k) ≠ 0
      else failures (drainer.history start moves k) = drainer.maxRetries)
  finished : ∀ earlier later c₁, moves = earlier ++ later →
    drainer.drainers.machine.run start earlier = some c₁ →
    statusOf c₁ k = some .sent ∨ statusOf c₁ k = some .deadLettered →
      executions (drainer.history c₁ later k) = 0

/-- No session fails, and commands are told apart by their ids. -/
def orderly (c : DrainConfig) (move : DrainMove) : Bool :=
  undisturbed move && bringsOwnId c.shared.outbox move

/-! ## Rows as tasks -/

/-- After its failure number `i`, counted from zero, a row rests for the `i`-th
back-off. -/
def policy (drainer : OutboxDrainer) : Policy where
  limit := drainer.maxRetries
  delay i := timedelta (30 * 2 ^ i)

def stageOf (hand : Option Bool) (r : OutboxRow) : Stage :=
  match r.status, hand with
  | .pending, none => .waiting r.retryCount r.scheduledAt
  | .pending, some true => .returned r.retryCount
  | .pending, some false => .raised r.retryCount
  | .deadLettered, _ => .dead
  | _, _ => .done

def stage (outbox : Outbox) (l : DrainPhase) (k : Uuid × String) : Stage :=
  (outbox.find k).elim .absent (stageOf (held k l))

section Steps

variable {drainer : OutboxDrainer} {s t : DrainShared} {l l' : DrainPhase} {move : DrainMove}
  {k : Uuid × String} {log : List Attempt}

theorem stage_eq {r : OutboxRow} (hfind : s.outbox.find k = some r) :
    stage s.outbox l k = stageOf (held k l) r := by
  unfold stage
  rw [hfind, Option.elim_some]

theorem stage_congr {outbox outbox' : Outbox} (hfind : outbox'.find k = outbox.find k)
    (hheld : held k l' = held k l) : stage outbox' l' k = stage outbox l k := by
  unfold stage
  rw [hfind, hheld]

theorem held_nextCommand (rest : List OutboxRow) (k : Uuid × String) :
    held k (nextCommand rest) = none :=
  held_of_inHand_eq_none (inHand_nextCommand rest) k

theorem stageOf_waiting {r : OutboxRow} (h : r.status = .pending) :
    stageOf none r = .waiting r.retryCount r.scheduledAt := by
  simp only [stageOf, h]

theorem stageOf_returned {r : OutboxRow} (h : r.status = .pending) :
    stageOf (some true) r = .returned r.retryCount := by
  simp only [stageOf, h]

theorem stageOf_raised {r : OutboxRow} (h : r.status = .pending) :
    stageOf (some false) r = .raised r.retryCount := by
  simp only [stageOf, h]

/-- The outcome of a row in hand is no other row's business. -/
theorem stage_settled_of_ne {row : OutboxRow} {rest : List OutboxRow} {outbox' : Outbox}
    (hc : Current drainer s l) (hrows : l.rows = row :: rest)
    (hsettling : Settling s.now row.commandId s.outbox outbox') (hheld : held k l = none)
    (hne : row.key ≠ k) : stage outbox' (nextCommand rest) k = stage s.outbox l k := by
  apply stage_congr
  · have hself := hc.mem_identities (by rw [hrows]; exact List.mem_cons_self)
    obtain ⟨f, hf, -, -⟩ := hsettling
    rw [OutboxRepository.find_updateCommand hc.ids hself, if_neg hne.symm]
  · rw [held_nextCommand, hheld]

theorem task_fetched (log : List Attempt) (k : Uuid × String) :
    drainer.policy.Step s.now ⟨log, stage s.outbox .sleeping k⟩
      ⟨log ++ drainer.attemptsOn k ⟨s, [.sleeping]⟩ (.party 0 .fetch),
        stage s.outbox (nextCommand (drainer.fetched s)) k⟩ := by
  have hstage : stage s.outbox (nextCommand (drainer.fetched s)) k = stage s.outbox .sleeping k :=
    stage_congr rfl (held_nextCommand _ k)
  rw [hstage]
  by_cases hk : (drainer.fetched s).any (fun r => r.key = k) = true
  · have hlog : drainer.attemptsOn k ⟨s, [.sleeping]⟩ (.party 0 .fetch) = [.fetched s.now] :=
      if_pos hk
    obtain ⟨r, hr, hkey⟩ := List.any_eq_true.1 hk
    obtain ⟨hmem, hpending, hdue⟩ := mem_fetched hr
    have hfind : s.outbox.find k = some r :=
      Table.find_eq_some_iff.2 ⟨hmem, of_decide_eq_true hkey⟩
    rw [hlog, stage_eq hfind, held_of_inHand_eq_none rfl, stageOf_waiting hpending]
    exact .fetched hdue
  · have hlog : drainer.attemptsOn k ⟨s, [.sleeping]⟩ (.party 0 .fetch) = [] := if_neg hk
    rw [hlog, List.append_nil]
    exact .stays

theorem task_deadLettered {row : OutboxRow} {rest : List OutboxRow}
    (hexhausted : drainer.exhausted row = true) (hc : Current drainer s (.draining row rest)) :
    drainer.policy.Step s.now ⟨log, stage s.outbox (.draining row rest) k⟩
      ⟨log ++ drainer.attemptsOn k ⟨s, [.draining row rest]⟩ (.party 0 (.deadLetter .commits)),
        stage (OutboxRepository.markDeadLettered row.commandId s.outbox) (nextCommand rest) k⟩ := by
  have hrow : row ∈ (DrainPhase.draining row rest).rows := List.mem_cons_self
  have hheld : held k (.draining row rest) = none := held_of_inHand_eq_none rfl k
  by_cases hk : row.key = k
  · have hlog : drainer.attemptsOn k ⟨s, [.draining row rest]⟩ (.party 0 (.deadLetter .commits)) =
        [.shelved s.now] := if_pos hk
    have hfind := hc.copies row hrow
    rw [hk] at hfind
    have hafter := OutboxRepository.find_markDeadLettered hfind
    rw [hlog, stage_eq hfind, hheld, stageOf_waiting (hc.pending row hrow)]
    unfold stage
    rw [hafter]
    exact .shelved (of_decide_eq_true hexhausted)
  · have hlog : drainer.attemptsOn k ⟨s, [.draining row rest]⟩ (.party 0 (.deadLetter .commits)) =
        [] := if_neg hk
    have hsettling := settling_markDeadLettered s.now row.commandId s.outbox
    rw [hlog, List.append_nil, stage_settled_of_ne hc rfl hsettling hheld hk]
    exact .stays

theorem task_skipped {row : OutboxRow} {rest : List OutboxRow} {exchange : Exchange}
    (hadapter : drainer.adapterOf row = none) :
    drainer.policy.Step s.now ⟨log, stage s.outbox (.draining row rest) k⟩
      ⟨log ++ drainer.attemptsOn k ⟨s, [.draining row rest]⟩ (.party 0 (.execute exchange)),
        stage s.outbox (nextCommand rest) k⟩ := by
  have hlog :
      drainer.attemptsOn k ⟨s, [.draining row rest]⟩ (.party 0 (.execute exchange)) = [] := by
    simp only [attemptsOn, List.getElem?_cons_zero, hadapter]
  have hstage : stage s.outbox (nextCommand rest) k = stage s.outbox (.draining row rest) k :=
    stage_congr rfl (held_nextCommand rest k)
  rw [hlog, List.append_nil, hstage]
  exact .stays

theorem task_executed {row : OutboxRow} {rest : List OutboxRow} {exchange : Exchange}
    {adapter : ProviderAdapter} (hexhausted : drainer.exhausted row = false)
    (hadapter : drainer.adapterOf row = some adapter)
    (hc : Current drainer s (.draining row rest)) :
    drainer.policy.Step s.now ⟨log, stage s.outbox (.draining row rest) k⟩
      ⟨log ++ drainer.attemptsOn k ⟨s, [.draining row rest]⟩ (.party 0 (.execute exchange)),
        stage s.outbox (if (execution adapter exchange row).result.isOk then .executed row rest
          else .raised row rest) k⟩ := by
  have hrow : row ∈ (DrainPhase.draining row rest).rows := List.mem_cons_self
  have hlimit : row.retryCount < drainer.maxRetries := by
    simpa [OutboxDrainer.exhausted] using hexhausted
  have hlog : drainer.attemptsOn k ⟨s, [.draining row rest]⟩ (.party 0 (.execute exchange)) =
      if row.key = k then [.executed (execution adapter exchange row).result.isOk s.now]
      else [] := by
    simp only [attemptsOn, List.getElem?_cons_zero, hadapter]
  by_cases hk : row.key = k
  · have hfind := hc.copies row hrow
    rw [hk] at hfind
    have hpending := hc.pending row hrow
    rw [hlog, if_pos hk, stage_eq hfind, stage_eq hfind, held_of_inHand_eq_none rfl,
      stageOf_waiting hpending]
    cases (execution adapter exchange row).result.isOk with
    | true =>
        have hheld : held k (.executed row rest) = some true := if_pos hk
        simp only [if_true, hheld, stageOf_returned hpending]
        exact .returns hlimit
    | false =>
        have hheld : held k (.raised row rest) = some false := if_pos hk
        simp only [Bool.false_eq_true, if_false, hheld, stageOf_raised hpending]
        exact .raises hlimit (hc.due row hrow)
  · have hstage : stage s.outbox (if (execution adapter exchange row).result.isOk
        then .executed row rest else .raised row rest) k =
        stage s.outbox (.draining row rest) k := by
      apply stage_congr rfl
      split <;> exact if_neg hk
    rw [hlog, if_neg hk, List.append_nil, hstage]
    exact .stays

theorem task_sent {row : OutboxRow} {rest : List OutboxRow}
    (hc : Current drainer s (.executed row rest)) :
    drainer.policy.Step s.now ⟨log, stage s.outbox (.executed row rest) k⟩
      ⟨log, stage (OutboxRepository.markSent row.commandId s.outbox) (nextCommand rest) k⟩ := by
  have hrow : row ∈ (DrainPhase.executed row rest).rows := List.mem_cons_self
  by_cases hk : row.key = k
  · have hfind := hc.copies row hrow
    rw [hk] at hfind
    have hafter := OutboxRepository.find_markSent hfind
    have hheld : held k (.executed row rest) = some true := if_pos hk
    rw [stage_eq hfind, hheld, stageOf_returned (hc.pending row hrow)]
    unfold stage
    rw [hafter]
    exact .closed
  · have hsettling := settling_markSent s.now row.commandId s.outbox
    rw [stage_settled_of_ne hc rfl hsettling (if_neg hk) hk]
    exact .stays

theorem task_recorded {row : OutboxRow} {rest : List OutboxRow}
    (hc : Current drainer s (.raised row rest)) :
    drainer.policy.Step s.now ⟨log, stage s.outbox (.raised row rest) k⟩
      ⟨log, stage (drainer.recordFailure s.now row s.outbox) (nextCommand rest) k⟩ := by
  have hrow : row ∈ (DrainPhase.raised row rest).rows := List.mem_cons_self
  by_cases hk : row.key = k
  · have hfind := hc.copies row hrow
    rw [hk] at hfind
    have hheld : held k (.raised row rest) = some false := if_pos hk
    rw [stage_eq hfind, hheld, stageOf_raised (hc.pending row hrow)]
    unfold OutboxDrainer.recordFailure
    cases hlast : drainer.lastAttempt row with
    | true =>
        have hafter := OutboxRepository.find_markDeadLettered hfind
        simp only [if_true, stage, hafter, Option.elim_some]
        exact .abandoned (of_decide_eq_true hlast)
    | false =>
        have hafter : (OutboxRepository.markFailedForRetry s.now (backoff row) row.commandId
            s.outbox).find k = _ := OutboxRepository.find_markFailedForRetry hfind
        have hlimit : row.retryCount + 1 < drainer.maxRetries := by
          simpa [OutboxDrainer.lastAttempt] using hlast
        simp only [Bool.false_eq_true, if_false, stage, hafter, Option.elim_some, held_nextCommand]
        exact .postponed hlimit
  · have hsettling := settling_recordFailure drainer s.now row s.outbox
    rw [stage_settled_of_ne hc rfl hsettling (if_neg hk) hk]
    exact .stays

/-- A row that is not in the outbox is in nobody's hands. -/
theorem held_of_find_eq_none (hc : Current drainer s l) (hfind : s.outbox.find k = none) :
    held k l = none := by
  unfold held
  cases hhand : l.inHand with
  | none => rfl
  | some p =>
      have hne : p.1.key ≠ k := by
        intro heq
        have hcopy := hc.copies p.1 (mem_rows_of_inHand hhand)
        rw [heq, hfind] at hcopy
        cases hcopy
      exact if_neg hne

theorem task_enqueued (hc : Current drainer s l) (command : ProviderCommand) :
    drainer.policy.Step s.now ⟨log, stage s.outbox l k⟩
      ⟨log, stage (OutboxRepository.enqueue s.now command s.outbox).1 l k⟩ := by
  have hafter := OutboxRepository.find_enqueue s.now command s.outbox k
  cases hfind : s.outbox.find k with
  | some r =>
      rw [hfind, Option.some_or] at hafter
      rw [stage_congr (hafter.trans hfind.symm) rfl]
      exact .stays
  | none =>
      rw [hfind, Option.none_or] at hafter
      by_cases hk : (OutboxRepository.row s.now command).key = k
      · rw [if_pos hk] at hafter
        unfold stage
        rw [hafter, hfind, held_of_find_eq_none hc hfind]
        exact .appears
      · rw [if_neg hk] at hafter
        rw [stage_congr (hafter.trans hfind.symm) rfl]
        exact .stays

/-- Every undisturbed step of the drainer is, for each row, a step of a task. -/
theorem SoloStep.task (hstep : SoloStep drainer s l move l' t) (hc : Current drainer s l)
    (log : List Attempt) (k : Uuid × String) :
    drainer.policy.Step s.now ⟨log, stage s.outbox l k⟩
      ⟨log ++ drainer.attemptsOn k ⟨s, [l]⟩ move, stage t.outbox l' k⟩ := by
  cases hstep with
  | fetched => exact task_fetched log k
  | deadLettered row rest hexhausted => exact task_deadLettered hexhausted hc
  | skipped row rest exchange hexhausted hadapter => exact task_skipped hadapter
  | executed row rest exchange adapter hexhausted hadapter hl' =>
      rw [hl']
      exact task_executed hexhausted hadapter hc
  | sent row rest =>
      have hlog : drainer.attemptsOn k ⟨s, [.executed row rest]⟩
          (.party 0 (.markSent .commits)) = [] := rfl
      rw [hlog, List.append_nil]
      exact task_sent hc
  | recorded row rest =>
      have hlog : drainer.attemptsOn k ⟨s, [.raised row rest]⟩
          (.party 0 (.recordFailure .commits)) = [] := rfl
      rw [hlog, List.append_nil]
      exact task_recorded hc
  | ticked l elapsed =>
      have hlog : drainer.attemptsOn k ⟨s, [l]⟩ (.environment (.tick elapsed)) = [] := rfl
      rw [hlog, List.append_nil]
      exact .stays
  | enqueued l command =>
      have hlog : drainer.attemptsOn k ⟨s, [l]⟩ (.environment (.enqueue command)) = [] := rfl
      rw [hlog, List.append_nil]
      exact task_enqueued hc command

/-! ## Runs -/

/-- What holds all along a run of one drainer. -/
def Accounted (drainer : OutboxDrainer) (k : Uuid × String) (c : DrainConfig)
    (log : List Attempt) : Prop :=
  ∃ s l, c = ⟨s, [l]⟩ ∧ Current drainer s l ∧
    drainer.policy.Sound s.now ⟨log, stage s.outbox l k⟩

theorem SoloStep.now_le (hstep : SoloStep drainer s l move l' t) : s.now ≤ t.now := by
  cases hstep with
  | ticked l elapsed => exact Nat.le_add_right _ _
  | _ => exact Nat.le_refl _

theorem accounted_step {c c' : DrainConfig} (h : Accounted drainer k c log)
    (horderly : orderly c move = true) (hstep : drainer.drainers.machine.step c move = some c') :
    Accounted drainer k c' (log ++ drainer.attemptsOn k c move) := by
  obtain ⟨s, l, rfl, hcurrent, hsound⟩ := h
  obtain ⟨hquiet, hid⟩ := (Bool.and_eq_true _ _).mp horderly
  obtain ⟨l', t, rfl, hsolo⟩ := soloStep_of_step hquiet hstep
  have hnext := hsound.step (hsolo.task hcurrent log k)
  exact ⟨t, l', rfl, hsolo.current hid hcurrent, hnext.mono hsolo.now_le⟩

/-- The rows that a drainer starts from are as they were put in. -/
def Untried (outbox : Outbox) : Prop :=
  ∀ r ∈ outbox.rows, r.status = .pending ∧ r.retryCount = 0

theorem accounted_alone (hids : OutboxRepository.DistinctIds s.outbox)
    (huntried : Untried s.outbox) (k : Uuid × String) : Accounted drainer k (alone s) [] := by
  refine ⟨s, .sleeping, rfl, current_sleeping hids, ?_⟩
  cases hfind : s.outbox.find k with
  | none =>
      have hstage : stage s.outbox .sleeping k = .absent := by
        unfold stage
        rw [hfind, Option.elim_none]
      rw [hstage]
      exact Policy.sound_absent
  | some r =>
      obtain ⟨hpending, hzero⟩ := huntried r (Table.find_eq_some_iff.1 hfind).1
      rw [stage_eq hfind, held_of_inHand_eq_none rfl, stageOf_waiting hpending, hzero]
      exact Policy.sound_waiting

theorem accounted_of_run {c c' : DrainConfig} {moves : List DrainMove}
    (h : Accounted drainer k c log)
    (hall : drainer.drainers.machine.AllSteps (fun c move => orderly c move = true) c moves)
    (hrun : drainer.drainers.machine.run c moves = some c') :
    Accounted drainer k c' (log ++ drainer.history c moves k) :=
  Machine.emitted_invariant (fun _ _ _ _ hI hC hstep => accounted_step hI hC hstep) h hall hrun

/-! ## What the accounts say -/

theorem recording_eq (s : DrainShared) (l : DrainPhase) (k : Uuid × String) :
    recording ⟨s, [l]⟩ k = decide (held k l = some false) := by
  unfold recording
  rw [List.any_cons, List.any_nil, Bool.or_false]

theorem retryCount_of_counted {r : OutboxRow} (hfind : s.outbox.find k = some r)
    (hpending : r.status = .pending)
    (hcounted : drainer.policy.Counted ⟨log, stage s.outbox l k⟩) :
    r.retryCount + (if recording ⟨s, [l]⟩ k then 1 else 0) = failures log := by
  rw [stage_eq hfind] at hcounted
  rw [recording_eq]
  cases hheld : held k l with
  | none =>
      rw [hheld, stageOf_waiting hpending] at hcounted
      exact hcounted.2.1.symm
  | some returned =>
      cases returned with
      | true =>
          rw [hheld, stageOf_returned hpending] at hcounted
          exact hcounted.2.1.symm
      | false =>
          rw [hheld, stageOf_raised hpending] at hcounted
          exact hcounted.2.1.symm

theorem stageOf_eq_dead_iff {hand : Option Bool} {r : OutboxRow} :
    stageOf hand r = .dead ↔ r.status = .deadLettered := by
  unfold stageOf
  cases r.status with
  | pending =>
      cases hand with
      | none => simp
      | some returned => cases returned <;> simp
  | _ => simp

theorem stage_eq_dead_iff :
    stage s.outbox l k = .dead ↔ statusOf ⟨s, [l]⟩ k = some .deadLettered := by
  unfold stage statusOf
  cases s.outbox.find k with
  | none => simp
  | some r => simp [stageOf_eq_dead_iff]

theorem stage_of_sent (h : statusOf ⟨s, [l]⟩ k = some .sent) : stage s.outbox l k = .done := by
  obtain ⟨r, hfind, hsent⟩ := Option.map_eq_some_iff.1 h
  rw [stage_eq hfind]
  simp only [stageOf, hsent]

theorem stage_ne_raised (hrecording : recording ⟨s, [l]⟩ k = false) (n : Nat) :
    stage s.outbox l k ≠ .raised n := by
  rw [recording_eq, decide_eq_false_iff_not] at hrecording
  unfold stage
  cases s.outbox.find k with
  | none => simp
  | some r =>
      rw [Option.elim_some]
      unfold stageOf
      cases r.status with
      | pending =>
          cases hheld : held k l with
          | none => simp
          | some returned =>
              cases returned with
              | true => simp
              | false => exact absurd hheld hrecording
      | _ => simp

/-- Nothing more happens to a row that is done or dead. -/
theorem history_of_finished {c c' : DrainConfig} {moves : List DrainMove}
    (hcurrent : Current drainer s l) (hc : c = ⟨s, [l]⟩)
    (hfinished : stage s.outbox l k = .done ∨ stage s.outbox l k = .dead)
    (hall : drainer.drainers.machine.AllSteps (fun c move => orderly c move = true) c moves)
    (hrun : drainer.drainers.machine.run c moves = some c') : drainer.history c moves k = [] := by
  let I : DrainConfig → List Attempt → Prop := fun c log =>
    log = [] ∧ ∃ s l, c = ⟨s, [l]⟩ ∧ Current drainer s l ∧
      (stage s.outbox l k = .done ∨ stage s.outbox l k = .dead)
  have hend : I c' ([] ++ drainer.history c moves k) := by
    refine Machine.emitted_invariant (I := I) ?_ ⟨rfl, s, l, hc, hcurrent, hfinished⟩ hall hrun
    rintro d log move d' ⟨rfl, s, l, rfl, hcurrent, hfinished⟩ horderly hstep
    obtain ⟨hquiet, hid⟩ := (Bool.and_eq_true _ _).mp horderly
    obtain ⟨l', t, rfl, hsolo⟩ := soloStep_of_step hquiet hstep
    have hsame := (hsolo.task hcurrent [] k).of_finished hfinished
    obtain ⟨hlog, hstage⟩ := Account.mk.inj hsame
    refine ⟨hlog, t, l', rfl, hsolo.current hid hcurrent, ?_⟩
    rw [hstage]
    exact hfinished
  exact hend.1

/-- One drainer, no failing session and commands told apart by their ids: the
retries of every row are accounted for, whatever the adapters answer. -/
theorem retryAccounting (drainer : OutboxDrainer) (s : DrainShared)
    (hids : OutboxRepository.DistinctIds s.outbox) (huntried : Untried s.outbox)
    (moves : List DrainMove)
    (hall : drainer.drainers.machine.AllSteps (fun c move => orderly c move = true)
      (alone s) moves)
    (c : DrainConfig) (hrun : drainer.drainers.machine.run (alone s) moves = some c)
    (k : Uuid × String) : RetryAccounting drainer (alone s) moves c k := by
  have hstart : Accounted drainer k (alone s) [] := accounted_alone hids huntried k
  obtain ⟨t, l, rfl, hcurrent, hsound⟩ := accounted_of_run hstart hall hrun
  rw [List.nil_append] at hsound
  constructor
  · exact hsound.executions_le
  · intro r hfind hpending
    exact retryCount_of_counted hfind hpending hsound.counted
  · intro before time after hlog
    exact hsound.obeys before (.fetched time) after hlog
  · intro hrecording
    rw [← stage_eq_dead_iff]
    exact hsound.dead_iff (stage_ne_raised hrecording)
  · intro earlier later c₁ hmoves hearlier hstatus
    subst hmoves
    obtain ⟨t₁, l₁, rfl, hcurrent₁, -⟩ := accounted_of_run hstart hall.append_left hearlier
    have hfinished : stage t₁.outbox l₁ k = .done ∨ stage t₁.outbox l₁ k = .dead := by
      rcases hstatus with hsent | hdead
      · exact Or.inl (stage_of_sent hsent)
      · exact Or.inr (stage_eq_dead_iff.2 hdead)
    rw [Machine.run_append, hearlier] at hrun
    rw [history_of_finished hcurrent₁ rfl hfinished (hall.after_run hearlier) hrun]
    rfl

end Steps

/-! ## A run -/

section Example

/-- Two attempts, and a provider that refuses both. -/
def refused : OutboxDrainer where
  adapters := [("chatwoot", fun _ _ _ => { result := .error ⟨.provider, "refused"⟩ })]
  maxRetries := 2

def refusedCommand : ProviderCommand where
  commandId := "command"
  idempotencyKey := "refused"
  tenantId := 1
  provider := "chatwoot"
  accountIdRef := ""
  capabilityName := "send_message"
  parameters := []
  correlationId := "correlation"

def anyExchange : Exchange where
  posts := fun _ => { applied := false, answer := .retryable }

/-- One poll, and the attempt that fails. -/
def failedPoll : List DrainMove :=
  [.party 0 .fetch, .party 0 (.execute anyExchange), .party 0 (.recordFailure .commits)]

def twoPolls : List DrainMove :=
  .environment (.enqueue refusedCommand) :: failedPoll ++
    .environment (.tick (timedelta 30)) :: failedPoll

def afterTwoPolls : DrainConfig :=
  (refused.drainers.machine.run (alone { outbox := .empty }) twoPolls).getD
    (alone { outbox := .empty })

theorem twoPolls_accounted :
    RetryAccounting refused (alone { outbox := .empty }) twoPolls afterTwoPolls (1, "refused") := by
  apply retryAccounting refused { outbox := .empty } List.nodup_nil
  · intro r hr
    cases hr
  · apply Machine.allSteps_of_trace
    have hall : (refused.drainers.machine.trace (alone { outbox := .empty }) twoPolls).all
        (fun p => orderly p.1 p.2) = true := by decide +kernel
    exact List.all_eq_true.1 hall
  · exact eq_some_getD (by decide +kernel)

end Example

end OutboxDrainer

end Iara.Workers
