import Iara.Workers.DrainSteps

/-!
# One drainer, undisturbed

Runs of a single drainer none of whose sessions fails, while time passes and new
commands come in.  `SoloStep` lists the steps; `Current` says that the rows in
the drainer's hands are the rows of the outbox.
-/

namespace Iara.Workers

open Iara.Lib Iara.Persistence Iara.Provider

namespace OutboxDrainer

/-! ## The steps -/

/-- The rows that a poll fetches. -/
def fetched (drainer : OutboxDrainer) (s : DrainShared) : List OutboxRow :=
  if drainer.adapters.isEmpty then []
  else OutboxRepository.fetchPendingAll drainer.batchSize s.now s.outbox

/-- One drainer about to poll. -/
def alone (s : DrainShared) : DrainConfig := ⟨s, [.sleeping]⟩

/-- Every session commits, the drainer does not end, and no other one starts. -/
def undisturbed : DrainMove → Bool
  | .party _ (.deadLetter session) => session = .commits
  | .party _ (.markSent session) => session = .commits
  | .party _ (.recordFailure session) => session = .commits
  | .party _ .crash => false
  | .environment .start => false
  | _ => true

inductive SoloStep (drainer : OutboxDrainer) (s : DrainShared) :
    DrainPhase → DrainMove → DrainPhase → DrainShared → Prop
  | fetched : SoloStep drainer s .sleeping (.party 0 .fetch) (nextCommand (drainer.fetched s)) s
  | deadLettered (row rest) (hexhausted : drainer.exhausted row = true) :
      SoloStep drainer s (.draining row rest) (.party 0 (.deadLetter .commits)) (nextCommand rest)
        { s with outbox := OutboxRepository.markDeadLettered row.commandId s.outbox }
  | skipped (row rest exchange) (hexhausted : drainer.exhausted row = false)
      (hadapter : drainer.adapterOf row = none) :
      SoloStep drainer s (.draining row rest) (.party 0 (.execute exchange)) (nextCommand rest) s
  | executed {l'} (row rest exchange adapter) (hexhausted : drainer.exhausted row = false)
      (hadapter : drainer.adapterOf row = some adapter)
      (hl' : l' = if (execution adapter exchange row).result.isOk then .executed row rest
        else .raised row rest) :
      SoloStep drainer s (.draining row rest) (.party 0 (.execute exchange)) l'
        { s with
          applied := s.applied ++
            (execution adapter exchange row).applied.map fun call => (row.key, call) }
  | sent (row rest) :
      SoloStep drainer s (.executed row rest) (.party 0 (.markSent .commits)) (nextCommand rest)
        { s with outbox := OutboxRepository.markSent row.commandId s.outbox }
  | recorded (row rest) :
      SoloStep drainer s (.raised row rest) (.party 0 (.recordFailure .commits)) (nextCommand rest)
        { s with outbox := drainer.recordFailure s.now row s.outbox }
  | ticked (l elapsed) :
      SoloStep drainer s l (.environment (.tick elapsed)) l { s with now := s.now + elapsed }
  | enqueued (l command) :
      SoloStep drainer s l (.environment (.enqueue command)) l
        { s with outbox := (OutboxRepository.enqueue s.now command s.outbox).1 }

variable {drainer : OutboxDrainer} {s t : DrainShared} {l l' : DrainPhase} {move : DrainMove}

theorem soloStep_of_fetch (hact : drainer.act s .sleeping .fetch = some (l', t)) :
    SoloStep drainer s .sleeping (.party 0 .fetch) l' t := by
  simp only [act] at hact
  split at hact
  next hempty =>
    cases hact
    have hnone : drainer.fetched s = [] := if_pos hempty
    have hstep : SoloStep drainer s .sleeping (.party 0 .fetch)
        (nextCommand (drainer.fetched s)) s := .fetched
    rw [hnone] at hstep
    exact hstep
  next hempty =>
    cases hact
    have hsome : drainer.fetched s = _ := if_neg hempty
    rw [← hsome]
    exact .fetched

theorem soloStep_of_execute {row : OutboxRow} {rest : List OutboxRow} {exchange : Exchange}
    (hact : drainer.act s (.draining row rest) (.execute exchange) = some (l', t)) :
    SoloStep drainer s (.draining row rest) (.party 0 (.execute exchange)) l' t := by
  simp only [act] at hact
  split at hact
  next => cases hact
  next hexhausted =>
    have hfalse : drainer.exhausted row = false := by simpa using hexhausted
    cases hadapter : drainer.adapterOf row with
    | none =>
        simp only [hadapter, Option.some.injEq, Prod.mk.injEq] at hact
        obtain ⟨rfl, rfl⟩ := hact
        exact .skipped row rest exchange hfalse hadapter
    | some adapter =>
        simp only [hadapter] at hact
        cases hresult : (execution adapter exchange row).result with
        | ok result =>
            simp only [hresult, Option.some.injEq, Prod.mk.injEq] at hact
            obtain ⟨rfl, rfl⟩ := hact
            exact .executed row rest exchange adapter hfalse hadapter (by rw [hresult]; rfl)
        | error exception =>
            simp only [hresult, Option.some.injEq, Prod.mk.injEq] at hact
            obtain ⟨rfl, rfl⟩ := hact
            exact .executed row rest exchange adapter hfalse hadapter (by rw [hresult]; rfl)

/-- An undisturbed act of the drainer is one of the listed steps. -/
theorem soloStep_of_act {a : DrainStep} (hquiet : undisturbed (.party 0 a) = true)
    (hact : drainer.act s l a = some (l', t)) : SoloStep drainer s l (.party 0 a) l' t := by
  cases l with
  | sleeping =>
      cases a with
      | fetch => exact soloStep_of_fetch hact
      | crash => cases hquiet
      | _ => cases hact
  | draining row rest =>
      cases a with
      | deadLetter session =>
          have hcommits : session = .commits := by simpa [undisturbed] using hquiet
          subst hcommits
          simp only [act] at hact
          split at hact
          next hexhausted =>
            cases hact
            exact .deadLettered row rest hexhausted
          next => cases hact
      | execute exchange => exact soloStep_of_execute hact
      | crash => cases hquiet
      | _ => cases hact
  | executed row rest =>
      cases a with
      | markSent session =>
          have hcommits : session = .commits := by simpa [undisturbed] using hquiet
          subst hcommits
          cases hact
          exact .sent row rest
      | crash => cases hquiet
      | _ => cases hact
  | raised row rest =>
      cases a with
      | recordFailure session =>
          have hcommits : session = .commits := by simpa [undisturbed] using hquiet
          subst hcommits
          cases hact
          exact .recorded row rest
      | crash => cases hquiet
      | _ => cases hact
  | stopped => cases hact

/-- An undisturbed move of one drainer leaves one drainer. -/
theorem soloStep_of_step {c : DrainConfig} (hquiet : undisturbed move = true)
    (hstep : drainer.drainers.machine.step ⟨s, [l]⟩ move = some c) :
    ∃ l' t, c = ⟨t, [l']⟩ ∧ SoloStep drainer s l move l' t := by
  cases move with
  | party i a =>
      obtain ⟨l₀, l', t, hi, hact, rfl⟩ := Interleaving.step_party hstep
      cases i with
      | zero =>
          have hl₀ : l = l₀ := by simpa using hi
          subst hl₀
          exact ⟨l', t, rfl, soloStep_of_act hquiet hact⟩
      | succ i => simp at hi
  | environment e =>
      obtain ⟨ls, t, henv, rfl⟩ := Interleaving.step_environment hstep
      cases e with
      | tick elapsed =>
          cases henv
          exact ⟨l, _, rfl, .ticked l elapsed⟩
      | enqueue command =>
          cases henv
          exact ⟨l, _, rfl, .enqueued l command⟩
      | start => cases hquiet

/-! ## What a poll fetches -/

theorem mem_fetched {r : OutboxRow} (h : r ∈ drainer.fetched s) :
    r ∈ s.outbox.rows ∧ r.status = .pending ∧ r.scheduledAt ≤ s.now := by
  unfold fetched at h
  split at h
  · cases h
  · exact OutboxRepository.mem_fetchPendingAll h

theorem nodup_fetched (drainer : OutboxDrainer) (s : DrainShared) :
    ((drainer.fetched s).map OutboxRow.key).Nodup := by
  unfold fetched
  split
  · exact List.nodup_nil
  · exact OutboxRepository.nodup_fetchPendingAll _ _ _

/-! ## What a drainer writes -/

/-- The row is out of the way of a poll at `now`. -/
def Settled (now : Nat) (r : OutboxRow) : Prop :=
  r.status = .sent ∨ r.status = .deadLettered ∨ r.status = .pending ∧ now < r.scheduledAt

/-- The statements that end an attempt settle the rows of a command. -/
inductive Settling (now : Nat) (commandId : String) (outbox : Outbox) : Outbox → Prop
  | update (f : OutboxRow → OutboxRow) (hf : ∀ r, (f r).key = r.key)
      (hid : ∀ r, (f r).commandId = r.commandId) (hsettled : ∀ r, Settled now (f r)) :
      Settling now commandId outbox (OutboxRepository.updateCommand commandId f hf outbox)

theorem settling_markSent (now : Nat) (commandId : String) (outbox : Outbox) :
    Settling now commandId outbox (OutboxRepository.markSent commandId outbox) := by
  refine .update OutboxRow.markSent (fun _ => rfl) (fun _ => rfl) ?_
  intro r
  exact Or.inl rfl

theorem settling_markDeadLettered (now : Nat) (commandId : String) (outbox : Outbox) :
    Settling now commandId outbox (OutboxRepository.markDeadLettered commandId outbox) := by
  refine .update OutboxRow.markDeadLettered (fun _ => rfl) (fun _ => rfl) ?_
  intro r
  exact Or.inr (Or.inl rfl)

theorem backoff_pos (row : OutboxRow) : 0 < timedelta (backoff row) := by
  have hpow : 0 < 2 ^ row.retryCount := Nat.two_pow_pos _
  unfold timedelta backoff
  omega

theorem settling_recordFailure (drainer : OutboxDrainer) (now : Nat) (row : OutboxRow)
    (outbox : Outbox) :
    Settling now row.commandId outbox (drainer.recordFailure now row outbox) := by
  unfold OutboxDrainer.recordFailure
  split
  · exact settling_markDeadLettered now row.commandId outbox
  · refine .update (OutboxRow.markFailedForRetry (now + timedelta (backoff row)))
      (fun _ => rfl) (fun _ => rfl) ?_
    intro r
    refine Or.inr (Or.inr ⟨rfl, ?_⟩)
    have hpos := backoff_pos row
    show now < now + timedelta (backoff row)
    omega

theorem Settling.identities {now : Nat} {commandId : String} {outbox outbox' : Outbox}
    (h : Settling now commandId outbox outbox') :
    OutboxRepository.identities outbox' = OutboxRepository.identities outbox := by
  obtain ⟨f, hf, hid, -⟩ := h
  exact OutboxRepository.identities_updateCommand hid outbox

/-- What a step does to the outbox. -/
theorem SoloStep.outbox (hstep : SoloStep drainer s l move l' t) :
    t.outbox = s.outbox ∨ (∃ commandId, Settling s.now commandId s.outbox t.outbox) ∨
      ∃ command, t.outbox = (OutboxRepository.enqueue s.now command s.outbox).1 := by
  cases hstep with
  | deadLettered row rest hexhausted =>
      exact Or.inr (Or.inl ⟨_, settling_markDeadLettered s.now row.commandId s.outbox⟩)
  | sent row rest => exact Or.inr (Or.inl ⟨_, settling_markSent s.now row.commandId s.outbox⟩)
  | recorded row rest =>
      exact Or.inr (Or.inl ⟨_, settling_recordFailure drainer s.now row s.outbox⟩)
  | enqueued l command => exact Or.inr (Or.inr ⟨command, rfl⟩)
  | _ => exact Or.inl rfl

/-! ## The rows in hand -/

/-- The rows in the drainer's hands are those of the outbox, pending and due; the
one that was executed had failures left. -/
structure Current (drainer : OutboxDrainer) (s : DrainShared) (l : DrainPhase) : Prop where
  ids : OutboxRepository.DistinctIds s.outbox
  copies : ∀ row ∈ l.rows, s.outbox.find row.key = some row
  pending : ∀ row ∈ l.rows, row.status = .pending
  due : ∀ row ∈ l.rows, row.scheduledAt ≤ s.now
  distinct : (l.rows.map OutboxRow.key).Nodup
  able : ∀ p, l.inHand = some p → drainer.exhausted p.1 = false

theorem current_sleeping (hids : OutboxRepository.DistinctIds s.outbox) :
    Current drainer s .sleeping where
  ids := hids
  copies := by simp [DrainPhase.rows]
  pending := by simp [DrainPhase.rows]
  due := by simp [DrainPhase.rows]
  distinct := List.nodup_nil
  able := by simp [DrainPhase.inHand]

/-- A command that comes in is in the outbox already or has an id of its own. -/
def bringsOwnId (outbox : Outbox) : DrainMove → Bool
  | .environment (.enqueue command) =>
      outbox.hasKey (command.tenantId, command.idempotencyKey) ||
        outbox.rows.all fun r => r.commandId != command.commandId
  | _ => true

theorem Current.mem_identities {row : OutboxRow} (h : Current drainer s l) (hrow : row ∈ l.rows) :
    (row.key, row.commandId) ∈ OutboxRepository.identities s.outbox :=
  List.mem_map.2 ⟨row, (Table.find_eq_some_iff.1 (h.copies row hrow)).1, rfl⟩

/-- The drainer goes on to the next row in hand. -/
theorem Current.next {row : OutboxRow} {rest : List OutboxRow} {outbox' : Outbox}
    (h : Current drainer s l) (hrows : l.rows = row :: rest)
    (hids : OutboxRepository.DistinctIds outbox')
    (hcopies : ∀ r ∈ rest, r.key ≠ row.key → outbox'.find r.key = s.outbox.find r.key) :
    Current drainer { s with outbox := outbox' } (nextCommand rest) := by
  have hdistinct := h.distinct
  rw [hrows, List.map_cons, List.nodup_cons] at hdistinct
  have hmem : ∀ r ∈ rest, r ∈ l.rows := by
    intro r hr
    rw [hrows]
    exact List.mem_cons_of_mem _ hr
  constructor
  · exact hids
  · rw [rows_nextCommand]
    intro r hr
    have hne : r.key ≠ row.key := by
      intro heq
      exact hdistinct.1 (heq ▸ List.mem_map_of_mem hr)
    exact (hcopies r hr hne).trans (h.copies r (hmem r hr))
  · rw [rows_nextCommand]
    exact fun r hr => h.pending r (hmem r hr)
  · rw [rows_nextCommand]
    exact fun r hr => h.due r (hmem r hr)
  · rw [rows_nextCommand]
    exact hdistinct.2
  · rw [inHand_nextCommand]
    intro p hp
    cases hp

/-- The next row in hand, once the outcome of this one is written. -/
theorem Current.settled {row : OutboxRow} {rest : List OutboxRow} {outbox' : Outbox}
    (h : Current drainer s l) (hrows : l.rows = row :: rest)
    (hsettling : Settling s.now row.commandId s.outbox outbox') :
    Current drainer { s with outbox := outbox' } (nextCommand rest) := by
  have hself := h.mem_identities (by rw [hrows]; exact List.mem_cons_self)
  apply h.next hrows
  · rw [OutboxRepository.distinctIds_iff, hsettling.identities, ← OutboxRepository.distinctIds_iff]
    exact h.ids
  · intro r _ hne
    obtain ⟨f, hf, -, -⟩ := hsettling
    rw [OutboxRepository.find_updateCommand h.ids hself, if_neg hne]

theorem SoloStep.current (hstep : SoloStep drainer s l move l' t)
    (hid : bringsOwnId s.outbox move = true) (h : Current drainer s l) : Current drainer t l' := by
  cases hstep with
  | fetched =>
      constructor
      · exact h.ids
      · rw [rows_nextCommand]
        exact fun r hr => Table.find_eq_some_iff.2 ⟨(mem_fetched hr).1, rfl⟩
      · rw [rows_nextCommand]
        exact fun r hr => (mem_fetched hr).2.1
      · rw [rows_nextCommand]
        exact fun r hr => (mem_fetched hr).2.2
      · rw [rows_nextCommand]
        exact nodup_fetched drainer s
      · rw [inHand_nextCommand]
        intro p hp
        cases hp
  | deadLettered row rest hexhausted =>
      exact h.settled rfl (settling_markDeadLettered s.now row.commandId s.outbox)
  | skipped row rest exchange hexhausted hadapter => exact h.next rfl h.ids fun _ _ _ => rfl
  | executed row rest exchange adapter hexhausted hadapter hl' =>
      rw [hl']
      split
      · refine ⟨h.ids, h.copies, h.pending, h.due, h.distinct, ?_⟩
        intro p hp
        cases hp
        exact hexhausted
      · refine ⟨h.ids, h.copies, h.pending, h.due, h.distinct, ?_⟩
        intro p hp
        cases hp
        exact hexhausted
  | sent row rest => exact h.settled rfl (settling_markSent s.now row.commandId s.outbox)
  | recorded row rest => exact h.settled rfl (settling_recordFailure drainer s.now row s.outbox)
  | ticked l elapsed =>
      refine ⟨h.ids, h.copies, h.pending, ?_, h.distinct, h.able⟩
      intro r hr
      exact Nat.le_add_right_of_le (h.due r hr)
  | enqueued l command =>
      simp only [bringsOwnId, Bool.or_eq_true, List.all_eq_true, bne_iff_ne] at hid
      refine ⟨h.ids.enqueue s.now hid, ?_, h.pending, h.due, h.distinct, h.able⟩
      intro r hr
      show (OutboxRepository.enqueue s.now command s.outbox).1.find r.key = some r
      rw [OutboxRepository.find_enqueue, h.copies r hr, Option.some_or]

end OutboxDrainer

end Iara.Workers
