import Iara.Lib.Custody
import Iara.Workers.DrainSteps

/-!
# One mutation per outbox row

A drained row is applied at most once, and a row that was sent does not become
pending again, in every run of any number of drainers in which a row is executed
by one drainer at a time and a mutation that took place is recorded.  Nothing in
the drainer sees to either: `fetch_pending_all` claims no rows, and the failure
handler puts a row back that was executed.

Each row is an item in custody: held from the call of the adapter to the session
that records its outcome.
-/

namespace Iara.Workers

open Iara.Lib Iara.Persistence Iara.Provider Iara.Lib.Custody

namespace OutboxDrainer

open OutboxRepository

/-! ## The claim -/

/-- How often the provider carried out the command of a row. -/
def timesApplied (s : DrainShared) (k : Uuid × String) : Nat :=
  (s.applied.filter fun p => p.1 = k).length

def HasStatus (c : DrainConfig) (k : Uuid × String) (status : CommandStatus) : Prop :=
  ∃ r ∈ c.shared.outbox.rows, r.key = k ∧ r.status = status

/-- At every point of a run, no row was applied twice, and none that was sent
before is pending. -/
def EffectivelyOnce (drainer : OutboxDrainer) (start : DrainConfig) (moves : List DrainMove) :
    Prop :=
  ∀ earlier later c c', earlier ++ later <+: moves →
    drainer.drainers.machine.run start earlier = some c →
    drainer.drainers.machine.run c later = some c' →
    ∀ k, timesApplied c'.shared k ≤ 1 ∧ (HasStatus c k .sent → ¬ HasStatus c' k .pending)

/-- Drainers yet to be started, over any outbox. -/
def initially (outbox : Outbox) (now : Nat) : DrainConfig where
  shared := { outbox := outbox, now := now }

/-! ## The condition -/

def heldRow (l : DrainPhase) : Option (Uuid × String) := l.inHand.map fun p => p.1.key

/-- The row is still pending, no drainer has its outcome yet to record, and the
adapter returns if the command was applied, which happens at most once. -/
def executesInTurn (drainer : OutboxDrainer) (c : DrainConfig) (exchange : Exchange)
    (row : OutboxRow) : Bool :=
  match drainer.adapterOf row with
  | none => true
  | some adapter =>
      let e := execution adapter exchange row
      (c.shared.outbox.find row.key).any (fun r => r.status = .pending) &&
        !(c.parties.any fun l => heldRow l = some row.key) &&
        (e.applied.isEmpty || (decide (e.applied.length = 1) && e.result.isOk))

/-- Between the call of the adapter and the record of a mutation nothing fails,
rows are executed in turn, and new rows bring a command id of their own. -/
def recordsOutcome (drainer : OutboxDrainer) (c : DrainConfig) : DrainMove → Bool
  | .party i (.execute exchange) =>
      match c.parties[i]? with
      | some (.draining row _) => drainer.executesInTurn c exchange row
      | _ => true
  | .party i (.markSent outcome) =>
      match c.parties[i]?, outcome with
      | some (.executed row _), .fails _ => timesApplied c.shared row.key = 0
      | _, .commitsThenFails _ => false
      | _, _ => true
  | .party i .crash =>
      match c.parties[i]? with
      | some (.executed row _) => timesApplied c.shared row.key = 0
      | _ => true
  | .party _ _ => true
  | .environment (.enqueue command) =>
      c.shared.outbox.hasKey (command.tenantId, command.idempotencyKey) ||
        c.shared.outbox.rows.all fun r => r.commandId != command.commandId
  | .environment _ => true

/-! ## Rows in custody -/

def standingOf : CommandStatus → Standing
  | .pending => .available
  | .sent => .done
  | _ => .shelved

def standing (outbox : Outbox) (k : Uuid × String) : Standing :=
  (outbox.find k).elim .absent fun r => standingOf r.status

def view (c : DrainConfig) (k : Uuid × String) : View where
  standing := standing c.shared.outbox k
  effects := timesApplied c.shared k
  holders := holders (held k) c.parties

/-- Command ids tell rows apart, and a fetched row is still in the outbox. -/
structure Consistent (c : DrainConfig) : Prop where
  ids : DistinctIds c.shared.outbox
  known : ∀ l ∈ c.parties, ∀ row ∈ l.rows,
    (row.key, row.commandId) ∈ identities c.shared.outbox

theorem standing_of_hasStatus {c : DrainConfig} {k : Uuid × String} {status : CommandStatus}
    (h : HasStatus c k status) : (view c k).standing = standingOf status := by
  obtain ⟨r, hr, hk, hstatus⟩ := h
  have hfind : c.shared.outbox.find k = some r := Table.find_eq_some_iff.2 ⟨hr, hk⟩
  show standing c.shared.outbox k = standingOf status
  unfold standing
  rw [hfind, Option.elim_some, hstatus]

/-- A status written by the command id of a row is the standing of that row. -/
theorem standing_updateCommand {outbox : Outbox} (hids : DistinctIds outbox) {row : OutboxRow}
    (hrow : (row.key, row.commandId) ∈ identities outbox) {f : OutboxRow → OutboxRow}
    {hf : ∀ r, (f r).key = r.key} (status : CommandStatus) (hstatus : ∀ r, (f r).status = status)
    (k : Uuid × String) :
    standing (updateCommand row.commandId f hf outbox) k =
      if k = row.key then standingOf status else standing outbox k := by
  unfold standing
  rw [find_updateCommand hids hrow]
  by_cases hk : k = row.key
  · obtain ⟨r, hr, heq⟩ := List.mem_map.1 hrow
    have hfind : outbox.find row.key = some r :=
      Table.find_eq_some_iff.2 ⟨hr, (Prod.mk.inj heq).1⟩
    rw [if_pos hk, if_pos hk, hfind, Option.map_some, Option.elim_some, hstatus]
  · rw [if_neg hk, if_neg hk]

theorem standing_markSent {outbox : Outbox} (hids : DistinctIds outbox) {row : OutboxRow}
    (hrow : (row.key, row.commandId) ∈ identities outbox) (k : Uuid × String) :
    standing (markSent row.commandId outbox) k =
      if k = row.key then .done else standing outbox k := by
  unfold markSent
  apply standing_updateCommand hids hrow .sent
  intro r
  rfl

theorem standing_markDeadLettered {outbox : Outbox} (hids : DistinctIds outbox) {row : OutboxRow}
    (hrow : (row.key, row.commandId) ∈ identities outbox) (k : Uuid × String) :
    standing (markDeadLettered row.commandId outbox) k =
      if k = row.key then .shelved else standing outbox k := by
  unfold markDeadLettered
  apply standing_updateCommand hids hrow .deadLettered
  intro r
  rfl

theorem standing_recordFailure (drainer : OutboxDrainer) (now : Nat) {outbox : Outbox}
    (hids : DistinctIds outbox) {row : OutboxRow}
    (hrow : (row.key, row.commandId) ∈ identities outbox) (k : Uuid × String) :
    standing (drainer.recordFailure now row outbox) k =
      if k = row.key then (if drainer.lastAttempt row then .shelved else .available)
      else standing outbox k := by
  unfold OutboxDrainer.recordFailure
  split
  · exact standing_markDeadLettered hids hrow k
  · unfold markFailedForRetry
    apply standing_updateCommand hids hrow .pending
    intro r
    rfl

theorem standing_enqueue (now : Nat) (command : ProviderCommand) (outbox : Outbox)
    (k : Uuid × String) :
    standing (OutboxRepository.enqueue now command outbox).1 k = standing outbox k ∨
      standing outbox k = .absent ∧
        standing (OutboxRepository.enqueue now command outbox).1 k = .available := by
  unfold OutboxRepository.enqueue standing
  rw [Table.find_insertOrIgnore]
  cases outbox.find k with
  | some r => exact Or.inl rfl
  | none =>
      rw [Option.none_or]
      by_cases hk : (row now command).key = k
      · rw [if_pos hk]
        exact Or.inr ⟨rfl, rfl⟩
      · rw [if_neg hk]
        exact Or.inl rfl

theorem view_step_of_eq {c c' : DrainConfig} {k : Uuid × String}
    (hstanding : standing c'.shared.outbox k = standing c.shared.outbox k)
    (hcount : timesApplied c'.shared k = timesApplied c.shared k)
    (hholders : holders (held k) c'.parties = holders (held k) c.parties) :
    (view c k).Step (view c' k) := by
  have hsame : view c' k = view c k := by
    unfold view
    rw [hstanding, hcount, hholders]
  rw [hsame]
  exact .stays

/-! ## What a step does to the rows -/

section Steps

variable {drainer : OutboxDrainer} {c c' : DrainConfig}

theorem Consistent.party_step (hc : Consistent c) {i : Nat} {a : DrainStep}
    (hstep : drainer.drainers.machine.step c (.party i a) = some c') : Consistent c' := by
  obtain ⟨l, l', t, hi, hact, rfl⟩ := Interleaving.step_party hstep
  have heffect := act_effect hact
  have hidentities : identities t.outbox = identities c.shared.outbox := heffect.identities
  constructor
  · show DistinctIds t.outbox
    rw [distinctIds_iff, hidentities, ← distinctIds_iff]
    exact hc.ids
  · intro l₁ hl₁ row hrow
    show (row.key, row.commandId) ∈ identities t.outbox
    rw [hidentities]
    rcases List.mem_or_eq_of_mem_set hl₁ with hold | rfl
    · exact hc.known l₁ hold row hrow
    · rcases heffect.rows row hrow with hbefore | htable
      · exact hc.known l (List.mem_of_getElem? hi) row hbefore
      · exact List.mem_map.2 ⟨row, htable, rfl⟩

theorem Consistent.environment_step (hc : Consistent c) {e : DrainEvent}
    (hmeets : drainer.recordsOutcome c (.environment e) = true)
    (hstep : drainer.drainers.machine.step c (.environment e) = some c') : Consistent c' := by
  obtain ⟨ls, t, henv, rfl⟩ := Interleaving.step_environment hstep
  cases e with
  | tick elapsed =>
      cases henv
      exact ⟨hc.ids, by simpa using hc.known⟩
  | start =>
      cases henv
      refine ⟨hc.ids, ?_⟩
      intro l hl row hrow
      rcases List.mem_append.1 hl with hold | hnew
      · exact hc.known l hold row hrow
      · rw [List.mem_singleton.1 hnew] at hrow
        cases hrow
  | enqueue command =>
      cases henv
      have hidentities := identities_enqueue c.shared.now command c.shared.outbox
      simp only [recordsOutcome, Bool.or_eq_true, List.all_eq_true, bne_iff_ne] at hmeets
      constructor
      · exact hc.ids.enqueue c.shared.now hmeets
      · intro l hl row hrow
        show (row.key, row.commandId) ∈
          identities (OutboxRepository.enqueue c.shared.now command c.shared.outbox).1
        have hold : l ∈ c.parties := by simpa using hl
        have hknown := hc.known l hold row hrow
        rw [hidentities]
        split
        · exact hknown
        · exact List.mem_append_left _ hknown

/-! ## What a step does to one row's custody -/

section Party

variable {i : Nat} {l l' : DrainPhase} {t : DrainShared} {k : Uuid × String}

/-- A drainer without an outcome to record dead-letters a row or goes on. -/
theorem view_step_idle (hi : c.parties[i]? = some l) (hl : l.inHand = none)
    (hl' : l'.inHand = none) (happlied : t.applied = c.shared.applied)
    (hstanding : standing t.outbox k = standing c.shared.outbox k ∨
      standing t.outbox k = .shelved) :
    (view c k).Step (view ⟨t, c.parties.set i l'⟩ k) := by
  have hholders : holders (held k) (c.parties.set i l') = holders (held k) c.parties := by
    apply holders_set_of_eq hi
    rw [held_of_inHand_eq_none hl, held_of_inHand_eq_none hl']
  have hcount : timesApplied t k = timesApplied c.shared k := by
    unfold timesApplied
    rw [happlied]
  rcases hstanding with hsame | hshelved
  · exact view_step_of_eq hsame hcount hholders
  · have hview : view ⟨t, c.parties.set i l'⟩ k = { view c k with standing := .shelved } := by
      unfold view
      rw [hshelved, hcount, hholders]
    rw [hview]
    exact .shelved

theorem timesApplied_append (s : DrainShared) (k k' : Uuid × String)
    (calls : List ProviderCall) :
    timesApplied { s with applied := s.applied ++ calls.map fun call => (k', call) } k =
      timesApplied s k + if k' = k then calls.length else 0 := by
  unfold timesApplied
  rw [List.filter_append, List.length_append]
  congr 1
  by_cases hk : k' = k
  · rw [if_pos hk, List.filter_eq_self.2 (by simp [hk]), List.length_map]
  · rw [if_neg hk, List.filter_eq_nil_iff.2 (by simp [hk])]
    rfl

/-- The call of the adapter takes a pending row nobody holds. -/
theorem view_step_execute {row : OutboxRow} {rest : List OutboxRow} {exchange : Exchange}
    {adapter : ProviderAdapter} (hi : c.parties[i]? = some (.draining row rest))
    (hadapter : drainer.adapterOf row = some adapter)
    (hmeets : drainer.executesInTurn c exchange row = true) :
    (view c k).Step
      (view ⟨{ c.shared with
          applied := c.shared.applied ++
            (execution adapter exchange row).applied.map fun call => (row.key, call) },
        c.parties.set i (if (execution adapter exchange row).result.isOk then .executed row rest
          else .raised row rest)⟩ k) := by
  generalize he : execution adapter exchange row = e
  by_cases hk : row.key = k
  · simp only [executesInTurn, hadapter, he, Bool.and_eq_true, Bool.not_eq_true',
      Bool.or_eq_true, Option.any_eq_true, List.any_eq_false, decide_eq_true_eq,
      List.isEmpty_iff] at hmeets
    obtain ⟨⟨⟨r, hfind, hpending⟩, hnobody⟩, honce⟩ := hmeets
    have havailable : (view c k).standing = .available := by
      show standing c.shared.outbox k = .available
      unfold standing
      rw [← hk, hfind, Option.elim_some, hpending]
      rfl
    have hfree : (view c k).holders = [] := by
      apply List.filterMap_eq_nil_iff.2
      intro l hl
      have hother := hnobody l hl
      unfold held
      cases hhand : l.inHand with
      | none => rfl
      | some p =>
          have hne : p.1.key ≠ k := by
            intro heq
            apply hother
            unfold heldRow
            rw [hhand, Option.map_some, heq, hk]
          rw [Option.bind_some, if_neg hne]
    have hview : view ⟨{ c.shared with
          applied := c.shared.applied ++ e.applied.map fun call => (row.key, call) },
        c.parties.set i (if e.result.isOk then .executed row rest else .raised row rest)⟩ k =
        { view c k with
          effects := (view c k).effects + e.applied.length
          holders := [e.result.isOk] } := by
      unfold view
      rw [timesApplied_append, if_pos hk, holders_set_of_free hi hfree]
      congr 1
      cases e.result.isOk <;> simp [held, DrainPhase.inHand, hk]
    rw [hview]
    refine .taken _ _ _ havailable hfree ?_ (Or.inl havailable)
    rcases honce with hnone | ⟨hone, hok⟩
    · left
      rw [hnone, List.length_nil, Nat.add_zero]
    · right
      exact ⟨by rw [hone], hok⟩
  · apply view_step_of_eq
    · rfl
    · show timesApplied _ k = timesApplied c.shared k
      rw [timesApplied_append, if_neg hk, Nat.add_zero]
    · apply holders_set_of_eq hi
      split <;> simp [held, DrainPhase.inHand, hk]

/-- A step of the drainer that holds a row: for that row it is `hstep`, the
others it leaves alone. -/
theorem view_step_held {row : OutboxRow} {returned : Bool} (hi : c.parties[i]? = some l)
    (honce : (view c k).Once) (hl : l.inHand = some (row, returned))
    (hl' : ∀ p, l'.inHand = some p → p.1 = row) (happlied : t.applied = c.shared.applied)
    (hother : k ≠ row.key → standing t.outbox k = standing c.shared.outbox k)
    (hstep : row.key = k → (view c k).holders = [returned] →
      (view c k).Step
        { view c k with
          standing := standing t.outbox k
          holders := (l'.inHand.map Prod.snd).toList }) :
    (view c k).Step (view ⟨t, c.parties.set i l'⟩ k) := by
  have hcount : timesApplied t k = timesApplied c.shared k := by
    unfold timesApplied
    rw [happlied]
  by_cases hk : row.key = k
  · have hheld : held k l = some returned := by
      unfold held
      rw [hl, Option.bind_some, if_pos hk]
    obtain ⟨hone, hset⟩ := holders_of_held hi honce.holders_le hheld
    have hview : view ⟨t, c.parties.set i l'⟩ k =
        { view c k with
          standing := standing t.outbox k
          holders := (l'.inHand.map Prod.snd).toList } := by
      unfold view
      rw [hcount, hset]
      congr 2
      unfold held
      cases hhand : l'.inHand with
      | none => rfl
      | some p => rw [Option.bind_some, hl' p hhand, if_pos hk, Option.map_some]
    rw [hview]
    exact hstep hk hone
  · apply view_step_of_eq (hother (Ne.symm hk)) hcount
    apply holders_set_of_eq hi
    unfold held
    rw [hl, Option.bind_some, if_neg hk]
    cases hhand : l'.inHand with
    | none => rfl
    | some p => rw [Option.bind_some, hl' p hhand, if_neg hk]

theorem view_step_of_effect {a : DrainStep} (heffect : DrainEffect drainer c.shared l a l' t)
    (hc : Consistent c) (honce : (view c k).Once) (hi : c.parties[i]? = some l)
    (hmeets : drainer.recordsOutcome c (.party i a) = true) :
    (view c k).Step (view ⟨t, c.parties.set i l'⟩ k) := by
  have hmem : ∀ row ∈ l.rows, (row.key, row.commandId) ∈ identities c.shared.outbox :=
    hc.known l (List.mem_of_getElem? hi)
  cases heffect with
  | moved hl hl' _ => exact view_step_idle hi hl hl' rfl (Or.inl rfl)
  | shelved row hrow hl hl' _ =>
      refine view_step_idle hi hl hl' rfl ?_
      show standing (markDeadLettered row.commandId c.shared.outbox) k = _ ∨ _
      rw [standing_markDeadLettered hc.ids (hmem row hrow)]
      by_cases hk : k = row.key
      · rw [if_pos hk]
        exact Or.inr rfl
      · rw [if_neg hk]
        exact Or.inl rfl
  | executed row rest exchange adapter hadapter hl' =>
      subst hl'
      simp only [recordsOutcome, hi] at hmeets
      exact view_step_execute hi hadapter hmeets
  | sent row rest =>
      have hstanding := standing_markSent hc.ids (hmem row List.mem_cons_self)
      refine view_step_held hi honce rfl (by simp) rfl ?_ ?_
      · intro hk
        exact (hstanding k).trans (if_neg hk)
      · intro hk hheld
        have hdone : standing (markSent row.commandId c.shared.outbox) k = .done :=
          (hstanding k).trans (if_pos hk.symm)
        rw [inHand_nextCommand]
        exact .closed _ true _ hheld (Or.inl rfl) (Or.inr hdone)
  | unsent row rest exception =>
      refine view_step_held hi honce rfl (by simp [DrainPhase.inHand]) rfl (fun _ => rfl) ?_
      intro hk hheld
      simp only [recordsOutcome, hi, decide_eq_true_eq, hk] at hmeets
      exact .retried true hheld hmeets
  | sentThenRaised row rest exception => simp [recordsOutcome, hi] at hmeets
  | recorded row rest hl' _ =>
      have hstanding := standing_recordFailure drainer c.shared.now hc.ids
        (hmem row List.mem_cons_self)
      refine view_step_held hi honce rfl (by simp [hl']) rfl ?_ ?_
      · intro hk
        exact (hstanding k).trans (if_neg hk)
      · intro hk hheld
        rw [hl']
        apply View.Step.dropped false _ hheld (Or.inr rfl)
        rw [show standing (drainer.recordFailure c.shared.now row c.shared.outbox) k = _ from
          (hstanding k).trans (if_pos hk.symm)]
        split
        · exact Or.inr rfl
        · exact Or.inl rfl
  | unrecorded row rest =>
      refine view_step_held hi honce rfl (by simp [DrainPhase.inHand]) rfl (fun _ => rfl) ?_
      intro hk hheld
      exact .dropped false _ hheld (Or.inr rfl) (honce.available_or_shelved hheld)
  | crashed =>
      cases hhand : l.inHand with
      | none => exact view_step_idle hi hhand rfl rfl (Or.inl rfl)
      | some p =>
          obtain ⟨row, returned⟩ := p
          refine view_step_held hi honce hhand (by simp [DrainPhase.inHand]) rfl (fun _ => rfl) ?_
          intro hk hheld
          refine .dropped returned _ hheld ?_ (honce.available_or_shelved hheld)
          cases l with
          | executed row' rest =>
              cases hhand
              simp only [recordsOutcome, hi, decide_eq_true_eq, hk] at hmeets
              exact Or.inl hmeets
          | raised row' rest =>
              cases hhand
              exact Or.inr rfl
          | _ => cases hhand

end Party

theorem view_step (hc : Consistent c) (honce : ∀ k, (view c k).Once) {move : DrainMove}
    (hmeets : drainer.recordsOutcome c move = true)
    (hstep : drainer.drainers.machine.step c move = some c') (k : Uuid × String) :
    (view c k).Step (view c' k) := by
  cases move with
  | party i a =>
      obtain ⟨l, l', t, hi, hact, rfl⟩ := Interleaving.step_party hstep
      exact view_step_of_effect (act_effect hact) hc (honce k) hi hmeets
  | environment e =>
      obtain ⟨ls, t, henv, rfl⟩ := Interleaving.step_environment hstep
      have hholders : (∀ l ∈ ls, held k l = none) →
          holders (held k) (c.parties ++ ls) = holders (held k) c.parties :=
        holders_append_of_idle
      cases e with
      | tick elapsed =>
          cases henv
          exact view_step_of_eq rfl rfl (hholders (by simp))
      | start =>
          cases henv
          exact view_step_of_eq rfl rfl (hholders (by simp [held, DrainPhase.inHand]))
      | enqueue command =>
          cases henv
          rcases standing_enqueue c.shared.now command c.shared.outbox k with
            hsame | ⟨habsent, hnew⟩
          · exact view_step_of_eq hsame rfl (hholders (by simp))
          · have hview : view ⟨{ c.shared with
                  outbox := (OutboxRepository.enqueue c.shared.now command c.shared.outbox).1 },
                c.parties ++ []⟩ k = { view c k with standing := .available } := by
              unfold view
              rw [hnew, hholders (by simp)]
              rfl
            rw [hview]
            exact .listed habsent

theorem custody_step (c : DrainConfig) (move : DrainMove) (c' : DrainConfig) (hc : Consistent c)
    (honce : ∀ k, (view c k).Once) (hmeets : drainer.recordsOutcome c move = true)
    (hstep : drainer.drainers.machine.step c move = some c') :
    Consistent c' ∧ ∀ k, (view c k).Step (view c' k) := by
  refine ⟨?_, view_step hc honce hmeets hstep⟩
  cases move with
  | party i a => exact hc.party_step hstep
  | environment e => exact hc.environment_step hmeets hstep

theorem once_initially (outbox : Outbox) (now : Nat) (k : Uuid × String) :
    (view (initially outbox now) k).Once where
  effects_le := Nat.zero_le 1
  holders_le := Nat.zero_le 1
  acted := by
    intro hone
    cases hone
  free_of_done := fun _ => rfl
  free_of_absent := fun _ => ⟨rfl, rfl⟩

end Steps

/-! ## Runs -/

theorem effectivelyOnce_of_recordsOutcome (drainer : OutboxDrainer) (outbox : Outbox) (now : Nat)
    (moves : List DrainMove) (hids : DistinctIds outbox)
    (hall : drainer.drainers.machine.AllSteps (fun c move => drainer.recordsOutcome c move = true)
      (initially outbox now) moves) :
    EffectivelyOnce drainer (initially outbox now) moves := by
  have hstart : Consistent (initially outbox now) ∧
      ∀ k, (view (initially outbox now) k).Once := by
    refine ⟨⟨hids, ?_⟩, once_initially outbox now⟩
    intro l hl
    cases hl
  rintro earlier later c c' ⟨rest, rfl⟩ hearlier hlater k
  have hbefore := hall.append_left
  have hc := once_of_allSteps custody_step hstart hbefore.append_left hearlier
  have hafter := hbefore.after_run hearlier
  constructor
  · exact effects_le_one_of_allSteps custody_step hc hafter hlater k
  · intro hsent hpending
    have hdone : (view c k).standing = .done := standing_of_hasStatus hsent
    exact not_available_of_allSteps custody_step hc hafter hlater hdone
      (standing_of_hasStatus hpending)

section Example

/-- A drainer of the registry of tenant 1. -/
def oneTenant : OutboxDrainer where
  adapters :=
    [("chatwoot", ChatwootMcpAdapter.executeCommand
      { text := plainText
        registry := { tenantId := formatUuid 1, accountIdRef := "" }
        accountId := "1"
        maxRetries := 3 })]

def greeting : ProviderCommand where
  commandId := "command"
  idempotencyKey := "greeting"
  tenantId := 1
  provider := "chatwoot"
  accountIdRef := ""
  capabilityName := "send_message"
  parameters := [("conversation_id", .str "7"), ("content", .str "hello")]
  correlationId := "correlation"

/-- A provider that carries out every call and returns at once. -/
def healthy : Exchange where
  posts := fun _ => { applied := true, answer := .result "message" }

def afterFetches : List DrainMove :=
  [.environment (.enqueue greeting), .environment .start, .environment .start, .party 0 .fetch]

/-- The second drainer polls after the first has marked its row. -/
def inTurn : List DrainMove :=
  afterFetches ++ [.party 0 (.execute healthy), .party 0 (.markSent .commits), .party 1 .fetch]

theorem inTurn_effectivelyOnce :
    EffectivelyOnce oneTenant (initially .empty 0) inTurn := by
  apply effectivelyOnce_of_recordsOutcome oneTenant .empty 0 inTurn List.nodup_nil
  apply Machine.allSteps_of_trace
  have hall : (oneTenant.drainers.machine.trace (initially .empty 0) inTurn).all
      (fun p => oneTenant.recordsOutcome p.1 p.2) = true := by decide +kernel
  exact List.all_eq_true.1 hall

/-- Both drainers fetch the row before either has marked it. -/
def sideBySide : List DrainMove :=
  afterFetches ++ [.party 1 .fetch, .party 0 (.execute healthy), .party 1 (.execute healthy)]

theorem sideBySide_not_effectivelyOnce :
    ¬ EffectivelyOnce oneTenant (initially .empty 0) sideBySide := by
  intro honce
  have hrun := eq_some_getD (s := initially .empty 0)
    (o := oneTenant.drainers.machine.run (initially .empty 0) sideBySide) (by decide +kernel)
  have hle := (honce sideBySide [] _ _ (by simp) hrun rfl (1, "greeting")).1
  revert hle
  decide +kernel

end Example

end OutboxDrainer

end Iara.Workers
