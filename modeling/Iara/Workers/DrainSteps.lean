import Iara.Workers.OutboxDrainer

/-!
# What a drainer's step can do

`DrainEffect` lists the steps of a drainer: which row is in its hands before and
after, and what becomes of the outbox and of the provider.  No later proof
unfolds `act`.
-/

namespace Iara.Workers

open Iara.Lib Iara.Persistence Iara.Provider

namespace OutboxDrainer

namespace DrainPhase

/-- The rows a drainer has fetched and not yet dealt with. -/
def rows : DrainPhase → List OutboxRow
  | .sleeping => []
  | .draining row rest => row :: rest
  | .executed row rest => row :: rest
  | .raised row rest => row :: rest
  | .stopped => []

/-- The row whose outcome is still to be recorded, and whether the adapter
returned. -/
def inHand : DrainPhase → Option (OutboxRow × Bool)
  | .executed row _ => some (row, true)
  | .raised row _ => some (row, false)
  | _ => none

end DrainPhase

theorem mem_rows_of_inHand {l : DrainPhase} {p : OutboxRow × Bool} (h : l.inHand = some p) :
    p.1 ∈ l.rows := by
  cases l with
  | executed row rest =>
      cases h
      exact List.mem_cons_self
  | raised row rest =>
      cases h
      exact List.mem_cons_self
  | _ => cases h

@[simp] theorem rows_nextCommand (rest : List OutboxRow) : (nextCommand rest).rows = rest := by
  cases rest <;> rfl

@[simp] theorem inHand_nextCommand (rest : List OutboxRow) : (nextCommand rest).inHand = none := by
  cases rest <;> rfl

/-- Whether the adapter returned, for a drainer that has the outcome of this row
still to record. -/
def held (k : Uuid × String) (l : DrainPhase) : Option Bool :=
  l.inHand.bind fun p => if p.1.key = k then some p.2 else none

theorem held_of_inHand_eq_none {l : DrainPhase} (h : l.inHand = none) (k : Uuid × String) :
    held k l = none := by
  unfold held
  rw [h, Option.bind_none]

inductive DrainEffect (drainer : OutboxDrainer) (s : DrainShared) :
    DrainPhase → DrainStep → DrainPhase → DrainShared → Prop
  | moved {l a l'} (hl : l.inHand = none) (hl' : l'.inHand = none)
      (hrows : ∀ r ∈ l'.rows, r ∈ l.rows ∨ r ∈ s.outbox.rows) : DrainEffect drainer s l a l' s
  | shelved {l a l'} (row) (hrow : row ∈ l.rows) (hl : l.inHand = none) (hl' : l'.inHand = none)
      (hrows : ∀ r ∈ l'.rows, r ∈ l.rows) :
      DrainEffect drainer s l a l'
        { s with outbox := OutboxRepository.markDeadLettered row.commandId s.outbox }
  | executed {l'} (row rest exchange adapter) (hadapter : drainer.adapterOf row = some adapter)
      (hl' : l' = if (execution adapter exchange row).result.isOk then .executed row rest
        else .raised row rest) :
      DrainEffect drainer s (.draining row rest) (.execute exchange) l'
        { s with
          applied := s.applied ++
            (execution adapter exchange row).applied.map fun call => (row.key, call) }
  | sent (row rest) :
      DrainEffect drainer s (.executed row rest) (.markSent .commits) (nextCommand rest)
        { s with outbox := OutboxRepository.markSent row.commandId s.outbox }
  | unsent (row rest exception) :
      DrainEffect drainer s (.executed row rest) (.markSent (.fails exception))
        (.raised row rest) s
  | sentThenRaised (row rest exception) :
      DrainEffect drainer s (.executed row rest) (.markSent (.commitsThenFails exception))
        (.raised row rest)
        { s with outbox := OutboxRepository.markSent row.commandId s.outbox }
  | recorded {a l'} (row rest) (hl' : l'.inHand = none) (hrows : ∀ r ∈ l'.rows, r ∈ rest) :
      DrainEffect drainer s (.raised row rest) a l'
        { s with outbox := drainer.recordFailure s.now row s.outbox }
  | unrecorded {a} (row rest) : DrainEffect drainer s (.raised row rest) a .sleeping s
  | crashed (l) : DrainEffect drainer s l .crash .stopped s

variable {drainer : OutboxDrainer} {s t : DrainShared} {l l' : DrainPhase} {a : DrainStep}

theorem fetch_effect (h : drainer.act s .sleeping .fetch = some (l', t)) :
    DrainEffect drainer s .sleeping .fetch l' t := by
  simp only [act] at h
  split at h
  · cases h
    exact .moved rfl rfl (by simp [DrainPhase.rows])
  · cases h
    refine .moved rfl (inHand_nextCommand _) ?_
    intro r hr
    rw [rows_nextCommand] at hr
    exact Or.inr (OutboxRepository.mem_fetchPendingAll hr).1

theorem deadLetter_effect {row : OutboxRow} {rest : List OutboxRow} {outcome : Transaction}
    (h : drainer.act s (.draining row rest) (.deadLetter outcome) = some (l', t)) :
    DrainEffect drainer s (.draining row rest) (.deadLetter outcome) l' t := by
  have hrow : row ∈ (DrainPhase.draining row rest).rows := List.mem_cons_self
  simp only [act] at h
  split at h
  · cases outcome with
    | commits =>
        cases h
        refine .shelved row hrow rfl (inHand_nextCommand _) ?_
        intro r hr
        rw [rows_nextCommand] at hr
        exact List.mem_cons_of_mem _ hr
    | fails exception =>
        cases h
        exact .moved rfl rfl (by simp [DrainPhase.rows])
    | commitsThenFails exception =>
        cases h
        exact .shelved row hrow rfl rfl (by simp [DrainPhase.rows])
  · cases h

theorem execute_effect {row : OutboxRow} {rest : List OutboxRow} {exchange : Exchange}
    (h : drainer.act s (.draining row rest) (.execute exchange) = some (l', t)) :
    DrainEffect drainer s (.draining row rest) (.execute exchange) l' t := by
  simp only [act] at h
  split at h
  · cases h
  · cases hadapter : drainer.adapterOf row with
    | none =>
        simp only [hadapter, Option.some.injEq, Prod.mk.injEq] at h
        obtain ⟨rfl, rfl⟩ := h
        refine .moved rfl (inHand_nextCommand _) ?_
        intro r hr
        rw [rows_nextCommand] at hr
        exact Or.inl (List.mem_cons_of_mem _ hr)
    | some adapter =>
        simp only [hadapter] at h
        cases hresult : (execution adapter exchange row).result with
        | ok result =>
            simp only [hresult, Option.some.injEq, Prod.mk.injEq] at h
            obtain ⟨rfl, rfl⟩ := h
            exact .executed row rest exchange adapter hadapter (by rw [hresult]; rfl)
        | error exception =>
            simp only [hresult, Option.some.injEq, Prod.mk.injEq] at h
            obtain ⟨rfl, rfl⟩ := h
            exact .executed row rest exchange adapter hadapter (by rw [hresult]; rfl)

theorem recordFailure_effect {row : OutboxRow} {rest : List OutboxRow} {outcome : Transaction}
    (h : drainer.act s (.raised row rest) (.recordFailure outcome) = some (l', t)) :
    DrainEffect drainer s (.raised row rest) (.recordFailure outcome) l' t := by
  simp only [act, Option.some.injEq] at h
  cases outcome with
  | commits =>
      cases h
      exact .recorded row rest (inHand_nextCommand _) (by simp)
  | fails exception =>
      cases h
      exact .unrecorded row rest
  | commitsThenFails exception =>
      cases h
      exact .recorded row rest rfl (by simp [DrainPhase.rows])

/-- Every step of a drainer has one of the listed effects. -/
theorem act_effect (h : drainer.act s l a = some (l', t)) : DrainEffect drainer s l a l' t := by
  cases l with
  | sleeping =>
      cases a with
      | fetch => exact fetch_effect h
      | crash =>
          cases h
          exact .crashed _
      | _ => cases h
  | draining row rest =>
      cases a with
      | deadLetter outcome => exact deadLetter_effect h
      | execute exchange => exact execute_effect h
      | crash =>
          cases h
          exact .crashed _
      | _ => cases h
  | executed row rest =>
      cases a with
      | markSent outcome =>
          simp only [act, Option.some.injEq] at h
          cases outcome with
          | commits =>
              cases h
              exact .sent row rest
          | fails exception =>
              cases h
              exact .unsent row rest exception
          | commitsThenFails exception =>
              cases h
              exact .sentThenRaised row rest exception
      | crash =>
          cases h
          exact .crashed _
      | _ => cases h
  | raised row rest =>
      cases a with
      | recordFailure outcome => exact recordFailure_effect h
      | crash =>
          cases h
          exact .crashed _
      | _ => cases h
  | stopped => cases h

/-! ## What every step leaves alone -/

open OutboxRepository

@[simp] theorem identities_recordFailure (now : Nat) (row : OutboxRow) (outbox : Outbox) :
    identities (drainer.recordFailure now row outbox) = identities outbox := by
  unfold OutboxDrainer.recordFailure
  split
  · exact identities_markDeadLettered _ _
  · exact identities_markFailedForRetry _ _ _ _

theorem DrainEffect.identities (h : DrainEffect drainer s l a l' t) :
    identities t.outbox = identities s.outbox := by
  cases h <;> simp

/-- A drainer gets its rows from the outbox. -/
theorem DrainEffect.rows (h : DrainEffect drainer s l a l' t) :
    ∀ r ∈ l'.rows, r ∈ l.rows ∨ r ∈ s.outbox.rows := by
  cases h with
  | moved _ _ hrows => exact hrows
  | shelved row _ _ _ hrows => exact fun r hr => Or.inl (hrows r hr)
  | executed row rest exchange adapter _ hl' =>
      intro r hr
      rw [hl'] at hr
      split at hr <;> exact Or.inl hr
  | sent row rest =>
      intro r hr
      rw [rows_nextCommand] at hr
      exact Or.inl (List.mem_cons_of_mem _ hr)
  | unsent row rest exception => exact fun r hr => Or.inl hr
  | sentThenRaised row rest exception => exact fun r hr => Or.inl hr
  | recorded row rest _ hrows => exact fun r hr => Or.inl (List.mem_cons_of_mem _ (hrows r hr))
  | unrecorded row rest => simp [DrainPhase.rows]
  | crashed l => simp [DrainPhase.rows]

end OutboxDrainer

end Iara.Workers
