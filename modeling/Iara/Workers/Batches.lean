import Iara.Workers.SoloDrainer

/-!
# The rows of a batch

What becomes of the rows that one poll fetched.  A row that is exhausted or has
an adapter leaves the way of the next poll, and with it every row of its command
id; the others stay as they are.
-/

namespace Iara.Workers

open Iara.Lib Iara.Persistence Iara.Provider

namespace OutboxDrainer

/-- The drainer has something to do with the row. -/
def serves (drainer : OutboxDrainer) (row : OutboxRow) : Bool :=
  drainer.exhausted row || (drainer.adapterOf row).isSome

/-- The row, or one of the batch with its command id, is dealt with. -/
def Served (drainer : OutboxDrainer) (batch : List OutboxRow) (row : OutboxRow) : Prop :=
  ∃ row' ∈ batch, row'.commandId = row.commandId ∧ drainer.serves row' = true

/-- A drainer at work on a batch fetched at `since`. -/
structure Working (drainer : OutboxDrainer) (batch : List OutboxRow) (since : Nat)
    (s : DrainShared) (l : DrainPhase) : Prop where
  since_le : since ≤ s.now
  rows : ∀ row ∈ l.rows, row ∈ batch
  inHand : ∀ p, l.inHand = some p → drainer.serves p.1 = true
  known : ∀ row ∈ batch, ∃ r, s.outbox.find row.key = some r ∧ r.commandId = row.commandId
  settled : ∀ row ∈ batch, drainer.Served batch row → drainer.Served l.rows row ∨
    ∃ r, s.outbox.find row.key = some r ∧ Settled since r
  stuck : ∀ row ∈ batch, ¬ drainer.Served batch row → s.outbox.find row.key = some row

variable {drainer : OutboxDrainer} {s t : DrainShared} {l l' : DrainPhase} {move : DrainMove}
  {batch : List OutboxRow} {since : Nat}

theorem Settled.mono {now : Nat} {r : OutboxRow} (h : Settled now r) (hle : since ≤ now) :
    Settled since r := by
  rcases h with hsent | hdead | ⟨hpending, hlater⟩
  · exact Or.inl hsent
  · exact Or.inr (Or.inl hdead)
  · exact Or.inr (Or.inr ⟨hpending, by omega⟩)

/-- A batch as it was fetched. -/
theorem working_fetched (drainer : OutboxDrainer) (s : DrainShared) :
    Working drainer (drainer.fetched s) s.now s (nextCommand (drainer.fetched s)) := by
  have hfind : ∀ row ∈ drainer.fetched s, s.outbox.find row.key = some row := by
    intro row hrow
    exact Table.find_eq_some_iff.2 ⟨(mem_fetched hrow).1, rfl⟩
  constructor
  · exact Nat.le_refl _
  · intro row hrow
    rwa [rows_nextCommand] at hrow
  · intro p hp
    rw [inHand_nextCommand] at hp
    cases hp
  · exact fun row hrow => ⟨row, hfind row hrow, rfl⟩
  · intro row hrow hserved
    rw [rows_nextCommand]
    exact Or.inl hserved
  · exact fun row hrow _ => hfind row hrow

/-- The drainer records the outcome of the row in hand. -/
theorem Working.written {row : OutboxRow} {rest : List OutboxRow} {outbox' : Outbox}
    (h : Working drainer batch since s l) (hrows : l.rows = row :: rest)
    (hserves : drainer.serves row = true)
    (hsettling : Settling s.now row.commandId s.outbox outbox') :
    Working drainer batch since { s with outbox := outbox' } (nextCommand rest) := by
  have hbatch : row ∈ batch := h.rows row (by rw [hrows]; exact List.mem_cons_self)
  obtain ⟨f, hf, hid, hsettled⟩ := hsettling
  have hafter : ∀ {k : Uuid × String} {r : OutboxRow}, s.outbox.find k = some r →
      (OutboxRepository.updateCommand row.commandId f hf s.outbox).find k =
        some (if r.commandId = row.commandId then f r else r) := by
    intro k r hfind
    unfold OutboxRepository.updateCommand
    rw [Table.find_update, hfind]
    simp
  constructor
  · exact h.since_le
  · intro r hr
    rw [rows_nextCommand] at hr
    exact h.rows r (by rw [hrows]; exact List.mem_cons_of_mem _ hr)
  · intro p hp
    rw [inHand_nextCommand] at hp
    cases hp
  · intro r hr
    obtain ⟨r', hfind, hsame⟩ := h.known r hr
    refine ⟨_, hafter hfind, ?_⟩
    split
    · rw [hid, hsame]
    · exact hsame
  · intro r hr hserved
    obtain ⟨r', hfind, hsame⟩ := h.known r hr
    by_cases heq : r.commandId = row.commandId
    · right
      refine ⟨_, hafter hfind, ?_⟩
      rw [if_pos (hsame.trans heq)]
      exact (hsettled r').mono h.since_le
    · rcases h.settled r hr hserved with ⟨mate, hmate, hmateId, hmateServes⟩ | ⟨r₁, hfind₁, hdone⟩
      · left
        rw [hrows] at hmate
        rw [rows_nextCommand]
        rcases List.mem_cons.1 hmate with rfl | hrest
        · exact absurd hmateId.symm heq
        · exact ⟨mate, hrest, hmateId, hmateServes⟩
      · right
        have hsame₁ : r₁ = r' := Option.some.inj (hfind₁.symm.trans hfind)
        refine ⟨_, hafter hfind₁, ?_⟩
        rw [if_neg (by rw [hsame₁, hsame]; exact heq)]
        exact hdone
  · intro r hr hnot
    have hne : r.commandId ≠ row.commandId := by
      intro heq
      exact hnot ⟨row, hbatch, heq.symm, hserves⟩
    show (OutboxRepository.updateCommand row.commandId f hf s.outbox).find r.key = some r
    rw [hafter (h.stuck r hr hnot), if_neg hne]

theorem Working.skipped {row : OutboxRow} {rest : List OutboxRow}
    (h : Working drainer batch since s (.draining row rest))
    (hserves : drainer.serves row = false) : Working drainer batch since s (nextCommand rest) := by
  constructor
  · exact h.since_le
  · intro r hr
    rw [rows_nextCommand] at hr
    exact h.rows r (List.mem_cons_of_mem _ hr)
  · intro p hp
    rw [inHand_nextCommand] at hp
    cases hp
  · exact h.known
  · intro r hr hserved
    rcases h.settled r hr hserved with ⟨mate, hmate, hmateId, hmateServes⟩ | hdone
    · left
      rw [rows_nextCommand]
      rcases List.mem_cons.1 hmate with rfl | hrest
      · rw [hserves] at hmateServes
        cases hmateServes
      · exact ⟨mate, hrest, hmateId, hmateServes⟩
    · exact Or.inr hdone
  · exact h.stuck

/-- The adapter has answered; the outcome is in the drainer's hands. -/
theorem Working.executed {row : OutboxRow} {rest : List OutboxRow} {returned : Bool}
    {applied : List ((Uuid × String) × ProviderCall)}
    (h : Working drainer batch since s (.draining row rest)) (hrows : l.rows = row :: rest)
    (hhand : l.inHand = some (row, returned)) (hserves : drainer.serves row = true) :
    Working drainer batch since { s with applied := applied } l := by
  refine ⟨h.since_le, ?_, ?_, h.known, ?_, h.stuck⟩
  · rw [hrows]
    exact h.rows
  · intro p hp
    rw [hhand, Option.some.injEq] at hp
    rw [← hp]
    exact hserves
  · rw [hrows]
    exact h.settled

theorem Working.enqueued (h : Working drainer batch since s l) (command : ProviderCommand) :
    Working drainer batch since
      { s with outbox := (OutboxRepository.enqueue s.now command s.outbox).1 } l := by
  have hafter : ∀ {k : Uuid × String} {r : OutboxRow}, s.outbox.find k = some r →
      (OutboxRepository.enqueue s.now command s.outbox).1.find k = some r := by
    intro k r hfind
    rw [OutboxRepository.find_enqueue, hfind, Option.some_or]
  refine ⟨h.since_le, h.rows, h.inHand, ?_, ?_, ?_⟩
  · intro r hr
    obtain ⟨r', hfind, hsame⟩ := h.known r hr
    exact ⟨r', hafter hfind, hsame⟩
  · intro r hr hserved
    rcases h.settled r hr hserved with hmate | ⟨r', hfind, hdone⟩
    · exact Or.inl hmate
    · exact Or.inr ⟨r', hafter hfind, hdone⟩
  · exact fun r hr hnot => hafter (h.stuck r hr hnot)

/-- The rows of a batch are settled one after the other. -/
theorem SoloStep.working (hstep : SoloStep drainer s l move l' t) (hfetch : move ≠ .party 0 .fetch)
    (h : Working drainer batch since s l) : Working drainer batch since t l' := by
  cases hstep with
  | fetched => exact absurd rfl hfetch
  | deadLettered row rest hexhausted =>
      have hserves : drainer.serves row = true := by
        unfold serves
        rw [hexhausted, Bool.true_or]
      exact h.written rfl hserves (settling_markDeadLettered s.now row.commandId s.outbox)
  | skipped row rest exchange hexhausted hadapter =>
      have hserves : drainer.serves row = false := by
        unfold serves
        rw [hexhausted, hadapter]
        rfl
      exact h.skipped hserves
  | executed row rest exchange adapter hexhausted hadapter hl' =>
      have hserves : drainer.serves row = true := by
        unfold serves
        rw [hadapter, Option.isSome_some, Bool.or_true]
      rw [hl']
      split
      · exact h.executed rfl rfl hserves
      · exact h.executed rfl rfl hserves
  | sent row rest =>
      exact h.written rfl (h.inHand _ rfl) (settling_markSent s.now row.commandId s.outbox)
  | recorded row rest =>
      exact h.written rfl (h.inHand _ rfl) (settling_recordFailure drainer s.now row s.outbox)
  | ticked l elapsed =>
      exact ⟨Nat.le_add_right_of_le h.since_le, h.rows, h.inHand, h.known, h.settled, h.stuck⟩
  | enqueued l command => exact h.enqueued command

end OutboxDrainer

end Iara.Workers
