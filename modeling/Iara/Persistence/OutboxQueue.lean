import Iara.Lib.Batch
import Iara.Persistence.Leases
import Iara.Persistence.Outbox
import Mathlib.Data.List.Sort

/-!
# The outbox as a queue

The statements of `OutboxRepository` that the drainer runs.  The updates address
rows by their command id.
-/

namespace Iara.Persistence

open Iara.Lib

namespace OutboxRow

def markSent (r : OutboxRow) : OutboxRow := { r with status := .sent }

def markDeadLettered (r : OutboxRow) : OutboxRow := { r with status := .deadLettered }

def markFailedForRetry (nextAt : Nat) (r : OutboxRow) : OutboxRow :=
  { r with
    status := .pending
    retryCount := r.retryCount + 1
    scheduledAt := nextAt }

end OutboxRow

namespace OutboxRepository

def fetchPendingAll (limit now : Nat) (outbox : Outbox) : List OutboxRow :=
  let due := outbox.rows.filter fun r => r.status = .pending && r.scheduledAt ≤ now
  (due.insertionSort fun r r' => r.scheduledAt ≤ r'.scheduledAt).take limit

/-- `UPDATE ... SET f WHERE command_id = commandId`. -/
def updateCommand (commandId : String) (f : OutboxRow → OutboxRow) (hf : ∀ r, (f r).key = r.key)
    (outbox : Outbox) : Outbox :=
  outbox.update (fun r => r.commandId = commandId) f hf

def markSent (commandId : String) (outbox : Outbox) : Outbox :=
  updateCommand commandId OutboxRow.markSent (fun _ => rfl) outbox

def markDeadLettered (commandId : String) (outbox : Outbox) : Outbox :=
  updateCommand commandId OutboxRow.markDeadLettered (fun _ => rfl) outbox

def markFailedForRetry (now retryDelaySeconds : Nat) (commandId : String) (outbox : Outbox) :
    Outbox :=
  updateCommand commandId (OutboxRow.markFailedForRetry (now + timedelta retryDelaySeconds))
    (fun _ => rfl) outbox

theorem mem_fetchPendingAll {limit now : Nat} {outbox : Outbox} {r : OutboxRow}
    (h : r ∈ fetchPendingAll limit now outbox) :
    r ∈ outbox.rows ∧ r.status = .pending ∧ r.scheduledAt ≤ now := by
  unfold fetchPendingAll at h
  have hsorted := List.mem_of_mem_take h
  rw [List.mem_insertionSort, List.mem_filter] at hsorted
  simpa using hsorted

theorem nodup_fetchPendingAll (limit now : Nat) (outbox : Outbox) :
    ((fetchPendingAll limit now outbox).map OutboxRow.key).Nodup := by
  unfold fetchPendingAll
  apply List.Nodup.sublist ((List.take_sublist _ _).map _)
  apply ((List.perm_insertionSort _ _).map _).nodup_iff.2
  exact outbox.unique.sublist (List.filter_sublist.map _)

instance : Std.Total fun r r' : OutboxRow => r.scheduledAt ≤ r'.scheduledAt :=
  ⟨fun r r' => Nat.le_total r.scheduledAt r'.scheduledAt⟩

instance : IsTrans OutboxRow fun r r' => r.scheduledAt ≤ r'.scheduledAt :=
  ⟨fun _ _ _ => Nat.le_trans⟩

/-- A due row is left out only where rows that are no later fill the batch. -/
theorem fetchPendingAll_of_notMem {limit now : Nat} {outbox : Outbox} {r : OutboxRow}
    (hr : r ∈ outbox.rows) (hpending : r.status = .pending) (hdue : r.scheduledAt ≤ now)
    (hnot : r ∉ fetchPendingAll limit now outbox) :
    (fetchPendingAll limit now outbox).length = limit ∧
      ∀ r' ∈ fetchPendingAll limit now outbox, r'.scheduledAt ≤ r.scheduledAt := by
  have hmem : r ∈ outbox.rows.filter fun r => r.status = .pending && r.scheduledAt ≤ now := by
    rw [List.mem_filter]
    simp [hr, hpending, hdue]
  exact Batch.take_of_notMem (List.pairwise_insertionSort _ _) ((List.mem_insertionSort _).2 hmem)
    hnot

/-! ## What the updates leave alone -/

/-- The key and the command id of every row. -/
def identities (outbox : Outbox) : List ((Uuid × String) × String) :=
  outbox.rows.map fun r => (r.key, r.commandId)

/-- No two rows have one command id. -/
def DistinctIds (outbox : Outbox) : Prop := (outbox.rows.map OutboxRow.commandId).Nodup

theorem distinctIds_iff {outbox : Outbox} :
    DistinctIds outbox ↔ ((identities outbox).map Prod.snd).Nodup := by
  have hids : (identities outbox).map Prod.snd = outbox.rows.map OutboxRow.commandId := by
    unfold identities
    rw [List.map_map]
    rfl
  rw [hids]
  rfl

theorem identities_updateCommand {commandId : String} {f : OutboxRow → OutboxRow}
    {hf : ∀ r, (f r).key = r.key} (hid : ∀ r, (f r).commandId = r.commandId) (outbox : Outbox) :
    identities (updateCommand commandId f hf outbox) = identities outbox := by
  unfold identities updateCommand Table.update
  rw [List.map_map]
  apply List.map_congr_left
  intro r _
  simp only [Function.comp_apply]
  split
  · rw [hf r, hid r]
  · rfl

@[simp] theorem identities_markSent (commandId : String) (outbox : Outbox) :
    identities (markSent commandId outbox) = identities outbox := by
  unfold markSent
  apply identities_updateCommand
  intro r
  rfl

@[simp] theorem identities_markDeadLettered (commandId : String) (outbox : Outbox) :
    identities (markDeadLettered commandId outbox) = identities outbox := by
  unfold markDeadLettered
  apply identities_updateCommand
  intro r
  rfl

@[simp] theorem identities_markFailedForRetry (now delay : Nat) (commandId : String)
    (outbox : Outbox) :
    identities (markFailedForRetry now delay commandId outbox) = identities outbox := by
  unfold markFailedForRetry
  apply identities_updateCommand
  intro r
  rfl

/-- An update by the command id of a row changes that row and no other. -/
theorem find_updateCommand {outbox : Outbox} (h : DistinctIds outbox) {k : Uuid × String}
    {commandId : String} (hk : (k, commandId) ∈ identities outbox) {f : OutboxRow → OutboxRow}
    {hf : ∀ r, (f r).key = r.key} (k' : Uuid × String) :
    (updateCommand commandId f hf outbox).find k' =
      if k' = k then (outbox.find k).map f else outbox.find k' := by
  obtain ⟨r, hr, heq⟩ := List.mem_map.1 hk
  obtain ⟨hkey, hid⟩ := Prod.mk.inj heq
  have hfind : outbox.find k = some r := Table.find_eq_some_iff.2 ⟨hr, hkey⟩
  unfold updateCommand
  rw [Table.find_update]
  by_cases hk' : k' = k
  · rw [if_pos hk', hk', hfind]
    simp [hid]
  · rw [if_neg hk']
    cases hother : outbox.find k' with
    | none => rfl
    | some r' =>
        have hr' := Table.find_eq_some_iff.1 hother
        have hne : r'.commandId ≠ commandId := by
          intro hsame
          have hrow := List.inj_on_of_nodup_map h hr'.1 hr (hsame.trans hid.symm)
          rw [hrow] at hr'
          exact hk' (hr'.2.symm.trans hkey)
        simp [hne]

/-- An update by the command id of a row changes that row. -/
theorem find_updateCommand_self {outbox : Outbox} {k : Uuid × String} {row : OutboxRow}
    (hfind : outbox.find k = some row) {f : OutboxRow → OutboxRow} {hf : ∀ r, (f r).key = r.key} :
    (updateCommand row.commandId f hf outbox).find k = some (f row) := by
  unfold updateCommand
  rw [Table.find_update, hfind]
  simp

section Updated

variable {outbox : Outbox} {k : Uuid × String} {row : OutboxRow}

theorem find_markSent (hfind : outbox.find k = some row) :
    (markSent row.commandId outbox).find k = some row.markSent := by
  unfold markSent
  exact find_updateCommand_self hfind

theorem find_markDeadLettered (hfind : outbox.find k = some row) :
    (markDeadLettered row.commandId outbox).find k = some row.markDeadLettered := by
  unfold markDeadLettered
  exact find_updateCommand_self hfind

theorem find_markFailedForRetry (hfind : outbox.find k = some row) {now delay : Nat} :
    (markFailedForRetry now delay row.commandId outbox).find k =
      some (row.markFailedForRetry (now + timedelta delay)) := by
  unfold markFailedForRetry
  exact find_updateCommand_self hfind

end Updated

/-- A new row leaves the others alone. -/
theorem identities_enqueue (now : Nat) (command : ProviderCommand) (outbox : Outbox) :
    identities (enqueue now command outbox).1 =
      if outbox.hasKey (row now command).key then identities outbox
      else identities outbox ++ [((row now command).key, command.commandId)] := by
  unfold enqueue
  cases h : outbox.hasKey (row now command).key with
  | true =>
      rw [Table.insertOrIgnore_of_hasKey h]
      rfl
  | false =>
      unfold identities
      rw [Table.rows_insertOrIgnore_of_new h, List.map_append]
      rfl

/-- A command that is new to the outbox brings an id of its own. -/
theorem DistinctIds.enqueue {outbox : Outbox} (h : DistinctIds outbox) (now : Nat)
    {command : ProviderCommand}
    (hfresh : outbox.hasKey (command.tenantId, command.idempotencyKey) = true ∨
      ∀ r ∈ outbox.rows, r.commandId ≠ command.commandId) :
    DistinctIds (OutboxRepository.enqueue now command outbox).1 := by
  rw [distinctIds_iff, identities_enqueue]
  split
  · exact distinctIds_iff.1 h
  next hnew =>
    rcases hfresh with htaken | hfresh
    · exact absurd htaken hnew
    · rw [List.map_append, List.nodup_append]
      refine ⟨distinctIds_iff.1 h, by simp, ?_⟩
      intro commandId hold commandId' hnew' heq
      obtain ⟨p, hp, rfl⟩ := List.mem_map.1 hold
      obtain ⟨r, hr, rfl⟩ := List.mem_map.1 hp
      rw [List.map_singleton, List.mem_singleton] at hnew'
      exact hfresh r hr (heq.trans hnew')

theorem find_enqueue (now : Nat) (command : ProviderCommand) (outbox : Outbox)
    (k : Uuid × String) :
    (enqueue now command outbox).1.find k =
      (outbox.find k).or (if (row now command).key = k then some (row now command) else none) := by
  unfold enqueue
  exact Table.find_insertOrIgnore

end OutboxRepository

end Iara.Persistence
