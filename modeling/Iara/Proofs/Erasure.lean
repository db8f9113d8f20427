import Iara.Lib.Agreement
import Iara.Memory.StoreCalls

/-!
# Complete erasure

`purge_tenant` deletes by the tenant of a row, which is that of the store that
inserted it.  A store of another tenant that shares the namespace overwrites the
content and leaves the tenant: what it wrote there it cannot erase.
-/

namespace Iara.Memory

open Iara.Lib Iara.Persistence

/-! ## Who wrote what -/

def landed : Transaction → Bool
  | .fails _ => false
  | _ => true

/-- The row whose content a call writes, where it writes one. -/
def PostgresMemoryStore.writtenKey (s : PostgresMemoryStore) (c : MemoryCall)
    (items : AgentMemoryItems) : Option (String × String) :=
  match c.op with
  | .store _ key _ _ =>
      if landed c.session && s.enabled &&
          ((items.find (s.memoryNamespace, key)).isSome || (parseUuid s.tenantId).isSome) then
        some (s.memoryNamespace, key)
      else none
  | .anonymize key =>
      if landed c.session && (items.find (s.memoryNamespace, key)).isSome then
        some (s.memoryNamespace, key)
      else none
  | _ => none

/-- The table, and the store that wrote the content of each row last. -/
structure Written where
  items : AgentMemoryItems := .empty
  writer : String × String → Option PostgresMemoryStore := fun _ => none

/-- A call of one of the stores over the table. -/
structure StoreCall where
  store : PostgresMemoryStore
  call : MemoryCall

def Written.next (w : Written) (e : StoreCall) : Written where
  items := (e.store.call e.call w.items).2
  writer :=
    match e.store.writtenKey e.call w.items with
    | some key => Function.update w.writer key (some e.store)
    | none => w.writer

def memoryTable : Component Written StoreCall MemoryAnswer :=
  ⟨fun w e => ((e.store.call e.call w.items).1, w.next e)⟩

/-- Right after a `purge_tenant` of any tenant's store that comes through, no row
holds a content that a store of the tenant wrote last. -/
def Written.Erases (w : Written) : Prop :=
  ∀ (e : StoreCall) (n : Nat) (tenant : Uuid), e.call.op = .purgeTenant →
    (e.store.call e.call w.items).1 = .count n → parseUuid e.store.tenantId = some tenant →
      ∀ r ∈ (w.next e).items.rows, ∀ s, (w.next e).writer r.key = some s →
        parseUuid s.tenantId ≠ some tenant

/-- The call writes a row that is another tenant's. -/
def Written.WritesForeign (w : Written) (e : StoreCall) : Prop :=
  ∃ key r tenant, e.store.writtenKey e.call w.items = some key ∧ w.items.find key = some r ∧
    parseUuid e.store.tenantId = some tenant ∧ tenant ≠ r.tenantId

/-! ## One call -/

namespace PostgresMemoryStore

variable {s : PostgresMemoryStore} {c : MemoryCall} {items : AgentMemoryItems}
  {key k : String × String}

theorem finish_of_landed {session : Transaction} {answer : MemoryAnswer}
    {before after : AgentMemoryItems} (h : landed session = true) :
    (finish session answer before after).2 = after := by
  cases session with
  | commits => rfl
  | fails e => cases h
  | commitsThenFails e => rfl

theorem finish_of_not_landed {session : Transaction} {answer : MemoryAnswer}
    {before after : AgentMemoryItems} (h : landed session = false) :
    (finish session answer before after).2 = before := by
  cases session with
  | commits => cases h
  | fails e => rfl
  | commitsThenFails e => cases h

/-- A written row keeps its tenant, or is new and of the tenant of the store. -/
theorem find_of_written (h : s.writtenKey c items = some key) :
    ∃ r', (∀ k, (s.call c items).2.find k = if k = key then some r' else items.find k) ∧
      (items.find key).elim (parseUuid s.tenantId = some r'.tenantId)
        fun r => r'.tenantId = r.tenantId := by
  obtain ⟨op, session, now⟩ := c
  cases op with
  | store itemId itemKey content consentRef =>
      simp only [writtenKey] at h
      split at h
      next hwritten =>
        cases h
        rw [Bool.and_eq_true, Bool.and_eq_true] at hwritten
        obtain ⟨⟨hlanded, henabled⟩, hrow⟩ := hwritten
        simp only [call, store, henabled, Bool.not_true, Bool.false_eq_true, if_false]
        cases hfind : items.find (s.memoryNamespace, itemKey) with
        | some r =>
            refine ⟨r.overwrite content consentRef now (now + dayLength * s.ttlDays),
              fun k => ?_, rfl⟩
            simp only [finish_of_landed hlanded]
            refine (find_updateItem _ _ items itemKey k).trans ?_
            by_cases hk : k = (s.memoryNamespace, itemKey)
            · rw [if_pos hk, if_pos hk, hk, hfind]
              rfl
            · rw [if_neg hk, if_neg hk]
        | none =>
            rw [hfind, Option.isSome_none, Bool.false_or] at hrow
            obtain ⟨tenant, htenant⟩ := Option.isSome_iff_exists.1 hrow
            refine ⟨s.newItem itemId itemKey content consentRef now tenant, fun k => ?_, htenant⟩
            simp only [htenant, finish_of_landed hlanded]
            rw [Table.find_insertOrIgnore]
            by_cases hk : k = (s.memoryNamespace, itemKey)
            · subst hk
              rw [hfind, Option.none_or, if_pos rfl]
              exact if_pos rfl
            · have hother : (s.newItem itemId itemKey content consentRef now tenant).key ≠ k :=
                Ne.symm hk
              rw [if_neg hother, if_neg hk, Option.or_none]
      next => cases h
  | anonymize itemKey =>
      simp only [writtenKey] at h
      split at h
      next hwritten =>
        cases h
        rw [Bool.and_eq_true] at hwritten
        obtain ⟨hlanded, hrow⟩ := hwritten
        obtain ⟨r, hfind⟩ := Option.isSome_iff_exists.1 hrow
        refine ⟨r.anonymized, fun k => ?_, by rw [hfind]; rfl⟩
        simp only [call, anonymize, finish_of_landed hlanded]
        refine (find_updateItem _ _ items itemKey k).trans ?_
        by_cases hk : k = (s.memoryNamespace, itemKey)
        · rw [if_pos hk, if_pos hk, hk, hfind]
          rfl
        · rw [if_neg hk, if_neg hk]
      next => cases h
  | retrieve itemKey => cases h
  | listRecent limit => cases h
  | purge itemKey => cases h
  | purgeTenant => cases h

section NotWritten

variable {itemId itemKey content : String} {consentRef : Option String} {session : Transaction}
  {now : Int}

theorem store_of_not_written
    (h : s.writtenKey ⟨.store itemId itemKey content consentRef, session, now⟩ items = none) :
    (s.call ⟨.store itemId itemKey content consentRef, session, now⟩ items).2 = items := by
  simp only [call, store]
  cases hlanded : landed session with
  | false =>
      split
      · rfl
      · split
        · exact finish_of_not_landed hlanded
        · split
          · rfl
          · exact finish_of_not_landed hlanded
  | true =>
      cases henabled : s.enabled with
      | false => rfl
      | true =>
          simp only [writtenKey, hlanded, henabled, Bool.and_self, Bool.true_and] at h
          split at h
          · cases h
          next hnew =>
            rw [Bool.or_eq_true, not_or, Bool.not_eq_true, Bool.not_eq_true,
              Option.isSome_eq_false_iff, Option.isNone_iff_eq_none, Option.isSome_eq_false_iff,
              Option.isNone_iff_eq_none] at hnew
            simp only [hnew.1, hnew.2]
            rfl

/-- There is no row to anonymize, or the session does not commit. -/
theorem find_anonymize_of_not_written
    (h : s.writtenKey ⟨.anonymize itemKey, session, now⟩ items = none) :
    (s.call ⟨.anonymize itemKey, session, now⟩ items).2.find k = items.find k := by
  simp only [call, anonymize]
  cases hlanded : landed session with
  | false => rw [finish_of_not_landed hlanded]
  | true =>
      rw [finish_of_landed hlanded]
      simp only [writtenKey, hlanded, Bool.true_and] at h
      split at h
      · cases h
      next hnone =>
        rw [Option.not_isSome_iff_eq_none] at hnone
        refine (find_updateItem _ _ items itemKey k).trans ?_
        by_cases hk : k = (s.memoryNamespace, itemKey)
        · rw [if_pos hk, hk, hnone]
          rfl
        · rw [if_neg hk]

end NotWritten

/-- A call that writes no content leaves a row as it is or deletes it. -/
theorem find_of_not_written (h : s.writtenKey c items = none) {r : AgentMemoryItem}
    (hr : (s.call c items).2.find k = some r) : items.find k = some r := by
  have hdelete (p : AgentMemoryItem → Bool) (hr : (items.delete p).find k = some r) :
      items.find k = some r := by
    rw [Table.find_delete, Option.filter_eq_some_iff] at hr
    exact hr.1
  obtain ⟨op, session, now⟩ := c
  cases op with
  | store itemId itemKey content consentRef => rwa [store_of_not_written h] at hr
  | anonymize itemKey => rwa [find_anonymize_of_not_written h] at hr
  | retrieve itemKey => rwa [call_of_reads rfl] at hr
  | listRecent limit => rwa [call_of_reads rfl] at hr
  | purge itemKey =>
      revert hr
      exact finish_induction (P := fun t => t.find k = some r → items.find k = some r) id
        (hdelete _)
  | purgeTenant =>
      revert hr
      simp only [call, purgeTenant]
      split
      · exact id
      · exact finish_induction (P := fun t => t.find k = some r → items.find k = some r) id
          (hdelete _)

end PostgresMemoryStore

/-! ## Ownership -/

/-- Every content was written last by a store of the tenant of its row, or by one
whose tenant is no UUID. -/
def Written.Owned (w : Written) : Prop :=
  ∀ key r s tenant, w.items.find key = some r → w.writer key = some s →
    parseUuid s.tenantId = some tenant → tenant = r.tenantId

variable {w : Written} {e : StoreCall}

/-- A call that is not foreign, and only such a call, leaves every content owned. -/
theorem Written.Owned.next_iff (h : w.Owned) (e : StoreCall) :
    (w.next e).Owned ↔ ¬ w.WritesForeign e := by
  cases hwritten : e.store.writtenKey e.call w.items with
  | none =>
      have hwriter : (w.next e).writer = w.writer := by simp only [next, hwritten]
      constructor
      · rintro - ⟨key, r, tenant, hkey, -⟩
        rw [hwritten] at hkey
        cases hkey
      · intro _ key r s tenant hfind hs htenant
        rw [hwriter] at hs
        exact h key r s tenant (PostgresMemoryStore.find_of_not_written hwritten hfind) hs htenant
  | some key =>
      obtain ⟨r', hfind, hr'⟩ := PostgresMemoryStore.find_of_written hwritten
      have hwriter : (w.next e).writer = Function.update w.writer key (some e.store) := by
        simp only [next, hwritten]
      constructor
      · rintro howned ⟨key', r, tenant, hkey', hr, htenant, hforeign⟩
        obtain rfl := Option.some.inj (hwritten.symm.trans hkey')
        rw [hr] at hr'
        apply hforeign
        rw [← show r'.tenantId = r.tenantId from hr']
        refine howned key r' e.store tenant ?_ ?_ htenant
        · exact (hfind key).trans (if_pos rfl)
        · rw [hwriter, Function.update_self]
      · intro hforeign k r s tenant hr hs htenant
        have hr : (e.store.call e.call w.items).2.find k = some r := hr
        rw [hfind] at hr
        rw [hwriter] at hs
        by_cases hk : k = key
        · subst hk
          rw [if_pos rfl, Option.some.injEq] at hr
          rw [Function.update_self, Option.some.injEq] at hs
          subst hr hs
          cases hold : w.items.find k with
          | none =>
              rw [hold] at hr'
              exact Option.some.inj (htenant.symm.trans hr')
          | some r₀ =>
              rw [hold] at hr'
              by_contra hne
              exact hforeign ⟨k, r₀, tenant, hwritten, hold, htenant, fun heq =>
                hne (heq.trans (Eq.symm hr'))⟩
        · rw [if_neg hk] at hr
          rw [Function.update_of_ne hk] at hs
          exact h k r s tenant hr hs htenant

/-- A purge erases everything exactly if every content is owned. -/
theorem Written.erases_iff_owned : w.Erases ↔ w.Owned := by
  constructor
  · intro h key r s tenant hfind hs htenant
    by_contra hne
    obtain ⟨hmem, hkey⟩ := Table.find_eq_some_iff.1 hfind
    have hnext : w.next ⟨s, .purgeTenant, .commits, 0⟩ =
        { w with items := w.items.delete fun r => r.tenantId = tenant } := by
      simp only [next, PostgresMemoryStore.call, PostgresMemoryStore.purgeTenant, htenant]
      rfl
    have hanswer : (s.call ⟨.purgeTenant, .commits, 0⟩ w.items).1 =
        .count (w.items.rows.countP fun r => r.tenantId = tenant) := by
      simp only [PostgresMemoryStore.call, PostgresMemoryStore.purgeTenant, htenant]
      rfl
    refine h ⟨s, .purgeTenant, .commits, 0⟩ _ tenant rfl hanswer htenant r ?_ s ?_ htenant
    · rw [hnext]
      exact Table.mem_delete.2 ⟨hmem, by simpa using Ne.symm hne⟩
    · rw [hnext, hkey]
      exact hs
  · intro h e n tenant hop hanswer htenant r hr s hs hs'
    obtain ⟨store, op, session, now⟩ := e
    cases hop
    simp only [PostgresMemoryStore.call, PostgresMemoryStore.purgeTenant, htenant] at hanswer
    have hlanded : session = .commits := by
      cases session with
      | commits => rfl
      | fails exception => cases hanswer
      | commitsThenFails exception => cases hanswer
    subst hlanded
    have hnext : w.next ⟨store, .purgeTenant, .commits, now⟩ =
        { w with items := w.items.delete fun r => r.tenantId = tenant } := by
      simp only [next, PostgresMemoryStore.call, PostgresMemoryStore.purgeTenant, htenant]
      rfl
    rw [hnext] at hr hs
    obtain ⟨hmem, hother⟩ := Table.mem_delete.1 hr
    have howned := h r.key r s tenant (Table.find_eq_some_iff.2 ⟨hmem, rfl⟩) hs hs'
    simp [howned] at hother

/-- Along a history of calls on an empty table erasure stays complete exactly if no
call writes a row of another tenant. -/
theorem erasure_iff (history : List StoreCall) :
    (∀ before rest, history = before ++ rest → (memoryTable.after {} before).Erases) ↔
      memoryTable.Throughout (fun w e => ¬ w.WritesForeign e) {} history := by
  simp only [Written.erases_iff_owned]
  refine Component.prefix_invariant_iff (fun w e h => h.next_iff e) ?_
  intro key r s tenant hfind
  cases hfind

section Example

def storeOf (tenantId : String) : PostgresMemoryStore where
  tenantId := tenantId
  memoryNamespace := "shared"
  enabled := true
  ttlDays := 90

def storeA : PostgresMemoryStore := storeOf "00000000000000000000000000000001"
def storeB : PostgresMemoryStore := storeOf "00000000000000000000000000000002"

/-- A stores an item, B stores one under the same key, and B's tenant is purged. -/
def overwritten : List StoreCall :=
  [⟨storeA, .store "i" "fact" "of A" none, .commits, 0⟩,
    ⟨storeB, .store "j" "fact" "of B" none, .commits, 1⟩]

theorem content_of_b_survives :
    ((memoryTable.after {} overwritten).next ⟨storeB, .purgeTenant, .commits, 2⟩).items.rows.map
        AgentMemoryItem.content = ["of B"] ∧
      ¬ (memoryTable.after {} overwritten).Erases := by
  refine ⟨by decide +kernel, ?_⟩
  rw [Written.erases_iff_owned]
  intro howned
  let key := ("shared", "fact")
  have hrow : ((memoryTable.after {} overwritten).items.find key).map
      AgentMemoryItem.tenantId = some 1 := by decide +kernel
  have hwriter : ((memoryTable.after {} overwritten).writer key).bind
      (fun s => parseUuid s.tenantId) = some 2 := by decide +kernel
  obtain ⟨r, hr, hone⟩ := Option.map_eq_some_iff.1 hrow
  obtain ⟨s, hs, htwo⟩ := Option.bind_eq_some_iff.1 hwriter
  have hequal := howned key r s 2 hr hs htwo
  rw [hone] at hequal
  exact absurd hequal (by decide)

end Example

end Iara.Memory
