import Iara.Memory.PostgresStore

/-!
# What a call of a memory store writes and sees

A call is at most one statement on the table (`Writes`), and what a store reads
and leaves in its namespace depends on the rows of the namespace only.
-/

namespace Iara.Memory

open Iara.Lib Iara.Persistence

variable {s : PostgresMemoryStore} {items items' : AgentMemoryItems} {ns : String}

/-! ## What a call writes -/

/-- What holds before and after the statement holds after the session. -/
theorem finish_induction {P : AgentMemoryItems → Prop} {session : Transaction}
    {answer : MemoryAnswer} (hbefore : P items) (hafter : P items') :
    P (finish session answer items items').2 := by
  cases session with
  | commits => exact hafter
  | fails e => exact hbefore
  | commitsThenFails e => exact hafter

namespace PostgresMemoryStore

/-- The tables a call can leave. -/
inductive Writes (s : PostgresMemoryStore) (items : AgentMemoryItems) : AgentMemoryItems → Prop
  | nothing : Writes s items items
  | overwrite (key content consentRef now) :
      Writes s items (s.overwriteItem key content consentRef now items)
  | insert (itemId key content consentRef now tenant) (henabled : s.enabled = true)
      (hnone : items.find (s.memoryNamespace, key) = none)
      (htenant : parseUuid s.tenantId = some tenant) :
      Writes s items
        (items.insertOrIgnore (s.newItem itemId key content consentRef now tenant))
  | purge (key) : Writes s items (items.delete (s.isItem key))
  | purgeTenant (tenant) (htenant : parseUuid s.tenantId = some tenant) :
      Writes s items (items.delete fun r => r.tenantId = tenant)
  | anonymize (key) : Writes s items (s.anonymizeItem key items)

theorem call_writes (s : PostgresMemoryStore) (items : AgentMemoryItems) (c : MemoryCall) :
    Writes s items (s.call c items).2 := by
  obtain ⟨op, session, now⟩ := c
  cases op with
  | store itemId key content consentRef =>
      simp only [call, store]
      split
      · exact .nothing
      · next henabled =>
        split
        · exact finish_induction .nothing (.overwrite _ _ _ _)
        · next hnone =>
          split
          · exact .nothing
          · next tenant htenant =>
            exact finish_induction .nothing
              (.insert _ _ _ _ _ _ (by simpa using henabled) hnone htenant)
  | retrieve key =>
      simp only [call, retrieve]
      split
      · exact .nothing
      · exact finish_induction .nothing .nothing
  | listRecent limit =>
      simp only [call, listRecent]
      split
      · exact .nothing
      · exact finish_induction .nothing .nothing
  | purge key => exact finish_induction .nothing (.purge _)
  | purgeTenant =>
      simp only [call, purgeTenant]
      split
      · exact .nothing
      · next tenant htenant => exact finish_induction .nothing (.purgeTenant _ htenant)
  | anonymize key => exact finish_induction .nothing (.anonymize _)

theorem call_of_reads {c : MemoryCall} (h : c.op.reads = true) : (s.call c items).2 = items := by
  obtain ⟨op, session, now⟩ := c
  cases op with
  | retrieve key =>
      simp only [call, retrieve]
      split
      · rfl
      · exact finish_induction (P := fun t => t = items) rfl rfl
  | listRecent limit =>
      simp only [call, listRecent]
      split
      · rfl
      · exact finish_induction (P := fun t => t = items) rfl rfl
  | store itemId key content consentRef => cases h
  | purge key => cases h
  | purgeTenant => cases h
  | anonymize key => cases h

end PostgresMemoryStore

/-! ## What a store sees -/

/-- The rows of a namespace. -/
def visible (ns : String) (items : AgentMemoryItems) : List AgentMemoryItem :=
  items.rows.filter fun r => r.memoryNamespace = ns

theorem mem_visible {r : AgentMemoryItem} :
    r ∈ visible ns items ↔ r ∈ items.rows ∧ r.memoryNamespace = ns := by
  simp [visible]

theorem find_eq_find?_visible (key : String) :
    items.find (ns, key) = (visible ns items).find? fun r => r.key = (ns, key) := by
  apply items.find_eq_find?_filter
  intro r hr
  have hns : r.memoryNamespace = ns := congrArg Prod.fst hr
  simp [hns]

theorem visible_update (p : AgentMemoryItem → Bool) (f : AgentMemoryItem → AgentMemoryItem)
    (hf : ∀ r, (f r).key = r.key) :
    visible ns (items.update p f hf) = (visible ns items).map fun r => if p r then f r else r := by
  apply items.filter_rows_update
  intro r
  have hns : (f r).memoryNamespace = r.memoryNamespace := congrArg Prod.fst (hf r)
  rw [hns]

theorem visible_delete (p : AgentMemoryItem → Bool) :
    visible ns (items.delete p) = (visible ns items).filter fun r => !p r :=
  items.filter_rows_delete p _

theorem visible_insert {r : AgentMemoryItem} (h : items.find r.key = none) :
    visible ns (items.insertOrIgnore r) =
      visible ns items ++ if r.memoryNamespace = ns then [r] else [] := by
  have hnew : items.hasKey (AgentMemoryItem.key r) = false := by
    rw [Table.hasKey_eq_isSome_find, h]
    rfl
  rw [visible, Table.filter_rows_insertOrIgnore_of_new _ hnew]
  simp [visible]

/-! ## The calls of a store -/

theorem visible_finish_congr {session : Transaction} {answer answer' : MemoryAnswer}
    {after after' : AgentMemoryItems} (hbefore : visible ns items = visible ns items')
    (hafter : visible ns after = visible ns after') :
    visible ns (finish session answer items after).2 =
      visible ns (finish session answer' items' after').2 := by
  cases session with
  | commits => exact hafter
  | fails e => exact hbefore
  | commitsThenFails e => exact hafter

theorem finish_answer_congr {session : Transaction} {answer answer' : MemoryAnswer}
    {after after' : AgentMemoryItems} (h : answer = answer') :
    (finish session answer items after).1 = (finish session answer' items' after').1 := by
  rw [h]
  cases session <;> rfl

namespace PostgresMemoryStore

theorem visible_overwriteItem (key content : String) (consentRef : Option String) (now : Int) :
    visible ns (s.overwriteItem key content consentRef now items) =
      (visible ns items).map fun r =>
        if s.isItem key r then
          r.overwrite content consentRef now (now + dayLength * s.ttlDays)
        else r := by
  unfold overwriteItem
  exact visible_update _ _ _

theorem visible_anonymizeItem (key : String) :
    visible ns (s.anonymizeItem key items) =
      (visible ns items).map fun r => if s.isItem key r then r.anonymized else r := by
  unfold anonymizeItem
  exact visible_update _ _ _

theorem visible_insertItem {itemId key content : String} {consentRef : Option String} {now : Int}
    {tenant : Uuid} (h : items.find (s.memoryNamespace, key) = none) :
    visible ns (items.insertOrIgnore (s.newItem itemId key content consentRef now tenant)) =
      visible ns items ++ if s.memoryNamespace = ns then
        [s.newItem itemId key content consentRef now tenant] else [] :=
  visible_insert (r := s.newItem itemId key content consentRef now tenant) h

/-- What a store reads is in its namespace. -/
theorem answer_congr {c : MemoryCall} (h : visible s.memoryNamespace items =
    visible s.memoryNamespace items') (hreads : c.op.reads = true) :
    (s.call c items).1 = (s.call c items').1 := by
  obtain ⟨op, session, now⟩ := c
  cases op with
  | retrieve key =>
      simp only [call, retrieve]
      split
      · rfl
      · apply finish_answer_congr
        rw [find_eq_find?_visible, find_eq_find?_visible, h]
  | listRecent limit =>
      simp only [call, listRecent]
      split
      · rfl
      · apply finish_answer_congr
        have hlive : ∀ items : AgentMemoryItems,
            (items.rows.filter fun r => r.memoryNamespace = s.memoryNamespace ∧
              now < r.expiresAt ∧ r.isAnonymized = false) =
            (visible s.memoryNamespace items).filter fun r =>
              now < r.expiresAt ∧ r.isAnonymized = false := by
          intro items
          simp [visible, List.filter_filter, Bool.and_comm]
        unfold recent
        rw [hlive, hlive, h]
  | store itemId key content consentRef => cases hreads
  | purge key => cases hreads
  | purgeTenant => cases hreads
  | anonymize key => cases hreads

/-- What a store leaves in its namespace depends on its namespace only. -/
theorem visible_call_congr {c : MemoryCall} (h : visible s.memoryNamespace items =
    visible s.memoryNamespace items') :
    visible s.memoryNamespace (s.call c items).2 =
      visible s.memoryNamespace (s.call c items').2 := by
  obtain ⟨op, session, now⟩ := c
  have hfind : ∀ key, items.find (s.memoryNamespace, key) =
      items'.find (s.memoryNamespace, key) := by
    intro key
    rw [find_eq_find?_visible, find_eq_find?_visible, h]
  cases op with
  | store itemId key content consentRef =>
      simp only [call, store, hfind key]
      split
      · exact h
      · split
        · apply visible_finish_congr h
          rw [visible_overwriteItem, visible_overwriteItem, h]
        · next hnone =>
          split
          · exact h
          · apply visible_finish_congr h
            have hnone' := (hfind key).trans hnone
            rw [visible_insertItem hnone', visible_insertItem hnone, h]
  | retrieve key =>
      simp only [call, retrieve]
      split
      · exact h
      · exact visible_finish_congr h h
  | listRecent limit =>
      simp only [call, listRecent]
      split
      · exact h
      · exact visible_finish_congr h h
  | purge key =>
      apply visible_finish_congr h
      rw [visible_delete, visible_delete, h]
  | purgeTenant =>
      simp only [call, purgeTenant]
      split
      · exact h
      · apply visible_finish_congr h
        rw [visible_delete, visible_delete, h]
  | anonymize key =>
      apply visible_finish_congr h
      rw [visible_anonymizeItem, visible_anonymizeItem, h]

/-! ### The calls of another store -/

theorem map_ite_eq_self {rows : List AgentMemoryItem} {p : AgentMemoryItem → Bool}
    {f : AgentMemoryItem → AgentMemoryItem} (h : ∀ r ∈ rows, p r = false) :
    (rows.map fun r => if p r then f r else r) = rows := by
  calc
    (rows.map fun r => if p r then f r else r) = rows.map id := by
      apply List.map_congr_left
      intro r hr
      rw [h r hr]
      rfl
    _ = rows := List.map_id rows

theorem isItem_eq_false {key : String} {r : AgentMemoryItem}
    (h : r.memoryNamespace ≠ s.memoryNamespace) : s.isItem key r = false := by
  simp [isItem, h]

/-- A store leaves the other namespaces alone, where no row is of its tenant. -/
theorem visible_call_of_other {c : MemoryCall} (hns : s.memoryNamespace ≠ ns)
    (hrows : ∀ r ∈ visible ns items, parseUuid s.tenantId ≠ some r.tenantId) :
    visible ns (s.call c items).2 = visible ns items := by
  have hother : ∀ key, ∀ r ∈ visible ns items, s.isItem key r = false := by
    intro key r hr
    apply isItem_eq_false
    rw [(mem_visible.1 hr).2]
    exact hns.symm
  have hwrites := s.call_writes items c
  generalize (s.call c items).2 = left at hwrites ⊢
  cases hwrites with
  | nothing => rfl
  | overwrite key content consentRef now =>
      rw [visible_overwriteItem, map_ite_eq_self (hother key)]
  | insert itemId key content consentRef now tenant henabled hnone htenant =>
      rw [visible_insertItem hnone, if_neg hns, List.append_nil]
  | purge key =>
      rw [visible_delete, List.filter_eq_self]
      intro r hr
      rw [hother key r hr]
      rfl
  | purgeTenant tenant htenant =>
      rw [visible_delete, List.filter_eq_self]
      intro r hr
      have hne : r.tenantId ≠ tenant := by
        intro h
        apply hrows r hr
        rw [htenant, h]
      simp [hne]
  | anonymize key => rw [visible_anonymizeItem, map_ite_eq_self (hother key)]

/-- A row that a store leaves is an old one, or one that it has inserted. -/
theorem origin_of_mem_call {c : MemoryCall} {r : AgentMemoryItem}
    (h : r ∈ visible ns (s.call c items).2) :
    (∃ r₀ ∈ visible ns items, r₀.tenantId = r.tenantId) ∨
      (s.enabled = true ∧ parseUuid s.tenantId = some r.tenantId) := by
  have hwrites := s.call_writes items c
  generalize (s.call c items).2 = left at hwrites h
  revert h
  cases hwrites with
  | nothing => exact fun hr => Or.inl ⟨r, hr, rfl⟩
  | overwrite key content consentRef now =>
      rw [visible_overwriteItem, List.mem_map]
      rintro ⟨r₀, hr₀, rfl⟩
      refine Or.inl ⟨r₀, hr₀, ?_⟩
      split <;> rfl
  | insert itemId key content consentRef now tenant henabled hnone htenant =>
      rw [visible_insertItem hnone, List.mem_append]
      rintro (hr | hr)
      · exact Or.inl ⟨r, hr, rfl⟩
      · split at hr
        · rw [List.mem_singleton.1 hr]
          exact Or.inr ⟨henabled, htenant⟩
        · cases hr
  | purge key =>
      rw [visible_delete]
      exact fun hr => Or.inl ⟨r, List.mem_of_mem_filter hr, rfl⟩
  | purgeTenant tenant htenant =>
      rw [visible_delete]
      exact fun hr => Or.inl ⟨r, List.mem_of_mem_filter hr, rfl⟩
  | anonymize key =>
      rw [visible_anonymizeItem, List.mem_map]
      rintro ⟨r₀, hr₀, rfl⟩
      refine Or.inl ⟨r₀, hr₀, ?_⟩
      split <;> rfl

theorem answer_of_disabled {c : MemoryCall} (hdisabled : s.enabled = false)
    (hreads : c.op.reads = true) : (s.call c items).1 = (s.call c items').1 := by
  obtain ⟨op, session, now⟩ := c
  cases op with
  | retrieve key => simp [call, retrieve, hdisabled]
  | listRecent limit => simp [call, listRecent, hdisabled]
  | store itemId key content consentRef => cases hreads
  | purge key => cases hreads
  | purgeTenant => cases hreads
  | anonymize key => cases hreads

/-! ## The row of a key -/

theorem isItem_iff {key : String} {r : AgentMemoryItem} :
    s.isItem key r = true ↔ r.key = (s.memoryNamespace, key) := by
  simp [isItem, AgentMemoryItem.key]

theorem find_updateItem (f : AgentMemoryItem → AgentMemoryItem) (hf : ∀ r, (f r).key = r.key)
    (table : AgentMemoryItems) (key : String) (k : String × String) :
    (table.update (s.isItem key) f hf).find k =
      if k = (s.memoryNamespace, key) then (table.find k).map f else table.find k := by
  rw [Table.find_update]
  cases hfind : table.find k with
  | none => simp
  | some r =>
      have hkey : r.key = k := (Table.find_eq_some_iff.1 hfind).2
      rw [Option.map_some, ← hkey]
      by_cases hitem : r.key = (s.memoryNamespace, key)
      · rw [if_pos (isItem_iff.2 hitem), if_pos hitem, Option.map_some]
      · rw [if_neg (mt isItem_iff.1 hitem), if_neg hitem]

theorem find_deleteItem (table : AgentMemoryItems) (key : String) (k : String × String) :
    (table.delete (s.isItem key)).find k =
      if k = (s.memoryNamespace, key) then none else table.find k := by
  rw [Table.find_delete]
  cases hfind : table.find k with
  | none => simp
  | some r =>
      have hkey : r.key = k := (Table.find_eq_some_iff.1 hfind).2
      rw [← hkey]
      by_cases hitem : r.key = (s.memoryNamespace, key)
      · rw [Option.filter_some_neg (by simp [isItem_iff.2 hitem]), if_pos hitem]
      · rw [Option.filter_some_pos (by simp [mt isItem_iff.1 hitem]), if_neg hitem]

theorem any_isItem (table : AgentMemoryItems) (key : String) :
    table.rows.any (s.isItem key) = (table.find (s.memoryNamespace, key)).isSome := by
  rw [← Table.hasKey_eq_isSome_find]
  unfold Table.hasKey
  congr 1
  funext r
  simp [isItem, AgentMemoryItem.key]

end PostgresMemoryStore

end Iara.Memory
