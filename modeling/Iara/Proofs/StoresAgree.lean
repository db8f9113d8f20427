import Iara.Memory.MemoryStore
import Iara.Memory.StoreCalls

/-!
# The memory stores side by side

What both stores hold follows from the calls: the lives of the items.  They part on an
item that was stored again after it had been anonymized, at the instant of its expiry,
once the dictionary has dropped it, where a column shortens a text, and where Postgres
does not take a value.
-/

namespace Iara.Memory

open Iara.Lib Iara.Persistence

/-! ## The lives of items -/

/-- Where an item is.  The dictionary drops what has expired and the table does not, and a
key that is shortened is one key of the dictionary and another of the table. -/
inductive Place where
  | both
  | table
  | dictionary
  deriving DecidableEq, Repr

/-- An item by what happened to it: how it was last stored, and whether it was anonymized
since then, or since its row is there. -/
structure Life where
  content : String
  consentRef : Option String
  storedConsentRef : Option String
  expiresAt : Int
  anonymized : Bool := false
  onceAnonymized : Bool := false
  place : Place := .both
  deriving DecidableEq, Repr

namespace Life

def hasRow (l : Life) : Bool := l.place ≠ .dictionary

/-- The dictionary drops an item that it finds expired. -/
def afterRetrieve (now : Int) (l : Life) : Option Life :=
  if l.expiresAt < now then
    if l.hasRow then some { l with place := .table } else none
  else some l

def afterAnonymize (l : Life) : Life :=
  { l with
    content := "[ANONYMIZED]"
    anonymized := true
    onceAnonymized := true }

/-- A row that was there before the first call. -/
def ofOldRow (r : AgentMemoryItem) : Life where
  content := r.content
  consentRef := r.consentRef
  storedConsentRef := r.consentRef
  expiresAt := r.expiresAt
  onceAnonymized := r.isAnonymized
  place := .table

/-- What the row of an item shows: its flag outlives a later `store`. -/
def ofRow (l : Life) : ItemView := ⟨l.content, l.onceAnonymized, l.storedConsentRef⟩

def ofItem (l : Life) : ItemView := ⟨l.content, l.anonymized, l.consentRef⟩

/-- Where `retrieve` shows another item, or an item of one store only. -/
def PartsRead (l : Life) (now : Int) : Place → Prop
  | .both =>
      now = l.expiresAt ∨
        (now < l.expiresAt ∧
          (l.anonymized ≠ l.onceAnonymized ∨ l.consentRef ≠ l.storedConsentRef))
  | .table => now < l.expiresAt
  | .dictionary => now ≤ l.expiresAt

/-- Where the stores part on the item of the call. -/
def Parts (l : Life) (c : ItemCall) : Prop :=
  match c.op with
  | .store _ _ _ => False
  | .retrieve _ => l.PartsRead c.now l.place
  | _ => l.place ≠ .both

end Life

/-- The lives by namespace and key. -/
abbrev Lives := String × String → Option Life

namespace Lives

/-- What is in the table before the first call, while the dictionary is empty. -/
def start (table : AgentMemoryItems) : Lives := fun k => (table.find k).map Life.ofOldRow

/-- The keys that the table has. -/
def known (g : Lives) (k : String × String) : Bool := (g k).any Life.hasRow

/-- An item is stored under its own key and in the row of another, where that is another. -/
def put (g : Lives) (own stored : String × String) (l : Life) : Lives :=
  if stored = own then Function.update g own (some l)
  else
    Function.update (Function.update g stored (some { l with place := .table })) own
      (some { l with place := .dictionary })

variable (s : PostgresMemoryStore) (d : MemoryDatabase) (g : Lives)

def store (key content : String) (consentRef : Option String) (now : Int) : Lives :=
  if expiryFits s.ttlDays now then
    match s.written d g.known key content consentRef with
    | .error _ => g
    | .ok (stored, consent) =>
        g.put (s.rowKey key) stored
          { content := content
            consentRef := consentRef
            storedConsentRef := consent
            expiresAt := now + dayLength * s.ttlDays
            onceAnonymized := ((g stored).map Life.onceAnonymized).getD false }
  else g

def next (c : ItemCall) : Lives :=
  match c.op with
  | .store key content consentRef => g.store s d key content consentRef c.now
  | .retrieve key =>
      Function.update g (s.rowKey key) ((g (s.rowKey key)).bind (Life.afterRetrieve c.now))
  | .purge key => Function.update g (s.rowKey key) none
  | .anonymize key =>
      Function.update g (s.rowKey key) ((g (s.rowKey key)).map Life.afterAnonymize)

/-- Where the stores part: `store` writes no row, though the dictionary takes the item; the key
cannot be sent to Postgres; or the item of the key parts them. -/
def Parts (c : ItemCall) : Prop :=
  match c.op with
  | .store key content consentRef =>
      expiryFits s.ttlDays c.now = true ∧
        ∃ exception, s.written d g.known key content consentRef = .error exception
  | op => s.sendsKey op.key = false ∨ ∃ l, g (s.rowKey op.key) = some l ∧ l.Parts c

end Lives

def lives (s : PostgresMemoryStore) (d : MemoryDatabase) : Component Lives ItemCall Unit :=
  ⟨fun g c => ((), g.next s d c)⟩

/-! ## Calls on one item -/

namespace PostgresMemoryStore

variable {s : PostgresMemoryStore} {d : MemoryDatabase} {known : String × String → Bool}
  {key content : String} {consentRef consent : Option String} {stored : String × String}

/-- The row that is written is the one that was found, or a new one. -/
theorem written_ok (h : s.written d known key content consentRef = .ok (stored, consent)) :
    (stored = s.rowKey key ∧ known (s.rowKey key) = true) ∨
      (d.storedKey (s.rowKey key) = some stored ∧ known (s.rowKey key) = false ∧
        known stored = false ∧ ∃ tenant, parseUuid s.tenantId = some tenant) := by
  unfold written at h
  split at h
  next => cases h
  next =>
    split at h
    next hknown =>
      split at h
      next => cases h
      next =>
        cases h
        exact .inl ⟨rfl, hknown⟩
    next hknown =>
      split at h
      next => cases h
      next tenant htenant =>
        split at h
        next consent' stored' _ hstored =>
          split at h
          next => cases h
          next hnew =>
            cases h
            rw [Bool.or_eq_true, not_or, Bool.not_eq_true, Bool.not_eq_true] at hnew
            exact .inr ⟨hstored, by simpa using hknown, hnew.2, tenant, htenant⟩
        next => cases h

variable {itemId : String} {now : Int} {table : AgentMemoryItems}

/-- A `store` whose session commits leaves one row under its key, and the others as they were. -/
theorem store_commits (henabled : s.enabled = true)
    (htenant : table.find (s.rowKey key) = none → ∃ tenant, parseUuid s.tenantId = some tenant) :
    (s.store itemId key content consentRef .commits now table).1 = .flag true ∧
      ∃ r : AgentMemoryItem,
        r.view = ⟨content,
          ((table.find (s.rowKey key)).map AgentMemoryItem.isAnonymized).getD false, consentRef⟩ ∧
        r.expiresAt = now + dayLength * s.ttlDays ∧
        (s.store itemId key content consentRef .commits now table).2.find =
          Function.update table.find (s.rowKey key) (some r) := by
  unfold store rowKey at *
  simp only [henabled, Bool.not_true, Bool.false_eq_true, if_false]
  cases hfind : table.find (s.memoryNamespace, key) with
  | some old =>
      refine ⟨rfl, old.overwrite content consentRef now (now + dayLength * s.ttlDays), rfl, rfl, ?_⟩
      funext k
      have hupdated : (s.overwriteItem key content consentRef now table).find k = _ :=
        find_updateItem _ _ table key k
      refine hupdated.trans ?_
      by_cases hk : k = (s.memoryNamespace, key)
      · subst hk
        rw [if_pos rfl, hfind, Function.update_self]
        rfl
      · rw [if_neg hk, Function.update_of_ne hk]
  | none =>
      obtain ⟨tenant, hparsed⟩ := htenant hfind
      rw [hparsed]
      refine ⟨rfl, s.newItem itemId key content consentRef now tenant, rfl, rfl, ?_⟩
      funext k
      change (table.insertOrIgnore (s.newItem itemId key content consentRef now tenant)).find k = _
      rw [Table.find_insertOrIgnore]
      by_cases hk : k = (s.memoryNamespace, key)
      · subst hk
        rw [hfind, Option.none_or, Function.update_self]
        exact if_pos rfl
      · rw [Function.update_of_ne hk]
        have hother : (s.newItem itemId key content consentRef now tenant).key ≠ k :=
          fun hsame => hk hsame.symm
        rw [if_neg hother, Option.or_none]

theorem storeRow_of_overflow (henabled : s.enabled = true)
    (hfits : expiryFits s.ttlDays now = false) :
    s.storeRow d itemId key content consentRef now table = (.raised "OverflowError", table) := by
  simp [storeRow, henabled, hfits]

theorem storeRow_of_error (henabled : s.enabled = true) (hfits : expiryFits s.ttlDays now = true)
    {exception : String}
    (h : s.written d (fun k => (table.find k).isSome) key content consentRef =
      .error exception) :
    s.storeRow d itemId key content consentRef now table = (.raised exception, table) := by
  simp [storeRow, henabled, hfits, h]

/-- The same of the row that `store` writes while the database is up. -/
theorem storeRow_ok (itemId : String) (henabled : s.enabled = true)
    (hfits : expiryFits s.ttlDays now = true)
    (h : s.written d (fun k => (table.find k).isSome) key content consentRef =
      .ok (stored, consent)) :
    (s.storeRow d itemId key content consentRef now table).1 = .flag true ∧
      ∃ r : AgentMemoryItem,
        r.view = ⟨content, ((table.find stored).map AgentMemoryItem.isAnonymized).getD false,
          consent⟩ ∧
        r.expiresAt = now + dayLength * s.ttlDays ∧
        (s.storeRow d itemId key content consentRef now table).2.find =
          Function.update table.find stored (some r) := by
  have hrow : s.storeRow d itemId key content consentRef now table =
      PostgresMemoryStore.store { s with memoryNamespace := stored.1 } itemId stored.2 content
        consent .commits now table := by
    unfold storeRow
    rw [if_neg (by simp [henabled]), if_neg (by simp [hfits]), h]
  rw [hrow]
  refine store_commits (s := { s with memoryNamespace := stored.1 }) henabled ?_
  intro hnone
  rcases written_ok h with ⟨hstored, hknown⟩ | ⟨-, -, -, htenant⟩
  · rw [← hstored] at hknown
    have hfind : table.find stored = none := hnone
    rw [hfind] at hknown
    cases hknown
  · exact htenant

theorem itemCall_unsent (henabled : s.enabled = true) {c : ItemCall}
    (hunsent : s.sendsKey c.op.key = false)
    (hother : ∀ key content consentRef, c.op ≠ .store key content consentRef) :
    ∃ exception, (s.itemCall d table c).1 = .raised exception := by
  obtain ⟨op, itemId, now⟩ := c
  have hsession : s.sessionOf op.key = .fails "DBAPIError" := by
    simp only at hunsent
    simp [sessionOf, hunsent]
  cases op with
  | store key content consentRef => exact absurd rfl (hother key content consentRef)
  | retrieve key =>
      simp only [ItemOp.key] at hsession
      simp only [itemCall, retrieve, henabled, hsession, Bool.not_true, Bool.false_eq_true,
        if_false]
      exact ⟨_, rfl⟩
  | purge key =>
      simp only [ItemOp.key] at hsession
      simp only [itemCall, purge, hsession]
      exact ⟨_, rfl⟩
  | anonymize key =>
      simp only [ItemOp.key] at hsession
      simp only [itemCall, anonymize, hsession]
      exact ⟨_, rfl⟩

section Sent

variable (hsent : s.sendsKey key = true)

include hsent

theorem itemCall_retrieve (henabled : s.enabled = true) :
    s.itemCall d table ⟨.retrieve key, itemId, now⟩ =
      (.item (((table.find (s.rowKey key)).filter fun r => now < r.expiresAt).map
        AgentMemoryItem.view), table) := by
  simp only [itemCall, retrieve, sessionOf, hsent, henabled, Bool.not_true, Bool.false_eq_true,
    if_false, if_true]
  rfl

theorem itemCall_purge :
    (s.itemCall d table ⟨.purge key, itemId, now⟩).1 = .flag (table.find (s.rowKey key)).isSome ∧
      (s.itemCall d table ⟨.purge key, itemId, now⟩).2.find =
        Function.update table.find (s.rowKey key) none := by
  simp only [itemCall, purge, sessionOf, hsent, if_true, finish, any_isItem]
  refine ⟨rfl, ?_⟩
  funext k
  rw [find_deleteItem]
  by_cases hk : k = s.rowKey key
  · subst hk
    rw [Function.update_self]
    exact if_pos rfl
  · rw [Function.update_of_ne hk]
    exact if_neg hk

theorem itemCall_anonymize :
    (s.itemCall d table ⟨.anonymize key, itemId, now⟩).1 =
        .flag (table.find (s.rowKey key)).isSome ∧
      (s.itemCall d table ⟨.anonymize key, itemId, now⟩).2.find =
        Function.update table.find (s.rowKey key)
          ((table.find (s.rowKey key)).map AgentMemoryItem.anonymized) := by
  simp only [itemCall, anonymize, sessionOf, hsent, if_true, finish, any_isItem]
  refine ⟨rfl, ?_⟩
  funext k
  refine (find_updateItem _ _ table key k).trans ?_
  by_cases hk : k = s.rowKey key
  · subst hk
    rw [Function.update_self]
    exact if_pos rfl
  · rw [Function.update_of_ne hk]
    exact if_neg hk

end Sent

end PostgresMemoryStore

namespace MemoryStore

variable (s : MemoryStore)

def itemAfter (c : ItemCall) (item : Option MemoryItem) : Option MemoryItem :=
  match c.op with
  | .store key content consentRef =>
      if expiryFits s.ttlDays c.now then some (s.newItem key content consentRef c.now) else item
  | .retrieve _ => item.filter fun i => c.now ≤ i.expiresAt
  | .purge _ => none
  | .anonymize _ => item.map fun i => { i with content := "[ANONYMIZED]", isAnonymized := true }

def itemAnswer (c : ItemCall) (item : Option MemoryItem) : ItemAnswer :=
  match c.op with
  | .store _ _ _ =>
      if expiryFits s.ttlDays c.now then .flag true else .raised "OverflowError"
  | .retrieve _ => .item ((item.filter fun i => c.now ≤ i.expiresAt).map MemoryItem.view)
  | .purge _ => .flag item.isSome
  | .anonymize _ => .flag item.isSome

variable {s}

/-- A call of the dictionary answers by the item of its key, and changes it alone. -/
theorem call_eq (henabled : s.enabled = true) (items : MemoryItems) (c : ItemCall) :
    s.call items c = (s.itemAnswer c (items c.op.key),
      Function.update items c.op.key (s.itemAfter c (items c.op.key))) := by
  obtain ⟨op, itemId, now⟩ := c
  cases op with
  | store key content consentRef =>
      simp only [call, store, itemAnswer, itemAfter, ItemOp.key, henabled, Bool.not_true,
        Bool.false_eq_true, if_false]
      cases expiryFits s.ttlDays now with
      | true => rfl
      | false =>
          simp only [Bool.not_false, if_true, Bool.false_eq_true, if_false]
          rw [Function.update_eq_self]
  | retrieve key =>
      simp only [call, retrieve, itemAnswer, itemAfter, ItemOp.key, henabled, Bool.not_true,
        Bool.false_eq_true, if_false]
      cases hitem : items key with
      | none => rw [Option.filter_none, ← hitem, Function.update_eq_self, hitem]; rfl
      | some i =>
          simp only
          by_cases hexpired : i.expiresAt < now
          · rw [if_pos hexpired, Option.filter_some_neg (by simpa using hexpired)]
            rfl
          · simp only [if_neg hexpired]
            rw [Option.filter_some_pos (by simpa using hexpired), ← hitem, Function.update_eq_self,
              hitem]
            rfl
  | purge key =>
      simp only [call, purge, itemAnswer, itemAfter, ItemOp.key]
      cases hitem : items key with
      | none => rw [← hitem, Function.update_eq_self, hitem]; rfl
      | some i => rfl
  | anonymize key =>
      simp only [call, anonymize, itemAnswer, itemAfter, ItemOp.key]
      cases hitem : items key with
      | none => rw [Option.map_none, ← hitem, Function.update_eq_self, hitem]; rfl
      | some i => rfl

end MemoryStore

/-- The items of the dictionary by namespace and key. -/
def itemsAt (s : PostgresMemoryStore) (items : MemoryItems) (k : String × String) :
    Option MemoryItem :=
  if k.1 = s.memoryNamespace then items k.2 else none

theorem itemsAt_update (s : PostgresMemoryStore) (items : MemoryItems) (key : String)
    (item : Option MemoryItem) :
    itemsAt s (Function.update items key item) =
      Function.update (itemsAt s items) (s.rowKey key) item := by
  funext k
  unfold itemsAt
  by_cases hk : k = s.rowKey key
  · subst hk
    simp [PostgresMemoryStore.rowKey]
  · rw [Function.update_of_ne hk]
    split
    next hnamespace =>
      apply Function.update_of_ne
      rintro rfl
      exact hk (Prod.ext hnamespace rfl)
    next => rfl

theorem itemsAt_rowKey (s : PostgresMemoryStore) (items : MemoryItems) (key : String) :
    itemsAt s items (s.rowKey key) = items key := if_pos rfl

/-! ## The simulation -/

/-- The row and the item under one key, as the life of the item has them.  A key has an item
and no row only where it is shortened. -/
inductive Mirrored (d : MemoryDatabase) (k : String × String) :
    Option Life → Option AgentMemoryItem → Option MemoryItem → Prop
  | absent : Mirrored d k none none none
  | both {l : Life} {r : AgentMemoryItem} {i : MemoryItem} (hrow : r.view = l.ofRow)
      (hitem : i.view = l.ofItem) (hrowExpires : r.expiresAt = l.expiresAt)
      (hitemExpires : i.expiresAt = l.expiresAt) (hplace : l.place = .both) :
      Mirrored d k (some l) (some r) (some i)
  | table {l : Life} {r : AgentMemoryItem} (hrow : r.view = l.ofRow)
      (hrowExpires : r.expiresAt = l.expiresAt) (hplace : l.place = .table) :
      Mirrored d k (some l) (some r) none
  | dictionary {l : Life} {i : MemoryItem} (hitem : i.view = l.ofItem)
      (hitemExpires : i.expiresAt = l.expiresAt) (hplace : l.place = .dictionary)
      (hshortened : d.storedKey k ≠ some k) : Mirrored d k (some l) none (some i)

/-- The lives, the table and the dictionary of a run. -/
def Mirrors (s : PostgresMemoryStore) (d : MemoryDatabase) (g : Lives) (table : AgentMemoryItems)
    (items : MemoryItems) : Prop :=
  ∀ k, Mirrored d k (g k) (table.find k) (itemsAt s items k)

section Simulation

variable {s : PostgresMemoryStore} {d : MemoryDatabase} {g : Lives} {k : String × String}
  {life : Option Life} {row : Option AgentMemoryItem} {item : Option MemoryItem}
  {table : AgentMemoryItems} {items : MemoryItems} {key content itemId : String}
  {consentRef : Option String} {now : Int}

theorem Mirrored.isSome_row (h : Mirrored d k life row item) :
    row.isSome = life.any Life.hasRow := by
  cases h with
  | absent => rfl
  | both _ _ _ _ hplace => simp [Life.hasRow, hplace]
  | table _ _ hplace => simp [Life.hasRow, hplace]
  | dictionary _ _ hplace _ => simp [Life.hasRow, hplace]

/-- A key that is stored as it is and has no row has nothing. -/
theorem Mirrored.eq_none (h : Mirrored d k life row item) (hkey : d.storedKey k = some k)
    (hnew : life.any Life.hasRow = false) : life = none ∧ row = none ∧ item = none := by
  rw [← h.isSome_row] at hnew
  cases h with
  | absent => exact ⟨rfl, rfl, rfl⟩
  | both _ _ _ _ _ => cases hnew
  | table _ _ _ => cases hnew
  | dictionary _ _ _ hshortened => exact absurd hkey hshortened

theorem Mirrors.known_eq (h : Mirrors s d g table items) :
    (fun k => (table.find k).isSome) = g.known :=
  funext fun k => (h k).isSome_row

/-! ### Answers -/

theorem Mirrored.retrieve_iff (h : Mirrored d k life row item) (key itemId : String) (now : Int) :
    ItemAnswer.item ((row.filter fun r => now < r.expiresAt).map AgentMemoryItem.view) =
        .item ((item.filter fun i => now ≤ i.expiresAt).map MemoryItem.view) ↔
      ¬ ∃ l, life = some l ∧ l.Parts ⟨.retrieve key, itemId, now⟩ := by
  cases h with
  | absent => simp
  | @both l r i hrow hitem hrowExpires hitemExpires hplace =>
      have hviews : r.view = i.view ↔
          l.anonymized = l.onceAnonymized ∧ l.consentRef = l.storedConsentRef := by
        rw [hrow, hitem]
        simp [Life.ofRow, Life.ofItem, eq_comm]
      have hparts : l.Parts ⟨.retrieve key, itemId, now⟩ ↔ l.PartsRead now .both := by
        rw [← hplace]
        rfl
      simp only [Option.some.injEq, exists_eq_left', hparts, Life.PartsRead, Option.filter_some,
        hrowExpires, hitemExpires]
      rcases Int.lt_trichotomy now l.expiresAt with hlive | hequal | hexpired
      · have hne : now ≠ l.expiresAt := Int.ne_of_lt hlive
        simp only [hlive, Int.le_of_lt hlive, decide_true, if_true, Option.map_some,
          ItemAnswer.item.injEq, Option.some.injEq, hviews]
        grind
      · simp [hequal]
      · have hne : now ≠ l.expiresAt := Int.ne_of_gt hexpired
        simp [hne, Int.not_le.2 hexpired, Int.not_lt.2 (Int.le_of_lt hexpired)]
  | table hrow hrowExpires hplace =>
      simp [Life.Parts, Life.PartsRead, hplace, Option.filter_some, hrowExpires]
  | dictionary hitem hitemExpires hplace hshortened =>
      simp [Life.Parts, Life.PartsRead, hplace, Option.filter_some, hitemExpires]

/-- `purge` and `anonymize` tell whether there is something. -/
theorem Mirrored.flag_iff (h : Mirrored d k life row item) {c : ItemCall}
    (hop : c.op = .purge key ∨ c.op = .anonymize key) :
    ItemAnswer.flag row.isSome = .flag item.isSome ↔ ¬ ∃ l, life = some l ∧ l.Parts c := by
  have hparts : ∀ l : Life, l.Parts c ↔ l.place ≠ .both := by
    intro l
    unfold Life.Parts
    rcases hop with hop | hop <;> rw [hop]
  cases h with
  | absent => simp
  | both _ _ _ _ hplace => simp [hparts, hplace]
  | table _ _ hplace => simp [hparts, hplace]
  | dictionary _ _ hplace _ => simp [hparts, hplace]

theorem Mirrors.store_iff (henabled : s.enabled = true) (h : Mirrors s d g table items) :
    (s.storeRow d itemId key content consentRef now table).1.seen =
        (s.inMemory.itemAnswer ⟨.store key content consentRef, itemId, now⟩ (items key)) ↔
      ¬ g.Parts s d ⟨.store key content consentRef, itemId, now⟩ := by
  simp only [MemoryStore.itemAnswer, Lives.Parts]
  have httl : s.inMemory.ttlDays = s.ttlDays := rfl
  rw [httl]
  cases hfits : expiryFits s.ttlDays now with
  | false =>
      rw [PostgresMemoryStore.storeRow_of_overflow henabled hfits]
      simp [MemoryAnswer.seen]
  | true =>
      rw [← h.known_eq]
      cases hwritten : s.written d (fun k => (table.find k).isSome) key content consentRef with
      | error exception =>
          rw [PostgresMemoryStore.storeRow_of_error henabled hfits hwritten]
          simp [MemoryAnswer.seen]
      | ok result =>
          obtain ⟨stored, consent⟩ := result
          rw [(PostgresMemoryStore.storeRow_ok itemId henabled hfits hwritten).1]
          simp [MemoryAnswer.seen]

/-- The stores answer alike exactly where the call does not part them. -/
theorem Mirrors.answer_eq_iff (henabled : s.enabled = true) (h : Mirrors s d g table items)
    (c : ItemCall) :
    (s.itemCall d table c).1 = (s.inMemory.call items c).1 ↔ ¬ g.Parts s d c := by
  rw [MemoryStore.call_eq henabled]
  obtain ⟨op, itemId, now⟩ := c
  have hunsent : (∀ key content consentRef, op ≠ .store key content consentRef) →
      s.sendsKey op.key = false → ∀ answer, (∀ e, answer ≠ .raised e) →
      (s.itemCall d table ⟨op, itemId, now⟩).1 ≠ answer := by
    intro hother hunsent answer hanswer
    have hexception : ∃ exception,
        (s.itemCall d table ⟨op, itemId, now⟩).1 = .raised exception :=
      PostgresMemoryStore.itemCall_unsent henabled hunsent hother
    obtain ⟨exception, hraised⟩ := hexception
    rw [hraised]
    exact (hanswer exception).symm
  cases op with
  | store key content consentRef => exact h.store_iff henabled
  | retrieve key =>
      simp only [MemoryStore.itemAnswer, Lives.Parts, ItemOp.key]
      cases hsent : s.sendsKey key with
      | false =>
          exact iff_of_false (hunsent (by simp) hsent _ (by simp)) (by simp)
      | true =>
          rw [PostgresMemoryStore.itemCall_retrieve hsent henabled, ← itemsAt_rowKey s items key,
            (h (s.rowKey key)).retrieve_iff key itemId now]
          simp
  | purge key =>
      simp only [MemoryStore.itemAnswer, Lives.Parts, ItemOp.key]
      cases hsent : s.sendsKey key with
      | false =>
          exact iff_of_false (hunsent (by simp) hsent _ (by simp)) (by simp)
      | true =>
          rw [(PostgresMemoryStore.itemCall_purge hsent).1, ← itemsAt_rowKey s items key,
            (h (s.rowKey key)).flag_iff (c := ⟨.purge key, itemId, now⟩) (.inl rfl)]
          simp
  | anonymize key =>
      simp only [MemoryStore.itemAnswer, Lives.Parts, ItemOp.key]
      cases hsent : s.sendsKey key with
      | false =>
          exact iff_of_false (hunsent (by simp) hsent _ (by simp)) (by simp)
      | true =>
          rw [(PostgresMemoryStore.itemCall_anonymize hsent).1, ← itemsAt_rowKey s items key,
            (h (s.rowKey key)).flag_iff (c := ⟨.anonymize key, itemId, now⟩) (.inr rfl)]
          simp

/-! ### States -/

/-- One key changes, and the others stay as they are. -/
theorem Mirrors.update (h : Mirrors s d g table items) {table' : AgentMemoryItems}
    {items' : MemoryItems} (htable : table'.find = Function.update table.find (s.rowKey key) row)
    (hitems : items' = Function.update items key item)
    (hkey : Mirrored d (s.rowKey key) life row item) :
    Mirrors s d (Function.update g (s.rowKey key) life) table' items' := by
  intro k
  rw [hitems, itemsAt_update, htable]
  by_cases hk : k = s.rowKey key
  · subst hk
    rw [Function.update_self, Function.update_self, Function.update_self]
    exact hkey
  · rw [Function.update_of_ne hk, Function.update_of_ne hk, Function.update_of_ne hk]
    exact h k

theorem Mirrored.afterRetrieve (h : Mirrored d k life row item) (now : Int) :
    Mirrored d k (life.bind (Life.afterRetrieve now)) row
      (item.filter fun i => now ≤ i.expiresAt) := by
  cases h with
  | absent => exact .absent
  | @both l r i hrow hitem hrowExpires hitemExpires hplace =>
      rw [Option.bind_some, Option.filter_some, hitemExpires]
      unfold Life.afterRetrieve
      by_cases hexpired : l.expiresAt < now
      · rw [if_pos hexpired, if_pos (by simp [Life.hasRow, hplace]),
          if_neg (by simpa using hexpired)]
        exact .table hrow hrowExpires rfl
      · rw [if_neg hexpired, if_pos (by simpa using hexpired)]
        exact .both hrow hitem hrowExpires hitemExpires hplace
  | @table l r hrow hrowExpires hplace =>
      rw [Option.bind_some, Option.filter_none]
      unfold Life.afterRetrieve
      by_cases hexpired : l.expiresAt < now
      · rw [if_pos hexpired, if_pos (by simp [Life.hasRow, hplace])]
        exact .table hrow hrowExpires rfl
      · rw [if_neg hexpired]
        exact .table hrow hrowExpires hplace
  | @dictionary l i hitem hitemExpires hplace hshortened =>
      rw [Option.bind_some, Option.filter_some, hitemExpires]
      unfold Life.afterRetrieve
      by_cases hexpired : l.expiresAt < now
      · rw [if_pos hexpired, if_neg (by simp [Life.hasRow, hplace]),
          if_neg (by simpa using hexpired)]
        exact .absent
      · rw [if_neg hexpired, if_pos (by simpa using hexpired)]
        exact .dictionary hitem hitemExpires hplace hshortened

theorem Mirrored.afterAnonymize (h : Mirrored d k life row item)
    (hboth : ∀ l, life = some l → l.place = .both) :
    Mirrored d k (life.map Life.afterAnonymize) (row.map AgentMemoryItem.anonymized)
      (item.map fun i => { i with content := "[ANONYMIZED]", isAnonymized := true }) := by
  cases h with
  | absent => exact .absent
  | @both l r i hrow hitem hrowExpires hitemExpires hplace =>
      have hrowConsent : r.consentRef = l.storedConsentRef := congrArg ItemView.consentRef hrow
      have hitemConsent : i.consentRef = l.consentRef := congrArg ItemView.consentRef hitem
      exact .both (congrArg (ItemView.mk _ true) hrowConsent)
        (congrArg (ItemView.mk _ true) hitemConsent) hrowExpires hitemExpires hplace
  | table _ _ htable => cases htable.symm.trans (hboth _ rfl)
  | dictionary _ _ hdictionary _ => cases hdictionary.symm.trans (hboth _ rfl)

/-- The flag of a row that is written is the one of the row that was there. -/
theorem Mirrored.onceAnonymized_eq (h : Mirrored d k life row item)
    (hrow : life.any Life.hasRow = true ∨ life = none) :
    (row.map AgentMemoryItem.isAnonymized).getD false =
      (life.map Life.onceAnonymized).getD false := by
  cases h with
  | absent => rfl
  | both hview _ _ _ _ => exact congrArg ItemView.isAnonymized hview
  | table hview _ _ => exact congrArg ItemView.isAnonymized hview
  | dictionary _ _ hplace _ => simp [Life.hasRow, hplace] at hrow

/-- The item of a key is stored, in the row of its key or, where that is shortened, in the row of
another key that has nothing yet. -/
theorem Mirrors.put (h : Mirrors s d g table items) {consent : Option String}
    {stored : String × String}
    (hwritten : s.written d g.known key content consentRef = .ok (stored, consent))
    {table' : AgentMemoryItems} {r : AgentMemoryItem} {i : MemoryItem} {l : Life}
    (htable : table'.find = Function.update table.find stored (some r))
    (hrow : r.view = l.ofRow) (hitem : i.view = l.ofItem) (hrowExpires : r.expiresAt = l.expiresAt)
    (hitemExpires : i.expiresAt = l.expiresAt) (hplace : l.place = .both) :
    Mirrors s d (g.put (s.rowKey key) stored l) table' (Function.update items key (some i)) := by
  unfold Lives.put
  by_cases hown : stored = s.rowKey key
  · rw [if_pos hown]
    rw [hown] at htable
    exact h.update htable rfl (.both hrow hitem hrowExpires hitemExpires hplace)
  · rcases PostgresMemoryStore.written_ok hwritten with ⟨hsame, -⟩ | ⟨hstored, hownNew, hnew, -⟩
    · exact absurd hsame hown
    · rw [if_neg hown]
      intro k
      rw [itemsAt_update, htable]
      by_cases hk : k = s.rowKey key
      · subst hk
        have hnone : table.find (s.rowKey key) = none := by
          rw [← Option.not_isSome_iff_eq_none, (h (s.rowKey key)).isSome_row]
          exact Bool.eq_false_iff.1 hownNew
        have hshortened : d.storedKey (s.rowKey key) ≠ some (s.rowKey key) := by
          rw [hstored]
          exact fun hsame => hown (Option.some.inj hsame)
        rw [Function.update_self, Function.update_self, Function.update_of_ne (Ne.symm hown), hnone]
        exact .dictionary hitem hitemExpires rfl hshortened
      · rw [Function.update_of_ne hk, Function.update_of_ne hk]
        by_cases hrowKey : k = stored
        · subst hrowKey
          obtain ⟨-, -, hnone⟩ :=
            (h k).eq_none (MemoryDatabase.storedKey_stored hstored) hnew
          rw [Function.update_self, Function.update_self, hnone]
          exact .table hrow hrowExpires rfl
        · rw [Function.update_of_ne hrowKey, Function.update_of_ne hrowKey]
          exact h k

theorem Mirrors.store (henabled : s.enabled = true) (h : Mirrors s d g table items)
    (hparts : ¬ g.Parts s d ⟨.store key content consentRef, itemId, now⟩) :
    Mirrors s d (g.store s d key content consentRef now)
      (s.storeRow d itemId key content consentRef now table).2
      (Function.update items key (s.inMemory.itemAfter ⟨.store key content consentRef, itemId, now⟩
        (items key))) := by
  have httl : s.inMemory.ttlDays = s.ttlDays := rfl
  simp only [MemoryStore.itemAfter, httl]
  unfold Lives.store
  cases hfits : expiryFits s.ttlDays now with
  | false =>
      rw [PostgresMemoryStore.storeRow_of_overflow henabled hfits]
      simp only [Bool.false_eq_true, if_false]
      rw [Function.update_eq_self]
      exact h
  | true =>
      cases hwritten : s.written d g.known key content consentRef with
      | error exception => exact absurd ⟨hfits, exception, hwritten⟩ hparts
      | ok result =>
          obtain ⟨stored, consent⟩ := result
          have hfound := hwritten
          rw [← h.known_eq] at hfound
          obtain ⟨-, r, hview, hexpires, htable⟩ :=
            PostgresMemoryStore.storeRow_ok itemId henabled hfits hfound
          have hflag : ((table.find stored).map AgentMemoryItem.isAnonymized).getD false =
              ((g stored).map Life.onceAnonymized).getD false := by
            apply (h stored).onceAnonymized_eq
            rcases PostgresMemoryStore.written_ok hwritten with
              ⟨rfl, hknown⟩ | ⟨hstored, -, hnew, -⟩
            · exact .inl hknown
            · exact .inr ((h stored).eq_none (MemoryDatabase.storedKey_stored hstored) hnew).1
          rw [hflag] at hview
          simp only [if_true]
          exact h.put hwritten htable hview rfl hexpires rfl rfl

/-- After a call that does not part the stores they hold what the lives say. -/
theorem Mirrors.next (henabled : s.enabled = true) (h : Mirrors s d g table items) {c : ItemCall}
    (hparts : ¬ g.Parts s d c) :
    Mirrors s d (g.next s d c) (s.itemCall d table c).2 (s.inMemory.call items c).2 := by
  rw [MemoryStore.call_eq henabled]
  obtain ⟨op, itemId, now⟩ := c
  cases op with
  | store key content consentRef => exact h.store henabled hparts
  | retrieve key =>
      simp only [Lives.Parts, ItemOp.key, not_or, Bool.not_eq_false] at hparts
      have hkey := (h (s.rowKey key)).afterRetrieve now
      rw [itemsAt_rowKey] at hkey
      rw [PostgresMemoryStore.itemCall_retrieve hparts.1 henabled]
      exact h.update (Function.update_eq_self _ _).symm rfl hkey
  | purge key =>
      simp only [Lives.Parts, ItemOp.key, not_or, Bool.not_eq_false] at hparts
      exact h.update (PostgresMemoryStore.itemCall_purge hparts.1).2 rfl .absent
  | anonymize key =>
      simp only [Lives.Parts, ItemOp.key, not_or, Bool.not_eq_false] at hparts
      have hboth : ∀ l, g (s.rowKey key) = some l → l.place = .both := by
        intro l hl
        by_contra hplace
        exact hparts.2 ⟨l, hl, hplace⟩
      have hkey := (h (s.rowKey key)).afterAnonymize hboth
      rw [itemsAt_rowKey] at hkey
      exact h.update (PostgresMemoryStore.itemCall_anonymize hparts.1).2 rfl hkey

theorem mirrors_start (s : PostgresMemoryStore) (d : MemoryDatabase) (table : AgentMemoryItems) :
    Mirrors s d (.start table) table fun _ => none := by
  intro k
  have hnone : itemsAt s (fun _ => none) k = none := by
    unfold itemsAt
    split <;> rfl
  rw [hnone]
  unfold Lives.start
  cases table.find k with
  | none => exact .absent
  | some r => exact .table rfl rfl rfl

end Simulation

/-! ## Runs -/

/-- The stores with the same settings answer every call of the sequence alike. -/
def StoresAgree (s : PostgresMemoryStore) (d : MemoryDatabase) (table : AgentMemoryItems)
    (calls : List ItemCall) : Prop :=
  (s.component d).answers table calls = s.inMemory.component.answers (fun _ => none) calls

/-- The stores agree exactly on the sequences without a call that parts them, whatever the table
has in the beginning. -/
theorem storesAgree_iff {s : PostgresMemoryStore} (d : MemoryDatabase) (table : AgentMemoryItems)
    (calls : List ItemCall) (henabled : s.enabled = true) :
    StoresAgree s d table calls ↔
      (lives s d).Throughout (fun g c => ¬ g.Parts s d c) (.start table) calls := by
  have hvalid : (lives s d).Throughout (fun _ _ => True) (.start table) calls :=
    fun _ _ _ _ => trivial
  refine Component.answers_eq_iff (R := Mirrors s d) ?_ ?_ (mirrors_start s d table) hvalid
  · exact fun g table items c h _ => h.answer_eq_iff henabled c
  · exact fun g table items c h _ hparts => h.next henabled hparts

section Example

def notes : PostgresMemoryStore where
  tenantId := "00000000000000000000000000000001"
  memoryNamespace := "notes"
  enabled := true
  ttlDays := 1

/-- The tenant is registered, and the index has room. -/
def notesDatabase : MemoryDatabase where
  registered tenant := tenant = 1
  indexable _ := true

def storing : ItemCall := ⟨.store "fact" "likes tea" none, "", 0⟩

/-- Nothing parts the stores while an item is stored and read. -/
theorem storesAgree_stored :
    StoresAgree notes notesDatabase .empty [storing, ⟨.retrieve "fact", "", 1⟩] := by
  have hwritten : notes.written notesDatabase (Lives.start .empty).known "fact" "likes tea" none =
      .ok (("notes", "fact"), none) := by decide +kernel
  have hlife : (Lives.start .empty).next notes notesDatabase storing ("notes", "fact") =
      some ⟨"likes tea", none, none, dayLength, false, false, .both⟩ := by decide +kernel
  refine (storesAgree_iff notesDatabase .empty _ rfl).2 ?_
  refine Component.throughout_cons_iff.2 ⟨?_, Component.throughout_cons_iff.2 ⟨?_, ?_⟩⟩
  · rintro ⟨-, exception, hraised⟩
    cases hwritten.symm.trans hraised
  · rintro (hunsent | ⟨l, hl, hparts⟩)
    · revert hunsent
      decide +kernel
    · obtain rfl := Option.some.inj (hlife.symm.trans hl)
      rcases hparts with hequal | ⟨-, hflags | hconsent⟩
      · revert hequal
        decide
      · exact hflags rfl
      · exact hconsent rfl
  · exact Component.throughout_nil

/-- An item that is stored again after it was anonymized, one at the instant of its
expiry, and one that was read after it. -/
theorem stores_part :
    ¬ StoresAgree notes notesDatabase .empty
        [storing, ⟨.anonymize "fact", "", 1⟩, ⟨.store "fact" "likes coffee" none, "", 2⟩,
          ⟨.retrieve "fact", "", 3⟩] ∧
      ¬ StoresAgree notes notesDatabase .empty [storing, ⟨.retrieve "fact", "", dayLength⟩] ∧
      ¬ StoresAgree notes notesDatabase .empty
        [storing, ⟨.retrieve "fact", "", dayLength + 1⟩, ⟨.purge "fact", "", dayLength + 1⟩] := by
  refine ⟨?_, ?_, ?_⟩ <;> unfold StoresAgree <;> decide +kernel

end Example

end Iara.Memory
