import Iara.Lib.Noninterference
import Iara.Memory.StoreCalls

/-!
# Memory isolation between tenants

The statements of a store select by namespace and item key, and the unique key
has no tenant either: two stores are isolated if and only if their namespaces
keep them apart, or one of them has nothing to show.
-/

namespace Iara.Memory

open Iara.Lib Iara.Persistence

/-! ## The claim -/

/-- The store of tenant A and the store of tenant B. -/
inductive Caller where
  | a
  | b
  deriving DecidableEq, Repr

def sharedMemory (a b : PostgresMemoryStore) :
    SharedSystem Caller MemoryCall AgentMemoryItems MemoryAnswer where
  act
    | .a => a.call
    | .b => b.call

/-- The operations of B that are as if they had not happened. -/
def writesOfB (i : Caller) (c : MemoryCall) : Bool := i = .b ∧ c.op.reads = false

def readsOfA (i : Caller) (c : MemoryCall) : Bool := i = .a ∧ c.op.reads = true

/-- Along every history, A's `retrieve` and `list_recent` return what they return
without B's other operations. -/
def Isolated (a b : PostgresMemoryStore) (items : AgentMemoryItems) : Prop :=
  (sharedMemory a b).Noninterfering writesOfB readsOfA items

/-! ## The condition -/

/-- The calls of `store` get as far as inserting an item.  Where the tenant is not registered, the
foreign key then makes every such session fail. -/
def PostgresMemoryStore.CanInsert (s : PostgresMemoryStore) : Prop :=
  s.enabled = true ∧ ∃ tenant, parseUuid s.tenantId = some tenant

/-- A's namespace is its own: B has another one, another tenant, and no rows in it. -/
structure OwnNamespace (a b : PostgresMemoryStore) (items : AgentMemoryItems) : Prop where
  other : a.memoryNamespace ≠ b.memoryNamespace
  tenant : ∀ tenant, parseUuid a.tenantId = some tenant → parseUuid b.tenantId ≠ some tenant
  rows : ∀ r ∈ items.rows, r.memoryNamespace = a.memoryNamespace →
    parseUuid b.tenantId ≠ some r.tenantId

/-- The common namespace is empty, and stays so. -/
structure UnusedNamespace (a b : PostgresMemoryStore) (items : AgentMemoryItems) : Prop where
  common : a.memoryNamespace = b.memoryNamespace
  rows : ∀ r ∈ items.rows, r.memoryNamespace ≠ a.memoryNamespace
  ofA : ¬ a.CanInsert
  ofB : ¬ b.CanInsert

def Separated (a b : PostgresMemoryStore) (items : AgentMemoryItems) : Prop :=
  a.enabled = false ∨ OwnNamespace a b items ∨ UnusedNamespace a b items

/-! ## Unwinding -/

section Unwinding

variable {a b : PostgresMemoryStore} {items : AgentMemoryItems}

theorem apart (i : Caller) (c : MemoryCall) (h : writesOfB i c = true) : readsOfA i c = false := by
  simp only [writesOfB, decide_eq_true_eq] at h
  simp [readsOfA, h.1]

theorem isolated_of_disabled (h : a.enabled = false) : Isolated a b items := by
  refine SharedSystem.Unwinding.noninterfering (R := fun _ _ => True) ?_ trivial
  refine ⟨apart, fun _ _ _ _ _ _ => trivial, fun _ _ _ _ _ _ => trivial, ?_⟩
  intro i c t t' hobserved _
  simp only [readsOfA, decide_eq_true_eq] at hobserved
  obtain ⟨rfl, hreads⟩ := hobserved
  exact PostgresMemoryStore.answer_of_disabled h hreads

/-- The two tables agree on A's namespace, where no row is of B's tenant. -/
structure SameNamespace (a b : PostgresMemoryStore) (t t' : AgentMemoryItems) : Prop where
  same : visible a.memoryNamespace t = visible a.memoryNamespace t'
  rows : ∀ r ∈ visible a.memoryNamespace t, parseUuid b.tenantId ≠ some r.tenantId

theorem isolated_of_ownNamespace (h : OwnNamespace a b items) : Isolated a b items := by
  refine SharedSystem.Unwinding.noninterfering (R := SameNamespace a b) ?_
    ⟨rfl, fun r hr => h.rows r (mem_visible.1 hr).1 (mem_visible.1 hr).2⟩
  refine ⟨apart, ?_, ?_, ?_⟩
  · intro i c t t' hhidden ht
    simp only [writesOfB, decide_eq_true_eq] at hhidden
    obtain ⟨rfl, -⟩ := hhidden
    have hsame : visible a.memoryNamespace (b.call c t).2 = visible a.memoryNamespace t :=
      b.visible_call_of_other h.other.symm ht.rows
    refine ⟨?_, ?_⟩
    · exact hsame.trans ht.same
    · change ∀ r ∈ visible a.memoryNamespace (b.call c t).2, parseUuid b.tenantId ≠ some r.tenantId
      rw [hsame]
      exact ht.rows
  · intro i c t t' hhidden ht
    cases i with
    | a =>
        refine ⟨a.visible_call_congr ht.same, ?_⟩
        intro r hr
        rcases a.origin_of_mem_call hr with ⟨r₀, hr₀, htenant⟩ | ⟨-, htenant⟩
        · rw [← htenant]
          exact ht.rows r₀ hr₀
        · exact h.tenant r.tenantId htenant
    | b =>
        -- what is not hidden of B only reads
        have hreads : c.op.reads = true := by simpa [writesOfB] using hhidden
        simp only [sharedMemory, b.call_of_reads hreads]
        exact ht
  · intro i c t t' hobserved ht
    simp only [readsOfA, decide_eq_true_eq] at hobserved
    obtain ⟨rfl, hreads⟩ := hobserved
    exact a.answer_congr ht.same hreads

/-- A store that cannot insert leaves an empty namespace empty. -/
theorem visible_call_eq_nil {s : PostgresMemoryStore} {c : MemoryCall} {ns : String}
    (hinsert : ¬ s.CanInsert) (h : visible ns items = []) : visible ns (s.call c items).2 = [] := by
  rw [List.eq_nil_iff_forall_not_mem]
  intro r hr
  rcases s.origin_of_mem_call hr with ⟨r₀, hr₀, -⟩ | ⟨henabled, htenant⟩
  · rw [h] at hr₀
    cases hr₀
  · exact hinsert ⟨henabled, r.tenantId, htenant⟩

theorem isolated_of_unusedNamespace (h : UnusedNamespace a b items) : Isolated a b items := by
  have hstart : visible a.memoryNamespace items = [] := by
    rw [List.eq_nil_iff_forall_not_mem]
    exact fun r hr => h.rows r (mem_visible.1 hr).1 (mem_visible.1 hr).2
  have hkept : ∀ i c t, visible a.memoryNamespace t = [] →
      visible a.memoryNamespace ((sharedMemory a b).act i c t).2 = [] := by
    intro i c t ht
    cases i with
    | a => exact visible_call_eq_nil h.ofA ht
    | b => exact visible_call_eq_nil h.ofB ht
  refine SharedSystem.Unwinding.noninterfering
    (R := fun t t' => visible a.memoryNamespace t = [] ∧ visible a.memoryNamespace t' = []) ?_
    ⟨hstart, hstart⟩
  refine ⟨apart, ?_, ?_, ?_⟩
  · exact fun i c t t' _ ht => ⟨hkept i c t ht.1, ht.2⟩
  · exact fun i c t t' _ ht => ⟨hkept i c t ht.1, hkept i c t' ht.2⟩
  · intro i c t t' hobserved ht
    simp only [readsOfA, decide_eq_true_eq] at hobserved
    obtain ⟨rfl, hreads⟩ := hobserved
    exact a.answer_congr (ht.1.trans ht.2.symm) hreads

end Unwinding

/-! ## Interference -/

section Interference

variable {s a b : PostgresMemoryStore} {items : AgentMemoryItems} {key : String}
  {r : AgentMemoryItem}

/-- Isolation goes on after a call of A. -/
theorem Isolated.after (h : Isolated a b items) (c : MemoryCall) :
    Isolated a b (a.call c items).2 := by
  intro history
  have hlonger := h ((.a, c) :: history)
  have hkeep : SharedSystem.without writesOfB ((.a, c) :: history) =
      (.a, c) :: SharedSystem.without writesOfB history := rfl
  rw [hkeep, SharedSystem.answers, SharedSystem.answers] at hlonger
  split at hlonger
  · exact (List.cons.inj hlonger).2
  · exact hlonger

/-- In isolation no write of B changes what A reads. -/
theorem Isolated.agree (h : Isolated a b items) (write read : MemoryCall)
    (hwrite : write.op.reads = false) (hread : read.op.reads = true) :
    (a.call read (b.call write items).2).1 = (a.call read items).1 := by
  have hanswers := h [(.b, write), (.a, read)]
  simpa [SharedSystem.answers, SharedSystem.without, writesOfB, readsOfA, hwrite, hread,
    sharedMemory] using hanswers

namespace PostgresMemoryStore

/-- The row of a key in the namespace of a store. -/
def row (s : PostgresMemoryStore) (key : String) (items : AgentMemoryItems) :
    Option AgentMemoryItem :=
  items.find (s.memoryNamespace, key)

def storing (key : String) : MemoryCall := ⟨.store "item" key "fact" none, .commits, 0⟩

/-- The last instant at which an item that was stored at time 0 is live. -/
def lastInstant (s : PostgresMemoryStore) : Int := dayLength * s.ttlDays - 1

def retrieving (s : PostgresMemoryStore) (key : String) : MemoryCall :=
  ⟨.retrieve key, .commits, s.lastInstant⟩

def erasing (op : MemoryOp) : MemoryCall := ⟨op, .commits, 0⟩

theorem isItem_of_row (h : s.row key items = some r) : s.isItem key r = true := by
  obtain ⟨-, hkey⟩ := Table.find_eq_some_iff.1 h
  have hpair : r.memoryNamespace = s.memoryNamespace ∧ r.itemKey = key := Prod.mk.inj hkey
  simp [isItem, hpair]

theorem row_storing_of_some (henabled : s.enabled = true) (h : s.row key items = some r) :
    s.row key (s.call (storing key) items).2 =
      some (r.overwrite "fact" none 0 (0 + dayLength * s.ttlDays)) := by
  have hfind : items.find (s.memoryNamespace, key) = some r := h
  simp only [call, storing, store, henabled, Bool.not_true, Bool.false_eq_true, if_false, hfind,
    finish, row, overwriteItem]
  rw [Table.find_update, hfind, Option.map_some, if_pos (isItem_of_row h)]

theorem row_storing_of_none {tenant : Uuid} (henabled : s.enabled = true)
    (h : s.row key items = none) (htenant : parseUuid s.tenantId = some tenant) :
    s.row key (s.call (storing key) items).2 =
      some (s.newItem "item" key "fact" none 0 tenant) := by
  have hfind : items.find (s.memoryNamespace, key) = none := h
  simp only [call, storing, store, henabled, Bool.not_true, Bool.false_eq_true, if_false, hfind,
    htenant, finish, row]
  rw [Table.find_insertOrIgnore, hfind, Option.none_or]
  exact if_pos rfl

theorem row_purge (s : PostgresMemoryStore) (key : String) (items : AgentMemoryItems) :
    s.row key (s.call (erasing (.purge key)) items).2 = none := by
  simp only [call, erasing, purge, finish, row]
  rw [Table.find_delete]
  cases hrow : items.find (s.memoryNamespace, key) with
  | none => rfl
  | some r => rw [Option.filter_some_neg (by simp [isItem_of_row hrow])]

theorem row_purgeTenant (h : s.row key items = some r) (htenant : parseUuid b.tenantId =
    some r.tenantId) : s.row key (b.call (erasing .purgeTenant) items).2 = none := by
  have hfind : items.find (s.memoryNamespace, key) = some r := h
  simp only [call, erasing, purgeTenant, htenant, finish, row]
  rw [Table.find_delete, hfind, Option.filter_some_neg (by simp)]

theorem answer_retrieving (henabled : s.enabled = true) (items : AgentMemoryItems) :
    (s.call (retrieving a key) items).1 =
      .item ((s.row key items).filter fun r => a.lastInstant < r.expiresAt) := by
  simp only [call, retrieving, retrieve, henabled, Bool.not_true, Bool.false_eq_true, if_false,
    finish, row]
  rfl

end PostgresMemoryStore

open PostgresMemoryStore

/-- In isolation B does not erase a live row of A's namespace. -/
theorem Isolated.not_erases (h : Isolated a b items) (henabled : a.enabled = true)
    (hrow : a.row key items = some r) (hlive : a.lastInstant < r.expiresAt) (op : MemoryOp)
    (hop : op.reads = false) : a.row key (b.call (erasing op) items).2 ≠ none := by
  intro hgone
  have hagree := h.agree (erasing op) (a.retrieving key) hop rfl
  rw [answer_retrieving henabled, answer_retrieving henabled, hgone, hrow,
    Option.filter_some_pos (by simpa using hlive)] at hagree
  cases hagree

/-- A row that A has just stored again is live. -/
theorem Isolated.not_erases_stored (h : Isolated a b items) (henabled : a.enabled = true)
    (hrow : a.row key items = some r) (op : MemoryOp) (hop : op.reads = false) :
    a.row key (b.call (erasing op) (a.call (storing key) items).2).2 ≠ none := by
  refine (h.after (storing key)).not_erases henabled (row_storing_of_some henabled hrow) ?_ op hop
  change dayLength * a.ttlDays - 1 < 0 + dayLength * a.ttlDays
  omega

/-- A row that A has just inserted is live. -/
theorem Isolated.not_erases_inserted (h : Isolated a b items) (henabled : a.enabled = true)
    {tenant : Uuid} (htenant : parseUuid a.tenantId = some tenant) (key : String) (op : MemoryOp)
    (hop : op.reads = false) :
    a.row key (b.call (erasing op)
      (a.call (storing key) (a.call (erasing (.purge key)) items).2).2).2 ≠ none := by
  have hrow := row_storing_of_none henabled (row_purge a key items) htenant
  refine ((h.after _).after (storing key)).not_erases henabled hrow ?_ op hop
  change dayLength * a.ttlDays - 1 < 0 + dayLength * a.ttlDays
  omega

theorem row_eq_of_namespace_eq (hns : a.memoryNamespace = b.memoryNamespace) :
    a.row key items = b.row key items := by
  unfold row
  rw [hns]

theorem unusedNamespace_of_isolated (h : Isolated a b items) (henabled : a.enabled = true)
    (hns : a.memoryNamespace = b.memoryNamespace) : UnusedNamespace a b items := by
  have hrows : ∀ r ∈ items.rows, r.memoryNamespace ≠ a.memoryNamespace := by
    intro r hr hr'
    have hrow : a.row r.itemKey items = some r :=
      Table.find_eq_some_iff.2 ⟨hr, by rw [← hr']; rfl⟩
    apply h.not_erases_stored henabled hrow (.purge r.itemKey) rfl
    rw [row_eq_of_namespace_eq hns, row_purge]
  refine ⟨hns, hrows, ?_, ?_⟩
  · rintro ⟨-, tenant, htenant⟩
    apply h.not_erases_inserted henabled htenant "key" (.purge "key") rfl
    rw [row_eq_of_namespace_eq hns, row_purge]
  · rintro ⟨hb, tenant, htenant⟩
    have hempty : ∀ key, a.row key items = none := by
      intro key
      rw [row, Table.find_eq_none_iff]
      intro r hr hkey
      exact hrows r hr (congrArg Prod.fst hkey)
    have hagree := h.agree (storing "key") (b.retrieving "key") rfl rfl
    rw [answer_retrieving henabled, answer_retrieving henabled, hempty, row_eq_of_namespace_eq hns,
      row_storing_of_none hb ((row_eq_of_namespace_eq hns).symm.trans (hempty "key")) htenant,
      Option.filter_some_pos] at hagree
    · cases hagree
    · change decide (dayLength * b.ttlDays - 1 < 0 + dayLength * b.ttlDays) = true
      rw [decide_eq_true_eq]
      omega

theorem ownNamespace_of_isolated (h : Isolated a b items) (henabled : a.enabled = true)
    (hns : a.memoryNamespace ≠ b.memoryNamespace) : OwnNamespace a b items := by
  refine ⟨hns, ?_, ?_⟩
  · intro tenant ha hb
    apply h.not_erases_inserted henabled ha "key" .purgeTenant rfl
    exact row_purgeTenant (row_storing_of_none henabled (row_purge _ _ _) ha) hb
  · intro r hr hr' hb
    have hrow : a.row r.itemKey items = some r :=
      Table.find_eq_some_iff.2 ⟨hr, by rw [← hr']; rfl⟩
    apply h.not_erases_stored henabled hrow .purgeTenant rfl
    exact row_purgeTenant (row_storing_of_some henabled hrow) hb

theorem separated_of_isolated (h : Isolated a b items) : Separated a b items := by
  cases henabled : a.enabled with
  | false => exact Or.inl henabled
  | true =>
      by_cases hns : a.memoryNamespace = b.memoryNamespace
      · exact Or.inr (Or.inr (unusedNamespace_of_isolated h henabled hns))
      · exact Or.inr (Or.inl (ownNamespace_of_isolated h henabled hns))

end Interference

/-- Two stores are isolated if and only if they are separated. -/
theorem isolated_iff_separated (a b : PostgresMemoryStore) (items : AgentMemoryItems) :
    Isolated a b items ↔ Separated a b items := by
  constructor
  · exact separated_of_isolated
  · rintro (hdisabled | hown | hunused)
    · exact isolated_of_disabled hdisabled
    · exact isolated_of_ownNamespace hown
    · exact isolated_of_unusedNamespace hunused

/-- A store in the default namespace of the settings. -/
def defaultStore (tenantId : String) : PostgresMemoryStore :=
  .init tenantId (some "default") true 90

/-- A lists what B has stored. -/
theorem defaultStores_not_isolated :
    (defaultStore (formatUuid 1)).tenantId ≠ (defaultStore (formatUuid 2)).tenantId ∧
      ¬ Isolated (defaultStore (formatUuid 1)) (defaultStore (formatUuid 2)) .empty := by
  refine ⟨by decide +kernel, fun h => ?_⟩
  have hlist := h
    [(.b, ⟨.store "item" "7:fact_0" "prefers mornings" none, .commits, 0⟩),
      (.a, ⟨.listRecent 10, .commits, 1⟩)]
  revert hlist
  decide +kernel

end Iara.Memory
