import Mathlib.Data.List.Basic
import Mathlib.Logic.Function.Basic

/-!
# Tables under READ COMMITTED

Rows by key, each with its committed version and at most one uncommitted
version.  The uncommitted version names the transaction that wrote it, and until
that transaction ends nobody else writes the row: it is the row lock.

* A statement sees the committed rows and its own writes (`visible`).
* An `UPDATE` selects its rows when it starts (`select`) and then locks them one
  after the other (`touch`), testing each again on its latest version.  At a row
  that another transaction has locked it waits: `touch` is `none` there.
* `commit` publishes the writes of a transaction and `abort` drops them.

`atMostOne_commit_iff` says when a commit keeps a row of some kind the only one.
-/

namespace Iara.Lib

structure Versions (κ ρ : Type*) where
  keys : List κ
  committed : κ → Option ρ
  pending : κ → Option (Nat × ρ)
  /-- Every row can be found by a scan. -/
  mem_keys : ∀ k, committed k ≠ none ∨ pending k ≠ none → k ∈ keys

namespace Versions

variable {κ ρ : Type*}

def empty : Versions κ ρ where
  keys := []
  committed _ := none
  pending _ := none
  mem_keys := by simp

variable (t : Versions κ ρ)

/-- What a statement of the transaction sees under a key. -/
def visible (x : Nat) (k : κ) : Option ρ :=
  match t.pending k with
  | some (y, r) => if y = x then some r else t.committed k
  | none => t.committed k

/-- The transaction has written the row and holds its lock. -/
def locks (x : Nat) (k : κ) : Bool := (t.pending k).any fun v => v.1 = x

/-- No other transaction holds the lock of the row. -/
def free (x : Nat) (k : κ) : Bool := (t.pending k).all fun v => v.1 = x

def select (x : Nat) (p : ρ → Bool) : List κ := t.keys.filter fun k => (t.visible x k).any p

def write [DecidableEq κ] (x : Nat) (k : κ) (r : ρ) : Versions κ ρ where
  keys := if k ∈ t.keys then t.keys else t.keys ++ [k]
  committed := t.committed
  pending := Function.update t.pending k (some (x, r))
  mem_keys := by
    intro k' hk'
    by_cases hself : k' = k
    · subst hself
      split
      · assumption
      · simp
    · rw [Function.update_of_ne hself] at hk'
      have hmem := t.mem_keys k' hk'
      split
      · exact hmem
      · exact List.mem_append_left _ hmem

/-- One row of an `UPDATE ... SET f WHERE p`. -/
def touch [DecidableEq κ] (x : Nat) (p : ρ → Bool) (f : ρ → ρ) (k : κ) :
    Option (Versions κ ρ) :=
  if t.free x k then
    match t.visible x k with
    | some r => some (if p r then t.write x k (f r) else t)
    | none => some t
  else none

def commit (x : Nat) : Versions κ ρ where
  keys := t.keys
  committed := t.visible x
  pending k := (t.pending k).filter fun v => v.1 ≠ x
  mem_keys := by
    intro k hk
    apply t.mem_keys
    rcases hk with hvisible | hpending
    · cases hp : t.pending k with
      | none =>
          simp only [visible, hp] at hvisible
          exact Or.inl hvisible
      | some v => exact Or.inr (by simp)
    · refine Or.inr fun hnone => hpending ?_
      rw [hnone]
      rfl

def abort (x : Nat) : Versions κ ρ where
  keys := t.keys
  committed := t.committed
  pending k := (t.pending k).filter fun v => v.1 ≠ x
  mem_keys := by
    intro k hk
    apply t.mem_keys
    rcases hk with hcommitted | hpending
    · exact Or.inl hcommitted
    · refine Or.inr fun hnone => hpending ?_
      rw [hnone]
      rfl

variable {t} {t' : Versions κ ρ} {x y : Nat} {k k' : κ} {r : ρ}

/-! ### What is visible -/

theorem locks_iff : t.locks x k = true ↔ ∃ r, t.pending k = some (x, r) := by
  unfold locks
  cases t.pending k with
  | none => simp
  | some v =>
      obtain ⟨y, r⟩ := v
      simp [eq_comm]

theorem visible_of_locks (h : t.pending k = some (x, r)) : t.visible x k = some r := by
  simp [visible, h]

theorem visible_of_not_locks (h : t.locks x k = false) : t.visible x k = t.committed k := by
  unfold visible
  split
  next y r hp =>
    have hne : y ≠ x := by
      rintro rfl
      rw [locks_iff.2 ⟨r, hp⟩] at h
      cases h
    rw [if_neg hne]
  next => rfl

/-- A visible row is a write of the transaction or a committed row. -/
theorem visible_cases (h : t.visible x k = some r) :
    t.pending k = some (x, r) ∨ t.committed k = some r := by
  cases hlocks : t.locks x k with
  | true =>
      obtain ⟨r', hr'⟩ := locks_iff.1 hlocks
      rw [visible_of_locks hr', Option.some.injEq] at h
      exact Or.inl (h ▸ hr')
  | false =>
      rw [visible_of_not_locks hlocks] at h
      exact Or.inr h

/-! ### What an operation leaves alone -/

@[simp] theorem committed_commit : (t.commit x).committed = t.visible x := rfl
@[simp] theorem committed_abort : (t.abort x).committed = t.committed := rfl

section

variable [DecidableEq κ]

@[simp] theorem committed_write : (t.write x k r).committed = t.committed := rfl

@[simp] theorem pending_write_self : (t.write x k r).pending k = some (x, r) :=
  Function.update_self ..

theorem pending_write_of_ne (h : k' ≠ k) : (t.write x k r).pending k' = t.pending k' :=
  Function.update_of_ne h ..

/-- One row of an update: a row that is still free is written where it meets the
condition, and nothing happens otherwise. -/
theorem touch_cases {p : ρ → Bool} {f : ρ → ρ} (h : t.touch x p f k = some t') :
    t.free x k = true ∧
      ((t' = t ∧ ∀ r, t.visible x k = some r → p r = false) ∨
        ∃ r, t.visible x k = some r ∧ p r = true ∧ t' = t.write x k (f r)) := by
  unfold touch at h
  split at h
  next hfree =>
    refine ⟨hfree, ?_⟩
    split at h
    next r hr =>
      rw [Option.some.injEq] at h
      cases hp : p r with
      | true =>
          rw [hp, if_pos rfl] at h
          exact Or.inr ⟨r, hr, hp, h.symm⟩
      | false =>
          rw [hp, if_neg (by simp)] at h
          refine Or.inl ⟨h.symm, ?_⟩
          intro r' hr'
          rw [hr, Option.some.injEq] at hr'
          exact hr' ▸ hp
    next hnone =>
      rw [Option.some.injEq] at h
      refine Or.inl ⟨h.symm, ?_⟩
      intro r hr
      rw [hnone] at hr
      cases hr
  next => cases h

end

/-- The writes of the other transactions are as before. -/
def SameOthers (x : Nat) (t t' : Versions κ ρ) : Prop :=
  ∀ y k r, y ≠ x → (t'.pending k = some (y, r) ↔ t.pending k = some (y, r))

theorem SameOthers.refl : SameOthers x t t := fun _ _ _ _ => Iff.rfl

theorem sameOthers_write [DecidableEq κ] (h : t.free x k = true) :
    SameOthers x t (t.write x k r) := by
  intro y k' r' hy
  by_cases hk : k' = k
  · subst hk
    constructor
    · intro hwritten
      rw [pending_write_self, Option.some.injEq, Prod.mk.injEq] at hwritten
      exact absurd hwritten.1.symm hy
    · intro hold
      unfold free at h
      simp only [hold, Option.all_some, decide_eq_true_eq] at h
      exact absurd h hy
  · rw [pending_write_of_ne hk]

theorem sameOthers_ended (h : ∀ k, t'.pending k = (t.pending k).filter fun v => v.1 ≠ x) :
    SameOthers x t t' := by
  intro y k r hy
  rw [h, Option.filter_eq_some_iff]
  constructor
  · exact fun hfilter => hfilter.1
  · exact fun hold => ⟨hold, by simpa using hy⟩

theorem sameOthers_commit : SameOthers x t (t.commit x) := sameOthers_ended fun _ => rfl

theorem sameOthers_abort : SameOthers x t (t.abort x) := sameOthers_ended fun _ => rfl

/-- A transaction that has ended has no writes. -/
theorem pending_ended_ne (h : ∀ k, t'.pending k = (t.pending k).filter fun v => v.1 ≠ x) :
    t'.pending k ≠ some (x, r) := by
  rw [h]
  intro hsome
  have hne := (Option.filter_eq_some_iff.1 hsome).2
  simp at hne

/-! ### At most one row of a kind -/

def AtMostOne (p : ρ → Bool) (rows : κ → Option ρ) : Prop :=
  ∀ k k' r r', rows k = some r → p r = true → rows k' = some r' → p r' = true → k = k'

/-- A transaction that has written exactly one row of the kind keeps it the only
one exactly where it holds the lock of the row that is of the kind before. -/
theorem atMostOne_commit_iff {p : ρ → Bool} {k₀ : κ} {r₀ : ρ}
    (hk₀ : t.pending k₀ = some (x, r₀)) (hr₀ : p r₀ = true)
    (hown : ∀ k r, t.pending k = some (x, r) → p r = true → k = k₀) :
    AtMostOne p (t.commit x).committed ↔
      ∀ k r, t.committed k = some r → p r = true → t.locks x k = true := by
  constructor
  · intro hafter k r hr hp
    by_contra hunlocked
    have hvisible : t.visible x k = some r := by
      rw [visible_of_not_locks (by simpa using hunlocked), hr]
    have hk : k = k₀ := hafter k k₀ r r₀ hvisible hp (visible_of_locks hk₀) hr₀
    exact hunlocked (hk ▸ locks_iff.2 ⟨r₀, hk₀⟩)
  · intro hlocked
    have hall : ∀ k r, t.visible x k = some r → p r = true → k = k₀ := by
      intro k r hr hp
      rcases visible_cases hr with hpending | hcommitted
      · exact hown k r hpending hp
      · obtain ⟨r', hr'⟩ := locks_iff.1 (hlocked k r hcommitted hp)
        rw [visible_of_locks hr', Option.some.injEq] at hr
        exact hown k r (hr ▸ hr') hp
    intro k k' r r' hr hp hr' hp'
    rw [hall k r hr hp, hall k' r' hr' hp']

/-- A transaction that has written no row of the kind brings in none. -/
theorem AtMostOne.commit_of_none {p : ρ → Bool} (h : AtMostOne p t.committed)
    (hown : ∀ k r, t.pending k = some (x, r) → p r = false) :
    AtMostOne p (t.commit x).committed := by
  have hold : ∀ k r, t.visible x k = some r → p r = true → t.committed k = some r := by
    intro k r hr hp
    rcases visible_cases hr with hpending | hcommitted
    · rw [hown k r hpending] at hp
      cases hp
    · exact hcommitted
  intro k k' r r' hr hp hr' hp'
  exact h k k' r r' (hold k r hr hp) hp (hold k' r' hr' hp') hp'

end Versions

end Iara.Lib
