import Iara.Persistence.Leases

/-!
# Released leases

Calls of `acquire` and `release` by any workers over one table, with a clock,
and when a lease that its holder has released can be acquired again.
-/

namespace Iara.Persistence

open Iara.Lib

/-- The table with the clock and the number of UUIDs drawn. -/
structure LeaseStore where
  now : Nat := 0
  draws : Nat := 0
  leases : LeaseTable := .empty

inductive LeaseCall where
  | acquire (repo : LeaseRepository) (key : ConversationKey)
  | release (token : String) (key : ConversationKey)
  | tick (elapsed : Nat)

def LeaseCall.acquires (key : ConversationKey) : LeaseCall → Bool
  | .acquire _ k => k = key
  | _ => false

namespace LeaseStore

variable (text : PyText) (uuids : UuidSupply)

def acquire (s : LeaseStore) (repo : LeaseRepository) (key : ConversationKey) :
    Except LeaseConflictError String × LeaseTable :=
  repo.acquire text (uuids.gen s.draws) s.now key s.leases

def call (s : LeaseStore) : LeaseCall → LeaseStore
  | .acquire repo key =>
      { s with draws := s.draws + 1, leases := (s.acquire text uuids repo key).2 }
  | .release token key =>
      { s with leases := LeaseRepository.release token s.now key s.leases }
  | .tick elapsed => { s with now := s.now + elapsed }

def calls (s : LeaseStore) (cs : List LeaseCall) : LeaseStore := cs.foldl (call text uuids) s

/-- An acquire at this moment succeeds, with a token that `is_valid` accepts. -/
def grants (s : LeaseStore) (repo : LeaseRepository) (key : ConversationKey) : Bool :=
  match s.acquire text uuids repo key with
  | (.ok token, leases) => LeaseRepository.isValid token s.now key leases
  | (.error _, _) => false

/-- Whoever acquires next gets a lease that its holder has released. -/
def ReleasedLeasesAvailable : Prop :=
  ∀ (history later : List LeaseCall) (key : ConversationKey) (r : ConversationRunLease)
    (repo : LeaseRepository),
    ((calls text uuids {} history).leases.find key = some r) →
    (∀ c ∈ later, c.acquires key = false) →
    (calls text uuids {} (history ++ .release r.fencingToken key :: later)).grants text uuids
      repo key = true

variable {text uuids}

theorem grants_iff {s : LeaseStore} {repo : LeaseRepository} {key : ConversationKey} :
    s.grants text uuids repo key = true ↔
      ¬ ∃ r, s.leases.find key = some r ∧ repo.Obstructs s.now r := by
  unfold grants acquire
  rcases repo.acquire_cases text (uuids.gen s.draws) s.now key s.leases with
    ⟨hobstructed, error, hacquire⟩ |
    ⟨hfree, leases, r, hacquire, hfind, htoken, hexpires, hreleased, -⟩
  · rw [hacquire]
    simpa using hobstructed
  · rw [hacquire]
    have hlive : s.now < r.expiresAt := by
      have httl := repo.le_ttl
      unfold LeaseRepository.expiresAt timedelta at hexpires
      omega
    have hvalid := LeaseRepository.isValid_iff.2 ⟨r, hfind, htoken, hlive, hreleased⟩
    exact ⟨fun _ => hfree, fun _ => hvalid⟩

/-- The row of the conversation, released and with a given expiry. -/
def HasReleased (key : ConversationKey) (expiresAt : Nat) (s : LeaseStore) : Prop :=
  ∃ r, s.leases.find key = some r ∧ r.expiresAt = expiresAt ∧ r.releasedAt ≠ none

/-- Only an acquire of the same conversation changes that. -/
theorem HasReleased.call {key : ConversationKey} {e : Nat} {s : LeaseStore} {c : LeaseCall}
    (h : HasReleased key e s) (hc : c.acquires key = false) :
    HasReleased key e (s.call text uuids c) := by
  obtain ⟨r, hfind, hexpires, hreleased⟩ := h
  cases c with
  | tick elapsed => exact ⟨r, hfind, hexpires, hreleased⟩
  | release token k =>
      unfold HasReleased LeaseStore.call
      simp only [LeaseRepository.find_release, hfind, Option.map_some]
      split
      · exact ⟨_, rfl, hexpires, by simp [ConversationRunLease.markReleased]⟩
      · exact ⟨r, rfl, hexpires, hreleased⟩
  | acquire repo k =>
      have hk : key ≠ k := by
        intro hsame
        simp [LeaseCall.acquires, hsame] at hc
      refine ⟨r, ?_, hexpires, hreleased⟩
      change (repo.acquire text (uuids.gen s.draws) s.now k s.leases).2.find key = some r
      rcases repo.acquire_cases text (uuids.gen s.draws) s.now k s.leases with
        ⟨-, error, hacquire⟩ | ⟨-, leases, r', hacquire, -, -, -, -, hothers⟩
      · rw [hacquire]
        exact hfind
      · rw [hacquire]
        change leases.find key = some r
        rw [hothers key hk, hfind]

theorem HasReleased.calls {key : ConversationKey} {e : Nat} {s : LeaseStore}
    {cs : List LeaseCall} (h : HasReleased key e s) (hcs : ∀ c ∈ cs, c.acquires key = false) :
    HasReleased key e (s.calls text uuids cs) := by
  induction cs generalizing s with
  | nil => exact h
  | cons c cs ih =>
      exact ih (h.call (hcs c List.mem_cons_self)) fun c' hc' => hcs c' (List.mem_cons_of_mem _ hc')

/-- After its holder has released it, and whatever else happens, a lease can be
acquired exactly when it has expired anyway. -/
theorem grants_after_release_iff_expired (text : PyText) (uuids : UuidSupply) (s : LeaseStore)
    (later : List LeaseCall) (key : ConversationKey) (r : ConversationRunLease)
    (repo : LeaseRepository) (hholder : s.leases.find key = some r)
    (hlater : ∀ c ∈ later, c.acquires key = false) :
    (s.calls text uuids (.release r.fencingToken key :: later)).grants text uuids repo key = true ↔
      r.expiresAt ≤ (s.calls text uuids (.release r.fencingToken key :: later)).now := by
  have hreleased : HasReleased key r.expiresAt
      (s.call text uuids (.release r.fencingToken key)) := by
    have hkey : r.key = key := (Table.find_eq_some_iff.1 hholder).2
    refine ⟨r.markReleased s.now, ?_, rfl, by simp [ConversationRunLease.markReleased]⟩
    unfold LeaseStore.call
    rw [LeaseRepository.find_release, hholder, Option.map_some, if_pos ⟨hkey, rfl⟩]
  obtain ⟨r', hfind, hexpires, hrow⟩ := hreleased.calls hlater
  change (LeaseStore.calls text uuids _ later).grants text uuids repo key = true ↔
    r.expiresAt ≤ (LeaseStore.calls text uuids _ later).now
  rw [grants_iff, hfind]
  constructor
  · intro hfree
    by_contra hlive
    exact hfree ⟨r', rfl, by omega, fun hunreleased => absurd hunreleased hrow⟩
  · rintro hexpired ⟨r'', hr'', hlive, -⟩
    cases hr''
    omega

end LeaseStore

section Example

def firstWorker : LeaseRepository where
  leaseTtlSeconds := 10
  workerId := "a"

def secondWorker : LeaseRepository where
  leaseTtlSeconds := 10
  workerId := "b"

def conversation : ConversationKey := (1, "7")

/-- What the first worker's acquire leaves in an empty table. -/
def leasedStore : LeaseStore :=
  LeaseStore.calls plainText .unary {} [.acquire firstWorker conversation]

def firstLease : ConversationRunLease :=
  firstWorker.newLease (UuidSupply.unary.gen 0) 0 conversation

theorem released_lease_granted_after_ttl :
    (leasedStore.calls plainText .unary
      [.release firstLease.fencingToken conversation, .tick (timedelta 10)]).grants plainText
        .unary secondWorker conversation = true :=
  (LeaseStore.grants_after_release_iff_expired plainText .unary leasedStore [.tick (timedelta 10)]
    conversation firstLease secondWorker (by decide +kernel) (by decide)).2 (by decide +kernel)

/-- A second worker that asks right after the release gets a conflict. -/
theorem released_lease_not_granted :
    ¬ LeaseStore.ReleasedLeasesAvailable plainText .unary := by
  intro havailable
  have hgranted := havailable [.acquire firstWorker conversation] [] conversation firstLease
    secondWorker (by decide +kernel) (by simp)
  have hrefused : (LeaseStore.calls plainText .unary {}
      ([.acquire firstWorker conversation] ++
        [.release firstLease.fencingToken conversation])).grants
        plainText .unary secondWorker conversation = false := by
    decide +kernel
  rw [hrefused] at hgranted
  cases hgranted

end Example

end Iara.Persistence
