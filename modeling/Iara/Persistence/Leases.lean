import Iara.Lib.PyUuid
import Iara.Lib.Table

/-!
# Conversation leases

`LeaseRepository` over the `conversation_run_leases` table with its constraint
`uq_lease_conversation`.  Each statement is an operation of its own, so that
`acquire` can be run as one call or statement by statement.  The clock counts
microseconds, as `datetime` does.
-/

namespace Iara.Persistence

open Iara.Lib

def timedelta (seconds : Nat) : Nat := seconds * 1000000

/-- A row of `conversation_run_leases`. -/
structure ConversationRunLease where
  tenantId : Uuid
  conversationId : String
  fencingToken : String
  workerId : String
  acquiredAt : Nat
  expiresAt : Nat
  releasedAt : Option Nat := none
  deriving DecidableEq, Repr

abbrev ConversationKey := Uuid × String

namespace ConversationRunLease

/-- `uq_lease_conversation`. -/
def key (r : ConversationRunLease) : ConversationKey := (r.tenantId, r.conversationId)

/-- `expires_at > now AND released_at IS NULL`. -/
def active (now : Nat) (r : ConversationRunLease) : Bool :=
  now < r.expiresAt && r.releasedAt.isNone

/-- The `SET` of `release`. -/
def markReleased (now : Nat) (r : ConversationRunLease) : ConversationRunLease :=
  { r with releasedAt := some now }

theorem key_markReleased (now : Nat) (r : ConversationRunLease) :
    (r.markReleased now).key = r.key := rfl

end ConversationRunLease

abbrev LeaseTable := Table ConversationRunLease ConversationKey ConversationRunLease.key

structure LeaseConflictError where
  message : String
  conversationId : Option String
  code : String := "LEASE_CONFLICT"
  deriving DecidableEq, Repr

/-- A repository as `_handle_job` builds it: the setting `iara_lease_ttl_seconds`
is between 10 and 7200. -/
structure LeaseRepository where
  leaseTtlSeconds : Nat := 300
  workerId : String
  le_ttl : 10 ≤ leaseTtlSeconds := by decide
  ttl_le : leaseTtlSeconds ≤ 7200 := by decide

namespace LeaseRepository

variable (text : PyText) (repo : LeaseRepository)

/-- What the first statement of `acquire` leads to. -/
inductive Selected where
  | conflict (error : LeaseConflictError)
  | own
  | free
  deriving DecidableEq, Repr

def Selected.isConflict : Selected → Bool
  | .conflict _ => true
  | _ => false

def heldError (conversationId : String) : LeaseConflictError where
  message := "Conversation " ++ text.repr conversationId ++ " is already leased by another worker"
  conversationId := some conversationId

def overtakenError (conversationId : String) : LeaseConflictError where
  message := "Conversation " ++ text.repr conversationId ++
    " lease acquisition failed — another worker holds it"
  conversationId := some conversationId

/-- The `SELECT` of `acquire` and the comparison of worker ids. -/
def select (now : Nat) (key : ConversationKey) (leases : LeaseTable) : Selected :=
  match (leases.find key).filter (ConversationRunLease.active now) with
  | none => .free
  | some existing =>
      if existing.workerId ≠ repo.workerId then
        .conflict (heldError text key.2)
      else .own

def expiresAt (now : Nat) : Nat := now + timedelta repo.leaseTtlSeconds

/-- The `SET` of the refresh. -/
def extend (token : String) (now : Nat) (r : ConversationRunLease) : ConversationRunLease :=
  { r with expiresAt := repo.expiresAt now, fencingToken := token }

theorem key_extend (token : String) (now : Nat) (r : ConversationRunLease) :
    (repo.extend token now r).key = r.key := rfl

/-- The `UPDATE` that refreshes the worker's own lease. -/
def refresh (token : String) (now : Nat) (key : ConversationKey) (leases : LeaseTable) :
    LeaseTable :=
  leases.update (fun r => r.key = key) (repo.extend token now) (repo.key_extend token now)

def newLease (token : String) (now : Nat) (key : ConversationKey) : ConversationRunLease where
  tenantId := key.1
  conversationId := key.2
  fencingToken := token
  workerId := repo.workerId
  acquiredAt := now
  expiresAt := repo.expiresAt now

/-- The `SET` of the upsert. -/
def overtake (token : String) (now : Nat) (r : ConversationRunLease) : ConversationRunLease :=
  { r with
    fencingToken := token
    workerId := repo.workerId
    acquiredAt := now
    expiresAt := repo.expiresAt now
    releasedAt := none }

theorem key_overtake (token : String) (now : Nat) (r : ConversationRunLease) :
    (repo.overtake token now r).key = r.key := rfl

/-- The upsert of `acquire`: only an expired lease is overtaken. -/
def upsert (token : String) (now : Nat) (key : ConversationKey) (leases : LeaseTable) :
    Except LeaseConflictError LeaseTable :=
  match Table.upsert leases (repo.newLease token now key) (fun r => r.expiresAt ≤ now)
      (repo.overtake token now) (repo.key_overtake token now) with
  | some leases' => .ok leases'
  | none => .error (overtakenError text key.2)

/-- `acquire` in one go, where `token` is the UUID it draws. -/
def acquire (token : String) (now : Nat) (key : ConversationKey) (leases : LeaseTable) :
    Except LeaseConflictError String × LeaseTable :=
  match repo.select text now key leases with
  | .conflict error => (.error error, leases)
  | .own => (.ok token, repo.refresh token now key leases)
  | .free =>
      match repo.upsert text token now key leases with
      | .ok leases' => (.ok token, leases')
      | .error error => (.error error, leases)

def release (token : String) (now : Nat) (key : ConversationKey) (leases : LeaseTable) :
    LeaseTable :=
  leases.update (fun r => r.key = key && r.fencingToken = token)
    (ConversationRunLease.markReleased now) (ConversationRunLease.key_markReleased now)

def isValid (token : String) (now : Nat) (key : ConversationKey) (leases : LeaseTable) : Bool :=
  ((leases.find key).filter fun r => r.fencingToken = token && r.active now).isSome

/-! ## What the statements do to a row -/

theorem key_newLease (token : String) (now : Nat) (key : ConversationKey) :
    (repo.newLease token now key).key = key := rfl

theorem active_iff {now : Nat} {r : ConversationRunLease} :
    r.active now = true ↔ now < r.expiresAt ∧ r.releasedAt = none := by
  simp [ConversationRunLease.active]

/-- The three outcomes of the `SELECT`, each with the row that leads to it. -/
theorem select_cases (now : Nat) (key : ConversationKey) (leases : LeaseTable) :
    (∃ r, leases.find key = some r ∧ (now < r.expiresAt ∧ r.releasedAt = none) ∧
        r.workerId ≠ repo.workerId ∧
        repo.select text now key leases = .conflict (heldError text key.2)) ∨
      (∃ r, leases.find key = some r ∧ (now < r.expiresAt ∧ r.releasedAt = none) ∧
        r.workerId = repo.workerId ∧ repo.select text now key leases = .own) ∨
      ((∀ r, leases.find key = some r → now < r.expiresAt → r.releasedAt ≠ none) ∧
        repo.select text now key leases = .free) := by
  cases hfind : leases.find key with
  | none =>
      refine Or.inr (Or.inr ⟨by simp, ?_⟩)
      simp [select, hfind]
  | some r =>
      by_cases hactive : r.active now = true
      · have hrow := active_iff.1 hactive
        by_cases hown : r.workerId = repo.workerId
        · refine Or.inr (Or.inl ⟨r, rfl, hrow, hown, ?_⟩)
          simp [select, hfind, Option.filter, hactive, hown]
        · refine Or.inl ⟨r, rfl, hrow, hown, ?_⟩
          simp [select, hfind, Option.filter, hactive, hown]
      · refine Or.inr (Or.inr ⟨?_, ?_⟩)
        · intro r' hr' hlive hunreleased
          cases hr'
          exact hactive (active_iff.2 ⟨hlive, hunreleased⟩)
        · simp [select, hfind, Option.filter, hactive]

theorem find_refresh {token : String} {now : Nat} {key k : ConversationKey} {leases : LeaseTable} :
    (repo.refresh token now key leases).find k = (leases.find k).map fun r =>
      if r.key = key then repo.extend token now r else r := by
  unfold refresh
  rw [Table.find_update]
  simp only [decide_eq_true_eq]

/-- An upsert that goes through leaves the new lease, whatever was there. -/
theorem find_upsert {token : String} {now : Nat} {key : ConversationKey}
    {leases leases' : LeaseTable} (h : repo.upsert text token now key leases = .ok leases')
    (k : ConversationKey) :
    leases'.find k = if k = key then some (repo.newLease token now key) else leases.find k := by
  unfold upsert at h
  split at h
  next t ht =>
    cases h
    by_cases hk : k = key
    · subst hk
      rw [if_pos rfl, ← repo.key_newLease token now k, Table.find_upsert_self ht,
        repo.key_newLease]
      cases hfind : leases.find k with
      | none => rfl
      | some r =>
          have hkey : r.key = k := (Table.find_eq_some_iff.1 hfind).2
          rw [← hkey]
          rfl
    · rw [if_neg hk]
      exact Table.find_upsert_of_ne ht hk
  next => cases h

theorem upsert_eq_error_iff {token : String} {now : Nat} {key : ConversationKey}
    {leases : LeaseTable} :
    (∃ error, repo.upsert text token now key leases = .error error) ↔
      ∃ r, leases.find key = some r ∧ now < r.expiresAt := by
  constructor
  · rintro ⟨error, herror⟩
    unfold upsert at herror
    split at herror
    next => cases herror
    next hnone =>
      obtain ⟨r, hfind, hexpired⟩ := Table.upsert_eq_none_iff.1 hnone
      exact ⟨r, hfind, by simpa using hexpired⟩
  · rintro ⟨r, hfind, hlive⟩
    unfold upsert
    rw [Table.upsert_eq_none_iff.2 ⟨r, hfind, by simpa using hlive⟩]
    exact ⟨_, rfl⟩

theorem find_release {token : String} {now : Nat} {key k : ConversationKey} {leases : LeaseTable} :
    (release token now key leases).find k = (leases.find k).map fun r =>
      if r.key = key ∧ r.fencingToken = token then r.markReleased now else r := by
  unfold release
  rw [Table.find_update]
  simp only [Bool.and_eq_true, decide_eq_true_eq]

theorem isValid_iff {token : String} {now : Nat} {key : ConversationKey} {leases : LeaseTable} :
    isValid token now key leases = true ↔
      ∃ r, leases.find key = some r ∧ r.fencingToken = token ∧ now < r.expiresAt ∧
        r.releasedAt = none := by
  unfold isValid ConversationRunLease.active
  cases leases.find key with
  | none => simp
  | some r => simp

/-! ## The calls -/

/-- A row stands in the way of `acquire` while it has not expired, unless it is
the worker's own and unreleased. -/
def Obstructs (now : Nat) (r : ConversationRunLease) : Prop :=
  now < r.expiresAt ∧ (r.releasedAt = none → r.workerId ≠ repo.workerId)

/-- What `acquire` does: it raises and writes nothing, or it leaves an active
lease with the new token and no other row changed. -/
theorem acquire_cases (token : String) (now : Nat) (key : ConversationKey) (leases : LeaseTable) :
    ((∃ r, leases.find key = some r ∧ repo.Obstructs now r) ∧
        ∃ error, repo.acquire text token now key leases = (.error error, leases)) ∨
      (¬ (∃ r, leases.find key = some r ∧ repo.Obstructs now r) ∧
        ∃ leases' r, repo.acquire text token now key leases = (.ok token, leases') ∧
          leases'.find key = some r ∧ r.fencingToken = token ∧
          r.expiresAt = repo.expiresAt now ∧ r.releasedAt = none ∧
          ∀ k, k ≠ key → leases'.find k = leases.find k) := by
  rcases repo.select_cases text now key leases with ⟨r, hfind, hactive, hother, hselect⟩ |
    ⟨r, hfind, hactive, hown, hselect⟩ | ⟨hinactive, hselect⟩
  · -- another worker's active lease
    refine Or.inl ⟨⟨r, hfind, hactive.1, fun _ => hother⟩, heldError text key.2, ?_⟩
    simp only [acquire, hselect]
  · -- the worker's own active lease
    have hkey : r.key = key := (Table.find_eq_some_iff.1 hfind).2
    refine Or.inr ⟨?_, repo.refresh token now key leases, repo.extend token now r, ?_, ?_, rfl,
      rfl, hactive.2, ?_⟩
    · rintro ⟨r', hfind', hobstructs⟩
      rw [hfind, Option.some.injEq] at hfind'
      subst hfind'
      exact hobstructs.2 hactive.2 hown
    · simp only [acquire, hselect]
    · rw [find_refresh, hfind, Option.map_some, if_pos hkey]
    · intro k hk
      rw [find_refresh]
      cases hother : leases.find k with
      | none => rfl
      | some r' =>
          have hkey' : r'.key ≠ key := by
            rw [(Table.find_eq_some_iff.1 hother).2]
            exact hk
          rw [Option.map_some, if_neg hkey']
  · -- no active lease: the upsert decides
    cases hupsert : repo.upsert text token now key leases with
    | error error =>
        obtain ⟨r, hfind, hlive⟩ := (repo.upsert_eq_error_iff text).1 ⟨error, hupsert⟩
        refine Or.inl ⟨⟨r, hfind, hlive, ?_⟩, error, ?_⟩
        · intro hunreleased
          exact absurd hunreleased (hinactive r hfind hlive)
        · simp only [acquire, hselect, hupsert]
    | ok leases' =>
        have hrows := repo.find_upsert text hupsert
        refine Or.inr ⟨?_, leases', repo.newLease token now key, ?_, ?_, rfl, rfl, rfl, ?_⟩
        · rintro ⟨r, hfind, hlive, -⟩
          obtain ⟨error, herror⟩ := (repo.upsert_eq_error_iff text).2 ⟨r, hfind, hlive⟩
          rw [hupsert] at herror
          cases herror
        · simp only [acquire, hselect, hupsert]
        · rw [hrows, if_pos rfl]
        · intro k hk
          rw [hrows, if_neg hk]

end LeaseRepository

end Iara.Persistence
