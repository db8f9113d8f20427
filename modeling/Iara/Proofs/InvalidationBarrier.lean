import Iara.Tenancy.Resolver

/-!
# Invalidation as a barrier

A call that was reading when its key was invalidated stores what it read all the same,
under the time at which it started.  Invalidation is a barrier along a run exactly where
no call stores such a context while it would still be served.
-/

namespace Iara.Tenancy

open Iara.Lib

namespace TenantResolver

/-! ## The claim -/

/-- What a call returned was read after all invalidations of its key before its start. -/
def ReadSinceStart : ResolvePhase → Prop
  | .returned call _ readAfter => call.startedAfter ≤ readAfter
  | _ => True

def Barrier (c : ResolverConfig) : Prop := ∀ l ∈ c.parties, ReadSinceStart l

/-- At every point of the run, all calls have met the barrier, and so does one more call. -/
def BarrierAlong (resolver : TenantResolver) (start : ResolverConfig) (moves : List ResolverMove) :
    Prop :=
  ∀ earlier later, moves = earlier ++ later → ∀ tenantKey c,
    resolver.calls.machine.run start (earlier ++ [.environment (.resolve tenantKey)]) = some c →
      Barrier c

/-- The step stores a context that is still live, of a record that was read before an
invalidation of its key. -/
def StoresStale (resolver : TenantResolver) (c : ResolverConfig) (move : ResolverMove) : Prop :=
  ∃ i resolvedAt call record readAfter context, move = .party i (.resume resolvedAt) ∧
    c.parties[i]? = some (.fetched call record readAfter) ∧
    resolver.verify call.tenantKey record resolvedAt = .ok context ∧
    readAfter < c.shared.invalidations call.tenantKey ∧
    resolver.isLive c.shared.now call.now = true

/-- A resolver that nobody has called. -/
def fresh (repository : String → Option TenantRecord) (now : Nat) : ResolverConfig :=
  ⟨{ repository := repository, now := now }, []⟩

section Run

variable {resolver : TenantResolver} {s t : ResolverShared} {l l' : ResolvePhase}
  {c c' : ResolverConfig} {move : ResolverMove} {moves : List ResolverMove}

/-! ## The calls -/

/-- A call started no later, in invalidations of its key, than it read and than now. -/
def InOrder (invalidations : String → Nat) : ResolvePhase → Prop
  | .fetching call => call.startedAfter ≤ invalidations call.tenantKey
  | .fetched call _ readAfter => call.startedAfter ≤ readAfter
  | .returned call _ readAfter => call.startedAfter ≤ readAfter
  | .raised _ _ => True

theorem InOrder.mono {before after : String → Nat} (hle : ∀ key, before key ≤ after key)
    (h : InOrder before l) : InOrder after l := by
  cases l with
  | fetching call => exact Nat.le_trans h (hle call.tenantKey)
  | fetched call record readAfter => exact h
  | returned call context readAfter => exact h
  | raised call error => trivial

theorem InOrder.readSinceStart {invalidations : String → Nat} (h : InOrder invalidations l) :
    ReadSinceStart l := by
  cases l with
  | returned call context readAfter => exact h
  | _ => trivial

theorem ResolveEffect.inOrder {a : ResolveStep} (h : ResolveEffect resolver s l a l' t)
    (hl : InOrder s.invalidations l) : InOrder t.invalidations l' := by
  cases h with
  | read call => exact hl
  | stored call record readAfter resolvedAt context hverify => exact hl
  | raised l a call error => trivial

theorem ResolveEffect.invalidations {a : ResolveStep} (h : ResolveEffect resolver s l a l' t) :
    t.invalidations = s.invalidations := by
  cases h <;> rfl

theorem invalidations_le (s : ResolverShared) (tenantKey key : String) :
    s.invalidations key ≤ (invalidate s tenantKey).invalidations key := by
  unfold invalidate
  simp only [Function.update_apply]
  split
  next hkey =>
    rw [hkey]
    exact Nat.le_succ _
  next => exact Nat.le_refl _

/-! ## The cache -/

/-- What would be served was read after the last invalidation of its key. -/
def CacheCurrent (resolver : TenantResolver) (s : ResolverShared) : Prop :=
  ∀ key entry, s.cache key = some entry → resolver.isLive s.now entry.cachedAt = true →
    s.invalidations key ≤ entry.readAfter

structure Barred (resolver : TenantResolver) (c : ResolverConfig) : Prop where
  cache : CacheCurrent resolver c.shared
  calls : ∀ l ∈ c.parties, InOrder c.shared.invalidations l

theorem Barred.barrier (h : Barred resolver c) : Barrier c :=
  fun l hl => (h.calls l hl).readSinceStart

theorem barred_fresh (resolver : TenantResolver) (repository : String → Option TenantRecord)
    (now : Nat) : Barred resolver (fresh repository now) := by
  constructor
  · intro key entry hentry
    cases hentry
  · intro l hl
    cases hl

theorem CacheCurrent.invalidate (h : CacheCurrent resolver s) (tenantKey : String) :
    CacheCurrent resolver (invalidate s tenantKey) := by
  intro key entry hentry hlive
  unfold TenantResolver.invalidate at *
  simp only [Function.update_apply] at hentry ⊢
  split at hentry
  next => cases hentry
  next hkey =>
    rw [if_neg hkey]
    exact h key entry hentry hlive

/-- A call before its `await` keeps to the order, since it returns what would be served. -/
theorem CacheCurrent.checkCache (h : CacheCurrent resolver s) (tenantKey : String) :
    InOrder s.invalidations (resolver.checkCache s tenantKey) := by
  rcases checkCache_cases resolver s tenantKey with
    ⟨-, heq⟩ | ⟨entry, hcache, hlive, heq⟩ | ⟨error, heq⟩
  · rw [heq]
    exact Nat.le_refl (s.invalidations tenantKey)
  · rw [heq]
    exact h tenantKey entry hcache hlive
  · rw [heq]
    trivial

/-- A step that stores nothing stale keeps the cache current. -/
theorem ResolveEffect.cacheCurrent {a : ResolveStep} {i : Nat}
    (h : ResolveEffect resolver c.shared l a l' t) (hi : c.parties[i]? = some l)
    (hstale : ¬ StoresStale resolver c (.party i a)) (hcache : CacheCurrent resolver c.shared) :
    CacheCurrent resolver t := by
  cases h with
  | read call => exact hcache
  | raised l a call error => exact hcache
  | stored call record readAfter resolvedAt context hverify =>
      intro key entry hentry hlive
      rw [cache_store] at hentry
      split at hentry
      next hkey =>
        obtain rfl := Option.some.inj hentry
        rw [hkey]
        by_contra hlt
        exact hstale ⟨i, resolvedAt, call, record, readAfter, context, rfl, hi, hverify,
          Nat.lt_of_not_le hlt, hlive⟩
      next => exact hcache key entry hentry hlive

/-! ## Steps and runs -/

theorem barred_step (h : Barred resolver c) (hstale : ¬ StoresStale resolver c move)
    (hstep : resolver.calls.machine.step c move = some c') : Barred resolver c' := by
  cases move with
  | party i a =>
      obtain ⟨l, l', t, hi, hact, rfl⟩ := Interleaving.step_party hstep
      have heffect : ResolveEffect resolver c.shared l a l' t := act_effect hact
      refine ⟨heffect.cacheCurrent hi hstale h.cache, ?_⟩
      intro l₁ hl₁
      rcases List.mem_or_eq_of_mem_set hl₁ with hold | rfl
      · exact (h.calls l₁ hold).mono fun key =>
          Nat.le_of_eq (congrFun heffect.invalidations key).symm
      · exact heffect.inOrder (h.calls l (List.mem_of_getElem? hi))
  | environment e =>
      obtain ⟨ls, t, henv, rfl⟩ := Interleaving.step_environment hstep
      cases e with
      | resolve tenantKey =>
          cases henv
          refine ⟨h.cache, ?_⟩
          intro l hl
          rcases List.mem_append.1 hl with hold | hnew
          · exact h.calls l hold
          · rw [List.mem_singleton.1 hnew]
            exact h.cache.checkCache tenantKey
      | invalidate tenantKey =>
          cases henv
          refine ⟨h.cache.invalidate tenantKey, ?_⟩
          intro l hl
          rw [List.append_nil] at hl
          exact (h.calls l hl).mono (invalidations_le c.shared tenantKey)
      | update tenantKey record =>
          cases henv
          refine ⟨h.cache, ?_⟩
          intro l hl
          rw [List.append_nil] at hl
          exact h.calls l hl
      | tick elapsed =>
          cases henv
          refine ⟨?_, ?_⟩
          · intro key entry hentry hlive
            exact h.cache key entry hentry (isLive_mono (Nat.le_add_right _ _) hlive)
          · intro l hl
            rw [List.append_nil] at hl
            exact h.calls l hl

theorem not_storesStale_resolve (resolver : TenantResolver) (c : ResolverConfig)
    (tenantKey : String) : ¬ StoresStale resolver c (.environment (.resolve tenantKey)) := by
  rintro ⟨i, resolvedAt, call, record, readAfter, context, hmove, -⟩
  cases hmove

theorem barrierAlong_of_allSteps (hstart : Barred resolver c)
    (hall : resolver.calls.machine.AllSteps (fun c move => ¬ StoresStale resolver c move) c moves) :
    BarrierAlong resolver c moves := by
  rintro earlier later rfl tenantKey d hrun
  rw [Machine.run_append] at hrun
  obtain ⟨e, hearlier, hlast⟩ := Option.bind_eq_some_iff.1 hrun
  have hbarred : Barred resolver e :=
    resolver.calls.machine.invariant_of_allSteps (fun _ _ _ h hC hs => barred_step h hC hs) hstart
      hall.append_left hearlier
  obtain ⟨d', hstep, hnil⟩ := (Machine.run_cons_eq_some _).1 hlast
  cases hnil
  exact (barred_step hbarred (not_storesStale_resolve resolver e tenantKey) hstep).barrier

/-! ## A stale context is served -/

/-- A call under way has a key. -/
def Keyed : ResolvePhase → Prop
  | .fetching call => HasKey call.tenantKey
  | .fetched call _ _ => HasKey call.tenantKey
  | _ => True

theorem keyed_checkCache (resolver : TenantResolver) (s : ResolverShared) (tenantKey : String) :
    Keyed (resolver.checkCache s tenantKey) := by
  rcases checkCache_cases resolver s tenantKey with ⟨hkey, heq⟩ | ⟨entry, -, -, heq⟩ | ⟨error, heq⟩
  · rw [heq]
    exact hkey
  · rw [heq]
    trivial
  · rw [heq]
    trivial

theorem keyed_of_run {repository : String → Option TenantRecord} {now : Nat}
    (hrun : resolver.calls.machine.run (fresh repository now) moves = some c) :
    ∀ l ∈ c.parties, Keyed l := by
  refine resolver.calls.machine.invariant_of_step (I := fun c => ∀ l ∈ c.parties, Keyed l) ?_ ?_
    hrun
  · intro c move c' hkeyed hstep
    refine Interleaving.parties_step ?_ ?_ hkeyed hstep
    · intro s e ls t henv l hl
      cases e with
      | resolve tenantKey =>
          cases henv
          rw [List.mem_singleton.1 hl]
          exact keyed_checkCache resolver s tenantKey
      | _ =>
          cases henv
          cases hl
    · intro s l a l' t hact hl
      have heffect : ResolveEffect resolver s l a l' t := act_effect hact
      cases heffect with
      | read call => exact hl
      | stored call record readAfter resolvedAt context hverify => trivial
      | raised l a call error => trivial
  · intro l hl
    cases hl

/-- The next call for its key returns what was stored. -/
theorem not_barrier_of_storesStale (hkeyed : ∀ l ∈ c.parties, Keyed l)
    (hstale : StoresStale resolver c move) :
    ∃ tenantKey d, resolver.calls.machine.run c [move, .environment (.resolve tenantKey)] = some d ∧
      ¬ Barrier d := by
  obtain ⟨i, resolvedAt, call, record, readAfter, context, rfl, hi, hverify, hlt, hlive⟩ := hstale
  have hact : resolver.calls.act c.shared (.fetched call record readAfter) (.resume resolvedAt) =
      some (.returned call context readAfter, store c.shared call context readAfter) := by
    show resolver.act c.shared (.fetched call record readAfter) (.resume resolvedAt) = _
    simp only [act, hverify]
  have hstep := (Interleaving.step_of_act hi hact).1
  have hhit : resolver.checkCache (store c.shared call context readAfter) call.tenantKey =
      .returned ⟨call.tenantKey, c.shared.now, c.shared.invalidations call.tenantKey⟩ context
        readAfter := by
    have hcache : (store c.shared call context readAfter).cache call.tenantKey =
        some ⟨context, call.now, readAfter⟩ := by
      rw [cache_store, if_pos rfl]
    exact checkCache_of_hit (hkeyed _ (List.mem_of_getElem? hi)) hcache hlive
      (assertActive_of_verify hverify)
  refine ⟨call.tenantKey, _, (Machine.run_cons_eq_some _).2 ⟨_, hstep, rfl⟩, fun hbarrier => ?_⟩
  have hserved := hbarrier _ (List.mem_append_right _ (List.mem_singleton_self _))
  rw [hhit] at hserved
  exact absurd hserved (Nat.not_le_of_lt hlt)

theorem allSteps_of_barrierAlong {repository : String → Option TenantRecord} {now : Nat}
    (h : BarrierAlong resolver (fresh repository now) moves) :
    resolver.calls.machine.AllSteps (fun c move => ¬ StoresStale resolver c move)
      (fresh repository now) moves := by
  apply Machine.allSteps_of_splits
  rintro earlier move later c rfl hearlier hstale
  obtain ⟨tenantKey, d, hnext, hnot⟩ := not_barrier_of_storesStale (keyed_of_run hearlier) hstale
  apply hnot
  apply h (earlier ++ [move]) later (by simp) tenantKey d
  rw [List.append_assoc, Machine.run_append, hearlier]
  exact hnext

end Run

/-- Along a run of any calls, updates and invalidations on a new resolver, invalidation is a
barrier exactly where no call stores a context that was read before an invalidation and
would still be served. -/
theorem barrierAlong_iff (resolver : TenantResolver) (repository : String → Option TenantRecord)
    (now : Nat) (moves : List ResolverMove) :
    BarrierAlong resolver (fresh repository now) moves ↔
      resolver.calls.machine.AllSteps (fun c move => ¬ StoresStale resolver c move)
        (fresh repository now) moves :=
  ⟨allSteps_of_barrierAlong, barrierAlong_of_allSteps (barred_fresh resolver repository now)⟩

/-! ## A tenant that is suspended -/

section Example

def plainResolver : TenantResolver where
  text := plainText
  sha256 s := s

def clinicRecord (status : String) : TenantRecord :=
  [("tenant_id", .str "00000000-0000-0000-0000-000000000001"), ("status", .str status),
    ("provider_account_id", .str "1")]

def clinicRepository : String → Option TenantRecord :=
  Function.update (fun _ => none) "clinic" (some (clinicRecord "active"))

/-- The context of the record as it was when the tenant was active. -/
def clinicContext : TenantContext where
  tenantId := 1
  tenantKey := "clinic"
  tenantName := "unknown"
  status := .active
  providerAccountId := "1"
  provider := "chatwoot"
  resolvedAt := 0

/-- A call reads the record, the tenant is suspended and its key invalidated, the call goes
on, and the next one is served what it stored. -/
def suspension : List ResolverMove :=
  [.environment (.resolve "clinic"), .party 0 .read,
    .environment (.update "clinic" (some (clinicRecord "suspended"))),
    .environment (.invalidate "clinic"), .party 0 (.resume 0), .environment (.resolve "clinic")]

/-- Where the suspension leads. -/
def suspended : ResolverConfig :=
  (plainResolver.calls.machine.run (fresh clinicRepository 0) suspension).getD
    (fresh clinicRepository 0)

theorem suspended_tenant_served :
    plainResolver.calls.machine.run (fresh clinicRepository 0) suspension = some suspended ∧
      suspended.shared.repository "clinic" = some (clinicRecord "suspended") ∧
      suspended.parties[1]? = some (.returned ⟨"clinic", 0, 1⟩ clinicContext 0) ∧
      ¬ Barrier suspended := by
  have hserved : suspended.parties[1]? =
      some (.returned ⟨"clinic", 0, 1⟩ clinicContext 0) := by decide +kernel
  refine ⟨eq_some_getD (by decide +kernel), by decide +kernel, hserved, fun hbarrier => ?_⟩
  exact absurd (hbarrier _ (List.mem_of_getElem? hserved)) (Nat.not_succ_le_zero 0)

end Example

end TenantResolver

end Iara.Tenancy
