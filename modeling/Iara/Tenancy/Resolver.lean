import Iara.Lib.Interleaving
import Iara.Lib.PyJson
import Iara.Lib.PyUuid
import Mathlib.Logic.Function.Basic

/-!
# The tenant resolver

`TenantResolver.resolve` up to its read of the repository, the read, and the rest, for
any number of calls on one resolver, while tenant records change and keys are
invalidated.  Nothing runs between two suspensions of a call.

The code keeps no count of the invalidations of a key: `invalidations`, `startedAfter`
and `readAfter` say which of them came before a call and before a read.
-/

namespace Iara.Tenancy

open Iara.Lib

/-! ## Contexts -/

inductive TenantStatus where
  | active
  | suspended
  | sandbox
  | offboarded
  deriving DecidableEq, Repr

namespace TenantStatus

def value : TenantStatus → String
  | active => "active"
  | suspended => "suspended"
  | sandbox => "sandbox"
  | offboarded => "offboarded"

/-- `TenantStatus(value)`; `none` is the `ValueError`. -/
def ofValue (value : Json) : Option TenantStatus :=
  [active, suspended, sandbox, offboarded].find? fun status => value = .str status.value

end TenantStatus

structure TenantContext where
  tenantId : Uuid
  tenantKey : String
  tenantName : String
  status : TenantStatus
  providerAccountId : String
  provider : String
  resolvedAt : Nat
  deriving DecidableEq, Repr

/-- A record of the repository, as the dict it is. -/
abbrev TenantRecord := List (String × Json)

inductive ResolveError where
  | failClosed (message : String)
  /-- What the repository raised, or a cancellation. -/
  | other (exception : String)
  deriving DecidableEq, Repr

structure TenantResolver where
  text : PyText
  sha256 : String → String
  cacheTtlSeconds : Int := 60

namespace TenantResolver

variable (resolver : TenantResolver)

def assertActive (context : TenantContext) : Except ResolveError Unit :=
  if context.status = .active ∨ context.status = .sandbox then .ok ()
  else
    .error (.failClosed ("Tenant " ++ resolver.text.repr context.tenantKey ++
      " is not active (status=" ++ context.status.value ++ ")"))

/-- `_make_tenant_ref` -/
def makeTenantRef (tenantKey : String) : String :=
  "tenant:" ++ PyStr.slice (resolver.sha256 tenantKey) 12

/-- The context of a record; `none` is the `KeyError` or `ValueError`. -/
def contextOf (tenantKey : String) (record : TenantRecord) (resolvedAt : Nat) :
    Option TenantContext := do
  let tenantId ← parseUuid (resolver.text.str (← record.lookup "tenant_id"))
  let status ← TenantStatus.ofValue ((record.lookup "status").getD (.str "active"))
  let providerAccountId ← record.lookup "provider_account_id"
  return {
    tenantId := tenantId
    tenantKey := tenantKey
    tenantName := resolver.text.str ((record.lookup "name").getD (.str "unknown"))
    status := status
    providerAccountId := resolver.text.str providerAccountId
    provider := resolver.text.str ((record.lookup "provider").getD (.str "chatwoot"))
    resolvedAt := resolvedAt }

/-- What becomes of the record that was read. -/
def verify (tenantKey : String) (record : Option TenantRecord) (resolvedAt : Nat) :
    Except ResolveError TenantContext :=
  match record with
  | none =>
      .error (.failClosed ("Tenant key " ++
        resolver.text.repr (resolver.makeTenantRef tenantKey) ++ " not found — fail-closed"))
  | some record =>
      match resolver.contextOf tenantKey record resolvedAt with
      | none =>
          .error (.failClosed ("Tenant record for " ++
            resolver.text.repr (resolver.makeTenantRef tenantKey) ++
            " is incomplete or malformed"))
      | some context => (resolver.assertActive context).map fun _ => context

/-! ## Calls -/

/-- `now` is what `time.monotonic()` returned at the start. -/
structure ResolveCall where
  tenantKey : String
  now : Nat
  startedAfter : Nat
  deriving DecidableEq, Repr

inductive ResolvePhase where
  | fetching (call : ResolveCall)
  | fetched (call : ResolveCall) (record : Option TenantRecord) (readAfter : Nat)
  | returned (call : ResolveCall) (context : TenantContext) (readAfter : Nat)
  | raised (call : ResolveCall) (error : ResolveError)
  deriving DecidableEq, Repr

structure CacheEntry where
  context : TenantContext
  cachedAt : Nat
  readAfter : Nat
  deriving DecidableEq, Repr

structure ResolverShared where
  repository : String → Option TenantRecord
  cache : String → Option CacheEntry := fun _ => none
  invalidations : String → Nat := fun _ => 0
  now : Nat := 0

/-- `now - cached_at < self._cache_ttl_seconds` -/
def isLive (now : Nat) (cachedAt : Nat) : Bool :=
  decide ((now : Int) - (cachedAt : Int) < resolver.cacheTtlSeconds)

/-- A call up to its `await`. -/
def checkCache (s : ResolverShared) (tenantKey : String) : ResolvePhase :=
  let call : ResolveCall :=
    { tenantKey := tenantKey
      now := s.now
      startedAfter := s.invalidations tenantKey }
  if !PyStr.truthy tenantKey || !PyStr.truthy (PyStr.strip tenantKey) then
    .raised call (.failClosed "tenant_key is empty — cannot resolve tenant")
  else
    match s.cache tenantKey with
    | none => .fetching call
    | some entry =>
        if resolver.isLive s.now entry.cachedAt then
          match resolver.assertActive entry.context with
          | .error error => .raised call error
          | .ok () => .returned call entry.context entry.readAfter
        else .fetching call

/-- `self._cache[tenant_key] = (ctx, now)` -/
def store (s : ResolverShared) (call : ResolveCall) (context : TenantContext) (readAfter : Nat) :
    ResolverShared :=
  let entry : CacheEntry :=
    { context := context
      cachedAt := call.now
      readAfter := readAfter }
  { s with cache := Function.update s.cache call.tenantKey (some entry) }

inductive ResolveStep where
  /-- The repository reads the record. -/
  | read
  /-- The call goes on; `resolvedAt` is the clock. -/
  | resume (resolvedAt : Nat)
  | fail (exception : String)
  deriving DecidableEq, Repr

def act (s : ResolverShared) : ResolvePhase → ResolveStep → Option (ResolvePhase × ResolverShared)
  | .fetching call, .read =>
      some (.fetched call (s.repository call.tenantKey) (s.invalidations call.tenantKey), s)
  | .fetched call record readAfter, .resume resolvedAt =>
      match resolver.verify call.tenantKey record resolvedAt with
      | .error error => some (.raised call error, s)
      | .ok context => some (.returned call context readAfter, store s call context readAfter)
  | .fetching call, .fail exception => some (.raised call (.other exception), s)
  | .fetched call _ _, .fail exception => some (.raised call (.other exception), s)
  | _, _ => none

inductive ResolverEvent where
  | resolve (tenantKey : String)
  | invalidate (tenantKey : String)
  | update (tenantKey : String) (record : Option TenantRecord)
  | tick (elapsed : Nat)

def invalidate (s : ResolverShared) (tenantKey : String) : ResolverShared :=
  { s with
    cache := Function.update s.cache tenantKey none
    invalidations := Function.update s.invalidations tenantKey (s.invalidations tenantKey + 1) }

def environment (s : ResolverShared) : ResolverEvent → Option (List ResolvePhase × ResolverShared)
  | .resolve tenantKey => some ([resolver.checkCache s tenantKey], s)
  | .invalidate tenantKey => some ([], invalidate s tenantKey)
  | .update tenantKey record =>
      some ([], { s with repository := Function.update s.repository tenantKey record })
  | .tick elapsed => some ([], { s with now := s.now + elapsed })

def calls : Interleaving ResolverShared ResolvePhase ResolveStep ResolverEvent where
  act := resolver.act
  environment := resolver.environment

abbrev ResolverConfig := Interleaving.Config ResolverShared ResolvePhase

abbrev ResolverMove := Interleaving.Move ResolveStep ResolverEvent

/-! ## What a step can do -/

/-- The steps of a call, by what they leave of it. -/
inductive ResolveEffect (resolver : TenantResolver) (s : ResolverShared) :
    ResolvePhase → ResolveStep → ResolvePhase → ResolverShared → Prop
  | read (call) :
      ResolveEffect resolver s (.fetching call) .read
        (.fetched call (s.repository call.tenantKey) (s.invalidations call.tenantKey)) s
  | stored (call record readAfter resolvedAt context)
      (hverify : resolver.verify call.tenantKey record resolvedAt = .ok context) :
      ResolveEffect resolver s (.fetched call record readAfter) (.resume resolvedAt)
        (.returned call context readAfter) (store s call context readAfter)
  | raised (l a call error) : ResolveEffect resolver s l a (.raised call error) s

variable {resolver} {s t : ResolverShared} {l l' : ResolvePhase} {a : ResolveStep}
  {tenantKey : String}

/-- Every step of a call has one of the listed effects. -/
theorem act_effect (h : resolver.act s l a = some (l', t)) :
    ResolveEffect resolver s l a l' t := by
  cases l with
  | fetching call =>
      cases a with
      | read =>
          cases h
          exact .read call
      | fail exception =>
          cases h
          exact .raised _ _ call _
      | resume resolvedAt => cases h
  | fetched call record readAfter =>
      cases a with
      | resume resolvedAt =>
          simp only [act] at h
          split at h
          next error _ =>
            cases h
            exact .raised _ _ call error
          next context hverify =>
            cases h
            exact .stored call record readAfter resolvedAt context hverify
      | fail exception =>
          cases h
          exact .raised _ _ call _
      | read => cases h
  | returned call context readAfter => cases a <;> cases h
  | raised call error => cases a <;> cases h

/-- A key that is not empty. -/
def HasKey (tenantKey : String) : Prop :=
  (!PyStr.truthy tenantKey || !PyStr.truthy (PyStr.strip tenantKey)) = false

/-- What a call can come to before its `await`. -/
theorem checkCache_cases (resolver : TenantResolver) (s : ResolverShared) (tenantKey : String) :
    (HasKey tenantKey ∧ resolver.checkCache s tenantKey =
        .fetching ⟨tenantKey, s.now, s.invalidations tenantKey⟩) ∨
      (∃ entry, s.cache tenantKey = some entry ∧ resolver.isLive s.now entry.cachedAt = true ∧
        resolver.checkCache s tenantKey =
          .returned ⟨tenantKey, s.now, s.invalidations tenantKey⟩ entry.context
            entry.readAfter) ∨
      ∃ error, resolver.checkCache s tenantKey =
        .raised ⟨tenantKey, s.now, s.invalidations tenantKey⟩ error := by
  unfold checkCache
  simp only
  split
  next => exact .inr (.inr ⟨_, rfl⟩)
  next hkey =>
    have hkey : HasKey tenantKey := Bool.eq_false_iff.2 hkey
    cases hcache : s.cache tenantKey with
    | none => exact .inl ⟨hkey, rfl⟩
    | some entry =>
        simp only
        split
        next hlive =>
          cases resolver.assertActive entry.context with
          | error error => exact .inr (.inr ⟨error, rfl⟩)
          | ok => exact .inr (.inl ⟨entry, rfl, hlive, rfl⟩)
        next => exact .inl ⟨hkey, rfl⟩

/-- A live entry of an active tenant is returned. -/
theorem checkCache_of_hit {entry : CacheEntry} (hkey : HasKey tenantKey)
    (hcache : s.cache tenantKey = some entry) (hlive : resolver.isLive s.now entry.cachedAt = true)
    (hactive : resolver.assertActive entry.context = .ok ()) :
    resolver.checkCache s tenantKey =
      .returned ⟨tenantKey, s.now, s.invalidations tenantKey⟩ entry.context entry.readAfter := by
  unfold HasKey at hkey
  unfold checkCache
  simp only [hkey, hcache, hlive, hactive, Bool.false_eq_true, if_false, if_true]

theorem assertActive_of_verify {record : Option TenantRecord} {resolvedAt : Nat}
    {context : TenantContext} (h : resolver.verify tenantKey record resolvedAt = .ok context) :
    resolver.assertActive context = .ok () := by
  unfold verify at h
  split at h
  next => cases h
  next record =>
    split at h
    next => cases h
    next context' _ =>
      cases hactive : resolver.assertActive context' with
      | error error =>
          rw [hactive] at h
          cases h
      | ok =>
          rw [hactive] at h
          cases h
          exact hactive

theorem cache_store (s : ResolverShared) (call : ResolveCall) (context : TenantContext)
    (readAfter : Nat) (tenantKey : String) :
    (store s call context readAfter).cache tenantKey =
      if tenantKey = call.tenantKey then some ⟨context, call.now, readAfter⟩
      else s.cache tenantKey := by
  unfold store
  simp only [Function.update_apply]

/-- Time only makes entries older. -/
theorem isLive_mono {now later cachedAt : Nat} (hle : now ≤ later)
    (h : resolver.isLive later cachedAt = true) : resolver.isLive now cachedAt = true := by
  unfold isLive at *
  rw [decide_eq_true_eq] at *
  omega

end TenantResolver

end Iara.Tenancy
